/-
MachineSpec.Proofs.Closure — declared names refer to listed states by tag.

Beside its list of states a declaration names the initial state, both ends of every
transition, the error state, and the targets of message channels. Validation compares each
of these with the listed states by tag. So a name that is used has the tag of exactly one
listed state. Whether the name itself is listed is another question: different type names
can have the same tag, as `FooUp` and `Foo<Up>` do, but no two plain names do.

* `Machine.ofDecl_ok_iff`, `Messages.ofDecl_ok_iff`: which declarations are accepted.
* `accepted_iff_closed`: the same for texts, with an `invalid` rejection otherwise.
* `accepted_with_unlisted_name`: a machine with a transition from `OnDim`, which is not in
  its list of states; `On<Dim>` is.
-/
import Mathlib.Logic.ExistsUnique
import MachineSpec.Proofs.Compiled
import MachineSpec.Proofs.Printing

namespace MachineSpec

/-! ## 1. Names and their meanings -/

/-- The name, as it is written, is one of those listed. -/
def Reference.ListedIn (name : Reference) (listed : List Reference) : Prop :=
  ∃ state ∈ listed, state.type = name.type

/-- What a name that is used has to do with the listed states. -/
structure Reference.Means (name : Reference) (listed : List Reference) : Prop where
  /-- One state is meant, and no other. -/
  one : ∃! state, state ∈ listed ∧ state.tag = name.tag
  /-- It is listed as it is written unless the state that is meant is written otherwise. -/
  written : name.ListedIn listed ↔
    ∀ state ∈ listed, state.tag = name.tag → state.type = name.type
  /-- Among plain names that does not happen. -/
  plain : name.type.arguments = [] → (∀ state ∈ listed, state.type.arguments = []) →
    name.ListedIn listed

/-- A plain name can be told from its tag. -/
theorem TypeName.eq_of_tag {type other : TypeName} (plain : type.arguments = [])
    (plain' : other.arguments = []) (same : type.tag = other.tag) : type = other := by
  obtain ⟨name, arguments⟩ := type
  obtain ⟨name', arguments'⟩ := other
  obtain rfl : arguments = [] := plain
  obtain rfl : arguments' = [] := plain'
  simpa [tag] using same

/-- States of different tags are meant by their tags. -/
theorem Reference.means_of_distinct {listed : List Reference}
    (distinct : (listed.map Reference.tag).Nodup) {name : Reference}
    (declared : ∃ state ∈ listed, state.tag = name.tag) : name.Means listed := by
  obtain ⟨state, mem, same⟩ := declared
  have only : ∀ other ∈ listed, other.tag = name.tag → other = state := by
    intro other mem' same'
    have found := find?_of_distinct distinct mem'
    rw [same', ← same, find?_of_distinct distinct mem] at found
    exact (Option.some.inj found).symm
  refine ⟨⟨state, ⟨mem, same⟩, fun other h => only other h.1 h.2⟩, ⟨?_, fun h => ?_⟩,
    fun plain all => ?_⟩
  · rintro ⟨written, mem', type⟩ other mem'' same''
    have spelled : written.tag = name.tag := congrArg TypeName.tag type
    rw [only other mem'' same'', ← only written mem' spelled, type]
  · exact ⟨state, mem, h state mem same⟩
  · exact ⟨state, mem, TypeName.eq_of_tag (all state mem) plain same⟩

/-! ## 2. Machines -/

/-- The names of states that a machine uses beside its list of states. -/
def MachineDecl.uses (decl : MachineDecl) : List Reference :=
  decl.initial :: decl.edges.flatMap (fun edge => [edge.source, edge.destination]) ++
    decl.failure.toList.map FailureDecl.errorState

theorem MachineDecl.mem_uses_iff {decl : MachineDecl} {name : Reference} :
    name ∈ decl.uses ↔ name = decl.initial ∨
      (∃ edge ∈ decl.edges, name = edge.source ∨ name = edge.destination) ∨
      ∃ failing ∈ decl.failure, name = failing.errorState := by
  simp [MachineDecl.uses, eq_comm]

/-- What a machine has to be like to be accepted. -/
structure MachineDecl.Closed (decl : MachineDecl) : Prop where
  distinct : (decl.states.map Reference.tag).Nodup
  declared : ∀ name ∈ decl.uses, ∃ state ∈ decl.states, state.tag = name.tag
  once : (decl.edges.map Edge.tags).Nodup

/-- States of different tags pass the check. -/
theorem checkTags_of_nodup {machine : String} {states : List Reference} :
    ∀ {before : List Reference}, ((before ++ states).map Reference.tag).Nodup →
      checkTags machine before states = .ok () := by
  induction states with
  | nil => intro before _; rfl
  | cons state rest ih =>
    intro before distinct
    have unseen : before.find? (·.tag == state.tag) = none := by
      rw [List.map_append, List.map_cons, List.nodup_append] at distinct
      refine List.find?_eq_none.mpr fun other mem same => ?_
      exact distinct.2.2 _ (List.mem_map_of_mem mem) _ (List.mem_cons_self ..) (by simpa using same)
    rw [checkTags, unseen]
    exact ih (by simpa using distinct)

/-- Transitions between declared tags, none of which is there already or comes twice, pass the
    check. -/
theorem checkEdges_of_nodup {machine : String} {declared : List String} {edges : List Edge} :
    ∀ {before : List (String × String)},
      (∀ edge ∈ edges, edge.source.tag ∈ declared ∧ edge.destination.tag ∈ declared) →
      (∀ edge ∈ edges, edge.tags ∉ before) → (edges.map Edge.tags).Nodup →
      checkEdges machine declared before edges = .ok () := by
  induction edges with
  | nil => intro before _ _ _; rfl
  | cons first rest ih =>
    intro before joins new once
    obtain ⟨⟨leaves, enters⟩, joins⟩ := List.forall_mem_cons.mp joins
    obtain ⟨unseen, new⟩ := List.forall_mem_cons.mp new
    rw [List.map_cons, List.nodup_cons] at once
    have goes : checkEdges machine declared (first.tags :: before) rest = .ok () := by
      refine ih joins (fun edge mem again => ?_) once.2
      rcases List.mem_cons.mp again with same | again
      · exact once.1 (same ▸ List.mem_map_of_mem mem)
      · exact new edge mem again
    simp [checkEdges, checkEndpoint, leaves, enters, unseen, goes, bind, Except.bind]

/-- A role is found just if a listed state has its tag. -/
theorem findRole_ok_iff {machine : String} {role : Role} {edges : List Edge}
    {listed : List Reference} {name : Reference} :
    (∃ state, findRole machine role (listed.map (State.ofReference edges)) name = .ok state) ↔
      ∃ state ∈ listed, state.tag = name.tag := by
  unfold findRole
  cases found : (listed.map (State.ofReference edges)).find? (·.tag == name.tag) with
  | some state =>
    have same := List.find?_some found
    obtain ⟨reference, mem, rfl⟩ := List.mem_map.mp (List.mem_of_find?_eq_some found)
    exact iff_of_true ⟨_, rfl⟩ ⟨reference, mem, beq_iff_eq.mp same⟩
  | none =>
    refine iff_of_false (by simp) ?_
    rintro ⟨state, mem, same⟩
    exact List.find?_eq_none.mp found _ (List.mem_map_of_mem mem) (beq_iff_eq.mpr same)

/-- The states of a machine are those of its declaration. -/
theorem Machine.listed_of_ofDecl {decl : MachineDecl} {machine : Machine}
    (h : Machine.ofDecl decl = .ok machine) :
    machine.states.map State.reference = decl.states := by
  have listed : (decl.states.map (State.ofReference decl.edges)).map State.reference =
      decl.states := by
    rw [List.map_map]
    exact List.map_id _
  simp only [Machine.ofDecl, Except.bind_eq_ok_iff] at h
  obtain ⟨_, _, _, _, initial, _, h⟩ := h
  split at h
  · cases h
    exact listed
  · simp only [Except.bind_eq_ok_iff] at h
    obtain ⟨_, _, _, _, h⟩ := h
    cases h
    exact listed

/-- A machine passes four checks and no others. -/
theorem Machine.ofDecl_ok_iff_checks {decl : MachineDecl} :
    (∃ machine, Machine.ofDecl decl = .ok machine) ↔
      checkTags decl.name [] decl.states = .ok () ∧
      checkEdges decl.name (decl.states.map Reference.tag) [] decl.edges = .ok () ∧
      (∃ state, findRole decl.name .initial (decl.states.map (State.ofReference decl.edges))
        decl.initial = .ok state) ∧
      ∀ failing ∈ decl.failure, ∃ state, findRole decl.name .error
        (decl.states.map (State.ofReference decl.edges)) failing.errorState = .ok state := by
  simp only [Machine.ofDecl, Except.bind_eq_ok_iff]
  constructor
  · rintro ⟨machine, _, tags, _, edges, initial, starts, h⟩
    refine ⟨tags, edges, ⟨initial, starts⟩, fun failing fails => ?_⟩
    rw [Option.mem_def.mp fails] at h
    simp only [Except.bind_eq_ok_iff] at h
    obtain ⟨errorState, found, -⟩ := h
    exact ⟨errorState, found⟩
  · rintro ⟨tags, edges, ⟨initial, starts⟩, fails⟩
    cases failure : decl.failure with
    | none => exact ⟨_, _, tags, _, edges, initial, starts, rfl⟩
    | some failing =>
      obtain ⟨errorState, found⟩ := fails failing failure
      refine ⟨⟨decl.name, initial, decl.states.map (State.ofReference decl.edges), decl.edges,
        some ⟨failing.errorType, errorState⟩⟩, (), tags, (), edges, initial, starts, ?_⟩
      simp only [found]
      rfl

/-- A machine is accepted just if it is closed. -/
theorem Machine.ofDecl_ok_iff {decl : MachineDecl} :
    (∃ machine, Machine.ofDecl decl = .ok machine) ↔ decl.Closed := by
  rw [Machine.ofDecl_ok_iff_checks, findRole_ok_iff]
  simp only [findRole_ok_iff]
  have listed_iff {name : Reference} : name.tag ∈ decl.states.map Reference.tag ↔
      ∃ state ∈ decl.states, state.tag = name.tag := List.mem_map
  constructor
  · rintro ⟨tags, edges, starts, fails⟩
    obtain ⟨joins, once⟩ := closed_of_checkEdges edges
    refine ⟨nodup_of_checkTags tags (by simp), fun name used => ?_, once⟩
    rcases MachineDecl.mem_uses_iff.mp used with
      rfl | ⟨edge, mem, rfl | rfl⟩ | ⟨failing, failure, rfl⟩
    · exact starts
    · exact listed_iff.mp (joins edge mem).1
    · exact listed_iff.mp (joins edge mem).2.1
    · exact fails failing failure
  · rintro ⟨distinct, declared, once⟩
    have used {name : Reference} (h : name ∈ decl.uses) := listed_iff.mpr (declared name h)
    have joins : ∀ edge ∈ decl.edges, edge.source.tag ∈ decl.states.map Reference.tag ∧
        edge.destination.tag ∈ decl.states.map Reference.tag := fun edge mem =>
      ⟨used (MachineDecl.mem_uses_iff.mpr (.inr (.inl ⟨edge, mem, .inl rfl⟩))),
        used (MachineDecl.mem_uses_iff.mpr (.inr (.inl ⟨edge, mem, .inr rfl⟩)))⟩
    exact ⟨checkTags_of_nodup distinct, checkEdges_of_nodup joins (by simp) once,
      declared _ (MachineDecl.mem_uses_iff.mpr (.inl rfl)), fun failing failure =>
        declared _ (MachineDecl.mem_uses_iff.mpr (.inr (.inr ⟨failing, failure, rfl⟩)))⟩

/-! ## 3. Messages -/

/-- What message channels have to be like to be accepted for a machine. -/
structure MessagesDecl.Fits (decl : MessagesDecl) (machine : Machine) : Prop where
  named : decl.name = machine.name
  declared : ∀ message ∈ decl.messages,
    ∃ state ∈ machine.states.map State.reference, state.tag = message.target.tag
  once : (decl.messages.map Message.key).Nodup

theorem Machine.hasState_iff {machine : Machine} {tag : String} : machine.hasState tag = true ↔
    ∃ state ∈ machine.states.map State.reference, state.tag = tag := by
  rw [Machine.hasState, List.any_eq_true]
  constructor
  · rintro ⟨state, mem, same⟩
    exact ⟨_, List.mem_map_of_mem mem, beq_iff_eq.mp same⟩
  · rintro ⟨_, mem, same⟩
    obtain ⟨state, member, rfl⟩ := List.mem_map.mp mem
    exact ⟨state, member, beq_iff_eq.mpr same⟩

/-- Message channels pass the check if they have targets, and none is there already or comes
    twice. -/
theorem checkMessages_ok_iff {machine : Machine} {messages : List Message} :
    ∀ {before : List (String × String × Direction)},
      checkMessages machine before messages = .ok () ↔
        (∀ message ∈ messages, machine.hasState message.target.tag = true ∧
          message.key ∉ before) ∧ (messages.map Message.key).Nodup := by
  induction messages with
  | nil => intro before; simp [checkMessages]
  | cons first rest ih =>
    intro before
    rw [checkMessages]
    split
    · rename_i foreign
      refine iff_of_false (by simp) fun h => ?_
      simp [(h.1 first (List.mem_cons_self ..)).1] at foreign
    · rename_i targets
      split
      · rename_i again
        refine iff_of_false (by simp) fun h => ?_
        exact (h.1 first (List.mem_cons_self ..)).2 (List.contains_iff_mem.mp again)
      · rename_i unseen
        have targets : machine.hasState first.target.tag = true := by simpa using targets
        have unseen : first.key ∉ before := by simpa using unseen
        rw [ih, List.forall_mem_cons, List.map_cons, List.nodup_cons]
        constructor
        · rintro ⟨fits, once⟩
          refine ⟨⟨⟨targets, unseen⟩, fun message mem => ?_⟩, fun again => ?_, once⟩
          · exact ⟨(fits message mem).1, fun h => (fits message mem).2 (.tail _ h)⟩
          · obtain ⟨message, mem, same⟩ := List.mem_map.mp again
            exact (fits message mem).2 (same ▸ .head _)
        · rintro ⟨⟨-, fits⟩, new, once⟩
          refine ⟨fun message mem => ⟨(fits message mem).1, fun again => ?_⟩, once⟩
          rcases List.mem_cons.mp again with same | again
          · exact new (same ▸ List.mem_map_of_mem mem)
          · exact (fits message mem).2 again

/-- Message channels are accepted for a machine just if they fit it. -/
theorem Messages.ofDecl_ok_iff {machine : Machine} {decl : MessagesDecl} :
    (∃ messages, Messages.ofDecl machine decl = .ok messages) ↔ decl.Fits machine := by
  unfold Messages.ofDecl
  split
  · rename_i other
    exact iff_of_false (by simp) fun fits => other fits.named
  · rename_i same
    simp only [Except.bind_eq_ok_iff]
    constructor
    · rintro ⟨messages, _, checked, -⟩
      obtain ⟨fits, once⟩ := checkMessages_ok_iff.mp checked
      refine ⟨by simpa using same, fun message mem => ?_, once⟩
      exact Machine.hasState_iff.mp (fits message mem).1
    · rintro ⟨-, declared, once⟩
      refine ⟨_, (), checkMessages_ok_iff.mpr ⟨fun message mem => ?_, once⟩, rfl⟩
      exact ⟨Machine.hasState_iff.mpr (declared message mem), by simp⟩

/-! ## 4. Main theorem -/

/-- What is declared is accepted just under this condition, and otherwise refused as invalid. -/
def Settles {α : Type} (result : Except Rejection α) (condition : Prop) : Prop :=
  (condition ∧ ∃ accepted, result = .ok accepted) ∨
    ¬ condition ∧ ∃ offence, result = .error (.invalid offence)

theorem settles_of_ok_iff {α : Type} {result : Except Invalid α} {condition : Prop}
    (h : (∃ accepted, result = .ok accepted) ↔ condition) :
    Settles (result.mapError .invalid) condition := by
  cases result with
  | ok accepted => exact .inl ⟨h.mp ⟨accepted, rfl⟩, accepted, rfl⟩
  | error offence => exact .inr ⟨fun holds => by simpa using h.mpr holds, offence, rfl⟩

theorem Machine.settles_ofText {fallible : Bool} {source : String} {decl : MachineDecl}
    (read : MachineDecl.ofText fallible source = .ok decl) :
    Settles (Machine.ofText fallible source) decl.Closed := by
  unfold Machine.ofText
  rw [read]
  exact settles_of_ok_iff Machine.ofDecl_ok_iff

theorem Messages.settles_ofText {machine : Machine} {source : String} {decl : MessagesDecl}
    (read : MessagesDecl.ofText source = .ok decl) :
    Settles (Messages.ofText machine source) (decl.Fits machine) := by
  unfold Messages.ofText
  rw [read]
  exact settles_of_ok_iff Messages.ofDecl_ok_iff

/-- Behind a machine that was read there is its declaration. -/
theorem Machine.declared_of_ofText {fallible : Bool} {source : String} {machine : Machine}
    (accepted : Machine.ofText fallible source = .ok machine) :
    ∃ decl, MachineDecl.ofText fallible source = .ok decl ∧ Machine.ofDecl decl = .ok machine := by
  unfold Machine.ofText at accepted
  split at accepted
  · cases accepted
  · rename_i decl read
    cases made : Machine.ofDecl decl with
    | error offence =>
      rw [made] at accepted
      cases accepted
    | ok other =>
      rw [made] at accepted
      cases accepted
      exact ⟨decl, read, made⟩

/-- A machine is accepted if and only if it is closed, and message channels if and only if they fit
    their machine; otherwise the text is rejected as invalid. In what is accepted every name has the
    tag of exactly one listed state. -/
theorem accepted_iff_closed (fallible : Bool) (source : String) :
    (∀ decl, MachineDecl.ofText fallible source = .ok decl →
      Settles (Machine.ofText fallible source) decl.Closed ∧
      (decl.Closed → ∀ name ∈ decl.uses, name.Means decl.states)) ∧
    ∀ machine, Machine.ofText fallible source = .ok machine →
      (∃ decl, MachineDecl.ofText fallible source = .ok decl ∧
        machine.states.map State.reference = decl.states) ∧
      ∀ text decl, MessagesDecl.ofText text = .ok decl →
        Settles (Messages.ofText machine text) (decl.Fits machine) ∧
        (decl.Fits machine → ∀ message ∈ decl.messages,
          message.target.Means (machine.states.map State.reference)) := by
  refine ⟨fun decl read => ⟨Machine.settles_ofText read, fun closed name used => ?_⟩,
    fun machine accepted => ?_⟩
  · exact Reference.means_of_distinct closed.distinct (closed.declared name used)
  obtain ⟨decl, read, made⟩ := Machine.declared_of_ofText accepted
  have listed := Machine.listed_of_ofDecl made
  have closed := Machine.ofDecl_ok_iff.mp ⟨machine, made⟩
  refine ⟨⟨decl, read, listed⟩, fun text messages read' => ⟨Messages.settles_ofText read',
    fun fits message mem => ?_⟩⟩
  exact Reference.means_of_distinct (listed ▸ closed.distinct) (fits.declared message mem)

/-- What `Lamp, On<Dim>, [On<Dim>, Off], [OnDim => Off]` declares. -/
def dimLamp : MachineDecl where
  name := "Lamp"
  initial := ⟨⟨"On", ["Dim"]⟩, ⟨⟨6, 1, 7⟩, 2⟩⟩
  states := [⟨⟨"On", ["Dim"]⟩, ⟨⟨16, 1, 17⟩, 2⟩⟩, ⟨⟨"Off", []⟩, ⟨⟨25, 1, 26⟩, 3⟩⟩]
  edges := [⟨⟨⟨"OnDim", []⟩, ⟨⟨32, 1, 33⟩, 5⟩⟩, ⟨⟨"Off", []⟩, ⟨⟨41, 1, 42⟩, 3⟩⟩, ⟨⟨32, 1, 33⟩, 5⟩⟩]
  failure := none
  span := ⟨⟨0, 1, 1⟩, 4⟩

/-- What `Lamp, [Power -> On]` declares. -/
def powerMessages : MessagesDecl where
  name := "Lamp"
  messages := [⟨⟨⟨"Power", []⟩, ⟨⟨7, 1, 8⟩, 5⟩⟩, .push, ⟨⟨"On", []⟩, ⟨⟨16, 1, 17⟩, 2⟩⟩,
    ⟨⟨7, 1, 8⟩, 5⟩⟩]
  span := ⟨⟨0, 1, 1⟩, 4⟩

theorem dimLamp_read :
    MachineDecl.ofText false "Lamp, On<Dim>, [On<Dim>, Off], [OnDim => Off]" = .ok dimLamp :=
  eq_ok_of_toOption (by decide +kernel)

theorem dimLamp_closed : dimLamp.Closed := ⟨by decide, by decide, by decide⟩

/-- The machine of the counterexample: `OnDim` refers to its first state, and messages to `On` are
    rejected. -/
theorem accepted_iff_closed_lamp :
    (∀ name ∈ dimLamp.uses, name.Means dimLamp.states) ∧
    ∃ machine, Machine.ofText false "Lamp, On<Dim>, [On<Dim>, Off], [OnDim => Off]" = .ok machine ∧
      ∃ offence, Messages.ofText machine "Lamp, [Power -> On]" = .error (.invalid offence) := by
  obtain ⟨settles, means⟩ := (accepted_iff_closed false _).1 dimLamp dimLamp_read
  rcases settles with ⟨closed, machine, accepted⟩ | ⟨unfit, -⟩
  · obtain ⟨⟨decl, read, listed⟩, messages⟩ := (accepted_iff_closed false _).2 machine accepted
    have read' : MessagesDecl.ofText "Lamp, [Power -> On]" = .ok powerMessages :=
      eq_ok_of_toOption (by decide +kernel)
    refine ⟨means closed, machine, accepted, ?_⟩
    rcases (messages _ _ read').1 with ⟨fits, -⟩ | ⟨-, refused⟩
    · obtain rfl : dimLamp = decl := Except.ok.inj (dimLamp_read.symm.trans read)
      have target := fits.declared _ (List.mem_singleton_self _)
      rw [listed] at target
      exact absurd target (by decide)
    · exact refused
  · exact absurd dimLamp_closed unfit

/-- `OnDim` is accepted as an end of a transition, although only `On<Dim>` is listed. -/
theorem accepted_with_unlisted_name :
    ∃ decl machine,
      MachineDecl.ofText false "Lamp, On<Dim>, [On<Dim>, Off], [OnDim => Off]" = .ok decl ∧
      Machine.ofText false "Lamp, On<Dim>, [On<Dim>, Off], [OnDim => Off]" = .ok machine ∧
      ∃ name ∈ decl.uses, ¬ name.ListedIn decl.states := by
  obtain ⟨machine, made⟩ := Machine.ofDecl_ok_iff.mpr dimLamp_closed
  refine ⟨dimLamp, machine, dimLamp_read, ?_, ⟨⟨"OnDim", []⟩, ⟨⟨32, 1, 33⟩, 5⟩⟩, by decide, ?_⟩
  · rw [Machine.ofText, dimLamp_read]
    exact congrArg (Except.mapError Rejection.invalid) made
  · rintro ⟨state, listed, same⟩
    revert state
    decide

end MachineSpec
