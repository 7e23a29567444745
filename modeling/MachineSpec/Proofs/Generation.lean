/-
MachineSpec.Proofs.Generation — which machines compile under which bindings.

`Bindings.Supplies` states what compilation looks up: a class for every state, a guard and a
conversion for every transition, and for a fallible machine an error type, an error state
that can take errors, and the conversions into it.

Compilation is a sequence of lookups, each of which succeeds or fails with a binding error.
`Needs` pairs such a lookup with the condition under which it succeeds and is closed under
sequencing, so the condition for the whole follows from its parts; `generate_needs` shows
that it is `Supplies`. `Table.Draws` says what the resulting table has of the bindings.
-/
import MachineSpec.Proofs.Compiled

namespace MachineSpec

/-! ## 1. Look-ups and their conditions -/

/-- The look-up succeeds under this very condition, and otherwise blames the bindings. -/
def Needs {α : Type} (result : Except Error α) (condition : Prop) : Prop :=
  match result with
  | .ok _ => condition
  | .error error => ¬ condition ∧ error.kind = .bindingError

namespace Needs

variable {α β : Type} {result : Except Error α} {p q : Prop}

theorem nothing {a : α} : Needs (.ok a) True := trivial

theorem congr (h : Needs result p) (same : p ↔ q) : Needs result q := by
  rwa [← propext same]

/-- One look-up after another needs what both need. -/
theorem bind {next : α → Except Error β} (h : Needs result p)
    (hn : ∀ a, result = .ok a → p → Needs (next a) q) : Needs (result >>= next) (p ∧ q) := by
  cases result with
  | ok a =>
    have rest := hn a rfl h
    cases hnext : next a with
    | ok b =>
      rw [hnext] at rest
      simpa [Needs, Except.bind, Bind.bind, hnext] using And.intro h rest
    | error error =>
      rw [hnext] at rest
      simpa [Needs, Except.bind, Bind.bind, hnext] using And.intro (fun _ => rest.1) rest.2
  | error error => exact ⟨fun both => h.1 both.1, h.2⟩

/-- What is made of the result needs nothing more. -/
theorem made {f : α → β} (h : Needs result p) : Needs (result >>= fun a => pure (f a)) p := by
  cases result with
  | ok a => exact h
  | error error => exact h

/-- A look-up in a row of them needs what each needs. -/
theorem mapM {f : α → Except Error β} {each : α → Prop} {items : List α}
    (h : ∀ item ∈ items, Needs (f item) (each item)) :
    Needs (items.mapM f) (∀ item ∈ items, each item) := by
  induction items with
  | nil => exact nothing.congr (by simp)
  | cons item rest ih =>
    rw [List.mapM_cons, List.forall_mem_cons]
    rw [List.forall_mem_cons] at h
    exact h.1.bind fun _ _ _ => (ih h.2).made

theorem ok_iff (h : Needs result p) : (∃ a, result = .ok a) ↔ p := by
  cases result with
  | ok a => exact ⟨fun _ => h, fun _ => ⟨a, rfl⟩⟩
  | error error => exact ⟨nofun, fun holds => absurd holds h.1⟩

theorem error_kind (h : Needs result p) {error : Error} (failed : result = .error error) :
    error.kind = .bindingError := by
  rw [failed] at h
  exact h.2

end Needs

/-! ## 2. What has to be bound -/

namespace Bindings

variable {bindings : Bindings}

/-- There is a conversion between the states with these tags: one of their own, or one that makes
    data of the second from whatever there is. -/
def Converts (bindings : Bindings) (key : EdgeKey) : Prop :=
  (∃ callback, bindings.conversions.lookup key = some callback ∧ callback.present = true) ∨
    ∃ callback, bindings.arrivals.lookup key.2 = some callback ∧ callback.present = true

/-- What a fallible machine needs beside. -/
structure Catches (bindings : Bindings) (machine : Machine) (policy : FailurePolicy) : Prop where
  /-- The error type stands for a class of exceptions. -/
  errorType : ∃ kind, bindings.resolve policy.errorType.type = .ok (.cls kind) ∧
    kind.inherits .exception = true
  /-- Data of the error state can receive an error. -/
  consumer : ∃ kind member, bindings.resolve policy.errorState.reference.type = .ok (.cls kind) ∧
    kind.member? "consume_error" = some member ∧ member ≠ .unimplemented ∧ member.callable = true
  /-- There is a way into the error state from every other. -/
  conversions : ∀ state ∈ machine.states, state.tag ≠ policy.errorState.tag →
    bindings.Converts (state.tag, policy.errorState.tag)

/-- Everything that a machine needs is bound. -/
structure Supplies (bindings : Bindings) (machine : Machine) : Prop where
  classes : ∀ state ∈ machine.states, ∃ kind,
    bindings.resolve state.reference.type = .ok (.cls kind)
  guards : ∀ edge ∈ machine.edges, ∃ guard,
    bindings.guards.lookup edge.tags = some guard ∧ guard.present = true
  conversions : ∀ edge ∈ machine.edges, bindings.Converts edge.tags
  failures : ∀ policy, machine.failure = some policy → bindings.Catches machine policy

theorem resolve_error {name : TypeName} {error : Error} (h : bindings.resolve name = .error error) :
    error.kind = .bindingError := by
  unfold resolve at h
  split at h
  · cases h
  · split at h
    · cases h
    · dsimp only at h
      split at h <;> cases h
      rfl

/-- A class is looked up by its name, and has to pass the test of its role. -/
theorem resolveClass_needs {role : TypeRole} {name : TypeName} :
    Needs (bindings.resolveClass role name) (∃ kind, bindings.resolve name = .ok (.cls kind) ∧
      (role = .errorType → kind.inherits .exception = true)) := by
  unfold resolveClass
  split
  · rename_i error failed
    exact ⟨by simp [failed], resolve_error failed⟩
  · rename_i kind found
    split
    · rename_i unfit
      exact ⟨by simp_all, rfl⟩
    · rename_i fit
      refine ⟨kind, found, fun errors => ?_⟩
      simpa [errors] using fit
  · rename_i value other found
    refine ⟨?_, rfl⟩
    rintro ⟨kind, same, -⟩
    rw [found] at same
    cases same
    exact other kind rfl

theorem stateClass_needs {name : TypeName} :
    Needs (bindings.resolveClass .state name) (∃ kind, bindings.resolve name = .ok (.cls kind)) :=
  resolveClass_needs.congr (by simp)

theorem resolveClass_ok {role : TypeRole} {name : TypeName} {kind : Class}
    (h : bindings.resolveClass role name = .ok kind) : bindings.resolve name = .ok (.cls kind) := by
  unfold resolveClass at h
  split at h
  · cases h
  · rename_i found
    split at h <;> cases h
    exact found
  · cases h

theorem classes_needs {states : List State} :
    Needs (bindings.classes states)
      (∀ state ∈ states, ∃ kind, bindings.resolve state.reference.type = .ok (.cls kind)) := by
  induction states with
  | nil => exact Needs.nothing.congr (by simp)
  | cons state rest ih =>
    rw [classes, List.forall_mem_cons]
    exact stateClass_needs.bind fun _ _ _ => ih.made

/-- What was put in the place of a callback on purpose does not count as one. -/
theorem present_iff {found : Option Callback} :
    (∃ callback, found.filter Callback.present = some callback) ↔
      ∃ callback, found = some callback ∧ callback.present = true := by
  simp [Option.filter_eq_some_iff]

theorem conversion?_iff {key : EdgeKey} :
    (∃ callback, bindings.conversion? key = some callback) ↔ bindings.Converts key := by
  unfold conversion? Converts
  rw [← present_iff, ← present_iff]
  cases (bindings.conversions.lookup key).filter Callback.present with
  | some callback => simp
  | none => simp

theorem conversion_needs {machine : String} {source destination : Reference} :
    Needs (bindings.conversion machine source destination)
      (bindings.Converts (source.tag, destination.tag)) := by
  unfold conversion
  rw [← conversion?_iff]
  split
  · rename_i callback found
    exact ⟨callback, found⟩
  · rename_i missing
    exact ⟨by simp [missing], rfl⟩

/-- What is bound to one transition. -/
def Joins (bindings : Bindings) (key : EdgeKey) : Prop :=
  (∃ guard, bindings.guards.lookup key = some guard ∧ guard.present = true) ∧ bindings.Converts key

theorem transition_needs {machine : String} {source destination : Reference} :
    Needs (bindings.transition machine source destination)
      (bindings.Joins (source.tag, destination.tag)) := by
  unfold transition Joins
  rw [← present_iff]
  dsimp only
  split
  · rename_i missing
    exact ⟨by simp_all [guard?], rfl⟩
  · rename_i guard found
    refine conversion_needs.made.congr ?_
    simp_all [guard?]

theorem transition_guard {machine : String} {source destination : Reference}
    {transition : Transition}
    (h : bindings.transition machine source destination = .ok transition) :
    bindings.guard? (source.tag, destination.tag) = some transition.guard := by
  unfold Bindings.transition at h
  dsimp only at h
  split at h
  · cases h
  · rename_i found
    obtain ⟨_, _, made⟩ := Except.bind_eq_ok_iff.mp h
    cases made
    exact found

end Bindings

/-! ## 3. Blocks -/

variable {bindings : Bindings} {machine : Machine}

theorem Block.ofState_needs {state : State} {kind : Class} :
    Needs (Block.ofState bindings machine state kind)
      (∀ destination ∈ state.transits, bindings.Joins (state.tag, destination.tag)) :=
  (Needs.mapM fun _ _ => Bindings.transition_needs).made

/-- The blocks, if all of them could be made. -/
def allBlocks : List Block × Option Error → Except Error (List Block)
  | (_, some error) => .error error
  | (blocks, none) => .ok blocks

/-- What matters of the blocks up to the first fault is whether there is one. -/
theorem allBlocks_eq {kinds : List (State × Class)} :
    allBlocks (blocksUpToFault bindings machine kinds) =
      kinds.mapM fun entry => Block.ofState bindings machine entry.1 entry.2 := by
  induction kinds with
  | nil => rfl
  | cons entry rest ih =>
    obtain ⟨state, kind⟩ := entry
    rw [List.mapM_cons, ← ih, blocksUpToFault]
    split
    · rename_i error failed
      rw [failed]
      rfl
    · rename_i block made
      rw [made]
      obtain ⟨others, _ | error⟩ := blocksUpToFault bindings machine rest
      · rfl
      · rfl

theorem mem_of_mapM {α β : Type} {f : α → Except Error β} {items : List α} :
    ∀ {results : List β}, items.mapM f = .ok results →
      ∀ result ∈ results, ∃ item ∈ items, f item = .ok result := by
  induction items with
  | nil => rintro results ⟨⟩; simp
  | cons item rest ih =>
    intro results h
    simp only [List.mapM_cons, Except.bind_eq_ok_iff] at h
    obtain ⟨first, hfirst, others, hothers, h⟩ := h
    cases h
    rw [List.forall_mem_cons]
    refine ⟨⟨item, List.mem_cons_self .., hfirst⟩, fun result hresult => ?_⟩
    obtain ⟨origin, horigin, made⟩ := ih hothers result hresult
    exact ⟨origin, List.mem_cons_of_mem _ horigin, made⟩

theorem Bindings.classes_resolved {states : List State} :
    ∀ {kinds}, bindings.classes states = .ok kinds → ∀ entry ∈ kinds,
      bindings.resolve entry.1.reference.type = .ok (.cls entry.2) := by
  induction states with
  | nil => rintro kinds ⟨⟩; simp
  | cons state rest ih =>
    intro kinds h
    simp only [Bindings.classes, Except.bind_eq_ok_iff] at h
    obtain ⟨kind, hkind, others, hothers, h⟩ := h
    cases h
    exact List.forall_mem_cons.mpr ⟨Bindings.resolveClass_ok hkind, ih hothers⟩

theorem Block.ofState_guard {state : State} {kind : Class} {block : Block}
    (h : Block.ofState bindings machine state kind = .ok block) {transition : Transition}
    (ht : transition ∈ block.transitions) :
    bindings.guard? (transition.source.tag, transition.destination.tag) =
      some transition.guard := by
  obtain ⟨transitions, made, h⟩ := Except.bind_eq_ok_iff.mp h
  cases h
  obtain ⟨destination, -, joined⟩ := mem_of_mapM made transition ht
  obtain ⟨hsource, hdestination⟩ := Bindings.transition_ok joined
  rw [hsource, hdestination]
  exact Bindings.transition_guard joined

/-! ## 4. Failures -/

theorem canConsume_iff {kind : Class} : canConsume kind = true ↔ ∃ member,
    kind.member? "consume_error" = some member ∧ member ≠ .unimplemented ∧
      member.callable = true := by
  unfold canConsume
  split
  · rename_i found
    simp [found]
  · rename_i member other found
    simpa [found] using fun _ => other
  · rename_i missing
    simp [missing]

theorem errorConversions_needs {errorState : State} {states : List State} :
    Needs (errorConversions bindings machine errorState states)
      (∀ state ∈ states, state.tag ≠ errorState.tag →
        bindings.Converts (state.tag, errorState.tag)) := by
  induction states with
  | nil => exact Needs.nothing.congr (by simp)
  | cons state rest ih =>
    rw [errorConversions, List.forall_mem_cons]
    split
    · rename_i same
      exact ih.congr (by simp [same])
    · rename_i other
      refine (Bindings.conversion_needs.bind fun _ _ _ => ih.made).congr ?_
      exact and_congr_left fun _ => ⟨fun converts _ => converts, fun converts => converts other⟩

/-- The class of the error state is that of its block. -/
theorem FailureRoute.ofPolicy_needs {blocks : List Block} {policy : FailurePolicy} {block : Block}
    (known : blocks.find? (·.tag == policy.errorState.tag) = some block)
    (kind : bindings.resolve policy.errorState.reference.type = .ok (.cls block.kind)) :
    Needs (FailureRoute.ofPolicy bindings machine blocks policy)
      (bindings.Catches machine policy) := by
  have consumes : (∃ kind member,
      bindings.resolve policy.errorState.reference.type = .ok (.cls kind) ∧
        kind.member? "consume_error" = some member ∧ member ≠ .unimplemented ∧
          member.callable = true) ↔ canConsume block.kind = true := by
    rw [canConsume_iff]
    constructor
    · rintro ⟨other, member, same, found⟩
      rw [kind] at same
      cases same
      exact ⟨member, found⟩
    · rintro ⟨member, found⟩
      exact ⟨block.kind, member, kind, found⟩
  unfold FailureRoute.ofPolicy
  rw [known]
  dsimp only
  split
  · rename_i able
    refine (Bindings.resolveClass_needs.bind fun _ _ _ => errorConversions_needs.made).congr ?_
    constructor
    · rintro ⟨⟨kind, found, errors⟩, converts⟩
      exact ⟨⟨kind, found, errors rfl⟩, consumes.mpr able, converts⟩
    · rintro ⟨⟨kind, found, errors⟩, -, converts⟩
      exact ⟨⟨kind, found, fun _ => errors⟩, converts⟩
  · rename_i unable
    refine (Bindings.resolveClass_needs.bind (q := False) fun _ _ _ => ?_).congr ?_
    · exact ⟨id, rfl⟩
    · exact ⟨fun h => h.2.elim, fun h => absurd (consumes.mp h.consumer) unable⟩

theorem FailureRoute.ofPolicy_errorType {blocks : List Block} {policy : FailurePolicy}
    {route : FailureRoute} (h : FailureRoute.ofPolicy bindings machine blocks policy = .ok route) :
    bindings.resolve policy.errorType.type = .ok (.cls route.errorType) := by
  simp only [FailureRoute.ofPolicy, Except.bind_eq_ok_iff] at h
  obtain ⟨errorType, hresolved, h⟩ := h
  split at h
  · cases h
  · split at h
    · obtain ⟨_, _, h⟩ := Except.bind_eq_ok_iff.mp h
      cases h
      exact Bindings.resolveClass_ok hresolved
    · cases h

/-! ## 5. Tables -/

variable {flags : TraceFlags} {checkTypes : Bool}

/-- Compilation makes the classes, the blocks and what is known of failures, one after another. -/
theorem Table.generate_eq : (Table.generate bindings flags checkTypes machine).2 = (do
    let kinds ← bindings.classes machine.states
    let blocks ← allBlocks (blocksUpToFault bindings machine kinds)
    Table.ofBlocks bindings flags checkTypes machine blocks) := by
  unfold Table.generate
  split
  · rename_i error failed
    rw [failed]
    rfl
  · rename_i kinds resolved
    rw [resolved]
    change _ = allBlocks (blocksUpToFault bindings machine kinds) >>= _
    obtain ⟨blocks, _ | error⟩ := blocksUpToFault bindings machine kinds
    · rfl
    · rfl

/-- What blocks have of the machine and the bindings that they were made of. -/
structure Draws (bindings : Bindings) (machine : Machine) (blocks : List Block) : Prop where
  states : blocks.map Block.state = machine.states
  classes : ∀ block ∈ blocks,
    bindings.resolve block.state.reference.type = .ok (.cls block.kind)
  guards : ∀ block ∈ blocks, ∀ transition ∈ block.transitions,
    bindings.guard? (transition.source.tag, transition.destination.tag) = some transition.guard

theorem draws_of_ok {kinds : List (State × Class)} {blocks : List Block}
    (resolved : bindings.classes machine.states = .ok kinds)
    (made : allBlocks (blocksUpToFault bindings machine kinds) = .ok blocks) :
    Draws bindings machine blocks := by
  have origin : ∀ block ∈ blocks, ∃ entry ∈ kinds,
      Block.ofState bindings machine entry.1 entry.2 = .ok block :=
    mem_of_mapM (allBlocks_eq.symm.trans made)
  refine ⟨?_, fun block hblock => ?_, fun block hblock transition ht => ?_⟩
  · generalize hmade : blocksUpToFault bindings machine kinds = upToFault at made
    obtain ⟨all, _ | error⟩ := upToFault
    · cases made
      exact (blocksUpToFault_ok hmade).1.trans (Bindings.classes_ok resolved)
    · cases made
  · obtain ⟨entry, hentry, hmade⟩ := origin block hblock
    obtain ⟨hstate, hkind, -⟩ := Block.ofState_ok hmade
    rw [hstate, hkind]
    exact Bindings.classes_resolved resolved entry hentry
  · obtain ⟨entry, -, hmade⟩ := origin block hblock
    exact Block.ofState_guard hmade ht

variable {blocks : List Block}

/-- The block of the error state is found, and its class is the one bound to the error state. -/
theorem Draws.errorBlock (draws : Draws bindings machine blocks) (closed : machine.Closed)
    {policy : FailurePolicy} (fallible : machine.failure = some policy) :
    ∃ block, blocks.find? (·.tag == policy.errorState.tag) = some block ∧
      bindings.resolve policy.errorState.reference.type = .ok (.cls block.kind) := by
  have declared := closed.errorState policy fallible
  rw [← draws.states] at declared
  obtain ⟨block, mem, same⟩ := List.mem_map.mp declared
  have distinct := closed.distinct
  rw [← draws.states, List.map_map] at distinct
  rw [← same]
  exact ⟨block, find?_of_distinct distinct mem, draws.classes block mem⟩

theorem Table.ofBlocks_needs (draws : Draws bindings machine blocks) (closed : machine.Closed) :
    Needs (Table.ofBlocks bindings flags checkTypes machine blocks)
      (∀ policy, machine.failure = some policy → bindings.Catches machine policy) := by
  unfold Table.ofBlocks
  split
  · rename_i plain
    exact Needs.nothing.congr (by simp [plain])
  · rename_i policy fallible
    obtain ⟨block, known, kind⟩ := draws.errorBlock closed fallible
    exact (FailureRoute.ofPolicy_needs known kind).made.made.congr (by simp [fallible])

/-- To join the states of a machine is to join the ends of its edges. -/
theorem Machine.Closed.joins_iff (closed : machine.Closed) {joined : EdgeKey → Prop} :
    (∀ state ∈ machine.states, ∀ destination ∈ state.transits,
      joined (state.tag, destination.tag)) ↔ ∀ edge ∈ machine.edges, joined edge.tags := by
  constructor
  · intro h edge hedge
    obtain ⟨state, hstate, source⟩ := closed.sources edge hedge
    have leaves : edge.destination ∈ state.transits := by
      rw [closed.transits state hstate, source]
      exact List.mem_map_of_mem (List.mem_filter.mpr ⟨hedge, by simp⟩)
    have both := h state hstate edge.destination leaves
    rwa [source] at both
  · intro h state hstate destination hdestination
    rw [closed.transits state hstate] at hdestination
    obtain ⟨edge, hedge, rfl⟩ := List.mem_map.mp hdestination
    obtain ⟨hedge, source⟩ := List.mem_filter.mp hedge
    have both := h edge hedge
    rwa [Edge.tags, beq_iff_eq.mp source] at both

/-- A checked machine compiles exactly if everything that it needs is bound. -/
theorem Table.generate_needs (closed : machine.Closed) :
    Needs (Table.generate bindings flags checkTypes machine).2 (bindings.Supplies machine) := by
  rw [Table.generate_eq]
  have blocks {kinds : List (State × Class)} (resolved : bindings.classes machine.states = .ok kinds) :
      Needs (allBlocks (blocksUpToFault bindings machine kinds))
        (∀ edge ∈ machine.edges, bindings.Joins edge.tags) := by
    rw [allBlocks_eq, ← closed.joins_iff]
    refine (Needs.mapM fun _ _ => Block.ofState_needs).congr ?_
    rw [← Bindings.classes_ok resolved]
    simp
  refine (Bindings.classes_needs.bind fun kinds resolved _ =>
    (blocks resolved).bind fun blocks made _ =>
      Table.ofBlocks_needs (draws_of_ok resolved made) closed).congr ?_
  constructor
  · rintro ⟨classes, joins, failures⟩
    exact ⟨classes, fun edge h => (joins edge h).1, fun edge h => (joins edge h).2, failures⟩
  · rintro ⟨classes, guards, conversions, failures⟩
    exact ⟨classes, fun edge h => ⟨guards edge h, conversions edge h⟩, failures⟩

/-- What a table has of the machine and the bindings that it was made of. -/
structure Table.Generated (table : Table) (bindings : Bindings) (machine : Machine) : Prop where
  origin : table.machine = machine
  draws : Draws bindings machine table.blocks
  failure : ∀ route, table.failure = some route → ∃ policy, machine.failure = some policy ∧
    route.errorBlock.tag = policy.errorState.tag ∧
    bindings.resolve policy.errorType.type = .ok (.cls route.errorType)

theorem Table.generated_of_ok {table : Table}
    (h : (Table.generate bindings flags checkTypes machine).2 = .ok table) :
    table.Generated bindings machine := by
  rw [Table.generate_eq] at h
  obtain ⟨kinds, resolved, h⟩ := Except.bind_eq_ok_iff.mp h
  obtain ⟨blocks, made, h⟩ := Except.bind_eq_ok_iff.mp h
  have draws := draws_of_ok resolved made
  unfold Table.ofBlocks at h
  split at h
  · cases h
    exact ⟨rfl, draws, nofun⟩
  · rename_i policy fallible
    obtain ⟨_, hfailure, h⟩ := Except.bind_eq_ok_iff.mp h
    obtain ⟨route, hroute, same⟩ := Except.bind_eq_ok_iff.mp hfailure
    cases same
    cases h
    refine ⟨rfl, draws, ?_⟩
    rintro _ ⟨⟩
    exact ⟨policy, fallible, by simpa using List.find?_some (FailureRoute.ofPolicy_ok hroute).1,
      FailureRoute.ofPolicy_errorType hroute⟩

end MachineSpec
