/-
MachineSpec.Proofs.Designation — which states a designator resolves to.

Calls designate a state by its tag, by the text of the declared type, or by a class. The
machine turns a designator into tags first; `Resolves` gives these tags, and `Denies` says
that there are none.

A text that is the tag of a state resolves to that state. Any other text is read as a type
name and resolves by its tag. So a state whose type text is the tag of another state cannot
be designated by that text, and a text that names no state can still have the tag of one.

* `Table.designators_resolve`: a tag resolves to its state; so does every text that is read
  as the declared type of the state, unless it is the tag of another; a class resolves to
  the states bound to it; a text that neither is a tag nor is read as a name with one is
  denied.
* `Table.designator_resolves_wrongly`: with states `Off` and `OffState` the text `OffState`
  resolves to `Off`; and `OnDim`, which is no state, resolves to `On<Dim>`.
-/
import MachineSpec.Proofs.Halting
import MachineSpec.Proofs.Printing

namespace MachineSpec

open Operation (Barred)

/-! ## 1. Tags -/

namespace Table

variable {table : Table} {target : Designator} {tags : List String} {tag : String}

theorem block?_of_unknown (unknown : ¬ table.Knows tag) : table.block? tag = none :=
  Option.eq_none_iff_forall_ne_some.mpr fun block found => unknown ⟨block, found⟩

theorem tagsFor_tag (known : table.Knows tag) : table.tagsFor (.text tag) = .ok [tag] := by
  obtain ⟨block, known⟩ := known
  simp [tagsFor, designated, known]

/-- A text that is no tag counts by the tag of the type name that it is read as. -/
theorem tagsFor_read {text : String} {reference : Reference}
    (read : Reference.ofText text = .ok reference) (other : ¬ table.Knows text)
    (known : table.Knows reference.tag) : table.tagsFor (.text text) = .ok [reference.tag] := by
  obtain ⟨block, known⟩ := known
  simp [tagsFor, designated, block?_of_unknown other, read, known]

theorem tagsFor_unread {text : String} {reference : Reference}
    (read : Reference.ofText text = .ok reference) (other : ¬ table.Knows text)
    (unknown : ¬ table.Knows reference.tag) :
    table.tagsFor (.text text) = .error (.notAState (.text text) table.name) := by
  simp [tagsFor, designated, block?_of_unknown other, read, block?_of_unknown unknown]

/-- The tags of the states that are bound to a class. -/
def tagsOf (table : Table) (kind : Class) : List String :=
  (table.blocks.filter (·.kind.same kind)).map Block.tag

theorem tagsFor_cls {kind : Class} (bound : table.tagsOf kind ≠ []) :
    table.tagsFor (.cls kind) = .ok (table.tagsOf kind) := by
  have found : table.designated (.cls kind) = .ok (table.tagsOf kind) := rfl
  rw [tagsFor, found]
  cases tags : table.tagsOf kind with
  | nil => exact absurd tags bound
  | cons first rest => rfl

theorem tagsFor_unbound {kind : Class} (unbound : table.tagsOf kind = []) :
    table.tagsFor (.cls kind) = .error (.notAState (.cls kind) table.name) := by
  have none : table.designated (.cls kind) = .ok [] := congrArg Except.ok unbound
  simp [tagsFor, none]

end Table

/-! ## 2. Channels -/

namespace Channels

variable {channels : Channels} {table : Table} {direction : Direction} {target payload : Designator}
  {tags : List String} {tag : String} {found : List (String × Channel)}

/-- What is paired with a tag is what was found for it. -/
theorem lookup_found (find : String → Option Channel) (tags : List String) (tag : String) :
    (tags.filterMap fun tag => (find tag).map fun channel => (tag, channel)).lookup tag =
      if tag ∈ tags then find tag else none := by
  induction tags with
  | nil => rfl
  | cons first rest ih =>
    rw [List.filterMap_cons]
    cases here : find first with
    | none =>
      rw [Option.map_none]
      dsimp only
      rw [ih]
      by_cases same : tag = first
      · subst same
        simp [here]
      · simp [same]
    | some channel =>
      rw [Option.map_some]
      dsimp only
      by_cases same : tag = first
      · subst same
        rw [List.lookup_cons_self, if_pos (.head _), here]
      · rw [List.lookup_cons, beq_false_of_ne same]
        dsimp only
        rw [ih]
        simp [same]

theorem fits_of_ofKind {along : List Channel} {id : Nat} {channel : Channel}
    (found : ofKind along tag id = some channel) : channel.tag = tag ∧ channel.kind.id = id := by
  simpa using List.find?_some found

/-- A channel that is found for a tag is one of that tag. -/
theorem find_tag {along : List Channel} {channel : Channel}
    (found : find along tag payload = some channel) : channel.tag = tag := by
  unfold find at found
  split at found
  · have fits := List.find?_some found
    simp only [Bool.and_eq_true, beq_iff_eq] at fits
    exact fits.1
  · obtain ⟨_, _, _, _, found, _⟩ := List.findSome?_eq_some_iff.mp found
    exact (fits_of_ofKind found).1

/-- For the states that a designator points out the channels are selected that they have for the
    payload. -/
theorem select_lookup (points : table.tagsFor target = .ok tags)
    (selected : channels.select table direction target payload = .ok found) :
    found.lookup tag =
      if tag ∈ tags then find (channels.along direction) tag payload else none := by
  unfold select at selected
  rw [points] at selected
  dsimp only at selected
  split at selected
  · cases selected
  · cases selected
    exact lookup_found _ tags tag

/-- If none is selected then they have none. -/
theorem select_none (points : table.tagsFor target = .ok tags) {error : Error}
    (failed : channels.select table direction target payload = .error error) :
    error.kind = .channelNotDeclaredError ∧
      ∀ tag ∈ tags, find (channels.along direction) tag payload = none := by
  unfold select at failed
  rw [points] at failed
  dsimp only at failed
  split at failed
  · rename_i empty
    cases failed
    refine ⟨rfl, fun tag mem => ?_⟩
    have none := lookup_found (find (channels.along direction) · payload) tags tag
    rw [List.isEmpty_iff.mp empty, if_pos mem] at none
    exact none.symm
  · cases failed

theorem select_denied {machine : String}
    (denied : table.tagsFor target = .error (.notAState target machine)) :
    channels.select table direction target payload = .error (.noTarget target machine) := by
  simp [select, denied]

end Channels

/-! ## 3. Choosing -/

namespace Table

open Operation

variable {table : Table} {channels : Channels} {direction : Direction} {target payload : Designator}
  {tags : List String} {rejected : Value} {slot : Slot}

/-- How the channel for a payload is chosen, and the data to go with it. -/
def chosen (table : Table) (channels : Channels) (direction : Direction)
    (target payload : Designator) (rejected : Value) : Operation (Channel × Value) := do
  let found ← ofExcept (channels.select table direction target payload)
  table.activeChannel found target rejected

/-- What is done with a message once its channel is chosen. -/
def delivered (table : Table) (channel : Channel) (data message : Value) : Operation Unit := do
  table.reportMessage "Push"
    (channel.message.payload.text ++ " to " ++ channel.message.target.text)
  let _ ← demand (.deliver channel data message)

/-- What is done to get a message once its channel is chosen. -/
def fetched (table : Table) (channel : Channel) (data : Value) : Operation Value := do
  let message ← demand (.produce channel data)
  if message.isNull then return message
  else do
    table.reportMessage "Poll"
      (channel.message.payload.text ++ " from " ++ channel.message.target.text)
    return message

theorem pushed_eq {message : Value} : table.pushed channels target message =
    table.chosen channels .push target (.cls message.kind) message >>= fun choice =>
      table.delivered choice.1 choice.2 message := by
  rw [chosen, bind_assoc]
  rfl

theorem polled_eq : table.polled channels target payload =
    table.chosen channels .poll target payload .null >>= fun choice =>
      table.fetched choice.1 choice.2 := by
  rw [chosen, bind_assoc]
  rfl

/-- The active state is pointed out, has a channel for the payload and data to go with it. -/
structure Admits (channels : Channels) (direction : Direction) (tags : List String)
    (payload : Designator) (slot : Slot) (channel : Channel) : Prop where
  aimed : slot.tag ∈ tags
  finds : Channels.find (channels.along direction) slot.tag payload = some channel
  full : slot.data.isNull = false

variable (known : table.Knows slot.tag)
include known

/-- That is the channel which is chosen then. -/
theorem chosen_admitted (points : table.tagsFor target = .ok tags) {channel : Channel}
    (admits : Admits channels direction tags payload slot channel) :
    table.chosen channels direction target payload rejected slot =
      .done (.ok (channel, slot.data)) slot := by
  obtain ⟨block, known⟩ := known
  cases selected : channels.select table direction target payload with
  | error error =>
    have none := (Channels.select_none points selected).2 _ admits.aimed
    rw [admits.finds] at none
    cases none
  | ok found =>
    have lookup : found.lookup slot.tag = _ := Channels.select_lookup points selected
    rw [if_pos admits.aimed, admits.finds] at lookup
    simp [chosen, selected, activeChannel, peek, known, lookup, admits.full]

/-- Why no channel is chosen: the state is not active, or there is none. -/
inductive TurnsDown (target : Designator) (rejected : Value) : Error → Prop where
  | inactive : TurnsDown target rejected (.notActive target.name rejected)
  | undeclared {error : Error} (kind : error.kind = .channelNotDeclaredError) :
      TurnsDown target rejected error

/-- In every other case the call is rejected. -/
theorem chosen_turned (rejected : Value) (points : table.tagsFor target = .ok tags)
    (missed : ∀ channel, ¬ Admits channels direction tags payload slot channel) :
    ∃ error, TurnsDown target rejected error ∧
      table.chosen channels direction target payload rejected slot =
        .done (.error (.error error)) slot := by
  obtain ⟨block, known⟩ := known
  cases selected : channels.select table direction target payload with
  | error error =>
    refine ⟨error, .undeclared (Channels.select_none points selected).1, ?_⟩
    simp [chosen, selected]
  | ok found =>
    refine ⟨_, .inactive, ?_⟩
    have lookup : found.lookup slot.tag = _ := Channels.select_lookup points selected
    cases active : found.lookup slot.tag with
    | none => simp [chosen, selected, activeChannel, peek, known, active]
    | some channel =>
      rw [active] at lookup
      split at lookup
      · rename_i aimed
        have empty : slot.data.isNull = true := by
          cases full : slot.data.isNull with
          | true => rfl
          | false => exact absurd ⟨aimed, lookup.symm, full⟩ (missed channel)
        simp [chosen, selected, activeChannel, peek, known, active, empty]
      · cases lookup

omit known

/-- What points out no state points out no channel. -/
theorem chosen_denied {machine : String}
    (denied : table.tagsFor target = .error (.notAState target machine)) :
    table.chosen channels direction target payload rejected slot =
      .done (.error (.error (.noTarget target machine))) slot := by
  simp [chosen, Channels.select_denied denied]

/-! ## 4. Resolving -/

/-- Calls take the designator for the states with these tags, and what they do depends on nothing
    but the tags; at most the words of a refusal repeat the designator. -/
structure Resolves (table : Table) (target : Designator) (tags : List String) : Prop where
  /-- The machine is in a state that is pointed out if its tag is among them. -/
  looks : ∀ channels slot, (Call.isState target).operation table channels slot =
    .done (.ok (.truth (tags.contains slot.tag))) slot
  /-- A message is delivered to the active state, if that is pointed out and has a channel. -/
  pushes : ∀ channels message slot, table.Knows slot.tag →
    (∀ channel, Admits channels .push tags (.cls message.kind) slot channel →
      channel.tag = slot.tag ∧
      table.pushed channels target message slot =
        table.delivered channel slot.data message slot) ∧
    ((∀ channel, ¬ Admits channels .push tags (.cls message.kind) slot channel) →
      ∃ error, TurnsDown target message error ∧
        table.pushed channels target message slot = .done (.error (.error error)) slot)
  /-- A message is fetched likewise. -/
  polls : ∀ channels payload slot, table.Knows slot.tag →
    (∀ channel, Admits channels .poll tags payload slot channel →
      channel.tag = slot.tag ∧
      table.polled channels target payload slot = table.fetched channel slot.data slot) ∧
    ((∀ channel, ¬ Admits channels .poll tags payload slot channel) →
      ∃ error, TurnsDown target .null error ∧
        table.polled channels target payload slot = .done (.error (.error error)) slot)

/-- All calls refuse the designator because it points out no state. -/
structure Denies (table : Table) (target : Designator) : Prop where
  looks : ∀ channels slot, (Call.isState target).operation table channels slot =
    .done (.error (.error (.notAState target table.name))) slot
  pushes : ∀ channels message slot, table.pushed channels target message slot =
    .done (.error (.error (.noTarget target table.name))) slot
  polls : ∀ channels payload slot, table.polled channels target payload slot =
    .done (.error (.error (.noTarget target table.name))) slot

theorem resolves_of_tagsFor (points : table.tagsFor target = .ok tags) :
    table.Resolves target tags where
  looks channels slot := by
    simp only [Call.operation, isState, points]
    rfl
  pushes channels message slot known := by
    refine ⟨fun channel admits => ⟨Channels.find_tag admits.finds, ?_⟩, fun missed => ?_⟩
    · rw [pushed_eq, bind_apply, chosen_admitted known points admits, andThen_ok]
    · obtain ⟨error, turns, turned⟩ := chosen_turned known message points missed
      refine ⟨error, turns, ?_⟩
      rw [pushed_eq, bind_apply, turned, andThen_error]
  polls channels payload slot known := by
    refine ⟨fun channel admits => ⟨Channels.find_tag admits.finds, ?_⟩, fun missed => ?_⟩
    · rw [polled_eq, bind_apply, chosen_admitted known points admits, andThen_ok]
    · obtain ⟨error, turns, turned⟩ := chosen_turned known .null points missed
      refine ⟨error, turns, ?_⟩
      rw [polled_eq, bind_apply, turned, andThen_error]

theorem denies_of_tagsFor
    (denied : table.tagsFor target = .error (.notAState target table.name)) :
    table.Denies target where
  looks channels slot := by
    simp only [Call.operation, isState, denied]
    rfl
  pushes channels message slot := by
    rw [pushed_eq, bind_apply, chosen_denied denied, andThen_error]
  polls channels payload slot := by
    rw [polled_eq, bind_apply, chosen_denied denied, andThen_error]

/-! ## 5. Main theorem -/

namespace Sound

variable (sound : table.Sound)
include sound

theorem knows_of_declared {state : State} (declared : state ∈ table.machine.states) :
    table.Knows state.tag :=
  sound.block?_of_mem declared

theorem mem_tagsOf_iff {kind : Class} {tag : String} : tag ∈ table.tagsOf kind ↔
    ∃ block, table.block? tag = some block ∧ block.kind.same kind = true := by
  rw [tagsOf, List.mem_map]
  constructor
  · rintro ⟨block, mem, rfl⟩
    obtain ⟨mem, same⟩ := List.mem_filter.mp mem
    exact ⟨block, sound.block?_of_tag mem, same⟩
  · rintro ⟨block, found, same⟩
    exact ⟨block, List.mem_filter.mpr ⟨mem_of_block? found, same⟩, tag_of_block? found⟩

theorem tagsOf_nodup {kind : Class} : (table.tagsOf kind).Nodup := by
  have distinct := sound.closed.distinct
  rw [← sound.states, List.map_map] at distinct
  exact distinct.sublist (List.filter_sublist.map _)

end Sound

/-- A state is designated by its tag, and by every text that is read as its declared type and is not
    the tag of another state. A class designates the states bound to it. A class that no state is
    bound to, and a text that is no tag and is read as a type name without one, are denied. -/
theorem designators_resolve (compiled : table.Compiled) :
    (∀ state ∈ table.machine.states,
      table.Resolves (.text state.tag) [state.tag] ∧
      (∀ text reference, Reference.ofText text = .ok reference →
        reference.type = state.reference.type → (table.Knows text → text = state.tag) →
        table.Resolves (.text text) [state.tag]) ∧
      (state.reference.WasRead → (table.Knows state.text → state.text = state.tag) →
        table.Resolves (.text state.text) [state.tag])) ∧
    (∀ kind,
      (∃ tags, tags.Nodup ∧ (∀ tag, tag ∈ tags ↔
        ∃ block, table.block? tag = some block ∧ block.kind.same kind = true) ∧
        table.Resolves (.cls kind) tags) ∨
      (∀ block ∈ table.blocks, block.kind.same kind = false) ∧ table.Denies (.cls kind)) ∧
    ∀ text reference, Reference.ofText text = .ok reference → ¬ table.Knows text →
      ¬ table.Knows reference.tag → table.Denies (.text text) := by
  have sound := compiled.sound
  have spelled : ∀ state ∈ table.machine.states, ∀ text reference,
      Reference.ofText text = .ok reference → reference.type = state.reference.type →
      (table.Knows text → text = state.tag) → table.Resolves (.text text) [state.tag] := by
    intro state declared text reference read same own
    have known := sound.knows_of_declared declared
    have tag : reference.tag = state.tag := congrArg TypeName.tag same
    by_cases isTag : table.Knows text
    · rw [own isTag]
      exact resolves_of_tagsFor (tagsFor_tag known)
    · exact resolves_of_tagsFor (tag ▸ tagsFor_read read isTag (tag ▸ known))
  refine ⟨fun state declared => ⟨?_, spelled state declared, fun wasRead own => ?_⟩,
    fun kind => ?_, fun text reference read other unknown =>
      denies_of_tagsFor (tagsFor_unread read other unknown)⟩
  · exact resolves_of_tagsFor (tagsFor_tag (sound.knows_of_declared declared))
  · obtain ⟨again, read, same⟩ := wasRead.reads_again
    exact spelled state declared _ again read same own
  · by_cases unbound : table.tagsOf kind = []
    · refine .inr ⟨fun block mem => ?_, denies_of_tagsFor (tagsFor_unbound unbound)⟩
      rw [tagsOf, List.map_eq_nil_iff, List.filter_eq_nil_iff] at unbound
      simpa using unbound block mem
    · exact .inl ⟨_, sound.tagsOf_nodup, fun _ => sound.mem_tagsOf_iff,
        resolves_of_tagsFor (tagsFor_cls unbound)⟩

/-- A lamp whose states have awkward names: `Off`, `OffState` and `On<Dim>`. -/
def dimmer : Table :=
  let off : State := ⟨Lamp.state "Off", []⟩
  let spare : State := ⟨Lamp.state "OffState", []⟩
  let dim : State := ⟨⟨⟨"On", ["Dim"]⟩, Lamp.span⟩, []⟩
  ⟨⟨"Lamp", off, [off, spare, dim], [], none⟩, ⟨false, false, false⟩,
    [⟨off, Lamp.off, ⟨true, true, true⟩, []⟩, ⟨spare, Lamp.off, ⟨true, true, true⟩, []⟩,
      ⟨dim, Lamp.on, ⟨true, true, true⟩, []⟩], none, true⟩

theorem dimmer_compiled : dimmer.Compiled :=
  ⟨⟨"Lamp", Lamp.state "Off",
      [Lamp.state "Off", Lamp.state "OffState", ⟨⟨"On", ["Dim"]⟩, Lamp.span⟩], [], none, Lamp.span⟩,
    dimmer.machine,
    Bindings.empty [("Off", .cls Lamp.off), ("OffState", .cls Lamp.off), ("On", .cls Lamp.on)],
    dimmer.flags, true, rfl, rfl⟩

/-- The state `On<Dim>` in another spelling, and a name that has no tag. -/
theorem designators_resolve_dimmer :
    dimmer.Resolves (.text "On < Dim >") ["OnDimState"] ∧ dimmer.Denies (.text "Dim") := by
  have read : Reference.ofText "On < Dim >" = .ok ⟨⟨"On", ["Dim"]⟩, ⟨⟨0, 1, 1⟩, 2⟩⟩ :=
    eq_ok_of_toOption (by decide +kernel)
  have read' : Reference.ofText "Dim" = .ok ⟨⟨"Dim", []⟩, ⟨⟨0, 1, 1⟩, 3⟩⟩ :=
    eq_ok_of_toOption (by decide +kernel)
  have law := designators_resolve dimmer_compiled
  have dim := law.1 ⟨⟨⟨"On", ["Dim"]⟩, Lamp.span⟩, []⟩ (by decide)
  refine ⟨dim.2.1 _ _ read rfl ?_, law.2.2 _ _ read' ?_ ?_⟩
  · rintro ⟨_, ⟨⟩⟩
  · rintro ⟨_, ⟨⟩⟩
  · rintro ⟨_, ⟨⟩⟩

/-- The type text of `OffState` resolves to `Off`, and `OnDim`, which is not a state, to `On<Dim>`.
    -/
theorem designator_resolves_wrongly :
    dimmer.Compiled ∧
    (∃ state ∈ dimmer.machine.states, ∃ reference, Reference.ofText "OffState" = .ok reference ∧
      reference.type = state.reference.type ∧
      ¬ dimmer.Resolves (.text "OffState") [state.tag]) ∧
    ∃ reference, Reference.ofText "OnDim" = .ok reference ∧
      (∀ state ∈ dimmer.machine.states, reference.type ≠ state.reference.type) ∧
      ¬ dimmer.Denies (.text "OnDim") := by
  have read : Reference.ofText "OffState" = .ok ⟨⟨"OffState", []⟩, ⟨⟨0, 1, 1⟩, 8⟩⟩ :=
    eq_ok_of_toOption (by decide +kernel)
  have read' : Reference.ofText "OnDim" = .ok ⟨⟨"OnDim", []⟩, ⟨⟨0, 1, 1⟩, 5⟩⟩ :=
    eq_ok_of_toOption (by decide +kernel)
  have off : dimmer.Resolves (.text "OffState") ["OffState"] :=
    resolves_of_tagsFor (tagsFor_tag ⟨_, rfl⟩)
  have dim : dimmer.Resolves (.text "OnDim") ["OnDimState"] :=
    resolves_of_tagsFor (tagsFor_read read' (by rintro ⟨_, ⟨⟩⟩) ⟨_, rfl⟩)
  refine ⟨dimmer_compiled, ⟨⟨Lamp.state "OffState", []⟩, by decide, _, read, rfl, fun spare => ?_⟩,
    _, read', by decide, fun denies => ?_⟩
  · -- a machine in the second state is not where its own text points
    have same := (off.looks none (.halted "OffStateState")).symm.trans
      (spare.looks none (.halted "OffStateState"))
    simp [Slot.halted, State.tag, Reference.tag, TypeName.tag, Lamp.state] at same
    revert same
    decide
  · cases (dim.looks none (.halted "OnDimState")).symm.trans
      (denies.looks none (.halted "OnDimState"))

end Table

end MachineSpec
