/-
MachineSpec.Proofs.Inactivity — when a message fails because a state is not active.

A message is rejected for one of two reasons: no channel carries it, or its target is not
active. The first reason is given if none of the designated states has a channel for the
payload. So a class that is bound to the active state and to another one can be rejected as
inactive: the active state is designated and has no channel, and the other one has
(`Treated.misled`).

* `Table.message_to_active_state`: a message to the active state goes through a channel of
  that state if there is one for the payload. If no designated state has one, it is rejected
  as undeclared. It is rejected as inactive only in the case above; a tag or a type text
  that designates the active state is never rejected so.
* `Table.active_state_denied_as_inactive`: a run with this case.
-/
import MachineSpec.Proofs.Routing

namespace MachineSpec

/-! ## 1. Channels for a payload -/

/-- The channel is for the payload, which is pointed out by the text it was declared by or by a
    class, its own or one that extends it. -/
def Channel.Suits (channel : Channel) : Designator → Prop
  | .text name => channel.message.payload.text = name
  | .cls kind => kind.inherits channel.kind = true

namespace Channels

variable {along : List Channel} {tag : String} {payload : Designator}

/-- Among the channels is one for the payload at the state with the tag. -/
def Serves (has : Channel → Prop) (payload : Designator) (tag : String) : Prop :=
  ∃ channel, has channel ∧ channel.tag = tag ∧ channel.Suits payload

theorem inherits_iff {kind other : Class} :
    kind.inherits other = true ↔ ∃ layer ∈ kind.lineage, layer.id = other.id := by
  simp [Class.inherits]

/-- A channel that is found is one for the payload. -/
theorem suits_of_find {channel : Channel} (found : find along tag payload = some channel) :
    channel ∈ along ∧ channel.tag = tag ∧ channel.Suits payload := by
  cases payload with
  | text name =>
    have fits := List.find?_some found
    simp only [Bool.and_eq_true, beq_iff_eq] at fits
    exact ⟨List.mem_of_find?_eq_some found, fits⟩
  | cls kind =>
    obtain ⟨before, layer, after, split, found, -⟩ := List.findSome?_eq_some_iff.mp found
    obtain ⟨here, same⟩ := fits_of_ofKind found
    refine ⟨List.mem_of_find?_eq_some found, here, inherits_iff.mpr ⟨layer, ?_, same.symm⟩⟩
    simp [split]

/-- One is found wherever there is one. -/
theorem find_eq_none_iff :
    find along tag payload = none ↔ ¬ Serves (· ∈ along) payload tag := by
  constructor
  · rintro none ⟨channel, mem, here, suits⟩
    cases payload with
    | text name =>
      have miss := List.find?_eq_none.mp none channel mem
      have named : channel.message.payload.text = name := suits
      exact miss (by simp [here, named])
    | cls kind =>
      obtain ⟨layer, line, same⟩ := inherits_iff.mp suits
      have miss := List.findSome?_eq_none_iff.mp none layer line
      exact ofKind_none_iff.mp miss channel mem here same.symm
  · intro unserved
    cases found : find along tag payload with
    | none => rfl
    | some channel => exact absurd ⟨channel, suits_of_find found⟩ unserved

end Channels

namespace Table

open Operation Dialogue Channels

variable {table : Table} {channels : Channels} {bindings : Bindings} {messages : Messages}
  {direction : Direction} {target payload : Designator} {rejected : Value} {slot final : Slot}
  {course : Course} {tags : List String} {tag : String}

/-! ## 2. States that are pointed out -/

/-- The designator points out the state with the tag, perhaps among others. -/
def Points (table : Table) (target : Designator) (tag : String) : Prop :=
  ∃ tags, table.tagsFor target = .ok tags ∧ tag ∈ tags

/-- That is what a machine in this state is asked by the designator. -/
theorem isState_iff : table.isState slot target = .ok true ↔ table.Points target slot.tag := by
  unfold isState Points
  cases table.tagsFor target with
  | error error => exact iff_of_false nofun (by rintro ⟨_, ⟨⟩, _⟩)
  | ok tags =>
    show Except.ok (tags.contains slot.tag) = .ok true ↔ _
    simp

theorem mem_of_points (points : table.tagsFor target = .ok tags) :
    tag ∈ tags ↔ table.Points target tag := by
  constructor
  · exact fun mem => ⟨tags, points, mem⟩
  · rintro ⟨_, same, mem⟩
    cases points.symm.trans same
    exact mem

/-- A text points out one state at most. -/
theorem points_text {name other : String} (points : table.Points (.text name) tag)
    (points' : table.Points (.text name) other) : tag = other := by
  obtain ⟨tags, resolved, mem⟩ := points
  rw [← mem_of_points resolved] at points'
  have one : ∃ only, tags = [only] := by
    by_cases known : table.Knows name
    · cases (tagsFor_tag known).symm.trans resolved
      exact ⟨_, rfl⟩
    · cases read : Reference.ofText name with
      | error error => simp [tagsFor, designated, block?_of_unknown known, read] at resolved
      | ok reference =>
        by_cases known' : table.Knows reference.tag
        · cases (tagsFor_read read known known').symm.trans resolved
          exact ⟨_, rfl⟩
        · cases (tagsFor_unread read known known').symm.trans resolved
  obtain ⟨only, rfl⟩ := one
  rw [List.mem_singleton.mp mem, List.mem_singleton.mp points']

/-- A class points out the states that are bound to it. -/
theorem Sound.points_cls (sound : table.Sound) {kind : Class}
    (points : table.Points (.cls kind) tag) :
    ∃ block, table.block? tag = some block ∧ block.kind.same kind = true := by
  obtain ⟨tags, resolved, mem⟩ := points
  by_cases unbound : table.tagsOf kind = []
  · rw [tagsFor_unbound unbound] at resolved
    cases resolved
  · rw [tagsFor_cls unbound] at resolved
    cases resolved
    exact sound.mem_tagsOf_iff.mp mem

/-! ## 3. Turning down -/

/-- No channel is selected if no state that is pointed out has one. -/
theorem chosen_undeclared (points : table.tagsFor target = .ok tags)
    (none : ∀ tag ∈ tags, find (channels.along direction) tag payload = none) :
    table.chosen channels direction target payload rejected slot =
      .done (.error (.error (.noChannel table.name direction payload.name target.name))) slot := by
  have nothing : tags.filterMap (fun tag => (find (channels.along direction) tag payload).map
      fun channel => (tag, channel)) = [] := by
    rw [List.filterMap_eq_nil_iff]
    intro tag mem
    rw [none tag mem, Option.map_none]
  simp [chosen, select, points, nothing]

/-- If another state has one, the active state is taken for inactive. -/
theorem chosen_misled (known : table.Knows slot.tag) (points : table.tagsFor target = .ok tags)
    (lacks : find (channels.along direction) slot.tag payload = none) {other : String}
    (mem : other ∈ tags) (serves : find (channels.along direction) other payload ≠ none) :
    table.chosen channels direction target payload rejected slot =
      .done (.error (.error (.notActive target.name rejected))) slot := by
  obtain ⟨block, known⟩ := known
  cases selected : channels.select table direction target payload with
  | error error => exact absurd ((select_none points selected).2 other mem) serves
  | ok found =>
    -- a channel was selected, but it is that of the other state
    have lookup : found.lookup slot.tag = none := by
      rw [select_lookup points selected, lacks, ite_self]
    simp [chosen, selected, activeChannel, peek, known, lookup]

/-! ## 4. Main theorem -/

/-- How a message to the active state is treated, given what is done with it through a channel. -/
inductive Treated (table : Table) (has : Channel → Prop) (direction : Direction)
    (target payload : Designator) (rejected : Value) (active : String)
    (deals : Channel → Course → Except Failure Reply → Prop) :
    Course → Except Failure Reply → Prop where
  /-- It goes through a channel of the active state. -/
  | served {channel : Channel} {course : Course} {outcome : Except Failure Reply}
      (here : has channel) (at_ : channel.tag = active) (suits : channel.Suits payload)
      (done : deals channel course outcome) :
      Treated table has direction target payload rejected active deals course outcome
  /-- No designated state has a channel for it, and it is rejected as undeclared. -/
  | undeclared (unserved : ∀ tag, table.Points target tag → ¬ Serves has payload tag) :
      Treated table has direction target payload rejected active deals []
        (.error (.error (.noChannel table.name direction payload.name target.name)))
  /-- The active state has none and another designated state has one: it is rejected as inactive. -/
  | misled {other : String} (lacks : ¬ Serves has payload active)
      (points : table.Points target other) (serves : Serves has payload other) :
      Treated table has direction target payload rejected active deals []
        (.error (.error (.notActive target.name rejected)))

/-- What follows the choice of a channel is done with one of the active state, or the message is
    rejected without a request. -/
theorem chosen_treated {α : Type} {next : Channel × Value → Operation α} {reply : α → Reply}
    {deals : Channel → Course → Except Failure Reply → Prop}
    (known : table.Knows slot.tag) (full : slot.data.isNull = false)
    (active : table.Points target slot.tag)
    (dealt : ∀ channel course result final, Plays (next (channel, slot.data) slot) course result final →
      final = slot ∧ deals channel course (result.map reply))
    {result : Except Failure α}
    (plays : Plays ((table.chosen channels direction target payload rejected >>= next) slot)
      course result final) :
    final = slot ∧ table.Treated (· ∈ channels.along direction) direction target payload rejected
      slot.tag deals course (result.map reply) := by
  obtain ⟨tags, points, aimed⟩ := active
  rw [bind_apply] at plays
  cases found : find (channels.along direction) slot.tag payload with
  | some channel =>
    rw [chosen_admitted known points ⟨aimed, found, full⟩, andThen_ok] at plays
    obtain ⟨same, done⟩ := dealt channel _ _ _ plays
    obtain ⟨mem, here, suits⟩ := suits_of_find found
    exact ⟨same, .served mem here suits done⟩
  | none =>
    by_cases others : ∀ tag ∈ tags, find (channels.along direction) tag payload = none
    · rw [chosen_undeclared points others, andThen_error] at plays
      obtain ⟨rfl, rfl, rfl⟩ := plays_done_iff.mp plays
      refine ⟨rfl, .undeclared fun tag pointed => ?_⟩
      exact find_eq_none_iff.mp (others tag ((mem_of_points points).mpr pointed))
    · simp only [Classical.not_forall] at others
      obtain ⟨other, mem, serves⟩ := others
      rw [chosen_misled known points found mem serves, andThen_error] at plays
      obtain ⟨rfl, rfl, rfl⟩ := plays_done_iff.mp plays
      refine ⟨rfl, .misled (find_eq_none_iff.mp found) ⟨tags, points, mem⟩ ?_⟩
      exact Classical.not_not.mp fun unserved => serves (find_eq_none_iff.mpr unserved)

/-- A message to the active state, with data in the slot, does not change the slot and goes through
    a channel of that state if there is one for it. It is rejected as inactive only if the active
    state has no such channel, the designator is a class, and another state bound to the class has
    one. -/
theorem message_to_active_state (compiled : table.Compiled)
    (attached : Channels.ofMessages bindings table messages = .ok channels)
    (reachable : table.Reachable slot) (settled : slot.pending = false)
    (full : slot.data.isNull = false) (active : table.isState slot target = .ok true) :
    (∀ message course outcome final,
      Event.Occurs ⟨.push target message, some channels, course, outcome⟩ table slot final →
      final = slot ∧ table.Treated (Declared bindings messages.messages .push) .push target
        (.cls message.kind) message slot.tag (table.Delivers · slot.data message) course outcome) ∧
    (∀ payload course outcome final,
      Event.Occurs ⟨.poll target payload, some channels, course, outcome⟩ table slot final →
      final = slot ∧ table.Treated (Declared bindings messages.messages .poll) .poll target
        payload .null slot.tag (table.Fetches · slot.data) course outcome) ∧
    ∀ other, table.Points target other → other ≠ slot.tag → ∃ kind, target = .cls kind ∧
      (∃ block, table.block? slot.tag = some block ∧ block.kind.same kind = true) ∧
      ∃ block, table.block? other = some block ∧ block.kind.same kind = true := by
  have sound := compiled.sound
  obtain ⟨given, initial, events, created, history⟩ := reachable
  have known := (history.condition sound created).knows sound
  have pointed := isState_iff.mp active
  have same (direction : Direction) :
      (· ∈ channels.along direction) = Declared bindings messages.messages direction :=
    funext fun _ => propext (along_iff attached)
  refine ⟨fun message course outcome final occurs => ?_,
    fun payload course outcome final occurs => ?_, fun other points elsewhere => ?_⟩
  · obtain ⟨result, plays, rfl⟩ := plays_map_iff.mp occurs
    rw [push_some, enterPending_bind settled, pushed_eq] at plays
    rw [← same .push]
    exact chosen_treated known full pointed (fun _ _ _ _ => delivers_of_plays) plays
  · obtain ⟨result, plays, rfl⟩ := plays_map_iff.mp occurs
    rw [poll_some, enterPending_bind settled, polled_eq] at plays
    rw [← same .poll]
    exact chosen_treated known full pointed (fun _ _ _ _ => fetches_of_plays) plays
  · cases target with
    | text name => exact absurd (points_text points pointed) elsewhere
    | cls kind => exact ⟨kind, rfl, sound.points_cls pointed, sound.points_cls points⟩

/-! ## 5. A lamp of two degrees

The dim lamp and the full one are of the same class, and only the full one takes notice of power. -/

def dimState : State := ⟨⟨⟨"On", ["Dim"]⟩, Lamp.span⟩, []⟩
def fullState : State := ⟨⟨⟨"On", ["Full"]⟩, Lamp.span⟩, []⟩

def graded : Table :=
  ⟨⟨"Lamp", dimState, [dimState, fullState], [], none⟩, ⟨false, false, false⟩,
    [⟨dimState, Lamp.on, ⟨true, true, true⟩, []⟩, ⟨fullState, Lamp.on, ⟨true, true, true⟩, []⟩],
    none, true⟩

theorem graded_compiled : graded.Compiled :=
  ⟨⟨"Lamp", dimState.reference, [dimState.reference, fullState.reference], [], none, Lamp.span⟩,
    graded.machine, Bindings.empty [("On", .cls Lamp.on)], graded.flags, true, rfl, rfl⟩

def gradedMessage : Message := ⟨Lamp.state "Power", .push, fullState.reference, Lamp.span⟩

def gradedBindings : Bindings :=
  { Bindings.empty [("Power", .cls power)] with
    receivers := [((fullState.tag, "Power"), .routine 0)] }

def gradedChannels : Channels := ⟨[⟨gradedMessage, power, .callback (.routine 0)⟩], []⟩

def dimSlot : Slot := .holding ⟨dimState.tag, .object 0 Lamp.on⟩

theorem dimSlot_reachable : graded.Reachable dimSlot := by
  have created : graded.create .null = .ok (.fresh graded) := rfl
  have starts : Event.Occurs ⟨.start (.object 0 Lamp.on), none,
      [(.hook .entry dimState.tag true (.object 0 Lamp.on), .ok .null),
       (graded.startLine, .ok .null)], .ok .nothing⟩ graded (.fresh graded) dimSlot :=
    .ask (.ask (.done _ _))
  exact ⟨_, _, _, created, .snoc .nil starts⟩

/-- Designated by its tag, the same state rejects the message as undeclared. -/
theorem message_to_active_state_graded :
    graded.isState dimSlot (.text dimState.tag) = .ok true ∧
      graded.Treated (Declared gradedBindings [gradedMessage] .push) .push (.text dimState.tag)
        (.cls power) (.object 1 power) dimState.tag
        (graded.Delivers · (.object 0 Lamp.on) (.object 1 power)) []
        (.error (.error (.noChannel "Lamp" .push "Power" "OnDimState"))) := by
  have attached : Channels.ofMessages gradedBindings graded ⟨"Lamp", [gradedMessage]⟩ =
      .ok gradedChannels := rfl
  have active : graded.isState dimSlot (.text dimState.tag) = .ok true := rfl
  have law := message_to_active_state graded_compiled attached dimSlot_reachable rfl rfl active
  exact ⟨active, (law.1 (.object 1 power) _ _ dimSlot (.done _ _)).2⟩

/-- `isState` answers true for the class of the active state `On<Dim>`, and a message pushed to this
    class fails because the state is not active: only `On<Full>`, bound to the same class, has a
    channel. -/
theorem active_state_denied_as_inactive :
    graded.Compiled ∧
    Channels.ofMessages gradedBindings graded ⟨"Lamp", [gradedMessage]⟩ = .ok gradedChannels ∧
    graded.Reachable dimSlot ∧ dimSlot.pending = false ∧ dimSlot.data.isNull = false ∧
    graded.isState dimSlot (.cls Lamp.on) = .ok true ∧
    Event.Occurs ⟨.push (.cls Lamp.on) (.object 1 power), some gradedChannels, [],
      .error (.error (.notActive "On" (.object 1 power)))⟩ graded dimSlot dimSlot :=
  ⟨graded_compiled, rfl, dimSlot_reachable, rfl, rfl, rfl, .done _ _⟩

end Table

end MachineSpec
