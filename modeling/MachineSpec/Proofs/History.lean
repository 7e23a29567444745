/-
MachineSpec.Proofs.History — the invariant of a machine over its history.

A history is a finite sequence of calls on a machine, each with its course and its outcome.
Callbacks may return or raise anything, calls may fail, and the sequence goes on after a
failure. The slot is changed by these calls only.

`Condition` is the invariant. It holds of a new machine, and one lemma on passages carries
it from call to call. `Table.history_coherent` restates it for the four fields of the slot.
-/
import MachineSpec.Proofs.Calls

namespace MachineSpec

/-! ## 1. Histories -/

/-- A call that was made, with its course and its outcome. The channels are those that the class of
    the machine had at the time. -/
structure Event where
  call : Call
  channels : Option Channels
  course : Course
  outcome : Except Failure Reply

/-- The event takes a machine from one slot to another. -/
def Event.Occurs (event : Event) (table : Table) (slot final : Slot) : Prop :=
  Dialogue.Plays (event.call.operation table event.channels slot) event.course event.outcome final

namespace Table

variable {table : Table} {given : Value} {channels : Option Channels} {slot final : Slot}

/-- The events that take a machine from one slot to another, the last one last. -/
inductive History (table : Table) (first : Slot) : List Event → Slot → Prop where
  | nil : History table first [] first
  | snoc {events : List Event} {event : Event} {slot final : Slot}
      (history : History table first events slot) (occurs : event.Occurs table slot final) :
      History table first (events ++ [event]) final

/-- The slots of machines that were created with some data or with none. -/
def Reachable (table : Table) (slot : Slot) : Prop :=
  ∃ given initial events, table.create given = .ok initial ∧ table.History initial events slot

/-! ## 2. The invariant -/

theorem condition_landing {tag : String} (known : table.Knows tag)
    {result : Except Failure Entry} (landed : ∀ entry, result = .ok entry → table.Knows entry.tag) :
    table.Condition given (.landing tag result) := by
  cases result with
  | ok entry => exact condition_holding (landed entry rfl)
  | error failure => exact .halted tag known

/-- A passage leads from condition to condition. -/
theorem Passage.condition (sound : table.Sound) {call : Call} {course : Course}
    {outcome : Except Failure Reply}
    (passage : table.Passage channels given slot call course outcome final)
    (before : table.Condition given slot) : table.Condition given final := by
  induction passage with
  | refused | quiet => exact before
  | reset | stopHalted | stopped => exact .fresh
  | startFailed initial | entryFailed _ initial => exact .halted _ ⟨_, initial⟩
  | started _ initial enters | stepRedirected initial enters =>
    have kept := (enter_keeps sound (mem_of_block? initial)).plays enters
    exact condition_holding (kept.2.1 _ rfl)
  | stepped known _ runs =>
    have kept := (run_keeps sound (mem_of_block? known)).plays runs
    exact condition_landing ⟨_, known⟩ kept.2.1
  | stopUnreported => exact .halted _ (before.knows sound)
  | stopFailed _ known => exact .halted _ ⟨_, known⟩
  | resumed _ initial enters _ _ _ ih =>
    have kept := (enter_keeps sound (mem_of_block? initial)).plays enters
    exact ih (condition_holding (kept.2.1 _ rfl))

theorem checkInitial_error (sound : table.Sound) {data : Value} {error : Error}
    (h : table.checkInitial data = .error error) : error.declines = true := by
  obtain ⟨block, initial⟩ := sound.initial_block
  unfold checkInitial at h
  rw [initial] at h
  dsimp only at h
  split at h <;> cases h
  rfl

/-- No passage fails because of a look-up that missed. -/
theorem Passage.found (sound : table.Sound) {call : Call} {course : Course}
    {outcome : Except Failure Reply}
    (passage : table.Passage channels given slot call course outcome final) {failure : Failure}
    (failed : outcome = .error failure) : failure.Found := by
  induction passage with
  | refused why =>
    cases failed
    cases why with
    | unfit unfit => exact .declined (checkInitial_error sound unfit)
    | _ => exact .error nofun
  | quiet _ _ found => exact found failure failed
  | reset | stopped | stepRedirected => cases failed
  | stopHalted => cases failed; exact .error nofun
  | startFailed initial enters | entryFailed _ initial enters =>
    cases failed
    exact ((enter_keeps sound (mem_of_block? initial)).plays enters).2.2 _ rfl
  | started answer =>
    cases answer with
    | ok value => cases failed
    | error exception => cases failed; exact .raised exception
  | @stepped _ _ _ result known _ runs =>
    cases result with
    | ok entry => cases failed
    | error failure =>
      cases failed
      exact ((run_keeps sound (mem_of_block? known)).plays runs).2.2 _ rfl
  | stopUnreported exception => cases failed; exact .raised exception
  | stopFailed _ known _ retires =>
    cases failed
    exact ((retire_keeps sound (mem_of_block? known)).plays retires).2.2 _ rfl
  | resumed _ _ _ _ _ _ ih => exact ih failed

/-! ## 3. The invariant along histories -/

theorem History.condition (sound : table.Sound) {initial : Slot} {events : List Event}
    (created : table.create given = .ok initial) (history : table.History initial events slot) :
    table.Condition given slot := by
  induction history with
  | nil => exact create_condition created
  | snoc _ occurs ih => exact (passage sound ih occurs).condition sound ih

theorem History.found (sound : table.Sound) {initial : Slot} {events : List Event}
    (created : table.create given = .ok initial) (history : table.History initial events slot) :
    ∀ event ∈ events, ∀ failure, event.outcome = .error failure → failure.Found := by
  induction history with
  | nil => simp
  | snoc before occurs ih =>
    intro event hevent failure failed
    rcases List.mem_append.mp hevent with hbefore | hlast
    · exact ih event hbefore failure failed
    · rw [List.mem_singleton.mp hlast] at failed
      exact (passage sound (before.condition sound created) occurs).found sound failed

/-- What holds between calls of a machine that was created with the given data or with none. -/
structure Coherent (table : Table) (given : Value) (slot : Slot) : Prop where
  /-- A machine that does not run is in its initial condition. -/
  idle : slot.running = false → slot = .fresh table
  /-- A pending entry is that of the very data that the machine was created with. -/
  waiting : slot.pending = true → slot.running = true ∧ slot.tag = table.machine.initial.tag ∧
    slot.data = given ∧ given.isNull = false ∧
    ∃ block, table.block? table.machine.initial.tag = some block ∧ given.isA block.kind = true
  /-- The tag is that of a declared state, and its block is found. -/
  declared : (∃ state ∈ table.machine.states, state.tag = slot.tag) ∧ table.Knows slot.tag

theorem Condition.coherent (sound : table.Sound) (condition : table.Condition given slot) :
    table.Coherent given slot := by
  have known := condition.knows sound
  have declared : ∃ state ∈ table.machine.states, state.tag = slot.tag := by
    obtain ⟨block, hblock⟩ := known
    exact ⟨block.state, sound.state_mem (mem_of_block? hblock), tag_of_block? hblock⟩
  cases condition with
  | fresh => exact ⟨fun _ => rfl, nofun, declared, known⟩
  | seeded block initial full fits =>
    exact ⟨nofun, fun _ => ⟨rfl, rfl, rfl, full, block, initial, fits⟩, declared, known⟩
  | holding | halted => exact ⟨nofun, nofun, declared, known⟩

/-- After every history of a compiled machine the slot is coherent, and no call of it failed because
    the block of a tag was missing. -/
theorem history_coherent (compiled : table.Compiled) {initial : Slot} {events : List Event}
    (created : table.create given = .ok initial) (history : table.History initial events slot) :
    table.Coherent given slot ∧ ∀ event ∈ events, ∀ tag,
      event.outcome ≠ .error (.error (.noBlock tag)) :=
  ⟨(history.condition compiled.sound created).coherent compiled.sound,
    fun event hevent tag failed => history.found compiled.sound created event hevent _ failed tag rfl⟩

/-- The lamp was created with data; in its first step the entry fails, and the machine holds data of
    the error state. -/
theorem history_coherent_of_fault :
    Lamp.fallible.create (.object 0 Lamp.off) =
        .ok (.seeded Lamp.fallible (.object 0 Lamp.off)) ∧
      Lamp.fallible.Coherent (.object 0 Lamp.off)
        (.holding ⟨Lamp.brokenBlock.tag, .object 1 Lamp.broken⟩) := by
  have occurs : Event.Occurs ⟨.step, none,
      [(.hook .entry Lamp.offBlock.tag true (.object 0 Lamp.off), .error (.object 2 Lamp.fault)),
       (.report false (traceLine "Lamp" "Enter error state" ""), .ok .null),
       (.convertFailed Lamp.offBlock.tag Lamp.breaking (.object 0 Lamp.off),
        .ok (.object 1 Lamp.broken)),
       (.consume (.object 1 Lamp.broken) (.object 2 Lamp.fault), .ok .null),
       (.hook .entry Lamp.brokenBlock.tag true (.object 1 Lamp.broken), .ok .null)], .ok .nothing⟩
      Lamp.fallible (.seeded Lamp.fallible (.object 0 Lamp.off))
      (.holding ⟨Lamp.brokenBlock.tag, .object 1 Lamp.broken⟩) :=
    .ask (.ask (.ask (.ask (.ask (.done _ _)))))
  exact ⟨rfl, (history_coherent Lamp.fallible_compiled rfl (.snoc .nil occurs)).1⟩

end Table

end MachineSpec
