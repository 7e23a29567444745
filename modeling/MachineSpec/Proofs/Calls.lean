/-
MachineSpec.Proofs.Calls — the calls of a machine, case by case.

A machine has eight calls. `Call` lists them, and `Call.operation` gives their operations. A
`Passage` is a completed call: the slot before, the course, the outcome and the slot after.
Its constructors say what a call can do in each condition of the machine, in terms of
courses of entering, running and leaving data. The theorems on machines go through these
cases.

* `passage`: from a slot in any condition, a course of a call is a passage.

Calls that only read, and calls that carry messages, leave the slot alone and request
nothing but messages, so they are one constructor. A machine with a pending entry makes the
entry first and then continues as any other; this is the only constructor with a passage
inside.
-/
import MachineSpec.Proofs.Lifecycle

namespace MachineSpec

/-! ## 1. Calls -/

/-- A call upon a machine. -/
inductive Call where
  | start (data : Value)
  | step
  | stop
  | reset
  | peek
  | isState (target : Designator)
  | push (target : Designator) (message : Value)
  | poll (target payload : Designator)
deriving Repr

/-- What a call returns. -/
inductive Reply where
  | nothing
  | snapshot (snapshot : Snapshot)
  | truth (truth : Bool)
  | message (message : Value)
deriving Repr

namespace Call

/-- The operation that a call stands for. The channels are those of the machine's class, if it has
    any. -/
def operation (table : Table) (channels : Option Channels) : Call → Operation Reply
  | .start data => (fun _ => .nothing) <$> table.start data
  | .step => (fun _ => .nothing) <$> table.step
  | .stop => .snapshot <$> table.stop
  | .reset => (fun _ => .nothing) <$> table.reset
  | .peek => .snapshot <$> (Operation.slot >>= fun slot => .ofExcept (table.peek slot))
  | .isState target =>
    .truth <$> (Operation.slot >>= fun slot => .ofExcept (table.isState slot target))
  | .push target message => (fun _ => .nothing) <$> table.push channels target message
  | .poll target payload => .message <$> table.poll channels target payload

/-- The calls that make up for a pending entry. -/
inductive Enters : Call → Prop where
  | step : Enters .step
  | stop : Enters .stop
  | push {target : Designator} {message : Value} : Enters (.push target message)
  | poll {target payload : Designator} : Enters (.poll target payload)

/-- The calls that leave the data where it is, once it is entered. -/
inductive Looks : Call → Prop where
  | peek : Looks .peek
  | isState {target : Designator} : Looks (.isState target)
  | push {target : Designator} {message : Value} : Looks (.push target message)
  | poll {target payload : Designator} : Looks (.poll target payload)

end Call

/-- The requests that carry a message or report on it. -/
def Request.Carries : Request → Prop
  | .deliver .. | .produce .. | .report .. => True
  | _ => False

/-! ## 2. Messages -/

namespace Operation

variable {α β : Type}

/-- From the slot, the operation carries messages and does nothing else. -/
def Quiet (operation : Operation α) (kept : Slot) : Prop :=
  operation.Triple (fun past slot => slot = kept ∧ ∀ asked ∈ past, asked.1.Carries)
    (fun _ past slot => slot = kept ∧ ∀ asked ∈ past, asked.1.Carries)
    (fun failure past slot =>
      (slot = kept ∧ ∀ asked ∈ past, asked.1.Carries) ∧ failure.Found)

namespace Quiet

variable {kept : Slot}

theorem pure {a : α} : (Pure.pure a : Operation α).Quiet kept :=
  Triple.pure fun _ _ h => h

theorem bind {operation : Operation α} {next : α → Operation β} (h : operation.Quiet kept)
    (hn : ∀ a, (next a).Quiet kept) : (operation >>= next).Quiet kept :=
  Triple.bind h hn

theorem refuse {error : Error} (h : (Failure.error error).Found) :
    (Operation.refuse error : Operation α).Quiet kept :=
  Triple.refuse fun _ _ hs => ⟨hs, h⟩

theorem ofExcept {result : Except Error α}
    (h : ∀ error, result = .error error → (Failure.error error).Found) :
    (Operation.ofExcept result).Quiet kept := by
  cases result with
  | ok a => exact pure
  | error error => exact refuse (h error rfl)

theorem look {next : Slot → Operation α} (h : (next kept).Quiet kept) :
    (Operation.slot >>= next).Quiet kept :=
  Triple.look fun now past slot course outcome final holds plays => by
    obtain ⟨⟨rfl, silent⟩, rfl⟩ := holds
    exact h ⟨rfl, silent⟩ plays

theorem demand {request : Request} (h : request.Carries) :
    (Operation.demand request).Quiet kept := by
  have carried : ∀ {past : Course} {answer : Answer}, (∀ asked ∈ past, asked.1.Carries) →
      ∀ asked ∈ past ++ [(request, answer)], asked.1.Carries := by
    intro past answer silent asked hasked
    rcases List.mem_append.mp hasked with hpast | hnew
    · exact silent asked hpast
    · rw [List.mem_singleton.mp hnew]
      exact h
  exact Triple.demand (fun _ _ _ hs => ⟨hs.1, carried hs.2⟩)
    (fun _ _ exception hs => ⟨⟨hs.1, carried hs.2⟩, .raised exception⟩)

end Quiet

end Operation

namespace Table

open Operation Dialogue

variable {table : Table} {slot : Slot}

theorem designated_error {target : Designator} {error : Error}
    (h : table.designated target = .error error) : error.declines = true := by
  unfold designated at h
  split at h
  · cases h
  · split at h
    · cases h
    · split at h <;> cases h
      rfl

theorem tagsFor_error {target : Designator} {error : Error}
    (h : table.tagsFor target = .error error) : error.declines = true := by
  unfold tagsFor at h
  split at h
  · rename_i other hother
    cases h
    exact designated_error hother
  · cases h
    rfl
  · cases h

theorem isState_error {target : Designator} {error : Error}
    (h : table.isState slot target = .error error) : error.declines = true := by
  unfold isState at h
  cases htags : table.tagsFor target with
  | error other =>
    rw [htags] at h
    cases h
    exact tagsFor_error htags
  | ok tags =>
    rw [htags] at h
    cases h

theorem select_error {channels : Channels} {direction : Direction} {target payload : Designator}
    {error : Error} (h : channels.select table direction target payload = .error error) :
    error.declines = true := by
  unfold Channels.select at h
  split at h
  · cases h
    rfl
  · rename_i other hother
    cases h
    exact tagsFor_error hother
  · dsimp only at h
    split at h <;> cases h
    rfl

theorem peek_error (known : table.Knows slot.tag) {error : Error} :
    table.peek slot ≠ .error error := by
  obtain ⟨block, hblock⟩ := known
  simp [peek, hblock]

/-- The rest of a push behind the deferred entry. -/
def pushed (table : Table) (channels : Channels) (target : Designator) (message : Value) :
    Operation Unit := do
  let found ← ofExcept (channels.select table .push target (.cls message.kind))
  let (channel, data) ← table.activeChannel found target message
  table.reportMessage "Push"
    (channel.message.payload.text ++ " to " ++ channel.message.target.text)
  let _ ← demand (.deliver channel data message)

/-- The rest of a poll behind the deferred entry. -/
def polled (table : Table) (channels : Channels) (target payload : Designator) :
    Operation Value := do
  let found ← ofExcept (channels.select table .poll target payload)
  let (channel, data) ← table.activeChannel found target .null
  let message ← demand (.produce channel data)
  if message.isNull then return message
  else do
    table.reportMessage "Poll"
      (channel.message.payload.text ++ " from " ++ channel.message.target.text)
    return message

theorem push_some {channels : Channels} {target : Designator} {message : Value} :
    table.push (some channels) target message =
      table.enterPending >>= fun _ => table.pushed channels target message := rfl

theorem poll_some {channels : Channels} {target payload : Designator} :
    table.poll (some channels) target payload =
      table.enterPending >>= fun _ => table.polled channels target payload := rfl

theorem noMessages_quiet {α : Type} :
    (refuse (.noMessages table.name) : Operation α).Quiet slot :=
  .refuse (.error nofun)

variable (known : table.Knows slot.tag)
include known

theorem activeChannel_quiet {found : List (String × Channel)} {target : Designator}
    {rejected : Value} : (table.activeChannel found target rejected).Quiet slot := by
  have inactive : (Failure.error (.notActive target.name rejected)).Found := .error nofun
  refine Quiet.look ?_
  refine (Quiet.ofExcept fun error h => absurd h (peek_error known)).bind fun active => ?_
  split
  · split
    · exact .refuse inactive
    · exact .pure
  · exact .refuse inactive

theorem pushed_quiet {channels : Channels} {target : Designator} {message : Value} :
    (table.pushed channels target message).Quiet slot := by
  refine (Quiet.ofExcept fun error h => .declined (select_error h)).bind fun found => ?_
  refine (activeChannel_quiet known).bind fun (channel, data) => ?_
  refine Quiet.bind (.bind (.demand trivial) fun _ => .pure) fun _ => ?_
  exact Quiet.bind (.demand trivial) fun _ => .pure

theorem polled_quiet {channels : Channels} {target payload : Designator} :
    (table.polled channels target payload).Quiet slot := by
  refine (Quiet.ofExcept fun error h => .declined (select_error h)).bind fun found => ?_
  refine (activeChannel_quiet known).bind fun (channel, data) => ?_
  refine Quiet.bind (.demand trivial) fun message => ?_
  split
  · exact .pure
  · exact Quiet.bind (.bind (.demand trivial) fun _ => .pure) fun _ => .pure

omit known

/-! ## 3. Passages -/

/-- Why a call is rejected at once. -/
inductive Refuses (table : Table) : Slot → Call → Error → Prop where
  | running {slot : Slot} {data : Value} (running : slot.running = true) :
      Refuses table slot (.start data) (.alreadyRunning table.name)
  | unfit {data : Value} {error : Error} (unfit : table.checkInitial data = .error error) :
      Refuses table (.fresh table) (.start data) error
  | stepFresh : Refuses table (.fresh table) .step (.empty table.name)
  | stepHalted (tag : String) : Refuses table (.halted tag) .step (.empty table.name)
  | stopFresh : Refuses table (.fresh table) .stop (.empty table.name)

/-- The line that reports a start. -/
def startLine (table : Table) : Request :=
  .report table.flags.life (traceLine table.name "Start" table.machine.initial.text)

/-- The line that reports a stop. -/
def stopLine (table : Table) : Request :=
  .report table.flags.life (traceLine table.name "Stop" "")

/-- What a call can do to a machine that was created with the given data or with none. -/
inductive Passage (table : Table) (channels : Option Channels) (given : Value) :
    Slot → Call → Course → Except Failure Reply → Slot → Prop where
  | refused {slot : Slot} {call : Call} {error : Error} (why : table.Refuses slot call error) :
      Passage table channels given slot call [] (.error (.error error)) slot
  | quiet {slot : Slot} {call : Call} {course : Course} {outcome : Except Failure Reply}
      (looks : call.Looks) (carries : ∀ asked ∈ course, asked.1.Carries)
      (found : ∀ failure, outcome = .error failure → failure.Found) :
      Passage table channels given slot call course outcome slot
  | reset {slot : Slot} : Passage table channels given slot .reset [] (.ok .nothing) (.fresh table)
  | stopHalted (tag : String) :
      Passage table channels given (.halted tag) .stop [] (.error (.error (.empty table.name)))
        (.fresh table)
  | startFailed {data : Value} {block : Block} {course : Course} {failure : Failure}
      (initial : table.block? table.machine.initial.tag = some block)
      (enters : Plays (table.enter block data false (.halted table.machine.initial.tag)) course
        (.error failure) (.halted table.machine.initial.tag)) :
      Passage table channels given (.fresh table) (.start data) course (.error failure)
        (.halted table.machine.initial.tag)
  | started {data : Value} {block : Block} {first : Course} {entry : Entry} (answer : Answer)
      (initial : table.block? table.machine.initial.tag = some block)
      (enters : Plays (table.enter block data false (.halted table.machine.initial.tag)) first
        (.ok entry) (.halted table.machine.initial.tag)) :
      Passage table channels given (.fresh table) (.start data) (first ++ [(table.startLine, answer)])
        ((answer.mapError .raised).map fun _ => .nothing) (.holding entry)
  | stepped {entry : Entry} {block : Block} {course : Course} {result : Except Failure Entry}
      (known : table.block? entry.tag = some block) (full : entry.data.isNull = false)
      (runs : Plays (table.run block entry.data (.halted entry.tag)) course result
        (.halted entry.tag)) :
      Passage table channels given (.holding entry) .step course (result.map fun _ => .nothing)
        (.landing entry.tag result)
  | stopUnreported {entry : Entry} (exception : Value) (full : entry.data.isNull = false) :
      Passage table channels given (.holding entry) .stop [(table.stopLine, .error exception)]
        (.error (.raised exception)) (.halted entry.tag)
  | stopFailed {entry : Entry} {block : Block} {rest : Course} {failure : Failure} (value : Value)
      (known : table.block? entry.tag = some block) (full : entry.data.isNull = false)
      (retires : Plays (table.retire block entry.data (.halted entry.tag)) rest (.error failure)
        (.halted entry.tag)) :
      Passage table channels given (.holding entry) .stop ((table.stopLine, .ok value) :: rest)
        (.error failure) (.halted entry.tag)
  | stopped {entry left : Entry} {block last : Block} {rest : Course} (value : Value)
      (known : table.block? entry.tag = some block) (full : entry.data.isNull = false)
      (retires : Plays (table.retire block entry.data (.halted entry.tag)) rest (.ok left)
        (.halted entry.tag)) (knownLast : table.block? left.tag = some last) :
      Passage table channels given (.holding entry) .stop ((table.stopLine, .ok value) :: rest)
        (.ok (.snapshot ⟨left.tag, last.kind, left.data⟩)) (.fresh table)
  | entryFailed {call : Call} {block : Block} {course : Course} {failure : Failure}
      (makesUp : call.Enters) (initial : table.block? table.machine.initial.tag = some block)
      (enters : Plays (table.enter block given true (.halted table.machine.initial.tag)) course
        (.error failure) (.halted table.machine.initial.tag)) :
      Passage table channels given (.seeded table given) call course (.error failure)
        (.halted table.machine.initial.tag)
  | stepRedirected {block : Block} {course : Course} {entry : Entry}
      (initial : table.block? table.machine.initial.tag = some block)
      (enters : Plays (table.enter block given true (.halted table.machine.initial.tag)) course
        (.ok entry) (.halted table.machine.initial.tag))
      (elsewhere : entry.tag ≠ table.machine.initial.tag) :
      Passage table channels given (.seeded table given) .step course (.ok .nothing)
        (.holding entry)
  | resumed {call : Call} {block : Block} {first second : Course} {entry : Entry}
      {outcome : Except Failure Reply} {final : Slot} (makesUp : call.Enters)
      (initial : table.block? table.machine.initial.tag = some block)
      (enters : Plays (table.enter block given true (.halted table.machine.initial.tag)) first
        (.ok entry) (.halted table.machine.initial.tag))
      (here : call = .step → entry.tag = table.machine.initial.tag)
      (goes : Plays (call.operation table channels (.holding entry)) second outcome final)
      (rest : Passage table channels given (.holding entry) call second outcome final) :
      Passage table channels given (.seeded table given) call (first ++ second) outcome final

/-! ## 4. Courses of calls are passages -/

variable {given : Value} {channels : Option Channels} {course : Course} {final : Slot}

@[simp] theorem settle_halted {entry : Entry} {tag : String} :
    settle entry (.halted tag) = .done (.ok ()) (.holding entry) := rfl

/-- Data that was taken out of the slot, and what comes of it put back. -/
theorem landing_of_plays {operation : Operation Entry} {good : Entry → Prop}
    (keeps : operation.Keeps good) {tag : String} {outcome : Except Failure Unit}
    (plays : Plays ((do settle (← operation) : Operation Unit) (.halted tag)) course outcome final) :
    ∃ result, Plays (operation (.halted tag)) course result (.halted tag) ∧
      outcome = result.map (fun _ => ()) ∧ final = .landing tag result := by
  rcases keeps.cut plays with
    ⟨entry, first, second, played, -, rest, rfl⟩ | ⟨failure, played, rfl, rfl⟩
  · obtain ⟨rfl, rfl, rfl⟩ := plays_done_iff.mp rest
    exact ⟨.ok entry, by simpa using played, rfl, rfl⟩
  · exact ⟨.error failure, played, rfl, rfl⟩

variable (sound : table.Sound)
include sound

theorem start_passage (condition : table.Condition given slot) {data : Value}
    {outcome : Except Failure Unit} (plays : Plays (table.start data slot) course outcome final) :
    table.Passage channels given slot (.start data) course (outcome.map fun _ => .nothing) final := by
  cases running : slot.running with
  | true =>
    rw [start_running running] at plays
    obtain ⟨rfl, rfl, rfl⟩ := plays_done_iff.mp plays
    exact .refused (.running running)
  | false =>
    cases condition with
    | fresh =>
      cases check : table.checkInitial data with
      | error error =>
        rw [start_refused check] at plays
        obtain ⟨rfl, rfl, rfl⟩ := plays_done_iff.mp plays
        exact .refused (.unfit check)
      | ok _ =>
        obtain ⟨block, initial⟩ := sound.initial_block
        rw [start_fresh initial check] at plays
        rcases (enter_keeps sound (mem_of_block? initial)).cut plays with
          ⟨entry, first, second, played, -, rest, rfl⟩ | ⟨failure, played, rfl, rfl⟩
        · rw [bind_apply, settle_halted, andThen_ok] at rest
          obtain ⟨_, reported, rfl⟩ := plays_map_iff.mp rest
          obtain ⟨answer, rfl, rfl, rfl⟩ := plays_demand_iff.mp reported
          rw [Except.map_map]
          exact .started answer initial played
        · exact .startFailed initial played
    | _ => cases running

theorem step_passage (condition : table.Condition given slot) (settled : slot.pending = false)
    {outcome : Except Failure Unit} (plays : Plays (table.step slot) course outcome final) :
    table.Passage channels given slot .step course (outcome.map fun _ => .nothing) final := by
  cases condition with
  | fresh =>
    rw [step_fresh] at plays
    obtain ⟨rfl, rfl, rfl⟩ := plays_done_iff.mp plays
    exact .refused .stepFresh
  | seeded => cases settled
  | holding entry block known full =>
    rw [step_holding known full] at plays
    obtain ⟨result, runs, rfl, rfl⟩ :=
      landing_of_plays (run_keeps sound (mem_of_block? known)) plays
    rw [Except.map_map]
    exact .stepped known full runs
  | halted tag known =>
    rw [step_halted] at plays
    obtain ⟨rfl, rfl, rfl⟩ := plays_done_iff.mp plays
    exact .refused (.stepHalted tag)

theorem stop_passage (condition : table.Condition given slot) (settled : slot.pending = false)
    {outcome : Except Failure Snapshot} (plays : Plays (table.stop slot) course outcome final) :
    table.Passage channels given slot .stop course (outcome.map .snapshot) final := by
  cases condition with
  | fresh =>
    rw [stop_fresh] at plays
    obtain ⟨rfl, rfl, rfl⟩ := plays_done_iff.mp plays
    exact .refused .stopFresh
  | seeded => cases settled
  | holding entry block known full =>
    rw [stop_holding full] at plays
    rcases plays_tell_bind_iff.mp plays with
      ⟨value, rest, rfl, goes⟩ | ⟨exception, rfl, rfl, rfl⟩
    · have shown : table.block (Slot.halted entry.tag).tag = pure block := block_found known
      rw [bind_apply, slot_apply, andThen_ok, shown, bind_apply, pure_apply, andThen_ok] at goes
      rcases (retire_keeps sound (mem_of_block? known)).cut goes with
        ⟨left, first, second, retires, ⟨last, hlast⟩, ends, rfl⟩ | ⟨failure, retires, rfl, rfl⟩
      · rw [Table.reset, bind_apply, change_apply, andThen_ok, block_found hlast] at ends
        obtain ⟨rfl, rfl, rfl⟩ := plays_done_iff.mp ends
        rw [List.append_nil]
        exact .stopped value known full retires hlast
      · exact .stopFailed value known full retires
    · exact .stopUnreported exception full
  | halted tag known =>
    rw [stop_halted] at plays
    obtain ⟨rfl, rfl, rfl⟩ := plays_done_iff.mp plays
    exact .stopHalted tag

omit sound in
/-- A quiet operation is all that a call which only looks comes to. -/
theorem quiet_passage {α : Type} {operation : Operation α} (quiet : operation.Quiet slot)
    {call : Call} (looks : call.Looks) {outcome : Except Failure α} {reply : α → Reply}
    (plays : Plays (operation slot) course outcome final) :
    table.Passage channels given slot call course (outcome.map reply) final := by
  have kept := quiet.apply ⟨rfl, by simp⟩ plays
  cases outcome with
  | ok a =>
    obtain ⟨rfl, carries⟩ := kept
    exact .quiet looks carries (by rintro _ ⟨⟩)
  | error failure =>
    obtain ⟨⟨rfl, carries⟩, found⟩ := kept
    exact .quiet looks carries (by rintro _ ⟨⟩; exact found)

omit sound in
/-- The tag of the slot is that of a block, in every condition. -/
theorem Condition.knows (condition : table.Condition given slot) (sound : table.Sound) :
    table.Knows slot.tag := by
  cases condition with
  | fresh => exact sound.initial_block
  | seeded block initial => exact ⟨block, initial⟩
  | holding entry block known => exact ⟨block, known⟩
  | halted tag known => exact known

/-- A course of a call without a deferred entry is a passage. -/
theorem settled_passage (condition : table.Condition given slot) {call : Call}
    (settled : call.Enters → slot.pending = false) {outcome : Except Failure Reply}
    (plays : Plays (call.operation table channels slot) course outcome final) :
    table.Passage channels given slot call course outcome final := by
  have known := condition.knows sound
  cases call with
  | start data =>
    obtain ⟨_, played, rfl⟩ := plays_map_iff.mp plays
    exact start_passage sound condition played
  | step =>
    obtain ⟨_, played, rfl⟩ := plays_map_iff.mp plays
    exact step_passage sound condition (settled .step) played
  | stop =>
    obtain ⟨_, played, rfl⟩ := plays_map_iff.mp plays
    exact stop_passage sound condition (settled .stop) played
  | reset =>
    obtain ⟨_, played, rfl⟩ := plays_map_iff.mp plays
    obtain ⟨rfl, rfl, rfl⟩ := plays_done_iff.mp played
    exact .reset
  | peek =>
    obtain ⟨_, played, rfl⟩ := plays_map_iff.mp plays
    have quiet : (Operation.slot >>= fun slot => .ofExcept (table.peek slot)).Quiet slot :=
      .look (.ofExcept fun error h => absurd h (peek_error known))
    exact quiet_passage quiet .peek played
  | isState target =>
    obtain ⟨_, played, rfl⟩ := plays_map_iff.mp plays
    have quiet : (Operation.slot >>= fun slot => .ofExcept (table.isState slot target)).Quiet slot :=
      .look (.ofExcept fun error h => .declined (isState_error h))
    exact quiet_passage quiet .isState played
  | push target message =>
    obtain ⟨_, played, rfl⟩ := plays_map_iff.mp plays
    cases channels with
    | none => exact quiet_passage noMessages_quiet .push played
    | some channels =>
      rw [push_some, enterPending_bind (settled .push)] at played
      exact quiet_passage (pushed_quiet known) .push played
  | poll target payload =>
    obtain ⟨_, played, rfl⟩ := plays_map_iff.mp plays
    cases channels with
    | none => exact quiet_passage noMessages_quiet .poll played
    | some channels =>
      rw [poll_some, enterPending_bind (settled .poll)] at played
      exact quiet_passage (polled_quiet known) .poll played

/-- An operation on a machine with a pending entry is cut behind the entry. -/
theorem enterPending_cut {block : Block}
    (initial : table.block? table.machine.initial.tag = some block) (full : given.isNull = false)
    {α : Type} {next : Bool → Operation α} {outcome : Except Failure α}
    (plays : Plays ((table.enterPending >>= next) (.seeded table given)) course outcome final) :
    (∃ failure, Plays (table.enter block given true (.halted table.machine.initial.tag)) course
        (.error failure) (.halted table.machine.initial.tag) ∧
      outcome = .error failure ∧ final = .halted table.machine.initial.tag) ∨
    ∃ entry first second,
      Plays (table.enter block given true (.halted table.machine.initial.tag)) first (.ok entry)
        (.halted table.machine.initial.tag) ∧ table.Knows entry.tag ∧
      Plays (next (entry.tag != table.machine.initial.tag) (.holding entry)) second outcome final ∧
      course = first ++ second := by
  have enters : (table.enter block given true).Keeps fun entry => table.Knows entry.tag :=
    enter_keeps sound (mem_of_block? initial)
  rw [bind_apply, enterPending_seeded initial full, ← bind_apply] at plays
  rcases plays_bind_iff.mp plays with
    ⟨elsewhere, middle, first, second, entered, goes, rfl⟩ | ⟨failure, failed, rfl⟩
  · rcases enters.cut entered with
      ⟨entry, first, _, played, known, rest, rfl⟩ | ⟨_, _, same, _⟩
    · rw [bind_apply, settle_halted, andThen_ok] at rest
      obtain ⟨rfl, same, rfl⟩ := plays_done_iff.mp rest
      cases same
      rw [tag_of_block? initial] at goes
      exact .inr ⟨entry, first, second, played, known, goes, by simp⟩
    · cases same
  · rcases enters.cut failed with
      ⟨entry, first, _, played, known, rest, rfl⟩ | ⟨failure, played, same, rfl⟩
    · rw [bind_apply, settle_halted, andThen_ok] at rest
      obtain ⟨-, same, -⟩ := plays_done_iff.mp rest
      cases same
    · cases same
      exact .inl ⟨failure, played, rfl, rfl⟩

/-- A call continues with the result of the deferred entry. -/
theorem resumed_passage {block : Block}
    (initial : table.block? table.machine.initial.tag = some block) {call : Call}
    (makesUp : call.Enters) {entry : Entry} {first second : Course}
    {outcome : Except Failure Reply}
    (enters : Plays (table.enter block given true (.halted table.machine.initial.tag)) first
      (.ok entry) (.halted table.machine.initial.tag))
    (known : table.Knows entry.tag) (here : call = .step → entry.tag = table.machine.initial.tag)
    (goes : Plays (call.operation table channels (.holding entry)) second outcome final) :
    table.Passage channels given (.seeded table given) call (first ++ second) outcome final :=
  .resumed makesUp initial enters here goes
    (settled_passage sound (condition_holding known) (fun _ => rfl) goes)

/-- All calls but a step go on wherever the entry led. -/
theorem entered_passage {block : Block}
    (initial : table.block? table.machine.initial.tag = some block) (full : given.isNull = false)
    {call : Call} (makesUp : call.Enters) (other : call ≠ .step) {α : Type}
    {next : Bool → Operation α} {reply : α → Reply} {result : Except Failure α}
    (plays : Plays ((table.enterPending >>= next) (.seeded table given)) course result final)
    (same : ∀ entry elsewhere, call.operation table channels (.holding entry) =
      (reply <$> next elsewhere) (.holding entry)) :
    table.Passage channels given (.seeded table given) call course (result.map reply) final := by
  rcases enterPending_cut sound initial full plays with
    ⟨failure, enters, rfl, rfl⟩ | ⟨entry, first, second, enters, known, goes, rfl⟩
  · exact .entryFailed makesUp initial enters
  · refine resumed_passage sound initial makesUp enters known (fun step => absurd step other) ?_
    rw [same entry]
    exact plays_map_iff.mpr ⟨_, goes, rfl⟩

/-- A course of a call that first makes up for the entry is a passage. -/
theorem seeded_passage {block : Block}
    (initial : table.block? table.machine.initial.tag = some block) (full : given.isNull = false)
    {call : Call} (makesUp : call.Enters) {outcome : Except Failure Reply}
    (plays : Plays (call.operation table channels (.seeded table given)) course outcome final) :
    table.Passage channels given (.seeded table given) call course outcome final := by
  cases makesUp with
  | step =>
    obtain ⟨outcome, played, rfl⟩ := plays_map_iff.mp plays
    rcases enterPending_cut sound initial full played with
      ⟨failure, enters, rfl, rfl⟩ | ⟨entry, first, second, enters, known, goes, rfl⟩
    · exact .entryFailed .step initial enters
    · cases elsewhere : entry.tag != table.machine.initial.tag with
      | false =>
        rw [elsewhere] at goes
        have here : entry.tag = table.machine.initial.tag := bne_eq_false_iff_eq.mp elsewhere
        exact resumed_passage sound initial .step enters known (fun _ => here)
          (plays_map_iff.mpr ⟨_, goes, rfl⟩)
      | true =>
        -- the entry was redirected, and that is the step
        rw [elsewhere] at goes
        obtain ⟨rfl, rfl, rfl⟩ := plays_done_iff.mp goes
        rw [List.append_nil]
        exact .stepRedirected initial enters (bne_iff_ne.mp elsewhere)
  | stop =>
    obtain ⟨outcome, played, rfl⟩ := plays_map_iff.mp plays
    exact entered_passage sound initial full .stop nofun played fun _ _ => rfl
  | push =>
    obtain ⟨outcome, played, rfl⟩ := plays_map_iff.mp plays
    cases channels with
    | none => exact quiet_passage noMessages_quiet .push played
    | some channels =>
      exact entered_passage sound initial full .push nofun played fun _ _ => rfl
  | poll =>
    obtain ⟨outcome, played, rfl⟩ := plays_map_iff.mp plays
    cases channels with
    | none => exact quiet_passage noMessages_quiet .poll played
    | some channels =>
      exact entered_passage sound initial full .poll nofun played fun _ _ => rfl

/-- What a call can do is what its passages say. -/
theorem passage (condition : table.Condition given slot) {call : Call}
    {outcome : Except Failure Reply}
    (plays : Plays (call.operation table channels slot) course outcome final) :
    table.Passage channels given slot call course outcome final := by
  by_cases settled : call.Enters → slot.pending = false
  · exact settled_passage sound condition settled plays
  · obtain ⟨makesUp, pending⟩ := Classical.not_imp.mp settled
    cases condition with
    | seeded block initial full _ => exact seeded_passage sound initial full makesUp plays
    | _ => exact absurd rfl pending

end Table

end MachineSpec
