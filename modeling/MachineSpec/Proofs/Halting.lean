/-
MachineSpec.Proofs.Halting — a machine is halted by an exception that escapes.

Data is taken out of the slot before any callback is called and put back at the end of the
operation. So when an exception escapes (`Escapes`), the machine runs and its slot is empty:
`Slot.Halted`. A call that is rejected for its arguments, or for want of data, is no such
case.

`Table.escaping_exception_halts` proves this for every reachable slot, and that a halted
machine makes no request and does not change until `stop` or `reset`, which bring back the
state after creation. It assumes that the trace sink does not raise, because `start` reports
itself after it has put the data into the slot.
-/
import MachineSpec.Proofs.History

namespace MachineSpec

/-! ## 1. Exceptions that escape -/

/-- Running, with an empty slot and no entry to come. -/
def Slot.Halted (slot : Slot) : Prop :=
  slot.running = true ∧ slot.data = .null ∧ slot.pending = false

theorem Slot.halted_halted (tag : String) : (Slot.halted tag).Halted := ⟨rfl, rfl, rfl⟩

theorem Slot.Halted.eq_halted {slot : Slot} (h : slot.Halted) : slot = .halted slot.tag := by
  obtain ⟨tag, data, running, pending⟩ := slot
  obtain ⟨rfl, rfl, rfl⟩ := h
  rfl

/-- Nothing that was asked of the sink of the trace raised an exception. -/
def Course.Reported (course : Course) : Prop :=
  ∀ enabled line answer, (Request.report enabled line, answer) ∈ course →
    ∃ value, answer = .ok value

open Operation Dialogue

namespace Table

variable {table : Table} {given : Value} {channels : Option Channels} {slot final : Slot}
  {course : Course}

/-- An exception escapes from a start that passed both checks of its arguments, from a step or a
    stop that found data in the slot, or from the deferred entry made by a message. -/
inductive Escapes (table : Table) (slot : Slot) : Event → Prop where
  | start {data : Value} {channels : Option Channels} {course : Course} {failure : Failure}
      (idle : slot.running = false) (fits : table.checkInitial data = .ok ()) :
      Escapes table slot ⟨.start data, channels, course, .error failure⟩
  | step {channels : Option Channels} {course : Course} {failure : Failure}
      (other : failure ≠ .error (.empty table.name)) :
      Escapes table slot ⟨.step, channels, course, .error failure⟩
  | stop {channels : Option Channels} {course : Course} {failure : Failure}
      (other : failure ≠ .error (.empty table.name)) :
      Escapes table slot ⟨.stop, channels, course, .error failure⟩
  | push {target : Designator} {message : Value} {channels : Channels} {course : Course}
      {failure : Failure} {halfway : Slot}
      (entry : Plays (table.enterPending slot) course (.error failure) halfway) :
      Escapes table slot ⟨.push target message, some channels, course, .error failure⟩
  | poll {target payload : Designator} {channels : Channels} {course : Course}
      {failure : Failure} {halfway : Slot}
      (entry : Plays (table.enterPending slot) course (.error failure) halfway) :
      Escapes table slot ⟨.poll target payload, some channels, course, .error failure⟩

/-! ## 2. They halt the machine -/

theorem Passage.start_halts {data : Value} {failure : Failure}
    (passage : table.Passage channels given slot (.start data) course (.error failure) final)
    (idle : slot.running = false) (fits : table.checkInitial data = .ok ())
    (reported : Course.Reported course) : final.Halted := by
  generalize hcall : Call.start data = call at passage
  generalize houtcome : (Except.error failure : Except Failure Reply) = outcome at passage
  cases passage with
  | refused why =>
    cases why with
    | running running => simp [idle] at running
    | unfit unfit =>
      cases hcall
      simp [fits] at unfit
    | _ => cases hcall
  | quiet looks => cases looks <;> cases hcall
  | startFailed => exact Slot.halted_halted _
  | @started _ _ first _ answer =>
    -- the data is back in the slot already, and only the report could still fail
    have asked : (table.startLine, answer) ∈ first ++ [(table.startLine, answer)] := by simp
    obtain ⟨value, rfl⟩ := reported _ _ answer asked
    cases houtcome
  | entryFailed | resumed => cases idle
  | _ => cases hcall

/-- Nothing but the check for data fails without halting the machine. -/
theorem Passage.halts {call : Call} {failure : Failure} {outcome : Except Failure Reply}
    (passage : table.Passage channels given slot call course outcome final)
    (runs : call = .step ∨ call = .stop) (failed : outcome = .error failure)
    (other : failure ≠ .error (.empty table.name)) : final.Halted := by
  induction passage with
  | refused why =>
    cases failed
    cases why with
    | stepFresh | stepHalted | stopFresh => exact absurd rfl other
    | _ => simp at runs
  | quiet looks => cases looks <;> simp at runs
  | reset | startFailed | started => simp at runs
  | stopHalted =>
    cases failed
    exact absurd rfl other
  | @stepped _ _ _ result =>
    cases result with
    | ok entry => cases failed
    | error failure => exact Slot.halted_halted _
  | stopUnreported | stopFailed | entryFailed => exact Slot.halted_halted _
  | stopped | stepRedirected => cases failed
  | resumed _ _ _ _ _ _ ih => exact ih runs failed

theorem enterPending_halts (sound : table.Sound) (condition : table.Condition given slot)
    {failure : Failure} (plays : Plays (table.enterPending slot) course (.error failure) final) :
    final.Halted := by
  cases condition with
  | seeded block initial full =>
    have plays : Plays ((table.enterPending >>= pure) (.seeded table given)) course
        (.error failure) final :=
      plays_bind_iff.mpr (.inr ⟨failure, plays, rfl⟩)
    rcases enterPending_cut sound initial full plays with
      ⟨_, _, _, rfl⟩ | ⟨_, _, _, _, _, goes, _⟩
    · exact Slot.halted_halted _
    · obtain ⟨_, same, _⟩ := plays_done_iff.mp goes
      cases same
  | _ => cases plays

/-- What follows a pending entry is not reached if the entry fails. -/
theorem enterPending_failed_bind {α : Type} {next : Bool → Operation α} {halfway : Slot}
    {failure : Failure} {outcome : Except Failure α}
    (entry : Plays (table.enterPending slot) course (.error failure) halfway)
    (plays : Plays ((table.enterPending >>= next) slot) course outcome final) : final = halfway :=
  (plays_unique plays (plays_bind_iff.mpr (.inr ⟨failure, entry, rfl⟩))).2

theorem escape_halts (sound : table.Sound) (condition : table.Condition given slot) {event : Event}
    (occurs : event.Occurs table slot final) (escapes : table.Escapes slot event)
    (reported : Course.Reported event.course) : final.Halted := by
  have passage := passage sound condition occurs
  cases escapes with
  | start idle fits => exact passage.start_halts idle fits reported
  | step other => exact passage.halts (.inl rfl) rfl other
  | stop other => exact passage.halts (.inr rfl) rfl other
  | push entry | poll entry =>
    obtain ⟨_, plays, _⟩ := plays_map_iff.mp occurs
    rw [enterPending_failed_bind entry plays]
    exact enterPending_halts sound condition entry

end Table

/-! ## 3. Halted machines -/

/-- From the slot, the operation fails before it makes a request. -/
def Operation.Barred {α : Type} (operation : Operation α) (slot : Slot) : Prop :=
  ∃ error, operation slot = .done (.error (.error error)) slot

namespace Operation.Barred

variable {α β : Type} {slot final : Slot}

theorem plays {operation : Operation α} (h : operation.Barred slot) {course : Course}
    {outcome : Except Failure α} (plays : Dialogue.Plays (operation slot) course outcome final) :
    course = [] ∧ (∃ error, outcome = .error (.error error)) ∧ final = slot := by
  obtain ⟨error, h⟩ := h
  rw [h] at plays
  obtain ⟨rfl, rfl, rfl⟩ := Dialogue.plays_done_iff.mp plays
  exact ⟨rfl, ⟨error, rfl⟩, rfl⟩

theorem refuse {error : Error} : (Operation.refuse error : Operation α).Barred slot :=
  ⟨error, rfl⟩

theorem bind {operation : Operation α} {next : α → Operation β} (h : operation.Barred slot) :
    (operation >>= next).Barred slot := by
  obtain ⟨error, h⟩ := h
  exact ⟨error, by rw [bind_apply, h, andThen_error]⟩

theorem look {next : Slot → Operation α} (h : (next slot).Barred slot) :
    (Operation.slot >>= next).Barred slot := h

theorem bind_ofExcept {result : Except Error α} {next : α → Operation β}
    (h : ∀ a, result = .ok a → (next a).Barred slot) :
    (Operation.ofExcept result >>= next).Barred slot := by
  cases result with
  | ok a => exact h a rfl
  | error error => exact ⟨error, rfl⟩

end Operation.Barred

namespace Table

variable {table : Table} {tag : String} {final : Slot}

theorem activeChannel_barred {found : List (String × Channel)} {target : Designator}
    {rejected : Value} : (table.activeChannel found target rejected).Barred (.halted tag) := by
  refine .look (.bind_ofExcept fun active peeked => ?_)
  have empty : active.data = .null := by
    unfold peek at peeked
    split at peeked <;> cases peeked
    rfl
  split
  · rw [empty]
    exact .refuse
  · exact .refuse

theorem push_barred {channels : Option Channels} {target : Designator} {message : Value} :
    (table.push channels target message).Barred (.halted tag) := by
  cases channels with
  | none => exact ⟨_, rfl⟩
  | some channels => exact .bind_ofExcept fun found _ => .bind activeChannel_barred

theorem poll_barred {channels : Option Channels} {target payload : Designator} :
    (table.poll channels target payload).Barred (.halted tag) := by
  cases channels with
  | none => exact ⟨_, rfl⟩
  | some channels => exact .bind_ofExcept fun found _ => .bind activeChannel_barred

/-- The result of a call on a halted machine. -/
structure Vain (table : Table) (event : Event) : Prop where
  /-- No request is made. -/
  silent : event.course = []
  start : ∀ data, event.call = .start data →
    event.outcome = .error (.error (.alreadyRunning table.name))
  step : event.call = .step → event.outcome = .error (.error (.empty table.name))
  push : ∀ target message, event.call = .push target message →
    ∃ error, event.outcome = .error (.error error)
  poll : ∀ target payload, event.call = .poll target payload →
    ∃ error, event.outcome = .error (.error error)

/-- Every call on a halted machine fails without a request, except those that renew the machine. -/
theorem vain_of_halted {event : Event} (occurs : event.Occurs table (.halted tag) final)
    (stays : event.call ≠ .stop ∧ event.call ≠ .reset) :
    final = .halted tag ∧ table.Vain event := by
  obtain ⟨call, channels, course, outcome⟩ := event
  obtain ⟨notStop, notReset⟩ := stays
  cases call with
  | start data =>
    obtain ⟨result, plays, rfl⟩ := plays_map_iff.mp occurs
    rw [start_running rfl] at plays
    obtain ⟨rfl, rfl, rfl⟩ := plays_done_iff.mp plays
    exact ⟨rfl, rfl, fun _ _ => rfl, nofun, nofun, nofun⟩
  | step =>
    obtain ⟨result, plays, rfl⟩ := plays_map_iff.mp occurs
    rw [step_halted] at plays
    obtain ⟨rfl, rfl, rfl⟩ := plays_done_iff.mp plays
    exact ⟨rfl, rfl, nofun, fun _ => rfl, nofun, nofun⟩
  | stop => exact absurd rfl notStop
  | reset => exact absurd rfl notReset
  | peek =>
    obtain ⟨result, plays, rfl⟩ := plays_map_iff.mp occurs
    obtain ⟨rfl, -, rfl⟩ := plays_look_iff.mp plays
    exact ⟨rfl, rfl, nofun, nofun, nofun, nofun⟩
  | isState target =>
    obtain ⟨result, plays, rfl⟩ := plays_map_iff.mp occurs
    obtain ⟨rfl, -, rfl⟩ := plays_look_iff.mp plays
    exact ⟨rfl, rfl, nofun, nofun, nofun, nofun⟩
  | push target message =>
    obtain ⟨result, plays, rfl⟩ := plays_map_iff.mp occurs
    obtain ⟨rfl, ⟨error, rfl⟩, rfl⟩ := push_barred.plays plays
    exact ⟨rfl, rfl, nofun, nofun, fun _ _ _ => ⟨error, rfl⟩, nofun⟩
  | poll target payload =>
    obtain ⟨result, plays, rfl⟩ := plays_map_iff.mp occurs
    obtain ⟨rfl, ⟨error, rfl⟩, rfl⟩ := poll_barred.plays plays
    exact ⟨rfl, rfl, nofun, nofun, nofun, fun _ _ _ => ⟨error, rfl⟩⟩

theorem stays_halted {slot final : Slot} {events : List Event} (halted : slot.Halted)
    (history : table.History slot events final)
    (stays : ∀ event ∈ events, event.call ≠ .stop ∧ event.call ≠ .reset) :
    final = slot ∧ ∀ event ∈ events, table.Vain event := by
  induction history with
  | nil => simp
  | snoc _ occurs ih =>
    obtain ⟨rfl, vain⟩ := ih fun event hevent => stays event (by simp [hevent])
    rw [halted.eq_halted] at occurs
    obtain ⟨same, last⟩ := vain_of_halted occurs (stays _ (by simp))
    rw [← halted.eq_halted] at same
    refine ⟨same, fun event hevent => ?_⟩
    rcases List.mem_append.mp hevent with hbefore | hlast
    · exact vain event hbefore
    · exact List.mem_singleton.mp hlast ▸ last

/-- A stop or a reset leaves a halted machine as it was created without data. -/
structure Renews (table : Table) (event : Event) (final : Slot) : Prop where
  stop : event.call = .stop → event.course = [] ∧
    event.outcome = .error (.error (.empty table.name)) ∧ table.create .null = .ok final
  reset : event.call = .reset → event.course = [] ∧ event.outcome = .ok .nothing ∧
    table.create .null = .ok final

theorem renews_of_halted {slot final : Slot} {event : Event} (halted : slot.Halted)
    (occurs : event.Occurs table slot final) : table.Renews event final := by
  obtain ⟨call, channels, course, outcome⟩ := event
  rw [halted.eq_halted] at occurs
  constructor
  · rintro rfl
    obtain ⟨result, plays, rfl⟩ := plays_map_iff.mp occurs
    rw [stop_halted] at plays
    obtain ⟨rfl, rfl, rfl⟩ := plays_done_iff.mp plays
    exact ⟨rfl, rfl, rfl⟩
  · rintro rfl
    obtain ⟨result, plays, rfl⟩ := plays_map_iff.mp occurs
    obtain ⟨rfl, rfl, rfl⟩ := plays_done_iff.mp plays
    exact ⟨rfl, rfl, rfl⟩

/-- An exception that escapes from a call halts the machine. While a machine is halted, calls other
    than `stop` and `reset` make no request and leave the slot as it is; `stop` and `reset` renew
    the machine. -/
theorem escaping_exception_halts (compiled : table.Compiled) :
    (∀ slot (event : Event) final, table.Reachable slot → event.Occurs table slot final →
      table.Escapes slot event → Course.Reported event.course → final.Halted) ∧
    ∀ slot events later, slot.Halted → table.History slot events later →
      (∀ event ∈ events, event.call ≠ .stop ∧ event.call ≠ .reset) →
      later = slot ∧ (∀ event ∈ events, table.Vain event) ∧
      ∀ (event : Event) final, event.Occurs table later final → table.Renews event final := by
  constructor
  · rintro slot event final ⟨given, initial, events, created, history⟩ occurs escapes reported
    exact escape_halts compiled.sound (history.condition compiled.sound created) occurs escapes
      reported
  · intro slot events later halted history stays
    obtain ⟨rfl, vain⟩ := stays_halted halted history stays
    exact ⟨rfl, vain, fun event final occurs => renews_of_halted halted occurs⟩

/-- A guard of the lamp answers with a number, so the step raises; the next step is rejected without
    a request. -/
theorem escaping_exception_halts_guard :
    Slot.Halted (.halted Lamp.offBlock.tag) ∧
      Lamp.plain.Vain ⟨.step, none, [], .error (.error (.empty "Lamp"))⟩ := by
  have created : Lamp.plain.create (.object 0 Lamp.off) =
      .ok (.seeded Lamp.plain (.object 0 Lamp.off)) := rfl
  have first : Event.Occurs ⟨.step, none,
      [(.hook .entry Lamp.offBlock.tag true (.object 0 Lamp.off), .ok .null),
       (.report false (traceLine "Lamp" "Enter" "Off"), .ok .null),
       (.report false (traceLine "Lamp" "Execute" "Off"), .ok .null),
       (.hook .execute Lamp.offBlock.tag true (.object 0 Lamp.off), .ok .null),
       (.guard Lamp.switch (.object 0 Lamp.off), .ok (.int 1))],
      .error (.error (.noVerdict (.int 1)))⟩
      Lamp.plain (.seeded Lamp.plain (.object 0 Lamp.off)) (.halted Lamp.offBlock.tag) :=
    .ask (.ask (.ask (.ask (.ask (.done _ _)))))
  have second : Event.Occurs ⟨.step, none, [], .error (.error (.empty "Lamp"))⟩ Lamp.plain
      (.halted Lamp.offBlock.tag) (.halted Lamp.offBlock.tag) :=
    .done _ _
  have law := escaping_exception_halts Lamp.plain_compiled
  have halted := law.1 _ _ _ ⟨_, _, _, created, .nil⟩ first (.step (by simp)) (by
    intro enabled line answer asked
    simp only [List.mem_cons, Prod.mk.injEq, reduceCtorEq, false_and, false_or,
      List.not_mem_nil, or_false] at asked
    rcases asked with ⟨_, rfl⟩ | ⟨_, rfl⟩ <;> exact ⟨_, rfl⟩)
  exact ⟨halted, (law.2 _ _ _ halted (.snoc .nil second) (by simp)).2.1 _ (by simp)⟩

end Table

end MachineSpec
