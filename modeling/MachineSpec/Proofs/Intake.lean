/-
MachineSpec.Proofs.Intake — an exception of `consume_error` escapes unwrapped.

A redirection makes two calls on data of the error state: `consume_error` with the
exception, and then the entry hook. Only the second is made through the wrapper for failures
of the error state. An exception of the error type raised by the entry is wrapped
(`Proofs.Escalation`); one raised by `consume_error` escapes as it is, of whatever class,
and halts the machine.

This holds for every call in which `consume_error` is called, also if callbacks call the
machine in the meantime, since the outcome depends on the answer only.

* `Table.consume_failure_unwrapped`: a lamp whose error state raises in `consume_error`.
-/
import MachineSpec.Proofs.Escalation

namespace MachineSpec

/-- What an exception comes to that data of the error state raises when it is called upon. -/
def FailureRoute.escalate (route : FailureRoute) (exception : Value) : Failure :=
  if exception.isA route.errorType then .error (.escalated exception) else .raised exception

namespace Table

open Operation Dialogue

variable {table : Table} {route : FailureRoute} {slot final : Slot}

/-- Wherever the error state is called upon as a state, that is what its exceptions come to. -/
theorem fault_errorState (fallible : table.failure = some route) {request : Request} {data : Value}
    (subject : request.subject? = some (route.errorBlock.tag, data)) (exception : Value) :
    table.fault (request, .error exception) = some (route.escalate exception) := by
  rw [fault_subject fallible subject, FailureRoute.escalate, if_pos rfl]
  split <;> rfl

/-! ## 1. Handing over -/

/-- How a call continues with data of the error state: `consume_error` is called, and the entry hook
    if it returns. -/
inductive Received (table : Table) (route : FailureRoute) (made error : Value) :
    Course → Except Failure Reply → Slot → Prop where
  /-- What is raised over the exception is let through. -/
  | rejected {final : Slot} (exception : Value) (halted : final.Halted) :
      Received table route made error [(.consume made error, .error exception)]
        (.error (.raised exception)) final
  /-- What the entry raises is wrapped if it is of the error type. -/
  | unentered {final : Slot} (consumed exception : Value) (halted : final.Halted) :
      Received table route made error
        [(.consume made error, .ok consumed),
         (.hook .entry route.errorBlock.tag route.errorBlock.hooks.entry made, .error exception)]
        (.error (route.escalate exception)) final
  | entered (consumed value : Value) (rest : Course) (outcome : Except Failure Reply)
      (final : Slot) :
      Received table route made error
        ((.consume made error, .ok consumed) ::
          (.hook .entry route.errorBlock.tag route.errorBlock.hooks.entry made, .ok value) :: rest)
        outcome final

/-- How a call continues after a failure of data of another state: unless the report or the
    conversion fails, `consume_error` is called with the exception. -/
inductive HandsOver (table : Table) (route : FailureRoute) (tag : String) (data error : Value) :
    Course → Except Failure Reply → Slot → Prop where
  | unreported (exception : Value) (final : Slot) :
      HandsOver table route tag data error [(table.failureLine, .error exception)]
        (.error (.raised exception)) final
  | unconverted {conversion : Callback} {final : Slot} (said exception : Value)
      (converts : route.conversions.lookup tag = some conversion) (halted : final.Halted) :
      HandsOver table route tag data error
        [(table.failureLine, .ok said), (.convertFailed tag conversion data, .error exception)]
        (.error (.raised exception)) final
  | misfit {failed : Block} {conversion : Callback} {final : Slot} (said made : Value)
      (known : table.block? tag = some failed)
      (converts : route.conversions.lookup tag = some conversion)
      (checks : table.checkTypes = true) (unfit : made.isA route.errorBlock.kind = false)
      (halted : final.Halted) :
      HandsOver table route tag data error
        [(table.failureLine, .ok said), (.convertFailed tag conversion data, .ok made)]
        (.error (.error (.wrongErrorData failed.state.text route.errorBlock.state.text
          made.kind.name))) final
  | received {conversion : Callback} {rest : Course} {outcome : Except Failure Reply} {final : Slot}
      (said made : Value) (converts : route.conversions.lookup tag = some conversion)
      (fits : table.checkTypes = true → made.isA route.errorBlock.kind = true)
      (received : Received table route made error rest outcome final) :
      HandsOver table route tag data error
        ((table.failureLine, .ok said) :: (.convertFailed tag conversion data, .ok made) :: rest)
        outcome final

section

variable (sound : table.Sound)
include sound

/-- An answer at fault ends the call, and the machine is halted unless the request was for a message
    or a report. -/
theorem occurs_ends (reachable : table.Reachable slot) {event : Event}
    (occurs : event.Occurs table slot final) {before after : Course} {request : Request}
    {answer : Answer} {failure : Failure}
    (split : event.course = before ++ (request, answer) :: after)
    (faulty : table.fault (request, answer) = some failure) :
    after = [] ∧ event.outcome = .error failure ∧ (¬ request.Carries → final.Halted) := by
  obtain ⟨given, initial, events, created, history⟩ := reachable
  have condition := history.condition sound created
  have passage := passage sound condition occurs
  unfold Event.Occurs at occurs
  rw [split] at occurs
  obtain ⟨rfl, failed⟩ := fault_ends sound (condition.knows sound) occurs faulty
  exact ⟨rfl, failed, fun vital => passage.halts_of_vital sound split vital faulty failed⟩

/-- What a redirection comes to for the call that it is part of. -/
theorem Reroutes.handsOver (fallible : table.failure = some route)
    (reachable : table.Reachable slot) {event : Event} (occurs : event.Occurs table slot final)
    {failed : Block} (mem : failed ∈ table.blocks) {conversion : Callback}
    (converts : route.conversions.lookup failed.tag = some conversion) {data error : Value}
    {before after rest : Course} {result : Except Failure Entry}
    (reroutes : table.Reroutes route failed conversion data error after result)
    (split : event.course = before ++ (after ++ rest)) :
    table.HandsOver route failed.tag data error (after ++ rest) event.outcome final := by
  have found := sound.block?_of_tag mem
  -- whoever raises an exception, the course is cut in front of his answer
  have ends (early : Course) {request : Request} {answer : Answer} {failure : Failure}
      (last : after = early ++ [(request, answer)])
      (faulty : table.fault (request, answer) = some failure) :
      rest = [] ∧ event.outcome = .error failure ∧ (¬ request.Carries → final.Halted) := by
    have cut : event.course = (before ++ early) ++ (request, answer) :: rest := by
      rw [split, last]
      simp
    exact occurs_ends sound reachable occurs cut faulty
  cases reroutes with
  | unreported exception =>
    obtain ⟨rfl, outcome, -⟩ := ends [] rfl (fault_foreign rfl exception)
    rw [outcome]
    exact .unreported exception final
  | unconverted said exception =>
    obtain ⟨rfl, outcome, halts⟩ := ends [_] rfl (fault_foreign rfl exception)
    rw [outcome]
    exact .unconverted said exception converts (halts id)
  | misfit said made unfit =>
    obtain ⟨rfl, outcome, halts⟩ := ends [_] rfl
      ((fault_convertFailed fallible found conversion data made).trans (if_pos unfit))
    rw [outcome]
    obtain ⟨checks, unfit⟩ := Bool.and_eq_true_iff.mp unfit
    exact .misfit said made found converts checks (by simpa using unfit) (halts id)
  | unconsumed said made exception =>
    obtain ⟨rfl, outcome, halts⟩ := ends [_, _] rfl (fault_foreign rfl exception)
    rw [outcome]
    refine .received said made converts (fun checks => ?_) (.rejected exception (halts id))
    -- data that does not fit would have ended the call
    refine Classical.byContradiction fun unfit => ?_
    have faulty : table.fault (.convertFailed failed.tag conversion data, .ok made) = some _ :=
      (fault_convertFailed fallible found conversion data made).trans
        (if_pos (by simpa [checks] using unfit))
    have cut : event.course = (before ++ [(table.failureLine, .ok said)]) ++
        (.convertFailed failed.tag conversion data, .ok made) ::
          [(.consume made error, .error exception)] := by simpa using split
    cases (occurs_ends sound reachable occurs cut faulty).1
  | unentered said made consumed exception _ fits =>
    obtain ⟨rfl, outcome, halts⟩ := ends [_, _, _] rfl
      (fault_errorState fallible rfl exception)
    rw [outcome]
    exact .received said made converts (fun checks => by simpa [checks] using fits)
      (.unentered consumed exception (halts id))
  | arrived said made consumed entered fits =>
    exact .received said made converts (fun checks => by simpa [checks] using fits)
      (.entered consumed entered rest event.outcome final)

end

/-! ## 2. Main theorem -/

/-- An exception of `consume_error` escapes unwrapped, and every other exception of the error type
    that data of the error state raises is wrapped. -/
structure Exposes (table : Table) (route : FailureRoute) : Prop where
  /-- After every failure of data of another state `consume_error` is called with the exception. -/
  handsOver : ∀ slot final (event : Event), table.Reachable slot → event.Occurs table slot final →
    ∀ before after request tag data error,
      event.course = before ++ (request, .error error) :: after →
        route.Takes request tag data error →
          table.HandsOver route tag data error after event.outcome final
  /-- Whatever `consume_error` raises, also of the error type, is the outcome of the call; no
      further request is made, and the machine is halted. -/
  bare : ∀ slot final (event : Event), table.Reachable slot → event.Occurs table slot final →
    ∀ before after made error exception,
      event.course = before ++ (.consume made error, .error exception) :: after →
        after = [] ∧ event.outcome = .error (.raised exception) ∧ final.Halted
  /-- The same in runs in which callbacks call the machine. -/
  bareAmid : ∀ allows call made error slot resume waiting,
    table.Lives allows ⟨call, .ask (.consume made error) slot resume, waiting⟩ →
      ∀ exception, ∃ last, resume (.error exception) slot = .done (.error (.raised exception)) last
  /-- In such runs, too, any other exception of the error type that the error state raises is
      wrapped. -/
  wrappedAmid : ∀ allows call request data slot resume waiting,
    table.Lives allows ⟨call, .ask request slot resume, waiting⟩ →
      request.subject? = some (route.errorBlock.tag, data) →
        ∀ exception, ∃ last,
          resume (.error exception) slot = .done (.error (route.escalate exception)) last

/-- In every run of a fallible machine, an exception that `consume_error` raises escapes from the
    call unwrapped and halts the machine. -/
theorem consume_failure_escapes (compiled : table.Compiled)
    (fallible : table.failure = some route) :
    table.Exposes route := by
  have sound := compiled.sound
  constructor
  case bareAmid =>
    intro allows call made error slot resume waiting lives exception
    exact lives.ends_of_fault sound (fault_foreign rfl exception)
  case wrappedAmid =>
    intro allows call request data slot resume waiting lives subject exception
    exact lives.ends_of_fault sound (fault_errorState fallible subject exception)
  case bare =>
    intro slot final event reachable occurs before after made error exception split
    obtain ⟨rfl, outcome, halts⟩ :=
      occurs_ends sound reachable occurs split (fault_foreign rfl exception)
    exact ⟨rfl, outcome, halts id⟩
  case handsOver =>
    intro slot final event reachable occurs before after request tag data error split takes
    have turns : table.Turns route event.channels slot event.call event.course event.outcome
        final := by
      obtain ⟨given, initial, events, created, history⟩ := reachable
      exact (passage sound (history.condition sound created) occurs).turns sound fallible
    obtain ⟨owner, _, _, detoured, rest, result, mem, rfl, rfl, redirects, -⟩ :=
      turns.of_takes split takes
    obtain ⟨conversion, converts⟩ := sound.conversions route fallible owner mem takes.other
    have cut : event.course = (before ++ [(request, .error error)]) ++ (detoured ++ rest) := by
      rw [split]
      simp
    exact (reroutes_of_plays converts redirects).handsOver sound fallible reachable occurs mem
      converts cut

/-! The lamp breaks, and the broken lamp does not take the fault that broke it. -/

/-- The data of the lamp fails to enter, and the broken lamp that it is made into raises another
    fault over that. -/
def faultOverFault : Event :=
  ⟨.step, none,
    [(.hook .entry Lamp.offBlock.tag true (.object 0 Lamp.off), .error (.object 2 Lamp.fault)),
     (.report false (traceLine "Lamp" "Enter error state" ""), .ok .null),
     (.convertFailed Lamp.offBlock.tag Lamp.breaking (.object 0 Lamp.off),
      .ok (.object 1 Lamp.broken)),
     (.consume (.object 1 Lamp.broken) (.object 2 Lamp.fault), .error (.object 3 Lamp.fault))],
    .error (.raised (.object 3 Lamp.fault))⟩

def seededSlot : Slot := .seeded Lamp.fallible (.object 0 Lamp.off)

theorem seededSlot_reachable : Lamp.fallible.Reachable seededSlot := by
  have created : Lamp.fallible.create (.object 0 Lamp.off) = .ok seededSlot := rfl
  exact ⟨_, _, _, created, .nil⟩

theorem faultOverFault_occurs :
    faultOverFault.Occurs Lamp.fallible seededSlot (.halted Lamp.offBlock.tag) :=
  .ask (.ask (.ask (.ask (.done _ _))))

/-- The entry of `Off` fails, and `consume_error` of `Broken` raises a second exception. -/
theorem consume_failure_escapes_lamp :
    Lamp.fallible.HandsOver Lamp.route Lamp.offBlock.tag (.object 0 Lamp.off)
      (.object 2 Lamp.fault) (faultOverFault.course.drop 1) faultOverFault.outcome
      (.halted Lamp.offBlock.tag) ∧
    Slot.Halted (.halted Lamp.offBlock.tag) := by
  have law := consume_failure_escapes Lamp.fallible_compiled rfl
  have takes : Lamp.route.Takes (.hook .entry Lamp.offBlock.tag true (.object 0 Lamp.off))
      Lamp.offBlock.tag (.object 0 Lamp.off) (.object 2 Lamp.fault) := ⟨rfl, by decide, rfl⟩
  exact ⟨law.handsOver _ _ _ seededSlot_reachable faultOverFault_occurs [] _ _ _ _ _ rfl takes,
    (law.bare _ _ _ seededSlot_reachable faultOverFault_occurs [_, _, _] [] _ _ _ rfl).2.2⟩

/-- The exception that `consume_error` raises is of the error type, was raised by data of the error
    state, and is not wrapped. -/
theorem consume_failure_unwrapped :
    Lamp.fallible.Compiled ∧ Lamp.fallible.failure = some Lamp.route ∧
    Lamp.fallible.Reachable seededSlot ∧
    faultOverFault.Occurs Lamp.fallible seededSlot (.halted Lamp.offBlock.tag) ∧
    (.consume (.object 1 Lamp.broken) (.object 2 Lamp.fault), .error (.object 3 Lamp.fault)) ∈
      faultOverFault.course ∧
    (Value.object 3 Lamp.fault).isA Lamp.route.errorType = true ∧
    faultOverFault.outcome ≠ .error (.error (.escalated (.object 3 Lamp.fault))) :=
  ⟨Lamp.fallible_compiled, rfl, seededSlot_reachable, faultOverFault_occurs,
    by simp [faultOverFault], rfl, nofun⟩

end Table

end MachineSpec
