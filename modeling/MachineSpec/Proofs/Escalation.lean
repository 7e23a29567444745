/-
MachineSpec.Proofs.Escalation — failures are redirected, or wrapped in the error state.

If data of the error state raises an exception of the error type, the exception is wrapped
and the wrapper escapes: the call ends with it, no further request is made, and the machine
is halted. This holds wherever the error state is called: as the active state, as the
destination of a transition, and at the end of a redirection; and for every error type.

A course continues after an answer only if the answer is harmless. So a failure of a call is
determined by its last answer (`Table.fault`), and conversely an answer at fault determines
how the call ends. `Table.error_redirected_or_wrapped` states both directions for exceptions
of the error type.
-/
import MachineSpec.Proofs.Halting
import MachineSpec.Proofs.Regime

namespace MachineSpec

/-- Conversions into the error state return a value, and so does `consume_error`. -/
structure Course.Receives (course : Course) : Prop where
  converted : ∀ tag conversion data answer,
    (Request.convertFailed tag conversion data, answer) ∈ course → ∃ value, answer = .ok value
  consumed : ∀ data error answer, (Request.consume data error, answer) ∈ course →
    ∃ value, answer = .ok value

namespace Table

open Operation Dialogue

variable {table : Table} {route : FailureRoute} {given : Value} {channels : Option Channels}
  {slot final : Slot} {course : Course}

/-! ## 1. Faults end calls -/

section

variable (sound : table.Sound)
include sound

/-- A call that fails because of an answer other than to a message or a report leaves the machine
    halted. -/
theorem Passage.halts_of_vital {call : Call} {outcome : Except Failure Reply}
    (passage : table.Passage channels given slot call course outcome final) {before : Course}
    {request : Request} {answer : Answer} {failure : Failure}
    (last : course = before ++ [(request, answer)]) (vital : ¬ request.Carries)
    (faulty : table.fault (request, answer) = some failure) (failed : outcome = .error failure) :
    final.Halted := by
  induction passage generalizing before with
  | refused | reset | stopHalted => simp at last
  | quiet looks carries => exact absurd (carries (request, answer) (by simp [last])) vital
  | startFailed | stopUnreported | stopFailed | entryFailed => exact Slot.halted_halted _
  | started reported =>
    -- the last to be told of a start is the sink of the trace
    obtain ⟨-, same⟩ := List.append_inj' last rfl
    cases same
    exact absurd trivial vital
  | @stepped _ _ _ result =>
    cases result with
    | ok entry => cases failed
    | error other => exact Slot.halted_halted _
  | stopped | stepRedirected => cases failed
  | @resumed _ _ first second entry _ _ _ initial enters _ goes _ ih =>
    -- what the entry led to is data of a known state, and the fault lies behind that
    have known := ((enter_keeps sound (mem_of_block? initial)).plays enters).2.1 entry rfl
    have blamed := (Regime.blame sound known goes).2 failure failed
    obtain ⟨rest, _, rfl, -, -⟩ := blamed.last (fault_blames faulty).2
    rw [← List.append_assoc] at last
    obtain ⟨-, same⟩ := List.append_inj' last rfl
    exact ih (by rw [same]) failed

/-- So does one that fails because of an answer about data of a state. -/
theorem Passage.halts_of_fault {call : Call} {outcome : Except Failure Reply}
    (passage : table.Passage channels given slot call course outcome final) {before : Course}
    {request : Request} {answer : Answer} {failure : Failure}
    (last : course = before ++ [(request, answer)]) (subject : request.subject? ≠ none)
    (faulty : table.fault (request, answer) = some failure) (failed : outcome = .error failure) :
    final.Halted :=
  passage.halts_of_vital sound last (fun carries => subject carries.subjectless) faulty failed

end

/-! ## 2. What becomes of a failure -/

/-- What follows a failure of data of a state other than the error state, and how the call ends.
    Unless the report fails, the data is converted into data of the error state; this is rejected if
    it is of another class, and otherwise receives the exception and is entered. -/
inductive Rerouted (table : Table) (route : FailureRoute) (tag : String) (data error : Value) :
    Course → Except Failure Reply → Prop where
  | unreported (exception : Value) :
      Rerouted table route tag data error [(table.failureLine, .error exception)]
        (.error (.raised exception))
  | misfit {failed : Block} {conversion : Callback} (said made : Value)
      (known : table.block? tag = some failed)
      (converts : route.conversions.lookup tag = some conversion)
      (checks : table.checkTypes = true) (unfit : made.isA route.errorBlock.kind = false) :
      Rerouted table route tag data error
        [(table.failureLine, .ok said), (.convertFailed tag conversion data, .ok made)]
        (.error (.error (.wrongErrorData failed.state.text route.errorBlock.state.text
          made.kind.name)))
  | received {conversion : Callback} (said made consumed : Value) (entered : Answer)
      (rest : Course) (outcome : Except Failure Reply)
      (converts : route.conversions.lookup tag = some conversion)
      (fits : table.checkTypes = true → made.isA route.errorBlock.kind = true) :
      Rerouted table route tag data error
        ((table.failureLine, .ok said) :: (.convertFailed tag conversion data, .ok made) ::
          (.consume made error, .ok consumed) ::
          (.hook .entry route.errorBlock.tag route.errorBlock.hooks.entry made, entered) :: rest)
        outcome

section

variable (sound : table.Sound) (fallible : table.failure = some route)
include sound fallible

/-- A redirection whose conversion and intake return is one of the three. -/
theorem Reroutes.rerouted (known : table.Knows slot.tag) {call : Call}
    {outcome : Except Failure Reply} {failed : Block} (mem : failed ∈ table.blocks)
    {conversion : Callback} (converts : route.conversions.lookup failed.tag = some conversion)
    {data error : Value} {before after rest : Course} {result : Except Failure Entry}
    (reroutes : table.Reroutes route failed conversion data error after result)
    (plays : Plays (call.operation table channels slot) (before ++ (after ++ rest)) outcome final)
    (receives : Course.Receives after) :
    table.Rerouted route failed.tag data error (after ++ rest) outcome := by
  have found := sound.block?_of_tag mem
  cases reroutes with
  | unreported exception =>
    obtain ⟨rfl, rfl⟩ := fault_ends sound known plays (fault_foreign rfl exception)
    exact .unreported exception
  | unconverted said exception =>
    obtain ⟨_, same⟩ := receives.converted failed.tag conversion data (.error exception) (by simp)
    cases same
  | misfit said made unfit =>
    have faulty : table.fault (.convertFailed failed.tag conversion data, .ok made) = some _ :=
      (fault_convertFailed fallible found conversion data made).trans (if_pos unfit)
    have plays : Plays (call.operation table channels slot)
        ((before ++ [(table.failureLine, .ok said)]) ++
          (.convertFailed failed.tag conversion data, .ok made) :: rest) outcome final := by
      simpa using plays
    obtain ⟨rfl, rfl⟩ := fault_ends sound known plays faulty
    obtain ⟨checks, unfit⟩ := Bool.and_eq_true_iff.mp unfit
    exact .misfit said made found converts checks (by simpa using unfit)
  | unconsumed said made exception =>
    obtain ⟨_, same⟩ := receives.consumed made error (.error exception) (by simp)
    cases same
  | unentered said made consumed exception _ fits =>
    exact .received said made consumed (.error exception) rest outcome converts
      fun checks => by simpa [checks] using fits
  | arrived said made consumed entered fits =>
    exact .received said made consumed (.ok entered) rest outcome converts
      fun checks => by simpa [checks] using fits

end

/-! ## 3. Main theorem -/

/-- The effects of exceptions of the error type in a call of a fallible machine. -/
structure Escalates (table : Table) (route : FailureRoute) (event : Event) (final : Slot) : Prop where
  /-- If data of the error state fails, this exception is wrapped, and the machine is halted. -/
  wrapped : ∀ before after request data error,
    event.course = before ++ (request, .error error) :: after →
      request.subject? = some (route.errorBlock.tag, data) → error.isA route.errorType = true →
      after = [] ∧ event.outcome = .error (.error (.escalated error)) ∧ final.Halted
  /-- Nothing else is wrapped. -/
  only : ∀ error, event.outcome = .error (.error (.escalated error)) →
    ∃ before request data, event.course = before ++ [(request, .error error)] ∧
      request.subject? = some (route.errorBlock.tag, data) ∧ error.isA route.errorType = true
  /-- If data of another state fails, it is redirected. -/
  redirected : ∀ before after request tag data error,
    event.course = before ++ (request, .error error) :: after → route.Takes request tag data error →
      Course.Receives after → table.Rerouted route tag data error after event.outcome
  /-- An exception that escapes unwrapped was raised last and, if it is of the error type, not by
      data of a state. -/
  unwrapped : ∀ exception, event.outcome = .error (.raised exception) →
    ∃ before request, event.course = before ++ [(request, .error exception)] ∧
      ∀ tag data, request.subject? = some (tag, data) → exception.isA route.errorType = false

/-- In every call of a fallible machine, from every reachable slot: an exception of the error type
    that is raised by data is wrapped once if the data is of the error state, and redirected
    otherwise; nothing else is wrapped; and an exception that escapes unwrapped is the last answer
    and, if data of a state raised it, not of the error type. -/
theorem error_redirected_or_wrapped (compiled : table.Compiled)
    (fallible : table.failure = some route)
    (reachable : table.Reachable slot) {event : Event} (occurs : event.Occurs table slot final) :
    table.Escalates route event final := by
  obtain ⟨given, initial, events, created, history⟩ := reachable
  have sound := compiled.sound
  have condition := history.condition sound created
  have known := condition.knows sound
  have passage := passage sound condition occurs
  have blame := Regime.blame sound known occurs
  refine ⟨fun before after request data error split subject failed => ?_,
    fun error escalated => ?_,
    fun before after request tag data error split takes receives => ?_,
    fun exception escaped => ?_⟩
  · have faulty : table.fault (request, .error error) = some (.error (.escalated error)) := by
      rw [fault_subject fallible subject, if_pos failed, if_pos rfl]
    have plays := occurs
    unfold Event.Occurs at plays
    rw [split] at plays
    obtain ⟨rfl, outcome⟩ := fault_ends sound known plays faulty
    exact ⟨rfl, outcome, passage.halts_of_fault sound split (by simp [subject]) faulty outcome⟩
  · obtain ⟨before, ⟨request, answer⟩, split, -, faulty⟩ :=
      (blame.2 _ escalated).last (by rintro _ ⟨⟩; rfl)
    cases faults_of_fault faulty with
    | escalated fallible' subject failed =>
      cases fallible.symm.trans fallible'
      exact ⟨before, request, _, split, subject, failed⟩
  · obtain ⟨owner, _, _, detoured, rest, result, mem, rfl, rfl, redirects, -⟩ :=
      (passage.turns sound fallible).of_takes split takes
    obtain ⟨conversion, converts⟩ := sound.conversions route fallible owner mem takes.other
    have plays := occurs
    unfold Event.Occurs at plays
    rw [split, ← List.singleton_append, ← List.append_assoc] at plays
    exact (reroutes_of_plays converts redirects).rerouted sound fallible known mem converts plays
      ⟨fun tag conversion data answer asked =>
          receives.converted tag conversion data answer (by simp [asked]),
        fun data error answer asked => receives.consumed data error answer (by simp [asked])⟩
  · obtain ⟨before, ⟨request, answer⟩, split, -, faulty⟩ := (blame.2 _ escaped).last nofun
    cases faults_of_fault faulty with
    | raised foreign => exact ⟨before, request, split, foreign route fallible⟩

/-- The data of the lamp fails to enter, and so does the broken lamp that it is made into. -/
def twoFaults : Event :=
  ⟨.step, none,
    [(.hook .entry Lamp.offBlock.tag true (.object 0 Lamp.off), .error (.object 2 Lamp.fault)),
     (.report false (traceLine "Lamp" "Enter error state" ""), .ok .null),
     (.convertFailed Lamp.offBlock.tag Lamp.breaking (.object 0 Lamp.off),
      .ok (.object 1 Lamp.broken)),
     (.consume (.object 1 Lamp.broken) (.object 2 Lamp.fault), .ok .null),
     (.hook .entry Lamp.brokenBlock.tag true (.object 1 Lamp.broken),
      .error (.object 3 Lamp.fault))],
    .error (.error (.escalated (.object 3 Lamp.fault)))⟩

/-- The entry of `Off` fails, and so does the entry of `Broken`: the second exception is wrapped and
    halts the machine. -/
theorem error_redirected_or_wrapped_lamp :
    Lamp.fallible.Escalates Lamp.route twoFaults (.halted Lamp.offBlock.tag) ∧
      Slot.Halted (.halted Lamp.offBlock.tag) := by
  have created : Lamp.fallible.create (.object 0 Lamp.off) =
      .ok (.seeded Lamp.fallible (.object 0 Lamp.off)) := rfl
  have occurs : twoFaults.Occurs Lamp.fallible
      (.seeded Lamp.fallible (.object 0 Lamp.off)) (.halted Lamp.offBlock.tag) :=
    .ask (.ask (.ask (.ask (.ask (.done _ _)))))
  have law := error_redirected_or_wrapped Lamp.fallible_compiled rfl ⟨_, _, _, created, .nil⟩ occurs
  exact ⟨law, (law.wrapped [_, _, _, _] [] _ _ _ rfl rfl rfl).2.2⟩

end Table

end MachineSpec
