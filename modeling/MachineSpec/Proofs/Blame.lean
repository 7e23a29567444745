/-
MachineSpec.Proofs.Blame — the answer at fault for a failure.

An operation does not continue after an exception that is not intercepted, data of the wrong
class, or a guard without a verdict. Whether an answer is of this kind, and the failure that
results, is determined by the request and the answer alone (`fault`).

A course is `Unharmed` if it has no such answer. An operation that fails is either `Blamed`
on the last answer of a course that was unharmed up to there, or it declined without an
answer at fault. So an operation that returns a result has an unharmed course.
-/
import MachineSpec.Proofs.Redirection

namespace MachineSpec

namespace Table

variable {table : Table} {past : Course} {asked : Request × Answer} {failure : Failure}

/-! ## 1. Faults -/

/-- The effect of a raised exception on the operation. One of the error type that is raised by data
    of a state other than the error state is intercepted. -/
def faultOfException (table : Table) (request : Request) (exception : Value) : Option Failure :=
  match table.failure, request.subject? with
  | some route, some (tag, _) =>
    if exception.isA route.errorType then
      if tag = route.errorBlock.tag then some (.error (.escalated exception)) else none
    else some (.raised exception)
  | _, _ => some (.raised exception)

/-- The effect of a returned value on the operation. A guard has to return a verdict and, if types
    are checked, a conversion data of the class of the destination. -/
def faultOfResult (table : Table) : Request → Value → Option Failure
  | .guard _ _, answer =>
    match answer.verdict? with
    | some _ => none
    | none => some (.error (.noVerdict answer))
  | .convert transition _, made =>
    match table.block? transition.destination.tag with
    | some target =>
      if table.checkTypes && !made.isA target.kind then
        some (.error (.wrongConversion table.name target.state.text made.kind.name
          target.kind.name))
      else none
    | none => none
  | .convertFailed tag _ _, made =>
    match table.failure, table.block? tag with
    | some route, some failed =>
      if table.checkTypes && !made.isA route.errorBlock.kind then
        some (.error (.wrongErrorData failed.state.text route.errorBlock.state.text
          made.kind.name))
      else none
    | _, _ => none
  | _, _ => none

/-- What an operation fails with because of an answer, if it does. -/
def fault (table : Table) : Request × Answer → Option Failure
  | (request, .ok value) => table.faultOfResult request value
  | (request, .error exception) => table.faultOfException request exception

/-- An exception that no data of a state raises is let through. -/
theorem fault_foreign {request : Request} (subject : request.subject? = none) (exception : Value) :
    table.fault (request, .error exception) = some (.raised exception) := by
  rw [fault, faultOfException, subject]
  cases table.failure <;> rfl

theorem fault_plain (plain : table.failure = none) (request : Request) (exception : Value) :
    table.fault (request, .error exception) = some (.raised exception) := by
  rw [fault, faultOfException, plain]

theorem fault_subject {route : FailureRoute} (fallible : table.failure = some route)
    {request : Request} {tag : String} {data : Value} (subject : request.subject? = some (tag, data))
    (exception : Value) : table.fault (request, .error exception) =
      if exception.isA route.errorType then
        if tag = route.errorBlock.tag then some (.error (.escalated exception)) else none
      else some (.raised exception) := by
  rw [fault, faultOfException, fallible, subject]

theorem fault_guard {transition : Transition} {data answer : Value} :
    table.fault (.guard transition data, .ok answer) =
      match answer.verdict? with
      | some _ => none
      | none => some (.error (.noVerdict answer)) := rfl

theorem fault_convert {transition : Transition} {target : Block}
    (known : table.block? transition.destination.tag = some target) (data made : Value) :
    table.fault (.convert transition data, .ok made) =
      if table.checkTypes && !made.isA target.kind then
        some (.error (.wrongConversion table.name target.state.text made.kind.name
          target.kind.name))
      else none := by
  rw [fault, faultOfResult, known]

theorem fault_convertFailed {route : FailureRoute} (fallible : table.failure = some route)
    {tag : String} {failed : Block} (known : table.block? tag = some failed)
    (conversion : Callback) (data made : Value) :
    table.fault (.convertFailed tag conversion data, .ok made) =
      if table.checkTypes && !made.isA route.errorBlock.kind then
        some (.error (.wrongErrorData failed.state.text route.errorBlock.state.text
          made.kind.name))
      else none := by
  rw [fault, faultOfResult, fallible, known]

/-- The answers that are at fault, and what they come to. -/
inductive Faults (table : Table) : Request × Answer → Failure → Prop where
  /-- An exception that is let through. If it is of the error type no data of a state raised it. -/
  | raised {request : Request} {exception : Value}
      (foreign : ∀ route, table.failure = some route → ∀ tag data,
        request.subject? = some (tag, data) → exception.isA route.errorType = false) :
      Faults table (request, .error exception) (.raised exception)
  /-- One of the error type that data of the error state raised. -/
  | escalated {route : FailureRoute} {request : Request} {data error : Value}
      (fallible : table.failure = some route)
      (subject : request.subject? = some (route.errorBlock.tag, data))
      (failed : error.isA route.errorType = true) :
      Faults table (request, .error error) (.error (.escalated error))
  | noVerdict {transition : Transition} {data answer : Value} (none : answer.verdict? = none) :
      Faults table (.guard transition data, .ok answer) (.error (.noVerdict answer))
  | wrongConversion {transition : Transition} {target : Block} {data made : Value}
      (known : table.block? transition.destination.tag = some target)
      (checks : table.checkTypes = true) (unfit : made.isA target.kind = false) :
      Faults table (.convert transition data, .ok made)
        (.error (.wrongConversion table.name target.state.text made.kind.name target.kind.name))
  | wrongErrorData {route : FailureRoute} {tag : String} {failed : Block} {conversion : Callback}
      {data made : Value} (fallible : table.failure = some route)
      (known : table.block? tag = some failed) (checks : table.checkTypes = true)
      (unfit : made.isA route.errorBlock.kind = false) :
      Faults table (.convertFailed tag conversion data, .ok made)
        (.error (.wrongErrorData failed.state.text route.errorBlock.state.text made.kind.name))

theorem faults_of_exception {request : Request} {exception : Value}
    (faulty : table.fault (request, .error exception) = some failure) :
    table.Faults (request, .error exception) failure := by
  cases fallible : table.failure with
  | none =>
    rw [fault_plain fallible] at faulty
    cases faulty
    exact .raised (by simp [fallible])
  | some route =>
    cases subject : request.subject? with
    | none =>
      rw [fault_foreign subject] at faulty
      cases faulty
      exact .raised (by simp [subject])
    | some owner =>
      obtain ⟨tag, data⟩ := owner
      rw [fault_subject fallible subject] at faulty
      split at faulty
      · rename_i failed
        split at faulty <;> cases faulty
        rename_i same
        exact .escalated fallible (same ▸ subject) failed
      · rename_i foreign
        cases faulty
        refine .raised fun other same _ _ _ => ?_
        cases fallible.symm.trans same
        simpa using foreign

theorem faults_of_result {request : Request} {value : Value}
    (faulty : table.fault (request, .ok value) = some failure) :
    table.Faults (request, .ok value) failure := by
  cases request with
  | guard transition data =>
    rw [fault_guard] at faulty
    split at faulty <;> cases faulty
    exact .noVerdict ‹_›
  | convert transition data =>
    simp only [fault, faultOfResult] at faulty
    split at faulty
    · rename_i target known
      split at faulty <;> cases faulty
      rename_i unfit
      obtain ⟨checks, unfit⟩ := Bool.and_eq_true_iff.mp unfit
      exact .wrongConversion known checks (by simpa using unfit)
    · cases faulty
  | convertFailed tag conversion data =>
    simp only [fault, faultOfResult] at faulty
    split at faulty
    · rename_i route failed fallible known
      split at faulty <;> cases faulty
      rename_i unfit
      obtain ⟨checks, unfit⟩ := Bool.and_eq_true_iff.mp unfit
      exact .wrongErrorData fallible known checks (by simpa using unfit)
    · cases faulty
  | _ => cases faulty

theorem faults_of_fault (faulty : table.fault asked = some failure) : table.Faults asked failure := by
  obtain ⟨request, exception | value⟩ := asked
  · exact faults_of_exception faulty
  · exact faults_of_result faulty

/-! ## 2. Blame -/

/-- No answer was such that the operation could not go on. -/
def Unharmed (table : Table) (past : Course) : Prop := ∀ asked ∈ past, table.fault asked = none

/-- The last answer is why the operation failed, or else no answer is and the operation was
    declined. -/
def Blamed (table : Table) (failure : Failure) (past : Course) : Prop :=
  (∃ before last, past = before ++ [last] ∧ table.Unharmed before ∧
    table.fault last = some failure) ∨
  table.Unharmed past ∧ ∃ error, failure = .error error ∧ error.declines = true

theorem Unharmed.nil : table.Unharmed [] := by simp [Unharmed]

theorem Unharmed.snoc (unharmed : table.Unharmed past) (harmless : table.fault asked = none) :
    table.Unharmed (past ++ [asked]) := by
  intro other hother
  rcases List.mem_append.mp hother with hpast | hlast
  · exact unharmed other hpast
  · rw [List.mem_singleton.mp hlast]
    exact harmless

theorem Unharmed.blamed (unharmed : table.Unharmed past) (faulty : table.fault asked = some failure) :
    table.Blamed failure (past ++ [asked]) :=
  .inl ⟨past, asked, rfl, unharmed, faulty⟩

theorem Unharmed.declined (unharmed : table.Unharmed past) {error : Error}
    (declines : error.declines = true) : table.Blamed (.error error) past :=
  .inr ⟨unharmed, error, rfl, declines⟩

/-- What is not at fault does not fail the operation. -/
theorem Unharmed.not_fault (unharmed : table.Unharmed past) (among : asked ∈ past) :
    table.fault asked ≠ some failure := by
  rw [unharmed asked among]
  exact nofun

/-- A fault comes from an answer, and not from a lookup that failed. -/
theorem fault_blames (faulty : table.fault asked = some failure) :
    failure.Found ∧ ∀ error, failure = .error error → error.declines = false := by
  have blaming {error : Error} (found : ∀ tag, error ≠ .noBlock tag)
      (blames : error.declines = false) : (Failure.error error).Found ∧
        ∀ other, Failure.error error = .error other → other.declines = false :=
    ⟨.error found, by rintro _ ⟨⟩; exact blames⟩
  cases faults_of_fault faulty with
  | raised => exact ⟨.raised _, nofun⟩
  | escalated | noVerdict | wrongConversion | wrongErrorData => exact blaming nofun rfl

theorem Blamed.found (blamed : table.Blamed failure past) : failure.Found := by
  rcases blamed with ⟨_, _, -, -, faulty⟩ | ⟨-, error, rfl, declines⟩
  · exact (fault_blames faulty).1
  · exact .declined declines

/-- A failure that does not decline is the fault of the last answer. -/
theorem Blamed.last (blamed : table.Blamed failure past)
    (blames : ∀ error, failure = .error error → error.declines = false) :
    ∃ before last, past = before ++ [last] ∧ table.Unharmed before ∧
      table.fault last = some failure := by
  rcases blamed with atLast | ⟨-, error, rfl, declines⟩
  · exact atLast
  · rw [blames error rfl] at declines
    cases declines

/-- An answer that is at fault is the last, and the failure is what it comes to. -/
theorem Blamed.ends {before after : Course} {other : Failure}
    (blamed : table.Blamed other (before ++ asked :: after))
    (faulty : table.fault asked = some failure) : after = [] ∧ other = failure := by
  rcases blamed with ⟨first, last, same, unharmed, fault⟩ | ⟨unharmed, -⟩
  · rcases List.eq_nil_or_concat after with rfl | ⟨rest, final, rfl⟩
    · obtain ⟨-, rfl⟩ := List.append_inj' same rfl |>.imp_right List.singleton_inj.mp
      rw [faulty] at fault
      exact ⟨rfl, (Option.some.inj fault).symm⟩
    · rw [List.concat_eq_append, ← List.cons_append, ← List.append_assoc] at same
      obtain ⟨rfl, -⟩ := List.append_inj' same rfl
      exact absurd faulty (unharmed.not_fault (by simp))
  · exact absurd faulty (unharmed.not_fault (by simp))

end Table

end MachineSpec
