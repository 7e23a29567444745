/-
MachineSpec.Proofs.Redirection — the course of a failure in a fallible machine.

If a method or an action of a state other than the error state raises an exception of the
error type, the data is converted into data of the error state, `consume_error` is called
with the exception, and the error state is entered. `detour` is this course.
`Table.failure_takes_detour` proves that every call in which such an exception is raised
continues with the detour and makes no further request for the data that failed.

The proof is by the position in a course. A course is calm as long as no exception was
intercepted, and diverted after the first one; what follows that is a course of `redirect`.
No exception is intercepted within a detour, so a course is diverted once.
-/
import MachineSpec.Proofs.History

namespace MachineSpec

/-! ## 1. Failures -/

/-- The data that a request calls upon, with the tag of its state, if it is for a method or an
    action. -/
def Request.subject? : Request → Option (String × Value)
  | .hook _ tag _ data => some (tag, data)
  | .action transition data => some (transition.source.tag, data)
  | _ => none

theorem Request.Carries.subjectless {request : Request} (carries : request.Carries) :
    request.subject? = none := by
  cases request <;> first | rfl | exact carries.elim

namespace FailureRoute

/-- Somebody was asked on behalf of data of a state other than the error state, and answered with an
    exception of the error type. -/
structure Takes (route : FailureRoute) (request : Request) (tag : String) (data error : Value) :
    Prop where
  subject : request.subject? = some (tag, data)
  other : tag ≠ route.errorBlock.tag
  failure : error.isA route.errorType = true

/-- The request is for no data of a state, or for data of the error state. -/
def Spares (route : FailureRoute) (request : Request) : Prop :=
  ∀ tag data, request.subject? = some (tag, data) → tag = route.errorBlock.tag

/-- Nothing was intercepted on the course. -/
def Calm (route : FailureRoute) (course : Course) : Prop :=
  ∀ request error, (request, .error error) ∈ course → ∀ tag data, ¬ route.Takes request tag data error

namespace Calm

variable {route : FailureRoute} {first second : Course} {request : Request} {answer : Answer}

theorem nil : route.Calm [] := by simp [Calm]

theorem append (h : route.Calm first) (h' : route.Calm second) : route.Calm (first ++ second) := by
  intro request error asked
  rcases List.mem_append.mp asked with asked | asked
  · exact h request error asked
  · exact h' request error asked

theorem one (spares : route.Spares request) : route.Calm [(request, answer)] := by
  intro request error asked tag data takes
  cases List.mem_singleton.mp asked
  exact takes.other (spares tag data takes.subject)

/-- What is answered with a result is harmless. -/
theorem ok {value : Value} : route.Calm [(request, .ok value)] := by
  intro request error asked
  cases List.mem_singleton.mp asked

theorem of_carries (h : ∀ asked ∈ first, asked.1.Carries) : route.Calm first := by
  intro request error asked tag data takes
  have subjectless := (h _ asked).subjectless
  exact nomatch subjectless.symm.trans takes.subject

end Calm

/-- A course is diverted in one place only. -/
theorem split_unique {route : FailureRoute} {before before' after after' : Course}
    {request request' : Request} {error error' : Value} {tag tag' : String} {data data' : Value}
    (same : before ++ (request, .error error) :: after =
      before' ++ (request', .error error') :: after')
    (takes : route.Takes request tag data error) (takes' : route.Takes request' tag' data' error')
    (calmBefore : route.Calm before') (calmAfter : route.Calm after') :
    before = before' ∧ request = request' ∧ error = error' ∧ after = after' := by
  rcases List.append_eq_append_iff.mp same with ⟨between, rfl, rest⟩ | ⟨between, rfl, rest⟩
  · cases between with
    | nil =>
      cases rest
      simp
    | cons asked between =>
      cases rest
      exact absurd takes (calmBefore request error (by simp) tag data)
  · cases between with
    | nil =>
      cases rest
      simp
    | cons asked between =>
      cases rest
      exact absurd takes (calmAfter request error (by simp) tag data)

/-- The four answers upon a failure are results, and what the conversion makes is data of the error
    state. -/
structure Answered (route : FailureRoute) (after : Course) : Prop where
  normally : ∀ asked ∈ after.take 4, ∃ value, asked.2 = .ok value
  fitting : ∀ tag conversion data made, (.convertFailed tag conversion data, .ok made) ∈ after.take 4 →
    made.isA route.errorBlock.kind = true

end FailureRoute

namespace Table

open Operation Dialogue

variable {table : Table} {route : FailureRoute} {slot final : Slot} {course : Course}

/-! ## 2. The detour -/

/-- The line that reports a failure. -/
def failureLine (table : Table) : Request :=
  .report table.flags.life (traceLine table.name "Enter error state" "")

/-- The course from a failure into the error state: the report, the conversion of the data that
    failed, `consume_error`, and the entry. The last four arguments are the answers. -/
def detour (table : Table) (route : FailureRoute) (tag : String) (conversion : Callback)
    (data error made said consumed entered : Value) : Course :=
  [(table.failureLine, .ok said),
   (.convertFailed tag conversion data, .ok made),
   (.consume made error, .ok consumed),
   (.hook .entry route.errorBlock.tag route.errorBlock.hooks.entry made, .ok entered)]

/-- What is left of a redirection once the way into the error state is found. -/
theorem redirect_eq {failed : Block} {data error : Value} {conversion : Callback}
    (known : route.conversions.lookup failed.tag = some conversion) :
    table.redirect route failed data error = (do
      let _ ← demand table.failureLine
      let made ← demand (.convertFailed failed.tag conversion data)
      if table.checkTypes && !made.isA route.errorBlock.kind then
        refuse (.wrongErrorData failed.state.text route.errorBlock.state.text made.kind.name)
      else do
        let _ ← demand (.consume made error)
        callErrorState route
          (.hook .entry route.errorBlock.tag route.errorBlock.hooks.entry made)
        return ⟨route.errorBlock.tag, made⟩) := by
  simp [redirect, reportLife, failureLine, known]

/-- The error state is called upon once, and fails if it raises an exception. -/
theorem callErrorState_cases {request : Request} {outcome : Except Failure Unit}
    (plays : Plays (callErrorState route request slot) course outcome final) :
    (∃ value, course = [(request, .ok value)] ∧ outcome = .ok ()) ∨
    ∃ exception failure, course = [(request, .error exception)] ∧ outcome = .error failure := by
  rcases plays_bind_iff.mp plays with
    ⟨answer, _, _, _, asked, ends, rfl⟩ | ⟨failure, asked, -⟩
  · obtain ⟨_, rfl, same, rfl⟩ := plays_attempt_iff.mp asked
    cases same
    cases answer with
    | ok value =>
      obtain ⟨rfl, rfl, -⟩ := plays_done_iff.mp ends
      exact .inl ⟨value, rfl, rfl⟩
    | error exception =>
      refine .inr ⟨exception, ?_⟩
      dsimp only at ends
      split at ends <;> obtain ⟨rfl, rfl, -⟩ := plays_done_iff.mp ends <;> exact ⟨_, rfl, rfl⟩
  · obtain ⟨_, _, same, _⟩ := plays_attempt_iff.mp asked
    cases same

/-- The courses of a redirection: a callback raises an exception, the result of the conversion is of
    another class, or the error state is entered. -/
inductive Reroutes (table : Table) (route : FailureRoute) (failed : Block) (conversion : Callback)
    (data error : Value) : Course → Except Failure Entry → Prop where
  | unreported (exception : Value) :
      Reroutes table route failed conversion data error [(table.failureLine, .error exception)]
        (.error (.raised exception))
  | unconverted (said exception : Value) :
      Reroutes table route failed conversion data error
        [(table.failureLine, .ok said),
         (.convertFailed failed.tag conversion data, .error exception)]
        (.error (.raised exception))
  | misfit (said made : Value)
      (unfit : (table.checkTypes && !made.isA route.errorBlock.kind) = true) :
      Reroutes table route failed conversion data error
        [(table.failureLine, .ok said), (.convertFailed failed.tag conversion data, .ok made)]
        (.error (.error (.wrongErrorData failed.state.text route.errorBlock.state.text
          made.kind.name)))
  | unconsumed (said made exception : Value) :
      Reroutes table route failed conversion data error
        [(table.failureLine, .ok said), (.convertFailed failed.tag conversion data, .ok made),
         (.consume made error, .error exception)]
        (.error (.raised exception))
  | unentered (said made consumed exception : Value) (failure : Failure)
      (fits : (table.checkTypes && !made.isA route.errorBlock.kind) = false) :
      Reroutes table route failed conversion data error
        [(table.failureLine, .ok said), (.convertFailed failed.tag conversion data, .ok made),
         (.consume made error, .ok consumed),
         (.hook .entry route.errorBlock.tag route.errorBlock.hooks.entry made, .error exception)]
        (.error failure)
  | arrived (said made consumed entered : Value)
      (fits : (table.checkTypes && !made.isA route.errorBlock.kind) = false) :
      Reroutes table route failed conversion data error
        (table.detour route failed.tag conversion data error made said consumed entered)
        (.ok ⟨route.errorBlock.tag, made⟩)

theorem reroutes_of_plays {failed : Block} {data error : Value} {conversion : Callback}
    (known : route.conversions.lookup failed.tag = some conversion)
    {outcome : Except Failure Entry}
    (plays : Plays (table.redirect route failed data error slot) course outcome final) :
    table.Reroutes route failed conversion data error course outcome := by
  rw [redirect_eq known] at plays
  rcases plays_demand_bind_iff.mp plays with
    ⟨said, _, rfl, converts⟩ | ⟨exception, rfl, rfl, -⟩
  · rcases plays_demand_bind_iff.mp converts with
      ⟨made, _, rfl, consumes⟩ | ⟨exception, rfl, rfl, -⟩
    · split at consumes
      · rename_i unfit
        obtain ⟨rfl, rfl, -⟩ := plays_done_iff.mp consumes
        exact .misfit said made unfit
      · rename_i fits
        rw [Bool.not_eq_true] at fits
        rcases plays_demand_bind_iff.mp consumes with
          ⟨consumed, _, rfl, enters⟩ | ⟨exception, rfl, rfl, -⟩
        · rcases plays_bind_iff.mp enters with
            ⟨_, _, _, _, entered, ends, rfl⟩ | ⟨failure, entered, rfl⟩
          · rcases callErrorState_cases entered with ⟨value, rfl, -⟩ | ⟨_, _, _, same⟩
            · obtain ⟨rfl, rfl, -⟩ := plays_done_iff.mp ends
              exact .arrived said made consumed value fits
            · cases same
          · rcases callErrorState_cases entered with ⟨_, _, same⟩ | ⟨exception, _, rfl, -⟩
            · cases same
            · exact .unentered said made consumed exception failure fits
        · exact .unconsumed said made exception
    · exact .unconverted said exception
  · exact .unreported exception

/-- After a failure the machine takes the detour, unless a callback raises an exception or a
    conversion returns data of another class. -/
theorem redirect_cases {failed : Block} {data error : Value} {conversion : Callback}
    (known : route.conversions.lookup failed.tag = some conversion)
    {outcome : Except Failure Entry}
    (plays : Plays (table.redirect route failed data error slot) course outcome final) :
    (∃ made said consumed entered, outcome = .ok ⟨route.errorBlock.tag, made⟩ ∧
      course = table.detour route failed.tag conversion data error made said consumed entered) ∨
    ∃ failure, outcome = .error failure ∧ ∀ rest, ¬ route.Answered (course ++ rest) := by
  have raised (request : Request) (exception : Value) {after : Course}
      (early : (request, .error exception) ∈ after.take 4) : ¬ route.Answered after := by
    intro answered
    obtain ⟨value, same⟩ := answered.normally _ early
    cases same
  cases reroutes_of_plays known plays with
  | unreported exception =>
    exact .inr ⟨_, rfl, fun rest => raised table.failureLine exception (by simp)⟩
  | unconverted said exception =>
    exact .inr ⟨_, rfl, fun rest =>
      raised (.convertFailed failed.tag conversion data) exception (by simp)⟩
  | misfit said made unfit =>
    refine .inr ⟨_, rfl, fun rest answered => ?_⟩
    have fits := answered.fitting failed.tag conversion data made (by simp)
    simp [fits] at unfit
  | unconsumed said made exception =>
    exact .inr ⟨_, rfl, fun rest => raised (.consume made error) exception (by simp)⟩
  | unentered said made consumed exception failure =>
    exact .inr ⟨failure, rfl, fun rest => raised
      (.hook .entry route.errorBlock.tag route.errorBlock.hooks.entry made) exception (by simp)⟩
  | arrived said made consumed entered =>
    exact .inl ⟨made, said, consumed, entered, rfl, rfl⟩

theorem spared {request : Request} (spares : route.Spares request) (past : Course) (_ : Slot)
    (answer : Answer) (calm : route.Calm past) : route.Calm (past ++ [(request, answer)]) :=
  calm.append (.one spares)

theorem callErrorState_calm {request : Request} (spares : route.Spares request) :
    (callErrorState route request).Preserves fun past _ => route.Calm past := by
  refine Preserves.bind (.attempt (spared spares)) fun answer => ?_
  cases answer with
  | ok value => exact .pure
  | error exception =>
    dsimp only
    split
    · exact .refuse
    · exact .fail

/-- Nothing that happens on the way into the error state can be intercepted. -/
theorem redirect_calm {failed : Block} {data error : Value} {outcome : Except Failure Entry}
    (plays : Plays (table.redirect route failed data error slot) course outcome final) :
    route.Calm course := by
  have preserves : (table.redirect route failed data error).Preserves
      fun past _ => route.Calm past := by
    refine Preserves.bind (.bind (.demand (spared nofun)) fun _ => .pure) fun _ => ?_
    split
    · exact .refuse
    · refine Preserves.bind (.demand (spared nofun)) fun made => ?_
      dsimp only
      split
      · exact .refuse
      · refine Preserves.bind (.demand (spared nofun)) fun _ => ?_
        refine Preserves.bind (callErrorState_calm ?_) fun _ => .pure
        rintro tag data ⟨⟩
        rfl
  exact preserves.plays .nil plays

/-! ## 3. Calm and diverted courses -/

/-- The course was calm until data of one of the owners failed, and from there it is a course of
    redirection with the given outcome. -/
inductive Diverted (table : Table) (route : FailureRoute) (owners : List Block)
    (outcome : Except Failure Entry) : Course → Prop where
  | intro {before after : Course} {request : Request} {owner : Block} {data error : Value}
      {slot final : Slot} (calm : route.Calm before) (mem : owner ∈ owners)
      (takes : route.Takes request owner.tag data error)
      (plays : Plays (table.redirect route owner data error slot) after outcome final) :
      Diverted table route owners outcome (before ++ (request, .error error) :: after)

theorem Diverted.weaken {owners owners' : List Block} {outcome : Except Failure Entry}
    (h : table.Diverted route owners outcome course) (subset : owners ⊆ owners') :
    table.Diverted route owners' outcome course := by
  obtain ⟨calm, mem, takes, plays⟩ := h
  exact ⟨calm, subset mem, takes, plays⟩

theorem Diverted.prepend {owners : List Block} {outcome : Except Failure Entry} {past : Course}
    (h : table.Diverted route owners outcome course) (calm : route.Calm past) :
    table.Diverted route owners outcome (past ++ course) := by
  obtain ⟨calm', mem, takes, plays⟩ := h
  rw [← List.append_assoc]
  exact ⟨calm.append calm', mem, takes, plays⟩

/-- What is known of a failure that gets through. -/
def Fails (table : Table) (route : FailureRoute) (owners : List Block) (failure : Failure) :
    Assertion := fun past _ =>
  route.Calm past ∨ table.Diverted route owners (.error failure) past

/-- An operation that ends as soon as a failure of one of the owners is intercepted, and returns the
    resulting entry. -/
def Heeds (table : Table) (route : FailureRoute) (owners : List Block)
    (operation : Operation (Option Entry)) : Prop :=
  operation.Triple (fun past _ => route.Calm past)
    (fun result past _ => match result with
      | none => route.Calm past
      | some entry => table.Diverted route owners (.ok entry) past)
    (table.Fails route owners)

/-- An operation that ends with what came of a failure of one of the owners, or else calmly. -/
def Yields (table : Table) (route : FailureRoute) (owners : List Block)
    (operation : Operation Entry) : Prop :=
  operation.Triple (fun past _ => route.Calm past)
    (fun entry past _ => route.Calm past ∨ table.Diverted route owners (.ok entry) past)
    (table.Fails route owners)

variable {owners owners' : List Block}

theorem Heeds.weaken {operation : Operation (Option Entry)} (h : table.Heeds route owners operation)
    (subset : owners ⊆ owners') : table.Heeds route owners' operation := by
  refine h.mono (fun _ _ calm => calm) (fun result past slot after => ?_)
    (fun failure past slot failed => failed.imp_right (·.weaken subset))
  cases result with
  | none => exact after
  | some entry => exact after.weaken subset

theorem Yields.weaken {operation : Operation Entry} (h : table.Yields route owners operation)
    (subset : owners ⊆ owners') : table.Yields route owners' operation :=
  h.mono (fun _ _ calm => calm) (fun _ _ _ after => after.imp_right (·.weaken subset))
    (fun _ _ _ failed => failed.imp_right (·.weaken subset))

/-- Calm parts may stand before anything. -/
theorem calm_bind {α β : Type} {operation : Operation α} {next : α → Operation β}
    {after : β → Assertion} (h : operation.Preserves fun past _ => route.Calm past)
    (hn : ∀ a, (next a).Triple (fun past _ => route.Calm past) after (table.Fails route owners)) :
    (operation >>= next).Triple (fun past _ => route.Calm past) after (table.Fails route owners) :=
  Triple.bind (h.mono (fun _ _ calm => calm) (fun _ _ _ calm => calm) (fun _ _ _ calm => .inl calm))
    hn

theorem Yields.pure {entry : Entry} : table.Yields route owners (Pure.pure entry) :=
  Triple.pure fun _ _ calm => .inl calm

theorem Yields.plays {operation : Operation Entry} (h : table.Yields route owners operation)
    {result : Except Failure Entry} (plays : Plays (operation slot) course result final) :
    route.Calm course ∨ table.Diverted route owners result course := by
  have reached := h.apply .nil plays
  cases result with
  | ok entry => exact reached
  | error failure => exact reached

theorem heeds_none : table.Heeds route owners (Pure.pure none) :=
  Triple.pure fun _ _ calm => calm

theorem heeds_some {entry : Entry} :
    (Pure.pure (some entry) : Operation (Option Entry)).Triple
      (fun past _ => table.Diverted route owners (.ok entry) past)
      (fun result past _ => match result with
        | none => route.Calm past
        | some entry => table.Diverted route owners (.ok entry) past)
      (table.Fails route owners) :=
  Triple.pure fun _ _ diverted => diverted

/-- The entry that results from a failure is returned as it is. -/
theorem Heeds.bind {operation : Operation (Option Entry)} {next : Option Entry → Operation Entry}
    (h : table.Heeds route owners operation) (handed : ∀ entry, next (some entry) = Pure.pure entry)
    (hn : table.Yields route owners (next none)) :
    table.Yields route owners (operation >>= next) := by
  refine Triple.bind h fun result => ?_
  cases result with
  | none => exact hn
  | some entry =>
    rw [handed]
    exact Triple.pure fun _ _ diverted => .inr diverted

/-! ## 4. Who gives up, and when -/

theorem report_calm {enabled : Bool} {line : String} :
    (do let _ ← demand (.report enabled line) : Operation Unit).Preserves
      fun past _ => route.Calm past :=
  .bind (.demand (spared nofun)) fun _ => .pure

section

variable (hroute : table.failure = some route)
include hroute

/-- A call upon data asks once. Either nothing is intercepted, or what follows is a course of
    redirection. -/
theorem call_cases {owner : Block} {data : Value} {request : Request}
    (subject : request.subject? = some (owner.tag, data)) {outcome : Except Failure (Option Entry)}
    (plays : Plays (table.call owner data request slot) course outcome final) :
    (route.Calm course ∧ ∀ result, outcome = .ok result → result = none) ∨
    ∃ error after result, course = (request, .error error) :: after ∧
      route.Takes request owner.tag data error ∧
      Plays (table.redirect route owner data error slot) after result final ∧
      outcome = result.map some := by
  unfold call at plays
  rw [hroute] at plays
  dsimp only at plays
  split at plays
  · rename_i same
    have spares : route.Spares request := by
      intro tag data' hsubject
      rw [subject] at hsubject
      cases hsubject
      exact same
    rcases plays_bind_iff.mp plays with
      ⟨_, _, _, _, asked, ends, rfl⟩ | ⟨failure, asked, rfl⟩
    · obtain ⟨rfl, rfl, rfl⟩ := plays_done_iff.mp ends
      have calm := (callErrorState_calm spares).plays .nil asked
      exact .inl ⟨by simpa using calm, by rintro _ ⟨⟩; rfl⟩
    · exact .inl ⟨(callErrorState_calm spares).plays .nil asked, nofun⟩
  · rename_i other
    rcases plays_bind_iff.mp plays with
      ⟨answer, _, _, rest, asked, ends, rfl⟩ | ⟨failure, asked, rfl⟩
    · obtain ⟨answer, rfl, same, rfl⟩ := plays_attempt_iff.mp asked
      cases same
      cases answer with
      | ok value =>
        obtain ⟨rfl, rfl, rfl⟩ := plays_done_iff.mp ends
        exact .inl ⟨.ok, by rintro _ ⟨⟩; rfl⟩
      | error exception =>
        dsimp only at ends
        split at ends
        · rename_i failure
          obtain ⟨result, redirects, rfl⟩ := plays_map_iff.mp ends
          exact .inr ⟨exception, rest, result, rfl, ⟨subject, other, failure⟩, redirects, rfl⟩
        · rename_i foreign
          obtain ⟨rfl, rfl, rfl⟩ := plays_done_iff.mp ends
          refine .inl ⟨fun request' error asked tag data' takes => ?_, nofun⟩
          cases List.mem_singleton.mp asked
          exact foreign takes.failure
    · obtain ⟨_, _, same, _⟩ := plays_attempt_iff.mp asked
      cases same

theorem call_heeds {owner : Block} {data : Value} {request : Request}
    (subject : request.subject? = some (owner.tag, data)) :
    table.Heeds route [owner] (table.call owner data request) := by
  intro past slot course outcome final calm plays
  rcases call_cases hroute subject plays with
    ⟨calm', nothing⟩ | ⟨error, after, result, rfl, takes, redirects, rfl⟩
  · cases outcome with
    | ok result =>
      cases nothing result rfl
      exact calm.append calm'
    | error failure => exact .inl (calm.append calm')
  · have diverted : table.Diverted route [owner] result
        (past ++ (request, .error error) :: after) :=
      .intro calm (by simp) takes redirects
    cases result with
    | ok entry => exact diverted
    | error failure => exact .inr diverted

theorem callHook_heeds {owner : Block} {stage : Stage} {data : Value} :
    table.Heeds route [owner] (table.callHook owner stage data) :=
  call_heeds hroute rfl

theorem enter_yields {block : Block} {data : Value} {reported : Bool} :
    table.Yields route [block] (table.enter block data reported) := by
  refine (callHook_heeds hroute).bind (fun _ => rfl) ?_
  dsimp only
  split
  · exact calm_bind report_calm fun _ => Yields.pure
  · exact Yields.pure

/-- An entry that fails is intercepted at its first request or not at all. -/
theorem enter_cases {block : Block} {data : Value} {reported : Bool}
    {outcome : Except Failure Entry}
    (plays : Plays (table.enter block data reported slot) course outcome final) :
    route.Calm course ∨ ∃ request error after, course = (request, .error error) :: after ∧
      route.Takes request block.tag data error ∧
      Plays (table.redirect route block data error slot) after outcome final := by
  rcases plays_bind_iff.mp plays with
    ⟨result, _, first, second, asked, ends, rfl⟩ | ⟨failure, asked, rfl⟩
  · rcases call_cases hroute rfl asked with
      ⟨calm, nothing⟩ | ⟨error, after, made, rfl, takes, redirects, same⟩
    · cases nothing result rfl
      dsimp only at ends
      split at ends
      · have told : (table.reportLife "Enter" block.state.text >>= fun _ =>
            Pure.pure (⟨block.tag, data⟩ : Entry)).Preserves fun past _ => route.Calm past :=
          .bind report_calm fun _ => .pure
        exact .inl (calm.append (told.plays .nil ends))
      · obtain ⟨rfl, -, -⟩ := plays_done_iff.mp ends
        exact .inl (by simpa using calm)
    · cases made with
      | ok entry =>
        cases same
        obtain ⟨rfl, rfl, rfl⟩ := plays_done_iff.mp ends
        exact .inr ⟨_, error, after, by simp, takes, redirects⟩
      | error failure => cases same
  · rcases call_cases hroute rfl asked with
      ⟨calm, -⟩ | ⟨error, after, made, rfl, takes, redirects, same⟩
    · exact .inl calm
    · cases made with
      | ok entry => cases same
      | error failure =>
        cases same
        exact .inr ⟨_, error, after, rfl, takes, redirects⟩

variable (sound : table.Sound) {block : Block} (hmem : block ∈ table.blocks) {data : Value}
include sound hmem

theorem runActions_heeds {transitions : List Transition}
    (subset : transitions ⊆ block.transitions) :
    table.Heeds route [block] (table.runActions block data transitions) := by
  induction transitions with
  | nil => exact heeds_none
  | cons transition rest ih =>
    have source := sound.source_tag hmem (subset (by simp : transition ∈ transition :: rest))
    have heeds : table.Heeds route [block] (table.call block data (.action transition data)) :=
      call_heeds hroute (by simp [Request.subject?, source])
    refine Triple.bind heeds fun result => ?_
    cases result with
    | some entry => exact heeds_some
    | none => exact ih (fun _ h => subset (List.mem_cons_of_mem _ h))

theorem leave_heeds : table.Heeds route [block] (table.leave block data) := by
  refine Triple.bind (callHook_heeds hroute) fun result => ?_
  cases result with
  | some entry => exact heeds_some
  | none => exact runActions_heeds hroute sound hmem (List.Subset.refl _)

theorem retire_yields : table.Yields route [block] (table.retire block data) :=
  (leave_heeds hroute sound hmem).bind (fun _ => rfl) (calm_bind report_calm fun _ => Yields.pure)

theorem take_yields {transition : Transition} (ht : transition ∈ block.transitions) :
    table.Yields route table.blocks (table.take block transition data) := by
  obtain ⟨target, htarget⟩ := sound.block?_of_transition hmem ht
  refine ((leave_heeds hroute sound hmem).weaken (by simpa using hmem)).bind (fun _ => rfl) ?_
  dsimp only
  refine calm_bind report_calm fun _ => calm_bind report_calm fun _ => ?_
  rw [block_found htarget, pure_bind]
  refine calm_bind (.demand (spared nofun)) fun converted => ?_
  split
  · exact Triple.refuse fun _ _ calm => .inl calm
  · exact (enter_yields hroute).weaken (by simpa using mem_of_block? htarget)

omit hroute sound hmem in
theorem choose_calm {transitions : List Transition} :
    (choose data transitions).Triple (fun past _ => route.Calm past)
      (fun chosen past _ => route.Calm past ∧ ∀ transition ∈ chosen, transition ∈ transitions)
      (table.Fails route owners) := by
  induction transitions with
  | nil =>
    exact Triple.pure fun _ _ calm => ⟨calm, by simp⟩
  | cons transition rest ih =>
    refine calm_bind (.demand (spared nofun)) fun answer => ?_
    generalize Guard.coerce answer = verdict
    match verdict with
    | .error error =>
      exact Triple.refuse fun _ _ calm => .inl calm
    | .ok .transit =>
      exact Triple.pure fun _ _ calm => ⟨calm, by simp⟩
    | .ok .remain =>
      exact ih.mono (fun _ _ calm => calm) (fun chosen _ _ after =>
        ⟨after.1, fun transition h => List.mem_cons_of_mem _ (after.2 transition h)⟩)
        (fun _ _ _ h => h)

theorem run_yields : table.Yields route table.blocks (table.run block data) := by
  refine calm_bind report_calm fun _ => ?_
  refine ((callHook_heeds hroute).weaken (by simpa using hmem)).bind (fun _ => rfl) ?_
  refine Triple.bind choose_calm fun chosen => .given fun hchosen => ?_
  cases chosen with
  | some transition => exact take_yields hroute sound hmem (hchosen transition rfl)
  | none => exact Yields.pure

end

/-! ## 5. Calls -/

variable {channels : Option Channels} {given : Value}

/-- How a call ends after a failure that led to the given entry: `before` and `rest` are its course
    up to the failure and behind the detour. -/
inductive Aftermath (table : Table) (route : FailureRoute) (channels : Option Channels) (slot : Slot)
    (entry : Entry) : Call → Course → Course → Except Failure Reply → Slot → Prop where
  /-- A start reports itself and keeps the entry. -/
  | start {data : Value} {before : Course} (answer : Answer) :
      Aftermath table route channels slot entry (.start data) before [(table.startLine, answer)]
        ((answer.mapError .raised).map fun _ => .nothing) (.holding entry)
  /-- A step keeps the entry. -/
  | step {before : Course} :
      Aftermath table route channels slot entry .step before [] (.ok .nothing) (.holding entry)
  /-- A stop returns the entry. -/
  | stop {before : Course} :
      Aftermath table route channels slot entry .stop before []
        (.ok (.snapshot ⟨entry.tag, route.errorBlock.kind, entry.data⟩)) (.fresh table)
  /-- If it was the pending entry that failed, all calls but a step go on with the error state. -/
  | resumed {call : Call} {rest : Course} {outcome : Except Failure Reply} {final : Slot}
      (pending : slot.pending = true) (makesUp : call.Enters) (other : call ≠ .step)
      (goes : Plays (call.operation table channels (.holding entry)) rest outcome final) :
      Aftermath table route channels slot entry call [] rest outcome final

/-- The cases of a call: no failure is intercepted, or one is, and the call ends with its aftermath.
    -/
inductive Turns (table : Table) (route : FailureRoute) (channels : Option Channels) (slot : Slot) :
    Call → Course → Except Failure Reply → Slot → Prop where
  | calm {call : Call} {course : Course} {outcome : Except Failure Reply} {final : Slot}
      (calm : route.Calm course) : Turns table route channels slot call course outcome final
  | diverted {call : Call} {before after rest : Course} {outcome : Except Failure Reply}
      {final first last : Slot} {request : Request} {owner : Block} {data error : Value}
      {result : Except Failure Entry} (calm : route.Calm before) (mem : owner ∈ table.blocks)
      (takes : route.Takes request owner.tag data error)
      (redirects : Plays (table.redirect route owner data error first) after result last)
      (calmRest : route.Calm rest)
      (ends : ∀ entry, result = .ok entry →
        table.Aftermath route channels slot entry call before rest outcome final) :
      Turns table route channels slot call (before ++ (request, .error error) :: (after ++ rest))
        outcome final

/-- Behind a diverted part of a call there is nothing left to be intercepted. -/
theorem Diverted.turns {owners : List Block} {result : Except Failure Entry}
    (h : table.Diverted route owners result course) (subset : owners ⊆ table.blocks) {call : Call}
    {rest whole : Course} (cut : whole = course ++ rest) {outcome : Except Failure Reply}
    (calmRest : route.Calm rest)
    (ends : ∀ before entry, result = .ok entry →
      table.Aftermath route channels slot entry call before rest outcome final) :
    table.Turns route channels slot call whole outcome final := by
  obtain ⟨calm, mem, takes, redirects⟩ := h
  rw [cut, List.append_assoc, List.cons_append]
  exact .diverted calm (subset mem) takes redirects calmRest (ends _)

/-- Where data failed, the course is diverted. -/
theorem Turns.of_takes {call : Call} {outcome : Except Failure Reply}
    (turned : table.Turns route channels slot call course outcome final) {before after : Course}
    {request : Request} {tag : String} {data error : Value}
    (failed : course = before ++ (request, .error error) :: after)
    (takes : route.Takes request tag data error) :
    ∃ owner first last detoured rest result, owner ∈ table.blocks ∧ owner.tag = tag ∧
      after = detoured ++ rest ∧
      Plays (table.redirect route owner data error first) detoured result last ∧
      ∀ entry, result = .ok entry →
        table.Aftermath route channels slot entry call before rest outcome final := by
  cases turned with
  | calm calm => exact absurd takes (calm request error (failed ▸ by simp) tag data)
  | diverted calm mem takes' redirects calmRest ends =>
    obtain ⟨rfl, rfl, rfl, rfl⟩ := FailureRoute.split_unique failed.symm takes takes' calm
      ((redirect_calm redirects).append calmRest)
    have subject := takes'.subject
    rw [takes.subject] at subject
    cases subject
    exact ⟨_, _, _, _, _, _, mem, rfl, rfl, redirects, ends⟩

theorem Turns.prepend {call : Call} {past : Course} {outcome : Except Failure Reply}
    {entry : Entry} (h : table.Turns route channels (.holding entry) call course outcome final)
    (calm : route.Calm past) :
    table.Turns route channels slot call (past ++ course) outcome final := by
  cases h with
  | calm calm' => exact .calm (calm.append calm')
  | diverted calm' mem takes redirects calmRest ends =>
    rw [← List.append_assoc]
    refine .diverted (calm.append calm') mem takes redirects calmRest fun entry made => ?_
    cases ends entry made with
    | start answer => exact .start answer
    | step => exact .step
    | stop => exact .stop
    | resumed pending => cases pending

theorem stopLine_calm (value : Value) (calm : route.Calm course) :
    route.Calm ((table.stopLine, .ok value) :: course) :=
  FailureRoute.Calm.append .ok calm

section

variable (sound : table.Sound) (hroute : table.failure = some route)
include sound hroute

theorem redirect_tag {owner : Block} (mem : owner ∈ table.blocks) {request : Request}
    {data error : Value} (takes : route.Takes request owner.tag data error) {entry : Entry}
    (redirects : Plays (table.redirect route owner data error slot) course (.ok entry) final) :
    entry.tag = route.errorBlock.tag := by
  obtain ⟨conversion, known⟩ := sound.conversions route hroute owner mem takes.other
  rcases redirect_cases known redirects with ⟨_, _, _, _, same, _⟩ | ⟨_, same, _⟩
  · cases same
    rfl
  · cases same

theorem Diverted.tag {owners : List Block} {entry : Entry}
    (h : table.Diverted route owners (.ok entry) course) (subset : owners ⊆ table.blocks) :
    entry.tag = route.errorBlock.tag := by
  obtain ⟨_, mem, takes, redirects⟩ := h
  exact redirect_tag sound hroute (subset mem) takes redirects

/-- Data of the error state is never redirected. -/
theorem retire_calm {block : Block} (hmem : block ∈ table.blocks)
    (same : block.tag = route.errorBlock.tag) {data : Value} {result : Except Failure Entry}
    (plays : Plays (table.retire block data slot) course result final) : route.Calm course := by
  rcases (retire_yields hroute sound hmem).plays plays with calm | diverted
  · exact calm
  · obtain ⟨_, mem, takes, _⟩ := diverted
    cases List.mem_singleton.mp mem
    exact absurd same takes.other

/-- A call that continues with the error state intercepts nothing. -/
theorem Passage.calm_of_errorState {entry : Entry} {call : Call} {outcome : Except Failure Reply}
    (passage : table.Passage channels given (.holding entry) call course outcome final)
    (here : entry.tag = route.errorBlock.tag) (other : call ≠ .step) : route.Calm course := by
  generalize hslot : Slot.holding entry = slot at passage
  cases passage with
  | refused | reset | stopHalted => exact .nil
  | quiet _ carries => exact .of_carries carries
  | startFailed | started => exact absurd hslot Slot.holding_ne_fresh
  | entryFailed | stepRedirected | resumed => exact absurd hslot Slot.holding_ne_seeded
  | stepped => exact absurd rfl other
  | stopUnreported => exact .one nofun
  | stopFailed value known _ retires | stopped value known _ retires =>
    cases Slot.holding_inj.mp hslot
    have same := (tag_of_block? known).trans here
    exact stopLine_calm value (retire_calm sound hroute (mem_of_block? known) same retires)

/-- An entry that failed leads to the error state, and settles what becomes of the call. -/
theorem enter_turns {block : Block} (hmem : block ∈ table.blocks) {data : Value} {reported : Bool}
    {first last : Slot} {result : Except Failure Entry}
    (plays : Plays (table.enter block data reported first) course result last) :
    route.Calm course ∨ (∀ entry, result = .ok entry →
        entry.tag = route.errorBlock.tag ∧ entry.tag ≠ block.tag) ∧
      ∀ {channels : Option Channels} {slot final : Slot} {call : Call} {rest whole : Course}
        {outcome : Except Failure Reply}, whole = course ++ rest → route.Calm rest →
        (∀ entry, result = .ok entry →
          table.Aftermath route channels slot entry call [] rest outcome final) →
        table.Turns route channels slot call whole outcome final := by
  rcases enter_cases hroute plays with calm | ⟨request, error, after, rfl, takes, redirects⟩
  · exact .inl calm
  · refine .inr ⟨?_, ?_⟩
    · rintro entry rfl
      have tag := redirect_tag sound hroute hmem takes redirects
      exact ⟨tag, fun same => takes.other (same.symm.trans tag)⟩
    · rintro channels slot final call rest _ outcome rfl calmRest ends
      exact .diverted .nil hmem takes redirects calmRest ends

/-- Every call turns out calm, or diverted once. -/
theorem Passage.turns {call : Call} {outcome : Except Failure Reply}
    (passage : table.Passage channels given slot call course outcome final) :
    table.Turns route channels slot call course outcome final := by
  induction passage with
  | refused | reset | stopHalted => exact .calm .nil
  | quiet _ carries => exact .calm (.of_carries carries)
  | startFailed initial enters | entryFailed _ initial enters =>
    rcases enter_turns sound hroute (mem_of_block? initial) enters with calm | ⟨-, turned⟩
    · exact .calm calm
    · exact turned (by simp) .nil nofun
  | started answer initial enters =>
    rcases enter_turns sound hroute (mem_of_block? initial) enters with calm | ⟨-, turned⟩
    · exact .calm (calm.append (.one nofun))
    · refine turned rfl (.one nofun) ?_
      rintro _ ⟨⟩
      exact .start answer
  | stepped known _ runs =>
    rcases (run_yields hroute sound (mem_of_block? known)).plays runs with calm | diverted
    · exact .calm calm
    · refine diverted.turns (List.Subset.refl _) (by simp) .nil ?_
      rintro before entry rfl
      exact .step
  | stopUnreported => exact .calm (.one nofun)
  | stopFailed value known _ retires =>
    rcases (retire_yields hroute sound (mem_of_block? known)).plays retires with calm | diverted
    · exact .calm (stopLine_calm value calm)
    · have told := diverted.prepend (.ok : route.Calm [(table.stopLine, .ok value)])
      exact told.turns (by simpa using mem_of_block? known) (by simp) .nil nofun
  | stopped value known _ retires knownLast =>
    rcases (retire_yields hroute sound (mem_of_block? known)).plays retires with calm | diverted
    · exact .calm (stopLine_calm value calm)
    · have subset := List.cons_subset.mpr ⟨mem_of_block? known, List.nil_subset _⟩
      have told := diverted.prepend (.ok : route.Calm [(table.stopLine, .ok value)])
      refine told.turns subset (by simp) .nil ?_
      rintro before _ ⟨⟩
      rw [diverted.tag sound hroute subset, sound.errorBlock route hroute] at knownLast
      cases knownLast
      exact .stop
  | stepRedirected initial enters =>
    rcases enter_turns sound hroute (mem_of_block? initial) enters with calm | ⟨-, turned⟩
    · exact .calm calm
    · refine turned (by simp) .nil ?_
      rintro _ ⟨⟩
      exact .step
  | resumed makesUp initial enters here goes rest ih =>
    rcases enter_turns sound hroute (mem_of_block? initial) enters with calm | ⟨led, turned⟩
    · exact ih.prepend calm
    · obtain ⟨tag, elsewhere⟩ := led _ rfl
      -- a step would have been satisfied, and the others find the error state, which is spared
      have other : _ ≠ Call.step := fun same =>
        elsewhere ((here same).trans (tag_of_block? initial).symm)
      refine turned rfl (rest.calm_of_errorState sound hroute tag other) ?_
      rintro _ ⟨⟩
      exact .resumed rfl makesUp other goes

end

end Table

end MachineSpec
