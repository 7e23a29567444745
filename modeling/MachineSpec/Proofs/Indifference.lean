/-
MachineSpec.Proofs.Indifference — trace flags and type checks do not change behaviour.

A machine is compiled under options: which kinds of trace lines are switched on, and whether
the results of conversions are checked. `Table.under` is the table of the same machine under
other options. Both machines report the same lines, though perhaps to no sink; and where
only one of them checks a conversion, it may end with an error while the other goes on.

`Mirrors` relates the dialogues of two such machines, for sinks that neither raise nor call
the machine. There is one rule for each way of building an operation; `Mirrors.checked` is
the one where the machines can part.

* `Workshop.options_indifferent`: a text is rejected alike under all options, or compiles to
  machines that make the same requests at every moment of two runs with the same calls, and
  end alike with the same slot. If only one of them checks conversions, this holds until it
  ends with an error about types.
-/
import MachineSpec.Proofs.Lockstep
import MachineSpec.Proofs.Workshop

namespace MachineSpec

/-! ## 1. Reports -/

/-- Whether the request is a report, to which no answer is waited for but that it was taken. -/
def Request.reports : Request → Bool
  | .report _ _ => true
  | _ => false

/-- The same request, or the same line of a grain that is switched on for the one machine only. -/
inductive Request.Mirrors : Request → Request → Prop where
  | refl (request : Request) : Mirrors request request
  | report (enabled enabled' : Bool) (line : String) :
      Mirrors (.report enabled line) (.report enabled' line)

/-- The request is answered alike on both sides. It does not matter what is returned for a report, as
    long as nothing is raised. -/
def Request.Answered (request : Request) (answer answer' : Answer) : Prop :=
  if request.reports then (∃ value, answer = .ok value) ∧ ∃ value, answer' = .ok value
  else answer = answer'

namespace Request

variable {request request' : Request} {answer answer' : Answer}

theorem Answered.eq (answered : request.Answered answer answer') (asks : request.reports = false) :
    answer = answer' := by
  simpa [Answered, asks] using answered

theorem answered_self (answer : Answer)
    (taken : request.reports = true → ∃ value, answer = .ok value) :
    request.Answered answer answer := by
  unfold Answered
  split
  · rename_i report
    exact ⟨taken report, taken report⟩
  · rfl

/-- Only reports are not the same. -/
theorem Mirrors.eq (mirrors : request.Mirrors request') (asks : request.reports = false) :
    request = request' := by
  cases mirrors with
  | refl => rfl
  | report => cases asks

end Request

/-! ## 2. Dialogues that mirror each other -/

/-- An error about types, where the one machine looks into what conversions make and the other does
    not. -/
structure Failure.Strict (checked checked' : Bool) (failure : Failure) : Prop where
  stricter : checked = true ∧ checked' = false
  error : ∃ error, failure = .error error ∧ error.kind = .transitionError

namespace Dialogue

variable {α α' β β' : Type} {strict : Failure → Prop} {same : α → α' → Prop} {ended : β → β' → Prop}

/-- The dialogues cannot be told apart, unless the first ends with one of the strict failures. -/
inductive Mirrors (strict : Failure → Prop) (same : α → α' → Prop) :
    Dialogue α → Dialogue α' → Prop where
  | ok {a : α} {a' : α'} (slot : Slot) (results : same a a') :
      Mirrors strict same (.done (.ok a) slot) (.done (.ok a') slot)
  | error (failure : Failure) (slot : Slot) :
      Mirrors strict same (.done (.error failure) slot) (.done (.error failure) slot)
  | strict {failure : Failure} {slot : Slot} {dialogue : Dialogue α'} (excused : strict failure) :
      Mirrors strict same (.done (.error failure) slot) dialogue
  | ask {request request' : Request} (slot : Slot) {resume : Answer → Slot → Dialogue α}
      {resume' : Answer → Slot → Dialogue α'} (alike : request.Mirrors request')
      (rest : ∀ answer answer' final, request.Answered answer answer' →
        Mirrors strict same (resume answer final) (resume' answer' final)) :
      Mirrors strict same (.ask request slot resume) (.ask request' slot resume')

namespace Mirrors

theorem andThen {dialogue : Dialogue α} {dialogue' : Dialogue α'} {next : α → Operation β}
    {next' : α' → Operation β'} (mirrors : dialogue.Mirrors strict same dialogue')
    (rest : ∀ a a', same a a' → ∀ slot, (next a slot).Mirrors strict ended (next' a' slot)) :
    (dialogue.andThen next).Mirrors strict ended (dialogue'.andThen next') := by
  induction mirrors with
  | ok slot results => exact rest _ _ results slot
  | error failure slot => exact .error failure slot
  | strict excused => exact .strict excused
  | ask slot alike _ ih => exact .ask slot alike ih

end Mirrors

end Dialogue

/-- Mirrored requests with the same answers. -/
def Course.Mirrors : Course → Course → Prop :=
  List.Forall₂ fun asked asked' => asked.1.Mirrors asked'.1 ∧ asked.2 = asked'.2

/-- Nothing was raised by those who take reports. -/
def Course.Undisturbed (course : Course) : Prop :=
  ∀ asked ∈ course, asked.1.reports = true → ∃ value, asked.2 = .ok value

/-- A course of the one on which no report raises is a course of the other, request by request, and
    ends in the same way, unless it ends with a strict failure. -/
theorem Dialogue.Mirrors.plays {α : Type} {strict : Failure → Prop} {dialogue dialogue' : Dialogue α}
    (mirrors : dialogue.Mirrors strict Eq dialogue') {course : Course}
    {outcome : Except Failure α} {final : Slot} (plays : Plays dialogue course outcome final)
    (undisturbed : course.Undisturbed) (lenient : ∀ failure, outcome = .error failure → ¬ strict failure) :
    ∃ course', Course.Mirrors course course' ∧ Plays dialogue' course' outcome final := by
  induction plays generalizing dialogue' with
  | done outcome slot =>
    cases mirrors with
    | ok _ results => exact ⟨[], .nil, results ▸ .done _ _⟩
    | error => exact ⟨[], .nil, .done _ _⟩
    | strict excused => exact absurd excused (lenient _ rfl)
  | @ask request slot resume answer course outcome final _ ih =>
    cases mirrors with
    | ask _ alike rest =>
      obtain ⟨here, later⟩ := List.forall_mem_cons.mp undisturbed
      obtain ⟨course', mirrored, played⟩ :=
        ih (rest answer answer slot (Request.answered_self answer here)) later lenient
      exact ⟨(_, answer) :: course', .cons ⟨alike, rfl⟩ mirrored, .ask played⟩

/-! ## 3. Operations that mirror each other -/

namespace Operation

variable {α α' β β' : Type} {strict : Failure → Prop} {same : α → α' → Prop} {ended : β → β' → Prop}

/-- From every slot the dialogues of the operations mirror each other. -/
def Mirrors (strict : Failure → Prop) (same : α → α' → Prop) (operation : Operation α)
    (operation' : Operation α') : Prop :=
  ∀ slot, (operation slot).Mirrors strict same (operation' slot)

namespace Mirrors

theorem pure {a : α} : (Pure.pure a : Operation α).Mirrors strict Eq (Pure.pure a) :=
  fun slot => .ok slot rfl

theorem fail {failure : Failure} :
    (Operation.fail failure : Operation α).Mirrors strict Eq (Operation.fail failure) :=
  fun slot => .error failure slot

theorem ofExcept {result : Except Error α} :
    (Operation.ofExcept result).Mirrors strict Eq (Operation.ofExcept result) := by
  cases result with
  | ok a => exact pure
  | error error => exact fail

theorem slot : Operation.slot.Mirrors strict Eq Operation.slot := fun slot => .ok slot rfl

theorem change {f : Slot → Slot} :
    (Operation.change f).Mirrors strict Eq (Operation.change f) := fun slot => .ok (f slot) rfl

theorem bind {operation : Operation α} {operation' : Operation α'} {next : α → Operation β}
    {next' : α' → Operation β'} (mirrors : operation.Mirrors strict same operation')
    (rest : ∀ a a', same a a' → (next a).Mirrors strict ended (next' a')) :
    (operation >>= next).Mirrors strict ended (operation' >>= next') :=
  fun slot => (mirrors slot).andThen rest

/-- Where the results are equal, so are the beginnings of what follows. -/
theorem bind_eq {operation operation' : Operation α} {next : α → Operation β}
    {next' : α → Operation β'} (mirrors : operation.Mirrors strict Eq operation')
    (rest : ∀ a, (next a).Mirrors strict ended (next' a)) :
    (operation >>= next).Mirrors strict ended (operation' >>= next') :=
  mirrors.bind fun a _ results => results ▸ rest a

theorem map {f : α → β} {operation operation' : Operation α}
    (mirrors : operation.Mirrors strict Eq operation') :
    (f <$> operation).Mirrors strict Eq (f <$> operation') :=
  mirrors.bind_eq fun _ => pure

theorem attempt {request : Request} (asks : request.reports = false) :
    (Operation.attempt request).Mirrors strict Eq (Operation.attempt request) :=
  fun slot => .ask slot (.refl request) fun _ _ final answered => .ok final (answered.eq asks)

theorem demand {request : Request} (asks : request.reports = false) :
    (Operation.demand request).Mirrors strict Eq (Operation.demand request) := by
  unfold Operation.demand
  refine (attempt asks).bind_eq fun answer => ?_
  cases answer with
  | ok value => exact pure
  | error exception => exact fail

/-- A line is reported, and what is returned for it is dropped. -/
theorem report {enabled enabled' : Bool} {line : String} :
    (Operation.demand (.report enabled line)).Mirrors strict (fun _ _ => True)
      (Operation.demand (.report enabled' line)) := by
  intro slot
  refine .ask slot (.report ..) fun answer answer' final answered => ?_
  obtain ⟨⟨value, rfl⟩, value', rfl⟩ := answered
  exact .ok final trivial

/-- Where only the first looks into what was made, it may refuse it. -/
theorem checked {checks checks' fits : Bool} {error : Error} {next next' : Operation α}
    (kind : error.kind = .transitionError) (order : checks' = true → checks = true)
    (rest : next.Mirrors (Failure.Strict checks checks') Eq next') :
    (if checks && !fits then refuse error else next).Mirrors (Failure.Strict checks checks') Eq
      (if checks' && !fits then refuse error else next') := by
  cases fits with
  | true => simpa using rest
  | false =>
    cases checks' with
    | true =>
      rw [order rfl]
      exact fail
    | false =>
      cases checks with
      | true => exact fun slot => .strict ⟨⟨rfl, rfl⟩, error, rfl, kind⟩
      | false => simpa using rest

end Mirrors

end Operation

/-! ## 4. One machine under two sets of options -/

namespace Table

open Operation

/-- The table of the same machine under other options. -/
def under (table : Table) (flags : TraceFlags) (checkTypes : Bool) : Table :=
  { table with flags, checkTypes }

variable {table : Table} {flags : TraceFlags} {checkTypes : Bool}

theorem under_create : (table.under flags checkTypes).create = table.create := rfl

theorem under_failure : (table.under flags checkTypes).failure = table.failure := rfl

section

variable {block : Block} {data : Value} {strict : Failure → Prop}

/-! ### Parts in which nobody is asked -/

theorem block_mirrors {tag : String} : (table.block tag).Mirrors strict Eq (table.block tag) := by
  unfold Table.block
  cases table.block? tag with
  | some block => exact .pure
  | none => exact .fail

theorem takeData_mirrors : table.takeData.Mirrors strict Eq table.takeData := by
  unfold Table.takeData
  refine Mirrors.slot.bind_eq fun slot => ?_
  split
  · exact .fail
  · exact Mirrors.change.bind_eq fun _ => .pure

theorem requireChannels_mirrors {channels : Option Channels} :
    (table.requireChannels channels).Mirrors strict Eq (table.requireChannels channels) := by
  cases channels with
  | some channels => exact .pure
  | none => exact .fail

theorem activeChannel_mirrors {found : List (String × Channel)} {target : Designator}
    {rejected : Value} : (table.activeChannel found target rejected).Mirrors strict Eq
      (table.activeChannel found target rejected) := by
  unfold Table.activeChannel
  refine Mirrors.slot.bind_eq fun slot => Mirrors.ofExcept.bind_eq fun active => ?_
  split
  · split
    · exact .fail
    · exact .pure
  · exact .fail

/-! ### Reports -/

theorem reportLife_mirrors {action detail : String} : (table.reportLife action detail).Mirrors strict
    Eq ((table.under flags checkTypes).reportLife action detail) :=
  Mirrors.report.bind fun _ _ _ => .pure

theorem reportStep_mirrors {action detail : String} : (table.reportStep action detail).Mirrors strict
    Eq ((table.under flags checkTypes).reportStep action detail) :=
  Mirrors.report.bind fun _ _ _ => .pure

theorem reportMessage_mirrors {action detail : String} :
    (table.reportMessage action detail).Mirrors strict Eq
      ((table.under flags checkTypes).reportMessage action detail) :=
  Mirrors.report.bind fun _ _ _ => .pure

theorem callErrorState_mirrors {route : FailureRoute} {request : Request}
    (asks : request.reports = false) :
    (callErrorState route request).Mirrors strict Eq (callErrorState route request) := by
  unfold callErrorState
  refine (Mirrors.attempt asks).bind_eq fun answer => ?_
  cases answer with
  | ok value => exact .pure
  | error exception =>
    dsimp only
    split
    · exact .fail
    · exact .fail

theorem choose_mirrors {transitions : List Transition} :
    (choose data transitions).Mirrors strict Eq (choose data transitions) := by
  induction transitions with
  | nil => exact .pure
  | cons transition rest ih =>
    unfold choose
    refine (Mirrors.demand rfl).bind_eq fun answer => Mirrors.ofExcept.bind_eq fun verdict => ?_
    cases verdict with
    | transit => exact .pure
    | remain => exact ih

end

section

variable {block : Block} {data : Value} (order : checkTypes = true → table.checkTypes = true)
include order

/-! ### Dealing with data -/

theorem redirect_mirrors {route : FailureRoute} {exception : Value} :
    (table.redirect route block data exception).Mirrors (Failure.Strict table.checkTypes checkTypes)
      Eq ((table.under flags checkTypes).redirect route block data exception) := by
  unfold Table.redirect
  refine reportLife_mirrors.bind_eq fun _ => ?_
  cases route.conversions.lookup block.tag with
  | none => exact .fail
  | some conversion =>
    refine (Mirrors.demand rfl).bind_eq fun made => .checked rfl order ?_
    refine (Mirrors.demand rfl).bind_eq fun _ => ?_
    exact (callErrorState_mirrors rfl).bind_eq fun _ => .pure

theorem call_mirrors {request : Request} (asks : request.reports = false) :
    (table.call block data request).Mirrors (Failure.Strict table.checkTypes checkTypes) Eq
      ((table.under flags checkTypes).call block data request) := by
  unfold Table.call
  rw [under_failure]
  cases table.failure with
  | none => exact (Mirrors.demand asks).bind_eq fun _ => .pure
  | some route =>
    dsimp only
    split
    · exact (callErrorState_mirrors asks).bind_eq fun _ => .pure
    · refine (Mirrors.attempt asks).bind_eq fun answer => ?_
      cases answer with
      | ok value => exact .pure
      | error exception =>
        dsimp only
        split
        · exact (redirect_mirrors order).map
        · exact .fail

theorem enter_mirrors {reported : Bool} :
    (table.enter block data reported).Mirrors (Failure.Strict table.checkTypes checkTypes) Eq
      ((table.under flags checkTypes).enter block data reported) := by
  unfold Table.enter
  refine (call_mirrors order rfl).bind_eq fun redirected => ?_
  cases redirected with
  | some entry => exact .pure
  | none =>
    cases reported with
    | true => exact reportLife_mirrors.bind_eq fun _ => .pure
    | false => exact fun slot => .ok slot rfl

theorem runActions_mirrors {transitions : List Transition} :
    (table.runActions block data transitions).Mirrors (Failure.Strict table.checkTypes checkTypes)
      Eq ((table.under flags checkTypes).runActions block data transitions) := by
  induction transitions with
  | nil => exact .pure
  | cons transition rest ih =>
    unfold Table.runActions
    refine (call_mirrors order rfl).bind_eq fun redirected => ?_
    cases redirected with
    | some entry => exact .pure
    | none => exact ih

theorem leave_mirrors :
    (table.leave block data).Mirrors (Failure.Strict table.checkTypes checkTypes) Eq
      ((table.under flags checkTypes).leave block data) := by
  unfold Table.leave
  refine (call_mirrors order rfl).bind_eq fun redirected => ?_
  cases redirected with
  | some entry => exact .pure
  | none => exact runActions_mirrors order

theorem retire_mirrors :
    (table.retire block data).Mirrors (Failure.Strict table.checkTypes checkTypes) Eq
      ((table.under flags checkTypes).retire block data) := by
  unfold Table.retire
  refine (leave_mirrors order).bind_eq fun redirected => ?_
  cases redirected with
  | some entry => exact .pure
  | none => exact reportLife_mirrors.bind_eq fun _ => .pure

theorem take_mirrors {transition : Transition} :
    (table.take block transition data).Mirrors (Failure.Strict table.checkTypes checkTypes) Eq
      ((table.under flags checkTypes).take block transition data) := by
  unfold Table.take
  refine (leave_mirrors order).bind_eq fun redirected => ?_
  cases redirected with
  | some entry => exact .pure
  | none =>
    refine reportLife_mirrors.bind_eq fun _ => reportLife_mirrors.bind_eq fun _ => ?_
    refine block_mirrors.bind_eq fun target => (Mirrors.demand rfl).bind_eq fun made => ?_
    exact .checked rfl order (enter_mirrors order)

theorem run_mirrors :
    (table.run block data).Mirrors (Failure.Strict table.checkTypes checkTypes) Eq
      ((table.under flags checkTypes).run block data) := by
  unfold Table.run
  refine reportStep_mirrors.bind_eq fun _ => (call_mirrors order rfl).bind_eq fun redirected => ?_
  cases redirected with
  | some entry => exact .pure
  | none =>
    refine choose_mirrors.bind_eq fun chosen => ?_
    cases chosen with
    | some transition => exact take_mirrors order
    | none => exact .pure

/-! ### Calls -/

theorem start_mirrors :
    (table.start data).Mirrors (Failure.Strict table.checkTypes checkTypes) Eq
      ((table.under flags checkTypes).start data) := by
  unfold Table.start
  refine Mirrors.slot.bind_eq fun slot => ?_
  split
  · exact .fail
  · refine Mirrors.ofExcept.bind_eq fun _ => Mirrors.change.bind_eq fun _ => ?_
    refine block_mirrors.bind_eq fun block => (enter_mirrors order).bind_eq fun entry => ?_
    exact Mirrors.change.bind_eq fun _ => reportLife_mirrors

theorem enterPending_mirrors :
    table.enterPending.Mirrors (Failure.Strict table.checkTypes checkTypes) Eq
      (table.under flags checkTypes).enterPending := by
  unfold Table.enterPending
  refine Mirrors.slot.bind_eq fun slot => ?_
  split
  · refine Mirrors.change.bind_eq fun _ => Mirrors.slot.bind_eq fun slot => ?_
    refine block_mirrors.bind_eq fun block => takeData_mirrors.bind_eq fun data => ?_
    exact (enter_mirrors order).bind_eq fun entry => Mirrors.change.bind_eq fun _ => .pure
  · exact .pure

theorem step_mirrors :
    table.step.Mirrors (Failure.Strict table.checkTypes checkTypes) Eq
      (table.under flags checkTypes).step := by
  unfold Table.step
  refine (enterPending_mirrors order).bind_eq fun entered => ?_
  split
  · exact .pure
  · refine takeData_mirrors.bind_eq fun data => Mirrors.slot.bind_eq fun slot => ?_
    refine block_mirrors.bind_eq fun block => (run_mirrors order).bind_eq fun entry => ?_
    exact .change

theorem stop_mirrors :
    table.stop.Mirrors (Failure.Strict table.checkTypes checkTypes) Eq
      (table.under flags checkTypes).stop := by
  unfold Table.stop
  refine (enterPending_mirrors order).bind_eq fun _ => Mirrors.slot.bind_eq fun slot => ?_
  split
  · exact Mirrors.change.bind_eq fun _ => .fail
  · refine takeData_mirrors.bind_eq fun data => reportLife_mirrors.bind_eq fun _ => ?_
    refine Mirrors.slot.bind_eq fun slot => block_mirrors.bind_eq fun block => ?_
    refine (retire_mirrors order).bind_eq fun entry => Mirrors.change.bind_eq fun _ => ?_
    exact block_mirrors.bind_eq fun last => .pure

theorem push_mirrors {channels : Option Channels} {target : Designator} {message : Value} :
    (table.push channels target message).Mirrors (Failure.Strict table.checkTypes checkTypes) Eq
      ((table.under flags checkTypes).push channels target message) := by
  unfold Table.push
  refine requireChannels_mirrors.bind_eq fun channels => ?_
  refine (enterPending_mirrors order).bind_eq fun _ => Mirrors.ofExcept.bind_eq fun found => ?_
  refine activeChannel_mirrors.bind_eq fun active => reportMessage_mirrors.bind_eq fun _ => ?_
  exact (Mirrors.demand rfl).bind_eq fun _ => .pure

theorem poll_mirrors {channels : Option Channels} {target payload : Designator} :
    (table.poll channels target payload).Mirrors (Failure.Strict table.checkTypes checkTypes) Eq
      ((table.under flags checkTypes).poll channels target payload) := by
  unfold Table.poll
  refine requireChannels_mirrors.bind_eq fun channels => ?_
  refine (enterPending_mirrors order).bind_eq fun _ => Mirrors.ofExcept.bind_eq fun found => ?_
  refine activeChannel_mirrors.bind_eq fun active => (Mirrors.demand rfl).bind_eq fun message => ?_
  split
  · exact .pure
  · exact reportMessage_mirrors.bind_eq fun _ => .pure

/-- Whatever a machine is called upon for, it does the same under other options. -/
theorem operation_mirrors (call : Call) (channels : Option Channels) :
    (call.operation table channels).Mirrors (Failure.Strict table.checkTypes checkTypes) Eq
      (call.operation (table.under flags checkTypes) channels) := by
  cases call with
  | start data => exact (start_mirrors order).map
  | step => exact (step_mirrors order).map
  | stop => exact (stop_mirrors order).map
  | reset => exact Mirrors.change.map
  | peek => exact (Mirrors.slot.bind_eq fun _ => Mirrors.ofExcept).map
  | isState target => exact (Mirrors.slot.bind_eq fun _ => Mirrors.ofExcept).map
  | push target message => exact (push_mirrors order).map
  | poll target payload => exact (poll_mirrors order).map

end

/-! ## 5. Moments in step -/

/-- The moments of two machines with the same calls: they are created with the same data, get the
    same calls and the same answers, except that their sinks may answer reports differently.
    Callbacks make the same calls on both; sinks make none. After a strict failure of the first the
    runs are no longer related. -/
inductive LiveParallel (table other : Table) (strict : Failure → Prop) : Moment → Moment → Prop where
  | begun {given : Value} {slot slot' : Slot} (call : Call) (channels : Option Channels)
      (created : table.create given = .ok slot) (created' : other.create given = .ok slot') :
      LiveParallel table other strict ⟨call, call.operation table channels slot, []⟩
        ⟨call, call.operation other channels slot', []⟩
  | called {call call' : Call} {outcome outcome' : Except Failure Reply} {slot slot' : Slot}
      (next : Call) (channels : Option Channels)
      (lenient : ∀ failure, outcome = .error failure → ¬ strict failure)
      (live : LiveParallel table other strict ⟨call, .done outcome slot, []⟩
        ⟨call', .done outcome' slot', []⟩) :
      LiveParallel table other strict ⟨next, next.operation table channels slot, []⟩
        ⟨next, next.operation other channels slot', []⟩
  | answered {call call' : Call} {request request' : Request} {slot slot' : Slot}
      {resume resume' : Answer → Slot → Dialogue Reply} {waiting waiting' : List Frame}
      (answer answer' : Answer) (answered : request.Answered answer answer')
      (live : LiveParallel table other strict ⟨call, .ask request slot resume, waiting⟩
        ⟨call', .ask request' slot' resume', waiting'⟩) :
      LiveParallel table other strict ⟨call, resume answer slot, waiting⟩
        ⟨call', resume' answer' slot', waiting'⟩
  | nested {call call' : Call} {request request' : Request} {slot slot' : Slot}
      {resume resume' : Answer → Slot → Dialogue Reply} {waiting waiting' : List Frame}
      (next : Call) (channels : Option Channels) (asks : request.reports = false)
      (live : LiveParallel table other strict ⟨call, .ask request slot resume, waiting⟩
        ⟨call', .ask request' slot' resume', waiting'⟩) :
      LiveParallel table other strict
        ⟨next, next.operation table channels slot, ⟨call, request, resume⟩ :: waiting⟩
        ⟨next, next.operation other channels slot', ⟨call', request', resume'⟩ :: waiting'⟩
  | returned {call call' : Call} {outcome outcome' : Except Failure Reply} {slot slot' : Slot}
      {frame frame' : Frame} {waiting waiting' : List Frame}
      (lenient : ∀ failure, outcome = .error failure → ¬ strict failure)
      (live : LiveParallel table other strict ⟨call, .done outcome slot, frame :: waiting⟩
        ⟨call', .done outcome' slot', frame' :: waiting'⟩) :
      LiveParallel table other strict
        ⟨frame.call, .ask frame.request slot frame.resume, waiting⟩
        ⟨frame'.call, .ask frame'.request slot' frame'.resume, waiting'⟩

end Table

/-- The dialogues have come to the same point: both make the request, or both have ended in the same
    way, with equal slots; or the first has ended with a strict failure. -/
inductive Dialogue.Matches {α : Type} (strict : Failure → Prop) : Dialogue α → Dialogue α → Prop where
  | done (outcome : Except Failure α) (slot : Slot) :
      Matches strict (.done outcome slot) (.done outcome slot)
  | strict {failure : Failure} {slot : Slot} {dialogue : Dialogue α} (excused : strict failure) :
      Matches strict (.done (.error failure) slot) dialogue
  | ask {request request' : Request} (slot : Slot) {resume resume' : Answer → Slot → Dialogue α}
      (alike : request.Mirrors request') :
      Matches strict (.ask request slot resume) (.ask request' slot resume')

theorem Dialogue.Mirrors.matches {α : Type} {strict : Failure → Prop} {dialogue dialogue' : Dialogue α}
    (mirrors : dialogue.Mirrors strict Eq dialogue') : dialogue.Matches strict dialogue' := by
  cases mirrors with
  | ok slot results => exact results ▸ .done _ slot
  | error failure slot => exact .done _ slot
  | strict excused => exact .strict excused
  | ask slot alike _ => exact .ask slot alike

/-- At this moment the two machines are alike: the same call is running, and the same calls wait for
    answers to the same requests. -/
structure Moment.Matches (strict : Failure → Prop) (moment moment' : Moment) : Prop where
  call : moment.call = moment'.call
  doing : moment.doing.Matches strict moment'.doing
  waiting : List.Forall₂ (fun frame frame' : Frame =>
    frame.call = frame'.call ∧ frame.request = frame'.request) moment.waiting moment'.waiting

/-- Two calls that wait for the same answer, and go on alike when it comes. -/
structure Frame.Mirrors (strict : Failure → Prop) (frame frame' : Frame) : Prop where
  call : frame.call = frame'.call
  request : frame.request = frame'.request
  asks : frame.request.reports = false
  resume : ∀ answer slot, (frame.resume answer slot).Mirrors strict Eq (frame'.resume answer slot)

/-- So they are taken up again alike. -/
theorem Frame.Mirrors.ask {strict : Failure → Prop} {frame frame' : Frame}
    (mirrors : frame.Mirrors strict frame') (slot : Slot) :
    (Dialogue.ask frame.request slot frame.resume).Mirrors strict Eq
      (.ask frame'.request slot frame'.resume) := by
  rw [← mirrors.request]
  refine .ask slot (.refl _) fun answer answer' final answered => ?_
  rw [← answered.eq mirrors.asks]
  exact mirrors.resume answer final

/-- They stay alike, up to a strict failure. -/
structure Moment.Mirrors (strict : Failure → Prop) (moment moment' : Moment) : Prop where
  call : moment.call = moment'.call
  doing : moment.doing.Mirrors strict Eq moment'.doing
  waiting : List.Forall₂ (Frame.Mirrors strict) moment.waiting moment'.waiting

theorem Moment.Mirrors.matches {strict : Failure → Prop} {moment moment' : Moment}
    (mirrors : moment.Mirrors strict moment') : moment.Matches strict moment' where
  call := mirrors.call
  doing := mirrors.doing.matches
  waiting := mirrors.waiting.imp fun _ _ frames => ⟨frames.call, frames.request⟩

namespace Table

variable {table other : Table} {strict : Failure → Prop}

theorem mirrors_of_liveParallel (created : other.create = table.create)
    (mirrors : ∀ (call : Call) channels,
      (call.operation table channels).Mirrors strict Eq (call.operation other channels))
    {moment moment' : Moment} (live : table.LiveParallel other strict moment moment') :
    moment.Mirrors strict moment' := by
  induction live with
  | begun call channels here there =>
    rw [created, here] at there
    cases there
    exact ⟨rfl, mirrors call channels _, .nil⟩
  | called next channels lenient _ ih =>
    cases ih.doing with
    | ok => exact ⟨rfl, mirrors next channels _, .nil⟩
    | error => exact ⟨rfl, mirrors next channels _, .nil⟩
    | strict excused => exact absurd excused (lenient _ rfl)
  | answered answer answer' answered _ ih =>
    obtain ⟨call, doing, waiting⟩ := ih
    cases doing with
    | ask slot alike rest => exact ⟨call, rest answer answer' _ answered, waiting⟩
  | nested next channels asks _ ih =>
    obtain ⟨call, doing, waiting⟩ := ih
    cases doing with
    | ask slot alike rest =>
      -- only reports may differ, and this is none
      have same (answer : Answer) (final : Slot) := rest answer answer final
        (Request.answered_self answer fun report => absurd report (by simp [asks]))
      exact ⟨rfl, mirrors next channels _, .cons ⟨call, alike.eq asks, asks, same⟩ waiting⟩
  | returned lenient _ ih =>
    obtain ⟨-, doing, waiting⟩ := ih
    cases waiting with
    | cons frames waiting =>
      cases doing with
      | ok => exact ⟨frames.call, frames.ask _, waiting⟩
      | error => exact ⟨frames.call, frames.ask _, waiting⟩
      | strict excused => exact absurd excused (lenient _ rfl)

end Table

/-! ## 6. Main theorem -/

/-- Two events that are equal up to the answers to reports. -/
structure Event.Mirrors (event event' : Event) : Prop where
  call : event.call = event'.call
  channels : event.channels = event'.channels
  course : Course.Mirrors event.course event'.course
  outcome : event.outcome = event'.outcome

/-- No report was disturbed on the way, and the event is not the end of what the machines have in
    common. -/
structure Event.Common (strict : Failure → Prop) (event : Event) : Prop where
  undisturbed : event.course.Undisturbed
  lenient : ∀ failure, event.outcome = .error failure → ¬ strict failure

namespace Table

variable {table other : Table} {strict : Failure → Prop} {bindings : Bindings} {machine : Machine}
  {flags flags' : TraceFlags} {checkTypes checkTypes' : Bool}

/-- The machines behave alike until the first ends with a strict failure. -/
structure Indifferent (table other : Table) (strict : Failure → Prop) : Prop where
  /-- They are created alike, and what is created has the same name. -/
  creates : ∀ given, other.create given = table.create given
  describes : ∀ className slot, other.describe className slot = table.describe className slot
  /-- They get the same channels. -/
  attaches : ∀ bindings messages,
    Channels.ofMessages bindings other messages = Channels.ofMessages bindings table messages
  /-- With the same calls they are alike at every moment. -/
  shows : ∀ moment moment', table.LiveParallel other strict moment moment' →
    moment.Matches strict moment'
  /-- Every run of the first is one of the other, event by event, with the same slots. -/
  follows : ∀ slot trail, table.Trail slot trail → (∀ step ∈ trail, step.1.Common strict) →
    ∃ trail', other.Trail slot trail' ∧
      List.Forall₂ (fun step step' => step.1.Mirrors step'.1 ∧ step.2 = step'.2) trail trail'

theorem follows_of_mirrors (mirrors : ∀ (call : Call) channels,
      (call.operation table channels).Mirrors strict Eq (call.operation other channels))
    {slot : Slot} {trail : List (Event × Slot)} (goes : table.Trail slot trail)
    (common : ∀ step ∈ trail, step.1.Common strict) :
    ∃ trail', other.Trail slot trail' ∧
      List.Forall₂ (fun step step' => step.1.Mirrors step'.1 ∧ step.2 = step'.2) trail trail' := by
  induction goes with
  | nil slot => exact ⟨[], .nil slot, .nil⟩
  | @cons event slot next trail occurs _ ih =>
    obtain ⟨here, later⟩ := List.forall_mem_cons.mp common
    obtain ⟨course', alike, played⟩ :=
      (mirrors event.call event.channels slot).plays occurs here.undisturbed here.lenient
    obtain ⟨trail', goes', rest⟩ := ih later
    exact ⟨(⟨event.call, event.channels, course', event.outcome⟩, next) :: trail',
      .cons played goes', .cons ⟨⟨rfl, rfl, alike, rfl⟩, rfl⟩ rest⟩

theorem addMessages_under {messages : List Message} {channels : Channels} :
    channels.addMessages bindings (table.under flags checkTypes) messages =
      channels.addMessages bindings table messages := by
  induction messages generalizing channels with
  | nil => rfl
  | cons first rest ih =>
    unfold Channels.addMessages
    simp only [ih]
    rfl

/-- One machine under two sets of options, of which the second is not the stricter one. -/
theorem indifferent_under (order : checkTypes = true → table.checkTypes = true) :
    table.Indifferent (table.under flags checkTypes)
      (Failure.Strict table.checkTypes checkTypes) where
  creates _ := rfl
  describes _ _ := rfl
  attaches _ _ := addMessages_under
  shows _ _ live := (mirrors_of_liveParallel under_create (operation_mirrors order) live).matches
  follows _ _ := follows_of_mirrors (operation_mirrors order)

/-- The options are written into a table, and nothing else depends on them. -/
theorem generate_under : (Table.generate bindings flags' checkTypes' machine).2 =
    (Table.generate bindings flags checkTypes machine).2.map (·.under flags' checkTypes') := by
  rw [Table.generate_eq, Table.generate_eq]
  cases bindings.classes machine.states with
  | error error => rfl
  | ok kinds =>
    show (allBlocks (blocksUpToFault bindings machine kinds) >>= _) =
      Except.map _ (allBlocks (blocksUpToFault bindings machine kinds) >>= _)
    cases allBlocks (blocksUpToFault bindings machine kinds) with
    | error error => rfl
    | ok blocks =>
      show Table.ofBlocks bindings flags' checkTypes' machine blocks =
        (Table.ofBlocks bindings flags checkTypes machine blocks).map _
      unfold Table.ofBlocks
      cases machine.failure with
      | none => rfl
      | some policy =>
        dsimp only
        cases FailureRoute.ofPolicy bindings machine blocks policy with
        | error error => rfl
        | ok route => rfl

theorem checkTypes_of_generate
    (generated : (Table.generate bindings flags checkTypes machine).2 = .ok table) :
    table.checkTypes = checkTypes := by
  have same := @generate_under bindings machine flags flags checkTypes checkTypes
  rw [generated] at same
  exact congrArg Table.checkTypes (Except.ok.inj same)

end Table

namespace Workshop

open Work

variable {registry : Registry} {options : Options} {bindings : Bindings} {home : String}

/-- A new compiler has no name to refuse. -/
theorem build_fresh {machine : Machine} :
    (Workshop.mk (.fresh options) registry).build bindings home machine =
      (Table.generate bindings options.flags options.checkTypes machine).2.map fun table =>
        ((Workshop.mk (.fresh options) registry).nextKind home table,
          (Workshop.mk (.fresh options) registry).defined home table) := by
  show (Table.generate bindings options.flags options.checkTypes machine).2 >>= _ = _
  cases (Table.generate bindings options.flags options.checkTypes machine).2 with
  | error error => rfl
  | ok table => rfl

/-- The class that was just made is found with its table. -/
theorem table?_defined {w : Workshop} {table : Table} :
    (w.defined home table).unlogged.registry.table? (w.nextKind home table) = some table := by
  have found : (w.defined home table).unlogged.registry.machines.find?
      (·.kind.id == (w.nextKind home table).own.id) = some ⟨w.nextKind home table, home, table⟩ :=
    List.find?_cons_of_pos (beq_self_eq_true (w.nextKind home table).id)
  unfold Registry.table? Registry.machine? Class.lineage
  rw [List.findSome?_cons, found]
  rfl

/-- Under all trace flags a text is rejected with the same error, or compiles to machines that
    cannot be told apart by runs in which the trace sink neither raises nor calls the machine. The
    same holds if only one of them checks conversions, until that one ends with an error about
    types. -/
theorem options_indifferent (options options' : Options)
    (order : options'.checkTypes = true → options.checkTypes = true) (bindings : Bindings)
    (fallible : Bool) (home source : String) (registry : Registry) :
    (∀ error,
      (outcome (compileMachine bindings fallible home source) ⟨.fresh options, registry⟩).1 =
        .error error ↔
      (outcome (compileMachine bindings fallible home source) ⟨.fresh options', registry⟩).1 =
        .error error) ∧
    ∀ kind w',
      outcome (compileMachine bindings fallible home source) ⟨.fresh options, registry⟩ =
        (.ok kind, w') →
      ∃ w'' table,
        outcome (compileMachine bindings fallible home source) ⟨.fresh options', registry⟩ =
          (.ok kind, w'') ∧
        w'.registry.table? kind = some table ∧
        w''.registry.table? kind = some (table.under options'.flags options'.checkTypes) ∧
        table.Indifferent (table.under options'.flags options'.checkTypes)
          (Failure.Strict options.checkTypes options'.checkTypes) := by
  cases parsed : (Machine.ofText fallible source).mapError Error.rejected with
  | error why =>
    have refused (options : Options) :
        outcome (compileMachine bindings fallible home source) ⟨.fresh options, registry⟩ =
          (.error why, (Workshop.mk (.fresh options) registry).unlogged) := by
      rw [outcome_compileMachine, parsed]
      rfl
    rw [refused, refused]
    exact ⟨fun _ => Iff.rfl, nofun⟩
  | ok machine =>
    have made (options : Options) :
        outcome (compileMachine bindings fallible home source) ⟨.fresh options, registry⟩ =
          (Workshop.mk (.fresh options) registry).settle
            ((Table.generate bindings options.flags options.checkTypes machine).2.map fun table =>
              ((Workshop.mk (.fresh options) registry).nextKind home table,
                (Workshop.mk (.fresh options) registry).defined home table)) := by
      rw [outcome_compileMachine, parsed]
      exact congrArg _ build_fresh
    rw [made, made, @Table.generate_under bindings machine options.flags options'.flags
      options.checkTypes options'.checkTypes]
    cases generated : (Table.generate bindings options.flags options.checkTypes machine).2 with
    | error error => exact ⟨fun _ => Iff.rfl, nofun⟩
    | ok table =>
      refine ⟨fun _ => iff_of_false nofun nofun, ?_⟩
      rintro kind w' ⟨⟩
      have checks := Table.checkTypes_of_generate generated
      exact ⟨_, table, rfl, table?_defined, table?_defined,
        checks ▸ Table.indifferent_under (checks.symm ▸ order)⟩

/-! A machine with one transition, compiled without a trace and with one that looks into nothing. -/

def switchText : String := "Lamp, Off, [Off, On], [Off => On]"

/-- A name as it stands in the text. -/
def placed (name : String) (offset : Nat) : Reference :=
  ⟨⟨name, []⟩, ⟨⟨offset, 1, offset + 1⟩, name.length⟩⟩

def switching : Transition :=
  ⟨placed "Off" 12, placed "On" 30, .routine 10, .routine 11, some (.routine 12)⟩

def switchTable : Table where
  machine := ⟨"Lamp", ⟨placed "Off" 12, [placed "On" 30]⟩,
    [⟨placed "Off" 12, [placed "On" 30]⟩, ⟨placed "On" 17, []⟩],
    [⟨placed "Off" 23, placed "On" 30, (placed "Off" 23).span⟩], none⟩
  flags := ⟨false, false, false⟩
  blocks := [⟨⟨placed "Off" 12, [placed "On" 30]⟩, Lamp.off, ⟨true, true, true⟩, [switching]⟩,
    ⟨⟨placed "On" 17, []⟩, Lamp.on, ⟨true, true, true⟩, []⟩]
  failure := none
  checkTypes := true

/-- Every grain of the trace is switched on, and conversions are not checked. -/
def talkative : Options := ⟨⟨true, true, true⟩, true, false⟩

/-- The same machine under these options. -/
def talkativeTable : Table := switchTable.under ⟨true, true, true⟩ false

theorem switchText_read : Machine.ofText false switchText = .ok switchTable.machine := by
  decide +kernel

/-- What a step asks until the conversion is answered. -/
def switchCourse (made : Value) : Course :=
  [(.report false "Lamp: Execute - Off", .ok .null),
    (.hook .execute "OffState" true (.object 0 Lamp.off), .ok .null),
    (.guard switching (.object 0 Lamp.off), .ok (.bool true)),
    (.hook .exit "OffState" true (.object 0 Lamp.off), .ok .null),
    (.action switching (.object 0 Lamp.off), .ok .null),
    (.report false "Lamp: Exit - Off", .ok .null),
    (.report false "Lamp: Transit - From Off to On", .ok .null),
    (.convert switching (.object 0 Lamp.off), .ok made)]

/-- The machine is started, and in its first step the entry method of the other state raises. -/
def switchTrail : List (Event × Slot) :=
  [(⟨.start (.object 0 Lamp.off), none,
      [(.hook .entry "OffState" true (.object 0 Lamp.off), .ok .null),
        (.report false "Lamp: Start - Off", .ok .null)], .ok .nothing⟩,
      .holding ⟨"OffState", .object 0 Lamp.off⟩),
    (⟨.step, none, switchCourse (.object 1 Lamp.on) ++
        [(.hook .entry "OnState" true (.object 1 Lamp.on), .error (.object 2 Lamp.fault))],
      .error (.raised (.object 2 Lamp.fault))⟩, .halted "OffState")]

/-- With the trace switched on, both machines make the same requests and end alike. A conversion
    with a result of another class is rejected by the machine that checks types, and the other
    machine enters the data. -/
theorem options_indifferent_switch :
    (∃ trail, talkativeTable.Trail (.fresh switchTable) trail ∧
      List.Forall₂ (fun step step' => step.1.Mirrors step'.1 ∧ step.2 = step'.2)
        switchTrail trail) ∧
    ∃ (moment moment' : Moment) (slot : Slot) (resume : Answer → Slot → Dialogue Reply),
      moment.doing = .done (.error (.error (.wrongConversion "Lamp" "On" "Off" "On")))
        (.halted "OffState") ∧
      moment'.doing = .ask (.hook .entry "OnState" true (.object 1 Lamp.off)) slot resume ∧
      moment.Matches (Failure.Strict true false) moment' := by
  obtain ⟨kind, w', compiled, found⟩ : ∃ kind w',
      outcome (compileMachine Lamp.bindings false "m" switchText)
        ⟨.fresh .default, .empty⟩ = (.ok kind, w') ∧
      w'.registry.table? kind = some switchTable := by
    rw [outcome_compileMachine, switchText_read]
    exact ⟨_, _, rfl, rfl⟩
  obtain ⟨w'', table, -, here, -, indifferent⟩ :=
    (options_indifferent .default talkative (fun _ => rfl) Lamp.bindings false "m" switchText
      .empty).2 kind w' compiled
  cases found.symm.trans here
  constructor
  · have trail : switchTable.Trail (.fresh switchTable) switchTrail :=
      .cons (.ask (.ask (.done _ _))) <| .cons
        (.ask (.ask (.ask (.ask (.ask (.ask (.ask (.ask (.ask (.done _ _)))))))))) (.nil _)
    refine indifferent.follows _ _ trail fun step mem => ?_
    rcases List.mem_pair.mp mem with rfl | rfl
    · exact ⟨by simp [Course.Undisturbed, Request.reports], nofun⟩
    · refine ⟨by simp [Course.Undisturbed, Request.reports, switchCourse], ?_⟩
      rintro failure ⟨⟩ ⟨-, error, same, -⟩
      cases same
  · have taken (answer : Value) {request : Request} : request.Answered (.ok answer) (.ok answer) :=
      Request.answered_self _ fun _ => ⟨_, rfl⟩
    have begun : switchTable.LiveParallel talkativeTable (Failure.Strict true false) _ _ :=
      .begun (.start (.object 0 Lamp.off)) none (rfl : switchTable.create .null = _) rfl
    have started := begun.answered _ _ (taken .null) |>.answered _ _ (taken .null)
    have stepping := (Table.LiveParallel.called .step none nofun started).answered _ _ (taken .null)
      |>.answered _ _ (taken .null) |>.answered _ _ (taken (.bool true))
      |>.answered _ _ (taken .null) |>.answered _ _ (taken .null) |>.answered _ _ (taken .null)
      |>.answered _ _ (taken .null) |>.answered _ _ (taken (.object 1 Lamp.off))
    exact ⟨_, _, _, _, rfl, rfl, indifferent.shows _ _ stepping⟩

end Workshop

end MachineSpec
