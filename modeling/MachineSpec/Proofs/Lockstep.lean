/-
MachineSpec.Proofs.Lockstep — a fallible machine without failures behaves as the plain one.

Let one declaration be compiled as a plain machine and, with an error type and an error
state, as a fallible one. The two tables are `Twins`: they have the same states, classes and
transitions, and differ in the names of the hook methods and in the handling of exceptions
of the error type.

`Agree` relates two dialogues that make like requests on equal slots and continue alike
after every answer that is no failure of the error type. There is one rule for each way of
building an operation; `call_agree` is the place where the two machines differ.

* `Table.plain_fallible_lockstep`: at every moment of two runs with the same calls, those of
  callbacks included, both machines make the same request or have ended alike with the same
  slot; and each can go through whatever the other can.
-/
import Mathlib.Data.List.Forall2
import MachineSpec.Proofs.Generation
import MachineSpec.Proofs.Interference
import MachineSpec.Proofs.Redirection

namespace MachineSpec

/-! ## 1. Like requests -/

/-- The same request, made by the one machine or by the other. They call methods of different names,
    and a class need not have both. -/
inductive Request.Like : Request → Request → Prop where
  | refl (request : Request) : Like request request
  | hook (stage : Stage) (tag : String) (present present' : Bool) (data : Value) :
      Like (.hook stage tag present data) (.hook stage tag present' data)

/-- The answer is no failure: if it comes from a method or an action, it is not an exception of the
    error type. -/
def Request.Unfailing (errorType : Class) (request : Request) (answer : Answer) : Prop :=
  request.subject?.isSome = true → ∀ exception, answer = .error exception →
    exception.isA errorType = false

/-- No answer on the course is a failure. -/
def Course.Unfailing (errorType : Class) (course : Course) : Prop :=
  ∀ asked ∈ course, asked.1.Unfailing errorType asked.2

/-- Like requests with the same answers. -/
def Course.Like : Course → Course → Prop :=
  List.Forall₂ fun asked asked' => asked.1.Like asked'.1 ∧ asked.2 = asked'.2

namespace Request.Like

variable {request request' : Request} {errorType : Class} {answer : Answer}

theorem symm (like : request.Like request') : request'.Like request := by
  cases like with
  | refl => exact .refl _
  | hook stage tag present present' data => exact .hook stage tag present' present data

theorem unfailing_iff (like : request.Like request') :
    request.Unfailing errorType answer ↔ request'.Unfailing errorType answer := by
  cases like with
  | refl => exact Iff.rfl
  | hook => exact Iff.rfl

end Request.Like

theorem Course.Unfailing.cons_iff {errorType : Class} {asked : Request × Answer} {course : Course} :
    Course.Unfailing errorType (asked :: course) ↔
      asked.1.Unfailing errorType asked.2 ∧ Course.Unfailing errorType course :=
  List.forall_mem_cons

/-! ## 2. Dialogues that agree -/

namespace Dialogue

variable {α α' β β' : Type} {errorType : Class} {same : α → α' → Prop} {ended : β → β' → Prop}

/-- The dialogues cannot be told apart as long as no answer is a failure. -/
inductive Agree (errorType : Class) (same : α → α' → Prop) : Dialogue α → Dialogue α' → Prop where
  | ok {a : α} {a' : α'} (slot : Slot) (results : same a a') :
      Agree errorType same (.done (.ok a) slot) (.done (.ok a') slot)
  | error (failure : Failure) (slot : Slot) :
      Agree errorType same (.done (.error failure) slot) (.done (.error failure) slot)
  | ask {request request' : Request} (slot : Slot) {resume : Answer → Slot → Dialogue α}
      {resume' : Answer → Slot → Dialogue α'} (like : request.Like request')
      (rest : ∀ answer final, request.Unfailing errorType answer →
        Agree errorType same (resume answer final) (resume' answer final)) :
      Agree errorType same (.ask request slot resume) (.ask request' slot resume')

namespace Agree

theorem refl (dialogue : Dialogue α) : dialogue.Agree errorType Eq dialogue := by
  induction dialogue with
  | done outcome slot =>
    cases outcome with
    | ok a => exact .ok slot rfl
    | error failure => exact .error failure slot
  | ask request slot resume ih =>
    exact .ask slot (.refl request) fun answer final _ => ih answer final

theorem symm {dialogue dialogue' : Dialogue α} (agree : dialogue.Agree errorType Eq dialogue') :
    dialogue'.Agree errorType Eq dialogue := by
  induction agree with
  | ok slot results => exact .ok slot results.symm
  | error failure slot => exact .error failure slot
  | ask slot like _ ih =>
    exact .ask slot like.symm fun answer final unfailing =>
      ih answer final (like.unfailing_iff.mpr unfailing)

theorem andThen {dialogue : Dialogue α} {dialogue' : Dialogue α'} {next : α → Operation β}
    {next' : α' → Operation β'} (agree : dialogue.Agree errorType same dialogue')
    (rest : ∀ a a', same a a' → ∀ slot, (next a slot).Agree errorType ended (next' a' slot)) :
    (dialogue.andThen next).Agree errorType ended (dialogue'.andThen next') := by
  induction agree with
  | ok slot results => exact rest _ _ results slot
  | error failure slot => exact .error failure slot
  | ask slot like _ ih => exact .ask slot like ih

/-- A course of the one without failures is, request by request, a course of the other, and ends in
    the same way. -/
theorem plays {dialogue dialogue' : Dialogue α} (agree : dialogue.Agree errorType Eq dialogue')
    {course : Course} {outcome : Except Failure α} {final : Slot}
    (plays : Plays dialogue course outcome final) (unfailing : Course.Unfailing errorType course) :
    ∃ course', Course.Like course course' ∧ Plays dialogue' course' outcome final := by
  induction plays generalizing dialogue' with
  | done outcome slot =>
    cases agree with
    | ok _ results => exact ⟨[], .nil, results ▸ .done _ _⟩
    | error => exact ⟨[], .nil, .done _ _⟩
  | @ask request slot resume answer course outcome final _ ih =>
    cases agree with
    | ask _ like rest =>
      obtain ⟨here, later⟩ := Course.Unfailing.cons_iff.mp unfailing
      obtain ⟨course', alike, played⟩ := ih (rest answer slot here) later
      exact ⟨(_, answer) :: course', .cons ⟨like, rfl⟩ alike, .ask played⟩

end Agree

end Dialogue

/-! ## 3. Operations that agree -/

namespace Operation

variable {α α' β β' : Type} {errorType : Class} {same : α → α' → Prop} {ended : β → β' → Prop}

/-- From every slot the dialogues of the operations agree. -/
def Agree (errorType : Class) (same : α → α' → Prop) (operation : Operation α)
    (operation' : Operation α') : Prop :=
  ∀ slot, (operation slot).Agree errorType same (operation' slot)

namespace Agree

theorem refl (operation : Operation α) : operation.Agree errorType Eq operation :=
  fun slot => .refl (operation slot)

theorem of_eq {operation operation' : Operation α} (h : operation = operation') :
    operation.Agree errorType Eq operation' :=
  h ▸ refl operation

theorem pure {a : α} {a' : α'} (results : same a a') :
    (Pure.pure a : Operation α).Agree errorType same (Pure.pure a') :=
  fun slot => .ok slot results

theorem bind {operation : Operation α} {operation' : Operation α'} {next : α → Operation β}
    {next' : α' → Operation β'} (agree : operation.Agree errorType same operation')
    (rest : ∀ a a', same a a' → (next a).Agree errorType ended (next' a')) :
    (operation >>= next).Agree errorType ended (operation' >>= next') :=
  fun slot => (agree slot).andThen rest

/-- Where the results are equal, so are their sequels' beginnings. -/
theorem bind_eq {operation operation' : Operation α} {next : α → Operation β}
    {next' : α → Operation β'} (agree : operation.Agree errorType Eq operation')
    (rest : ∀ a, (next a).Agree errorType ended (next' a)) :
    (operation >>= next).Agree errorType ended (operation' >>= next') :=
  agree.bind fun a _ results => results ▸ rest a

theorem map {f : α → β} {operation operation' : Operation α}
    (agree : operation.Agree errorType Eq operation') :
    (f <$> operation).Agree errorType Eq (f <$> operation') :=
  agree.bind_eq fun a => refl (Pure.pure (f a))

/-- Like requests get the same answer, and it is no failure. -/
theorem attempt {request request' : Request} (like : request.Like request') :
    (Operation.attempt request).Agree errorType
      (fun answer answer' => answer = answer' ∧ request.Unfailing errorType answer)
      (Operation.attempt request') :=
  fun slot => .ask slot like fun _ final unfailing => .ok final ⟨rfl, unfailing⟩

/-- It makes no difference who would intercept a failure. -/
theorem demand {request request' : Request} {next : Operation α} {handle : Answer → Operation α}
    (like : request.Like request') (subject : request.subject?.isSome = true)
    (returned : ∀ value, handle (.ok value) = next)
    (raised : ∀ exception, exception.isA errorType = false →
      handle (.error exception) = fail (.raised exception)) :
    (Operation.demand request >>= fun _ => next).Agree errorType Eq
      (Operation.attempt request' >>= handle) := by
  unfold Operation.demand
  rw [bind_assoc]
  refine (attempt like).bind ?_
  rintro answer _ ⟨rfl, unfailing⟩
  cases answer with
  | ok value => exact returned value ▸ refl _
  | error exception => exact raised exception (unfailing subject exception rfl) ▸ refl _

end Agree

end Operation

/-! ## 4. Twins -/

/-- A block but for which stages have a method. -/
def Block.unhooked (block : Block) : Block := { block with hooks := ⟨false, false, false⟩ }

/-- The blocks differ at most in which stages have a method. -/
def Block.Alike (block block' : Block) : Prop := block.unhooked = block'.unhooked

namespace Block.Alike

variable {block block' : Block} (alike : block.Alike block')
include alike

theorem state : block.state = block'.state := (Block.mk.inj alike).1

theorem kind : block.kind = block'.kind := (Block.mk.inj alike).2.1

theorem transitions : block.transitions = block'.transitions := (Block.mk.inj alike).2.2.2

theorem tag : block.tag = block'.tag := congrArg State.tag alike.state

end Block.Alike

namespace Table

/-- The table of a plain machine, and that of a fallible machine which is the same otherwise. -/
structure Twins (plain fallible : Table) (route : FailureRoute) : Prop where
  unrouted : plain.failure = none
  routed : fallible.failure = some route
  name : plain.name = fallible.name
  initial : plain.machine.initial = fallible.machine.initial
  flags : plain.flags = fallible.flags
  checkTypes : plain.checkTypes = fallible.checkTypes
  blocks : plain.blocks.map Block.unhooked = fallible.blocks.map Block.unhooked

namespace Twins

open Operation

variable {plain fallible : Table} {route : FailureRoute} (twins : plain.Twins fallible route)
include twins

theorem block?_eq (tag : String) :
    (plain.block? tag).map Block.unhooked = (fallible.block? tag).map Block.unhooked := by
  have found (table : Table) : (table.block? tag).map Block.unhooked =
      (table.blocks.map Block.unhooked).find? (·.tag == tag) := by
    rw [List.find?_map]
    rfl
  rw [found, found, twins.blocks]

/-- The blocks of a tag are alike, or there is none in either table. -/
theorem block?_cases (tag : String) :
    (plain.block? tag = none ∧ fallible.block? tag = none) ∨
      ∃ block block', plain.block? tag = some block ∧ fallible.block? tag = some block' ∧
        block.Alike block' := by
  have same := twins.block?_eq tag
  cases found : plain.block? tag with
  | none =>
    rw [found] at same
    exact .inl ⟨rfl, Option.map_eq_none_iff.mp same.symm⟩
  | some block =>
    rw [found] at same
    obtain ⟨block', found', alike⟩ := Option.map_eq_some_iff.mp same.symm
    exact .inr ⟨block, block', rfl, found', alike.symm⟩

theorem block_agree (tag : String) :
    (plain.block tag).Agree route.errorType Block.Alike (fallible.block tag) := by
  unfold Table.block
  rcases twins.block?_cases tag with ⟨missing, missing'⟩ | ⟨block, block', found, found', alike⟩
  · rw [missing, missing']
    exact fun slot => .error _ slot
  · rw [found, found']
    exact .pure alike

/-! ### Reports -/

theorem reportLife (action detail : String) :
    plain.reportLife action detail = fallible.reportLife action detail := by
  simp only [Table.reportLife, twins.flags, twins.name]

theorem reportStep (action detail : String) :
    plain.reportStep action detail = fallible.reportStep action detail := by
  simp only [Table.reportStep, twins.flags, twins.name]

theorem reportMessage (action detail : String) :
    plain.reportMessage action detail = fallible.reportMessage action detail := by
  simp only [Table.reportMessage, twins.flags, twins.name]

/-! ### Dealing with data -/

variable {block block' : Block} {data : Value}

/-- A method or an action that does not fail is simply called. -/
theorem call_agree {request request' : Request} (like : request.Like request')
    (subject : request.subject?.isSome = true) :
    (plain.call block data request).Agree route.errorType Eq
      (fallible.call block' data request') := by
  unfold Table.call
  rw [twins.unrouted, twins.routed]
  dsimp only
  split
  · unfold callErrorState
    rw [bind_assoc]
    refine Agree.demand like subject (fun value => rfl) fun exception other => ?_
    simp only [other]
    rfl
  · refine Agree.demand like subject (fun value => rfl) fun exception other => ?_
    simp only [other]
    rfl

theorem callHook_agree (alike : block.Alike block') (stage : Stage) :
    (plain.callHook block stage data).Agree route.errorType Eq
      (fallible.callHook block' stage data) := by
  have like : (Request.hook stage block.tag (block.hooks.at stage) data).Like
      (.hook stage block'.tag (block'.hooks.at stage) data) := by
    rw [alike.tag]
    exact .hook ..
  exact twins.call_agree like rfl

theorem enter_agree (alike : block.Alike block') (reported : Bool) :
    (plain.enter block data reported).Agree route.errorType Eq
      (fallible.enter block' data reported) := by
  unfold Table.enter
  refine (twins.callHook_agree alike .entry).bind_eq fun redirected => ?_
  cases redirected with
  | some entry => exact .refl _
  | none =>
    rw [twins.reportLife, alike.state, alike.tag]
    exact .refl _

theorem runActions_agree (transitions : List Transition) :
    (plain.runActions block data transitions).Agree route.errorType Eq
      (fallible.runActions block' data transitions) := by
  induction transitions with
  | nil => exact .refl _
  | cons transition rest ih =>
    unfold Table.runActions
    refine (twins.call_agree (.refl _) rfl).bind_eq fun redirected => ?_
    cases redirected with
    | some entry => exact .refl _
    | none => exact ih

theorem leave_agree (alike : block.Alike block') :
    (plain.leave block data).Agree route.errorType Eq (fallible.leave block' data) := by
  unfold Table.leave
  refine (twins.callHook_agree alike .exit).bind_eq fun redirected => ?_
  cases redirected with
  | some entry => exact .refl _
  | none =>
    rw [alike.transitions]
    exact twins.runActions_agree _

theorem retire_agree (alike : block.Alike block') :
    (plain.retire block data).Agree route.errorType Eq (fallible.retire block' data) := by
  unfold Table.retire
  refine (twins.leave_agree alike).bind_eq fun redirected => ?_
  cases redirected with
  | some entry => exact .refl _
  | none =>
    rw [twins.reportLife, alike.state, alike.tag]
    exact .refl _

theorem take_agree (alike : block.Alike block') (transition : Transition) :
    (plain.take block transition data).Agree route.errorType Eq
      (fallible.take block' transition data) := by
  unfold Table.take
  refine (twins.leave_agree alike).bind_eq fun redirected => ?_
  cases redirected with
  | some entry => exact .refl _
  | none =>
    simp only [twins.reportLife, alike.state, twins.checkTypes, twins.name]
    refine (Agree.refl _).bind_eq fun _ => (Agree.refl _).bind_eq fun _ => ?_
    refine (twins.block_agree _).bind fun target target' found => ?_
    refine (Agree.refl _).bind_eq fun converted => ?_
    rw [found.kind, found.state]
    split
    · exact .refl _
    · exact twins.enter_agree found true

theorem run_agree (alike : block.Alike block') :
    (plain.run block data).Agree route.errorType Eq (fallible.run block' data) := by
  unfold Table.run
  simp only [twins.reportStep, alike.state, alike.transitions]
  refine (Agree.refl _).bind_eq fun _ => ?_
  refine (twins.callHook_agree alike .execute).bind_eq fun redirected => ?_
  cases redirected with
  | some entry => exact .refl _
  | none =>
    refine (Agree.refl _).bind_eq fun chosen => ?_
    cases chosen with
    | some transition => exact twins.take_agree alike transition
    | none =>
      rw [alike.tag]
      exact .refl _

/-! ### Looking -/

theorem fresh : Slot.fresh plain = .fresh fallible := by
  unfold Slot.fresh
  rw [twins.initial]

theorem checkInitial (data : Value) : plain.checkInitial data = fallible.checkInitial data := by
  unfold Table.checkInitial
  rw [twins.initial, twins.name]
  rcases twins.block?_cases fallible.machine.initial.tag with
    ⟨missing, missing'⟩ | ⟨block, block', found, found', alike⟩
  · rw [missing, missing']
  · rw [found, found']
    simp only [alike.kind, alike.state]

theorem create (given : Value) : plain.create given = fallible.create given := by
  unfold Table.create
  rw [twins.fresh, twins.checkInitial, twins.initial]

theorem peek (slot : Slot) : plain.peek slot = fallible.peek slot := by
  unfold Table.peek
  rcases twins.block?_cases slot.tag with
    ⟨missing, missing'⟩ | ⟨block, block', found, found', alike⟩
  · rw [missing, missing']
  · rw [found, found']
    simp only [alike.kind]

theorem isSome_block? (tag : String) :
    (plain.block? tag).isSome = (fallible.block? tag).isSome := by
  have same := congrArg Option.isSome (twins.block?_eq tag)
  simpa using same

theorem tagsFor (target : Designator) : plain.tagsFor target = fallible.tagsFor target := by
  have classed (table : Table) (kind : Class) :
      (table.blocks.filter (·.kind.same kind)).map Block.tag =
        ((table.blocks.map Block.unhooked).filter (·.kind.same kind)).map Block.tag := by
    rw [List.filter_map, List.map_map]
    rfl
  have designated : plain.designated target = fallible.designated target := by
    unfold Table.designated
    simp only [classed, twins.blocks, twins.isSome_block?]
  unfold Table.tagsFor
  rw [designated, twins.name]

theorem isState (slot : Slot) (target : Designator) :
    plain.isState slot target = fallible.isState slot target := by
  unfold Table.isState
  rw [twins.tagsFor]

theorem select (channels : Channels) (direction : Direction) (target payload : Designator) :
    channels.select plain direction target payload =
      channels.select fallible direction target payload := by
  unfold Channels.select
  rw [twins.tagsFor, twins.name]

/-! ### Calls -/

theorem takeData : plain.takeData = fallible.takeData := by
  unfold Table.takeData
  rw [twins.name]

theorem reset : plain.reset = fallible.reset := by
  unfold Table.reset
  rw [twins.fresh]

theorem start_agree (data : Value) :
    (plain.start data).Agree route.errorType Eq (fallible.start data) := by
  unfold Table.start
  simp only [twins.name, twins.checkInitial, twins.initial, twins.reportLife]
  refine (Agree.refl _).bind_eq fun slot => ?_
  split
  · exact .refl _
  · refine (Agree.refl _).bind_eq fun _ => (Agree.refl _).bind_eq fun _ => ?_
    refine (twins.block_agree _).bind fun block block' alike => ?_
    exact (twins.enter_agree alike false).bind_eq fun _ => .refl _

theorem enterPending_agree :
    plain.enterPending.Agree route.errorType Eq fallible.enterPending := by
  unfold Table.enterPending
  simp only [twins.takeData]
  refine (Agree.refl _).bind_eq fun slot => ?_
  split
  · refine (Agree.refl _).bind_eq fun _ => (Agree.refl _).bind_eq fun slot => ?_
    refine (twins.block_agree _).bind fun block block' alike => ?_
    refine (Agree.refl _).bind_eq fun data => ?_
    rw [alike.tag]
    exact (twins.enter_agree alike true).bind_eq fun _ => .refl _
  · exact .refl _

theorem step_agree : plain.step.Agree route.errorType Eq fallible.step := by
  unfold Table.step
  rw [twins.takeData]
  refine twins.enterPending_agree.bind_eq fun entered => ?_
  split
  · exact .refl _
  · refine (Agree.refl _).bind_eq fun data => (Agree.refl _).bind_eq fun slot => ?_
    refine (twins.block_agree _).bind fun block block' alike => ?_
    exact (twins.run_agree alike).bind_eq fun _ => .refl _

theorem stop_agree : plain.stop.Agree route.errorType Eq fallible.stop := by
  unfold Table.stop
  simp only [twins.takeData, twins.reset, twins.name, twins.reportLife]
  refine twins.enterPending_agree.bind_eq fun _ => (Agree.refl _).bind_eq fun slot => ?_
  split
  · exact .refl _
  · refine (Agree.refl _).bind_eq fun data => (Agree.refl _).bind_eq fun _ => ?_
    refine (Agree.refl _).bind_eq fun slot => ?_
    refine (twins.block_agree _).bind fun block block' alike => ?_
    refine (twins.retire_agree alike).bind_eq fun entry => (Agree.refl _).bind_eq fun _ => ?_
    refine (twins.block_agree _).bind fun last last' alike => ?_
    rw [alike.kind]
    exact .refl _

theorem activeChannel (found : List (String × Channel)) (target : Designator) (rejected : Value) :
    plain.activeChannel found target rejected = fallible.activeChannel found target rejected := by
  unfold Table.activeChannel
  simp only [twins.peek]

theorem push_agree (channels : Option Channels) (target : Designator) (message : Value) :
    (plain.push channels target message).Agree route.errorType Eq
      (fallible.push channels target message) := by
  unfold Table.push Table.requireChannels
  simp only [twins.name, twins.select, twins.activeChannel, twins.reportMessage]
  exact (Agree.refl _).bind_eq fun _ => twins.enterPending_agree.bind_eq fun _ => .refl _

theorem poll_agree (channels : Option Channels) (target payload : Designator) :
    (plain.poll channels target payload).Agree route.errorType Eq
      (fallible.poll channels target payload) := by
  unfold Table.poll Table.requireChannels
  simp only [twins.name, twins.select, twins.activeChannel, twins.reportMessage]
  exact (Agree.refl _).bind_eq fun _ => twins.enterPending_agree.bind_eq fun _ => .refl _

theorem operation_agree (call : Call) (channels : Option Channels) :
    (call.operation plain channels).Agree route.errorType Eq
      (call.operation fallible channels) := by
  cases call with
  | start data => exact (twins.start_agree data).map
  | step => exact twins.step_agree.map
  | stop => exact twins.stop_agree.map
  | reset => exact .of_eq (congrArg (Functor.map _) twins.reset)
  | peek => exact .of_eq (by simp only [Call.operation, twins.peek])
  | isState target => exact .of_eq (by simp only [Call.operation, twins.isState])
  | push target message => exact (twins.push_agree channels target message).map
  | poll target payload => exact (twins.poll_agree channels target payload).map

theorem addMessages (bindings : Bindings) (messages : List Message) (channels : Channels) :
    channels.addMessages bindings plain messages =
      channels.addMessages bindings fallible messages := by
  induction messages generalizing channels with
  | nil => rfl
  | cons message rest ih =>
    unfold Channels.addMessages
    simp only [twins.name, ih]
    rcases twins.block?_cases message.target.tag with
      ⟨missing, missing'⟩ | ⟨block, block', found, found', alike⟩
    · rw [missing, missing']
    · rw [found, found']
      simp only [alike.kind]

end Twins

end Table

/-! ## 5. One declaration, two machines -/

/-- A machine that is declared with a word on failures is the same machine otherwise. -/
theorem Machine.ofDecl_failure {decl : MachineDecl} {failure : FailureDecl}
    {machine machine' : Machine}
    (checked : Machine.ofDecl { decl with failure := none } = .ok machine)
    (checked' : Machine.ofDecl { decl with failure := some failure } = .ok machine') :
    machine.failure = none ∧ ∃ policy, policy.errorType = failure.errorType ∧
      machine' = { machine with failure := some policy } := by
  simp only [Machine.ofDecl, Except.bind_eq_ok_iff] at checked checked'
  obtain ⟨_, _, _, _, initial, found, _, unrouted, made⟩ := checked
  obtain ⟨_, _, _, _, initial', found', errorState, _, _, same, made'⟩ := checked'
  cases unrouted
  cases same
  cases made
  cases made'
  rw [found] at found'
  cases found'
  exact ⟨rfl, _, rfl, rfl⟩

/-- What is made of the items one by one differs no more than what is made of each. -/
theorem map_of_mapM {ε α β γ : Type} {f f' : α → Except ε β} {g : β → γ} {items : List α} :
    ∀ {results results' : List β}, items.mapM f = .ok results → items.mapM f' = .ok results' →
      (∀ item, (f item).map g = (f' item).map g) → results.map g = results'.map g := by
  induction items with
  | nil => rintro _ _ ⟨⟩ ⟨⟩ _; rfl
  | cons item rest ih =>
    intro results results' made made' same
    simp only [List.mapM_cons, Except.bind_eq_ok_iff] at made made'
    obtain ⟨first, hfirst, others, hothers, h⟩ := made
    obtain ⟨first', hfirst', others', hothers', h'⟩ := made'
    cases h
    cases h'
    have here := same item
    rw [hfirst, hfirst'] at here
    rw [List.map_cons, List.map_cons, ih hothers hothers' same, Except.ok.inj here]

/-- The word on failures bears on nothing in a block but its methods. -/
theorem Block.ofState_unhooked (bindings : Bindings) (machine : Machine)
    (failure : Option FailurePolicy) (state : State) (kind : Class) :
    (Block.ofState bindings { machine with failure } state kind).map Block.unhooked =
      (Block.ofState bindings machine state kind).map Block.unhooked := by
  unfold Block.ofState
  cases state.transits.mapM (bindings.transition machine.name state.reference) with
  | ok transitions => rfl
  | error error => rfl

namespace Table

/-- The blocks are made alike, and only the one machine has a way for failures. -/
theorem twins_of_generate {decl : MachineDecl} {failure : FailureDecl} {machine machine' : Machine}
    {bindings : Bindings} {flags : TraceFlags} {checkTypes : Bool} {plain fallible : Table}
    (checked : Machine.ofDecl { decl with failure := none } = .ok machine)
    (checked' : Machine.ofDecl { decl with failure := some failure } = .ok machine')
    (compiled : (Table.generate bindings flags checkTypes machine).2 = .ok plain)
    (compiled' : (Table.generate bindings flags checkTypes machine').2 = .ok fallible) :
    ∃ route, plain.Twins fallible route := by
  obtain ⟨unrouted, policy, -, rfl⟩ := Machine.ofDecl_failure checked checked'
  rw [Table.generate_eq] at compiled compiled'
  obtain ⟨kinds, resolved, built⟩ := Except.bind_eq_ok_iff.mp compiled
  obtain ⟨blocks, made, assembled⟩ := Except.bind_eq_ok_iff.mp built
  obtain ⟨kinds', resolved', built'⟩ := Except.bind_eq_ok_iff.mp compiled'
  obtain ⟨blocks', made', assembled'⟩ := Except.bind_eq_ok_iff.mp built'
  rw [resolved] at resolved'
  cases resolved'
  rw [allBlocks_eq] at made made'
  have alike : blocks'.map Block.unhooked = blocks.map Block.unhooked :=
    map_of_mapM made' made fun entry => Block.ofState_unhooked bindings machine _ entry.1 entry.2
  unfold Table.ofBlocks at assembled assembled'
  rw [unrouted] at assembled
  cases assembled
  obtain ⟨_, routed, table⟩ := Except.bind_eq_ok_iff.mp assembled'
  obtain ⟨route, _, same⟩ := Except.bind_eq_ok_iff.mp routed
  cases same
  cases table
  exact ⟨route, rfl, rfl, rfl, rfl, rfl, rfl, alike.symm⟩

/-! ## 6. Runs in step -/

/-- The moments of two machines that are used in the same way: they are created with the same data,
    called upon for the same things, get the same answers, of which none is a failure, and those who
    are asked call upon them for the same things meanwhile. -/
inductive LiveAlike (plain fallible : Table) (errorType : Class) : Moment → Moment → Prop where
  | begun {given : Value} {slot slot' : Slot} (call : Call) (channels : Option Channels)
      (created : plain.create given = .ok slot) (created' : fallible.create given = .ok slot') :
      LiveAlike plain fallible errorType ⟨call, call.operation plain channels slot, []⟩
        ⟨call, call.operation fallible channels slot', []⟩
  | called {call call' : Call} {outcome outcome' : Except Failure Reply} {slot slot' : Slot}
      (next : Call) (channels : Option Channels)
      (live : LiveAlike plain fallible errorType ⟨call, .done outcome slot, []⟩
        ⟨call', .done outcome' slot', []⟩) :
      LiveAlike plain fallible errorType ⟨next, next.operation plain channels slot, []⟩
        ⟨next, next.operation fallible channels slot', []⟩
  | answered {call call' : Call} {request request' : Request} {slot slot' : Slot}
      {resume resume' : Answer → Slot → Dialogue Reply} {waiting waiting' : List Frame}
      (answer : Answer) (unfailing : request.Unfailing errorType answer)
      (live : LiveAlike plain fallible errorType ⟨call, .ask request slot resume, waiting⟩
        ⟨call', .ask request' slot' resume', waiting'⟩) :
      LiveAlike plain fallible errorType ⟨call, resume answer slot, waiting⟩
        ⟨call', resume' answer slot', waiting'⟩
  | nested {call call' : Call} {request request' : Request} {slot slot' : Slot}
      {resume resume' : Answer → Slot → Dialogue Reply} {waiting waiting' : List Frame}
      (next : Call) (channels : Option Channels)
      (live : LiveAlike plain fallible errorType ⟨call, .ask request slot resume, waiting⟩
        ⟨call', .ask request' slot' resume', waiting'⟩) :
      LiveAlike plain fallible errorType
        ⟨next, next.operation plain channels slot, ⟨call, request, resume⟩ :: waiting⟩
        ⟨next, next.operation fallible channels slot', ⟨call', request', resume'⟩ :: waiting'⟩
  | returned {call call' : Call} {outcome outcome' : Except Failure Reply} {slot slot' : Slot}
      {frame frame' : Frame} {waiting waiting' : List Frame}
      (live : LiveAlike plain fallible errorType ⟨call, .done outcome slot, frame :: waiting⟩
        ⟨call', .done outcome' slot', frame' :: waiting'⟩) :
      LiveAlike plain fallible errorType ⟨frame.call, .ask frame.request slot frame.resume, waiting⟩
        ⟨frame'.call, .ask frame'.request slot' frame'.resume, waiting'⟩

end Table

/-- Two calls that wait, for answers to like requests. -/
structure Frame.Like (frame frame' : Frame) : Prop where
  call : frame.call = frame'.call
  request : frame.request.Like frame'.request

/-- The dialogues have come to the same point: both make a request, and the requests are like, or
    both have ended, and in the same way. The slots are equal. -/
inductive Dialogue.Shows {α : Type} : Dialogue α → Dialogue α → Prop where
  | done (outcome : Except Failure α) (slot : Slot) : Shows (.done outcome slot) (.done outcome slot)
  | ask {request request' : Request} (slot : Slot) {resume resume' : Answer → Slot → Dialogue α}
      (like : request.Like request') :
      Shows (.ask request slot resume) (.ask request' slot resume')

theorem Dialogue.Agree.shows {α : Type} {errorType : Class} {dialogue dialogue' : Dialogue α}
    (agree : dialogue.Agree errorType Eq dialogue') : dialogue.Shows dialogue' := by
  cases agree with
  | ok slot results => exact results ▸ .done _ slot
  | error failure slot => exact .done _ slot
  | ask slot like _ => exact .ask slot like

/-- At this moment the two machines are alike. -/
structure Moment.Shows (moment moment' : Moment) : Prop where
  call : moment.call = moment'.call
  doing : moment.doing.Shows moment'.doing
  waiting : List.Forall₂ Frame.Like moment.waiting moment'.waiting

/-- They stay alike. -/
structure Moment.Agree (errorType : Class) (moment moment' : Moment) : Prop where
  call : moment.call = moment'.call
  doing : moment.doing.Agree errorType Eq moment'.doing
  waiting : List.Forall₂ (fun frame frame' => frame.Like frame' ∧
    ∀ answer slot, frame.request.Unfailing errorType answer →
      (frame.resume answer slot).Agree errorType Eq (frame'.resume answer slot))
    moment.waiting moment'.waiting

theorem Table.Twins.agree_of_liveAlike {plain fallible : Table} {route : FailureRoute}
    (twins : plain.Twins fallible route) {moment moment' : Moment}
    (live : plain.LiveAlike fallible route.errorType moment moment') :
    moment.Agree route.errorType moment' := by
  induction live with
  | begun call channels created created' =>
    rw [twins.create, created'] at created
    cases created
    exact ⟨rfl, twins.operation_agree call channels _, .nil⟩
  | called next channels _ ih =>
    have same := ih.doing.shows
    cases same
    exact ⟨rfl, twins.operation_agree next channels _, .nil⟩
  | answered answer unfailing _ ih =>
    obtain ⟨call, doing, waiting⟩ := ih
    cases doing with
    | ask slot like rest => exact ⟨call, rest answer _ unfailing, waiting⟩
  | nested next channels _ ih =>
    obtain ⟨call, doing, waiting⟩ := ih
    cases doing with
    | ask slot like rest =>
      exact ⟨rfl, twins.operation_agree next channels _,
        .cons ⟨⟨call, like⟩, fun answer final => rest answer final⟩ waiting⟩
  | returned _ ih =>
    obtain ⟨-, doing, waiting⟩ := ih
    cases doing.shows
    cases waiting with
    | cons here waiting =>
      obtain ⟨⟨call, like⟩, rest⟩ := here
      exact ⟨call, .ask _ like rest, waiting⟩

/-! ## 7. Main theorem -/

/-- Two events that cannot be told apart. -/
structure Event.Like (event event' : Event) : Prop where
  call : event.call = event'.call
  channels : event.channels = event'.channels
  course : Course.Like event.course event'.course
  outcome : event.outcome = event'.outcome

namespace Table

variable {plain fallible : Table}

/-- The events that follow each other from a slot on, each with the slot after it. -/
inductive Trail (table : Table) : Slot → List (Event × Slot) → Prop where
  | nil (slot : Slot) : Trail table slot []
  | cons {event : Event} {slot next : Slot} {trail : List (Event × Slot)}
      (occurs : event.Occurs table slot next) (rest : Trail table next trail) :
      Trail table slot ((event, next) :: trail)

/-- Every run of the leader without a failure is one of the follower: the same calls with like
    requests and equal answers, outcomes and slots. -/
def Follows (follower leader : Table) (errorType : Class) : Prop :=
  ∀ slot trail, leader.Trail slot trail → (∀ step ∈ trail, step.1.course.Unfailing errorType) →
    ∃ trail', follower.Trail slot trail' ∧
      List.Forall₂ (fun step step' => step.1.Like step'.1 ∧ step.2 = step'.2) trail trail'

theorem follows_of_agree {leader follower : Table} {errorType : Class}
    (agree : ∀ (call : Call) channels, (call.operation leader channels).Agree errorType Eq
      (call.operation follower channels)) : follower.Follows leader errorType := by
  intro slot trail goes unfailing
  induction goes with
  | nil slot => exact ⟨[], .nil slot, .nil⟩
  | @cons event slot next trail occurs _ ih =>
    obtain ⟨here, later⟩ := List.forall_mem_cons.mp unfailing
    obtain ⟨course', like, played⟩ := (agree event.call event.channels slot).plays occurs here
    obtain ⟨trail', goes', alike⟩ := ih later
    exact ⟨(⟨event.call, event.channels, course', event.outcome⟩, next) :: trail',
      .cons played goes', .cons ⟨⟨rfl, rfl, like, rfl⟩, rfl⟩ alike⟩

/-- The two machines behave alike as long as no method and no action fails. -/
structure Lockstep (plain fallible : Table) (errorType : Class) : Prop where
  /-- They are created alike, and what is created has the same name. -/
  creates : ∀ given, plain.create given = fallible.create given
  describes : ∀ className slot, plain.describe className slot = fallible.describe className slot
  /-- They get the same channels. -/
  attaches : ∀ bindings messages,
    Channels.ofMessages bindings plain messages = Channels.ofMessages bindings fallible messages
  /-- With the same calls, those of callbacks included, the two machines are alike at every moment.
      -/
  shows : ∀ moment moment', plain.LiveAlike fallible errorType moment moment' →
    moment.Shows moment'
  /-- Every run of the one without a failure is one of the other, step by step. -/
  follows : fallible.Follows plain errorType
  leads : plain.Follows fallible errorType

theorem Twins.lockstep {route : FailureRoute} (twins : plain.Twins fallible route) :
    plain.Lockstep fallible route.errorType := by
  refine ⟨twins.create, fun className slot => ?_, fun bindings messages => ?_,
    fun moment moment' live => ?_, follows_of_agree twins.operation_agree,
    follows_of_agree fun call channels slot => (twins.operation_agree call channels slot).symm⟩
  · unfold Table.describe
    rcases twins.block?_cases slot.tag with
      ⟨missing, missing'⟩ | ⟨block, block', found, found', alike⟩
    · rw [missing, missing']
    · rw [found, found', Option.map_some, Option.map_some, alike.state]
  · exact twins.addMessages bindings messages.messages .empty
  · obtain ⟨call, doing, waiting⟩ := twins.agree_of_liveAlike live
    exact ⟨call, doing.shows, waiting.imp fun _ _ both => both.1⟩

/-- If a declaration compiles both as a plain machine and, with an error type and an error state, as
    a fallible one, then the two machines run in lockstep as long as no method and no action raises
    an exception of the error type. -/
theorem plain_fallible_lockstep {decl : MachineDecl} {failure : FailureDecl}
    {machine machine' : Machine}
    {bindings : Bindings} {flags : TraceFlags} {checkTypes : Bool}
    (checked : Machine.ofDecl { decl with failure := none } = .ok machine)
    (checked' : Machine.ofDecl { decl with failure := some failure } = .ok machine')
    (compiled : (Table.generate bindings flags checkTypes machine).2 = .ok plain)
    (compiled' : (Table.generate bindings flags checkTypes machine').2 = .ok fallible) :
    ∃ errorType, bindings.resolve failure.errorType.type = .ok (.cls errorType) ∧
      plain.Lockstep fallible errorType := by
  obtain ⟨route, twins⟩ := twins_of_generate checked checked' compiled compiled'
  obtain ⟨-, policy, same, rfl⟩ := Machine.ofDecl_failure checked checked'
  obtain ⟨_, declared, -, resolved⟩ :=
    (Table.generated_of_ok compiled').failure route twins.routed
  cases declared
  exact ⟨route.errorType, same ▸ resolved, twins.lockstep⟩

/-- The lamp takes its first step, and its data raises an exception that is no fault. -/
def stumbling : Event :=
  ⟨.step, none,
    [(.hook .entry Lamp.offBlock.tag true (.object 0 Lamp.off), .ok .null),
     (.report false (traceLine "Lamp" "Enter" "Off"), .ok .null),
     (.report false (traceLine "Lamp" "Execute" "Off"), .ok .null),
     (.hook .execute Lamp.offBlock.tag true (.object 0 Lamp.off),
      .error (.object 1 Class.exception))],
    .error (.raised (.object 1 Class.exception))⟩

/-- An exception of another class is raised in both machines, and halts both after like courses. -/
theorem plain_fallible_lockstep_lamp :
    Lamp.plain.Lockstep Lamp.fallible Lamp.fault ∧
      ∃ trail, Lamp.fallible.Trail (.seeded Lamp.plain (.object 0 Lamp.off)) trail ∧
        List.Forall₂ (fun step step' => step.1.Like step'.1 ∧ step.2 = step'.2)
          [(stumbling, .halted Lamp.offBlock.tag)] trail := by
  obtain ⟨errorType, resolved, law⟩ := plain_fallible_lockstep
    (show Machine.ofDecl { Lamp.decl none with failure := none } = .ok Lamp.plain.machine from rfl)
    (show Machine.ofDecl
      { Lamp.decl none with failure := some ⟨Lamp.state "Fault", Lamp.state "Broken"⟩ } =
        .ok Lamp.fallible.machine from rfl)
    (show (Table.generate Lamp.bindings Lamp.plain.flags true Lamp.plain.machine).2 =
      .ok Lamp.plain from rfl)
    (show (Table.generate Lamp.bindings Lamp.plain.flags true Lamp.fallible.machine).2 =
      .ok Lamp.fallible from rfl)
  cases resolved
  have occurs : stumbling.Occurs Lamp.plain (.seeded Lamp.plain (.object 0 Lamp.off))
      (.halted Lamp.offBlock.tag) := .ask (.ask (.ask (.ask (.done _ _))))
  refine ⟨law, law.follows _ _ (.cons occurs (.nil _)) fun step member => ?_⟩
  rw [List.mem_singleton.mp member]
  intro asked member subject exception raised
  simp only [stumbling, List.mem_cons, List.not_mem_nil, or_false] at member
  rcases member with rfl | rfl | rfl | rfl
  · cases raised
  · cases raised
  · cases raised
  · cases raised
    rfl

end Table

end MachineSpec
