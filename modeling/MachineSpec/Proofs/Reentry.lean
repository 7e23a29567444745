/-
MachineSpec.Proofs.Reentry — callbacks find the machine with an empty slot.

While a machine deals with its data the slot is empty, and a call that finds a running
machine with an empty slot is rejected before it makes a request. So it has to be shown that
the data is taken out before the first callback and put back after the last one, on every
path.

In between, an operation `Withholds` the data: at every request, and at its end, the slot is
empty and no entry is pending. There is one lemma for each function that deals with data.
The operations around it take the data out and put it back, and call the receivers of
messages and the trace sink with the data in place; they are `Sealed`, whatever these
callbacks do to the slot. `stop` and `reset` are allowed to these callbacks only
(`Request.Permits`), since a reset within a step opens the machine.

* `Table.shut_during_callbacks`: at every moment of every such run, a callback other than a
  receiver, a producer or the sink finds the slot empty; `start`, `step`, `push` and `poll`
  are rejected to it; and a call in which it tries them continues and ends as without
  (`Undergoes`).
-/
import MachineSpec.Proofs.Occupancy
import MachineSpec.Proofs.Typing

namespace MachineSpec

/-! ## 1. Withholding data -/

theorem Request.carries_of_isMessage {request : Request} (h : request.isMessage = true) :
    request.Carries := by
  cases request <;> trivial

namespace Dialogue

variable {α β : Type}

/-- The slot is empty at every request and at the end, and no request is for a message. -/
def Withholds : Dialogue α → Prop
  | .done _ slot => slot.Halted
  | .ask request slot resume =>
    slot.Halted ∧ request.isMessage = false ∧ ∀ answer, Withholds (resume answer slot)

theorem Withholds.andThen {dialogue : Dialogue α} {next : α → Operation β}
    (h : dialogue.Withholds) (hn : ∀ a slot, slot.Halted → (next a slot).Withholds) :
    (dialogue.andThen next).Withholds := by
  induction dialogue with
  | done outcome slot =>
    cases outcome with
    | ok a => exact hn a slot h
    | error failure => exact h
  | ask request slot resume ih =>
    obtain ⟨halted, speechless, rest⟩ := h
    exact ⟨halted, speechless, fun answer => ih answer slot (rest answer)⟩

/-- So it is in every course. -/
theorem Withholds.plays {dialogue : Dialogue α} (h : dialogue.Withholds) {course : Course}
    {outcome : Except Failure α} {final : Slot} (plays : Plays dialogue course outcome final) :
    final.Halted ∧ ∀ asked ∈ course, asked.1.isMessage = false := by
  induction plays with
  | done => exact ⟨h, by simp⟩
  | ask _ ih =>
    obtain ⟨-, speechless, rest⟩ := h
    obtain ⟨halted, others⟩ := ih (rest _)
    exact ⟨halted, List.forall_mem_cons.mpr ⟨speechless, others⟩⟩

end Dialogue

namespace Operation

variable {α β : Type}

/-- The same of an operation that begins with the data out of the slot. -/
def Withholds (operation : Operation α) : Prop :=
  ∀ ⦃slot⦄, slot.Halted → (operation slot).Withholds

namespace Withholds

variable {operation : Operation α} {next : α → Operation β} {request : Request}

theorem pure {a : α} : (Pure.pure a : Operation α).Withholds := fun _ halted => halted

theorem fail {failure : Failure} : (Operation.fail failure : Operation α).Withholds :=
  fun _ halted => halted

theorem refuse {error : Error} : (Operation.refuse error : Operation α).Withholds := fail

theorem ofExcept {result : Except Error α} : (Operation.ofExcept result).Withholds := by
  cases result with
  | ok a => exact pure
  | error error => exact refuse

theorem bind (h : operation.Withholds) (hn : ∀ a, (next a).Withholds) :
    (operation >>= next).Withholds :=
  fun _ halted => (h halted).andThen fun a _ halted => hn a halted

theorem attempt (speechless : request.isMessage = false) :
    (Operation.attempt request).Withholds :=
  fun _ halted => ⟨halted, speechless, fun _ => halted⟩

theorem demand (speechless : request.isMessage = false) : (Operation.demand request).Withholds :=
  (attempt speechless).bind fun answer => by
    cases answer with
    | ok value => exact pure
    | error exception => exact fail

theorem tell (speechless : request.isMessage = false) :
    (do let _ ← Operation.demand request : Operation Unit).Withholds :=
  (demand speechless).bind fun _ => pure

end Withholds

end Operation

namespace Table

open Operation

variable {table : Table} {route : FailureRoute} {request : Request} {block : Block} {data : Value}

theorem block_withholds {tag : String} : (table.block tag).Withholds := by
  unfold Table.block
  split
  · exact .pure
  · exact .refuse

theorem callErrorState_withholds (speechless : request.isMessage = false) :
    (callErrorState route request).Withholds :=
  (Withholds.attempt speechless).bind fun answer => by
    cases answer with
    | ok value => exact .pure
    | error exception =>
      dsimp only
      split
      · exact .refuse
      · exact .fail

theorem redirect_withholds {exception : Value} :
    (table.redirect route block data exception).Withholds := by
  refine (Withholds.tell rfl).bind fun _ => ?_
  split
  · exact .refuse
  · refine (Withholds.demand rfl).bind fun made => ?_
    dsimp only
    split
    · exact .refuse
    · exact (Withholds.demand rfl).bind fun _ =>
        (callErrorState_withholds rfl).bind fun _ => .pure

theorem call_withholds (speechless : request.isMessage = false) :
    (table.call block data request).Withholds := by
  unfold Table.call
  split
  · exact (Withholds.demand speechless).bind fun _ => .pure
  · split
    · exact (callErrorState_withholds speechless).bind fun _ => .pure
    · refine (Withholds.attempt speechless).bind fun answer => ?_
      cases answer with
      | ok value => exact .pure
      | error exception =>
        dsimp only
        split
        · exact redirect_withholds.bind fun _ => .pure
        · exact .fail

theorem enter_withholds {reported : Bool} : (table.enter block data reported).Withholds := by
  refine (call_withholds rfl).bind fun result => ?_
  cases result with
  | some entry => exact .pure
  | none =>
    dsimp only
    split
    · exact (Withholds.tell rfl).bind fun _ => .pure
    · exact .pure

theorem runActions_withholds {transitions : List Transition} :
    (table.runActions block data transitions).Withholds := by
  induction transitions with
  | nil => exact .pure
  | cons transition rest ih =>
    refine (call_withholds rfl).bind fun result => ?_
    cases result with
    | some entry => exact .pure
    | none => exact ih

theorem leave_withholds : (table.leave block data).Withholds := by
  refine (call_withholds rfl).bind fun result => ?_
  cases result with
  | some entry => exact .pure
  | none => exact runActions_withholds

theorem retire_withholds : (table.retire block data).Withholds := by
  refine leave_withholds.bind fun result => ?_
  cases result with
  | some entry => exact .pure
  | none => exact (Withholds.tell rfl).bind fun _ => .pure

theorem take_withholds {transition : Transition} :
    (table.take block transition data).Withholds := by
  refine leave_withholds.bind fun result => ?_
  cases result with
  | some entry => exact .pure
  | none =>
    refine (Withholds.tell rfl).bind fun _ => (Withholds.tell rfl).bind fun _ => ?_
    refine block_withholds.bind fun target => (Withholds.demand rfl).bind fun converted => ?_
    split
    · exact .refuse
    · exact enter_withholds

theorem choose_withholds {transitions : List Transition} :
    (choose data transitions).Withholds := by
  induction transitions with
  | nil => exact .pure
  | cons transition rest ih =>
    refine (Withholds.demand rfl).bind fun answer => Withholds.ofExcept.bind fun verdict => ?_
    cases verdict with
    | transit => exact .pure
    | remain => exact ih

theorem run_withholds : (table.run block data).Withholds := by
  refine (Withholds.tell rfl).bind fun _ => (call_withholds rfl).bind fun result => ?_
  cases result with
  | some entry => exact .pure
  | none =>
    refine choose_withholds.bind fun chosen => ?_
    cases chosen with
    | some transition => exact take_withholds
    | none => exact .pure

end Table

/-! ## 2. Sealed operations -/

/-- There is nothing in the slot of a machine that does not run. -/
def Slot.Tidy (slot : Slot) : Prop := slot.running = false → slot.data = .null

theorem Slot.tidy_of_running {slot : Slot} (running : slot.running = true) : slot.Tidy :=
  fun stopped => absurd (running.symm.trans stopped) nofun

theorem Slot.Halted.tidy {slot : Slot} (halted : slot.Halted) : slot.Tidy :=
  tidy_of_running halted.1

theorem Slot.tidy_fresh {table : Table} : (Slot.fresh table).Tidy := fun _ => rfl

/-- What may become of the slot while a request is open: if no message is carried and the slot is
    empty, nothing. -/
def Request.Leaves (request : Request) (slot final : Slot) : Prop :=
  final.Tidy ∧ (request.isMessage = false → slot.Halted → final = slot)

theorem Request.leaves_refl {request : Request} {slot : Slot} (tidy : slot.Tidy) :
    request.Leaves slot slot :=
  ⟨tidy, fun _ _ => rfl⟩

theorem Request.Leaves.trans {request : Request} {slot middle final : Slot}
    (first : request.Leaves slot middle) (second : request.Leaves middle final) :
    request.Leaves slot final := by
  refine ⟨second.1, fun speechless halted => ?_⟩
  have same := first.2 speechless halted
  rw [second.2 speechless (same ▸ halted), same]

namespace Dialogue

variable {α β : Type} {ends ends' : Slot → Prop}

/-- Whoever is asked for anything but to carry a message or a report finds the slot empty, whatever
    became of it before. -/
def Sealed (ends : Slot → Prop) : Dialogue α → Prop
  | .done _ slot => ends slot
  | .ask request slot resume =>
    slot.Tidy ∧ (¬ request.Carries → slot.Halted) ∧
      ∀ answer final, request.Leaves slot final → Sealed ends (resume answer final)

theorem Sealed.mono {dialogue : Dialogue α} (h : dialogue.Sealed ends)
    (he : ∀ slot, ends slot → ends' slot) : dialogue.Sealed ends' := by
  induction dialogue with
  | done outcome slot => exact he slot h
  | ask request slot resume ih =>
    obtain ⟨tidy, shut, rest⟩ := h
    exact ⟨tidy, shut, fun answer final leaves => ih answer final (rest answer final leaves)⟩

theorem Sealed.andThen {dialogue : Dialogue α} {next : α → Operation β} (h : dialogue.Sealed ends)
    (hn : ∀ a slot, ends slot → (next a slot).Sealed ends') (hf : ∀ slot, ends slot → ends' slot) :
    (dialogue.andThen next).Sealed ends' := by
  induction dialogue with
  | done outcome slot =>
    cases outcome with
    | ok a => exact hn a slot h
    | error failure => exact hf slot h
  | ask request slot resume ih =>
    obtain ⟨tidy, shut, rest⟩ := h
    exact ⟨tidy, shut, fun answer final leaves => ih answer final (rest answer final leaves)⟩

theorem Sealed.map {f : α → β} {dialogue : Dialogue α} (h : dialogue.Sealed ends) :
    (dialogue.andThen fun a => Pure.pure (f a)).Sealed ends :=
  h.andThen (fun _ _ ended => ended) fun _ ended => ended

/-- What was done to the slot meanwhile does not matter. -/
theorem Sealed.moved {request : Request} {slot final : Slot} {resume : Answer → Slot → Dialogue α}
    (h : (Dialogue.ask request slot resume).Sealed ends) (leaves : request.Leaves slot final) :
    (Dialogue.ask request final resume).Sealed ends := by
  obtain ⟨tidy, shut, rest⟩ := h
  refine ⟨leaves.1, fun other => ?_, fun answer last later => rest answer last (leaves.trans later)⟩
  have speechless : request.isMessage = false :=
    Bool.eq_false_iff.mpr fun message => other (Request.carries_of_isMessage message)
  rw [leaves.2 speechless (shut other)]
  exact shut other

/-- To withhold the data is to be sealed, as long as what follows is. -/
theorem Withholds.seals {dialogue : Dialogue α} {next : α → Operation β} (h : dialogue.Withholds)
    (fails : ∀ slot, slot.Tidy → ends slot)
    (hn : ∀ a slot, slot.Halted → (next a slot).Sealed ends) :
    (dialogue.andThen next).Sealed ends := by
  induction dialogue with
  | done outcome slot =>
    cases outcome with
    | ok a => exact hn a slot h
    | error failure => exact fails slot h.tidy
  | ask request slot resume ih =>
    obtain ⟨halted, speechless, rest⟩ := h
    refine ⟨halted.tidy, fun _ => halted, fun answer final leaves => ?_⟩
    rw [leaves.2 speechless halted]
    exact ih answer slot (rest answer)

end Dialogue

namespace Operation

variable {α β : Type}

/-- From any slot that is tidy the operation is sealed, and leaves a tidy slot. -/
def Sealed (operation : Operation α) : Prop :=
  ∀ ⦃slot⦄, slot.Tidy → (operation slot).Sealed Slot.Tidy

namespace Sealed

variable {operation : Operation α} {next : α → Operation β} {request : Request}

theorem pure {a : α} : (Pure.pure a : Operation α).Sealed := fun _ tidy => tidy

theorem refuse {error : Error} : (Operation.refuse error : Operation α).Sealed := fun _ tidy => tidy

theorem ofExcept {result : Except Error α} : (Operation.ofExcept result).Sealed := by
  cases result with
  | ok a => exact pure
  | error error => exact refuse

theorem bind (h : operation.Sealed) (hn : ∀ a, (next a).Sealed) : (operation >>= next).Sealed :=
  fun _ tidy => (h tidy).andThen (fun a _ tidy => hn a tidy) fun _ tidy => tidy

theorem look {next : Slot → Operation α} (h : ∀ slot, (next slot).Sealed) :
    (Operation.slot >>= next).Sealed :=
  fun slot tidy => h slot tidy

/-- To carry a message, or to report. -/
theorem demand (carries : request.Carries) : (Operation.demand request).Sealed := by
  intro slot tidy
  refine ⟨tidy, fun other => absurd carries other, fun answer final leaves => ?_⟩
  cases answer with
  | ok value => exact leaves.1
  | error exception => exact leaves.1

theorem tell (carries : request.Carries) :
    (do let _ ← Operation.demand request : Operation Unit).Sealed :=
  (demand carries).bind fun _ => pure

end Sealed

end Operation

namespace Table

open Operation

variable {table : Table} {slot : Slot} {β : Type} {ends : Slot → Prop} {channels : Channels}
  {target payload : Designator}

theorem block_seals {tag : String} {next : Block → Operation β} (fails : ends slot)
    (hn : ∀ block, (next block slot).Sealed ends) :
    ((table.block tag >>= next) slot).Sealed ends := by
  unfold Table.block
  split
  · exact hn _
  · exact fails

theorem takeData_seals {next : Value → Operation β} (fails : ends slot)
    (hn : slot.running = true → (next slot.data { slot with data := .null }).Sealed ends) :
    ((table.takeData >>= next) slot).Sealed ends := by
  rw [bind_apply]
  rcases takeData_cases table slot with ⟨⟨running, -⟩, taken⟩ | ⟨-, empty⟩
  · rw [taken]
    exact hn running
  · rw [empty]
    exact fails

/-- Data is put back behind what withholds it. -/
theorem settles {operation : Operation Entry} {next : Entry → Unit → Operation β}
    (withholds : operation.Withholds) (halted : slot.Halted)
    (hn : ∀ entry now, now.running = true → now.pending = false →
      (next entry () now).Sealed Slot.Tidy) :
    ((operation >>= fun entry => settle entry >>= next entry) slot).Sealed Slot.Tidy :=
  (withholds halted).seals (fun _ tidy => tidy) fun entry now halted =>
    hn entry { now with tag := entry.tag, data := entry.data } halted.1 halted.2.2

theorem start_sealed {data : Value} : (table.start data).Sealed := by
  intro slot tidy
  cases running : slot.running with
  | true =>
    rw [start_running running]
    exact tidy
  | false =>
    cases check : table.checkInitial data with
    | error error =>
      have refused : table.start data slot = .done (.error (.error error)) slot := by
        simp [start, running, check]
      rw [refused]
      exact tidy
    | ok _ =>
      obtain ⟨block, initial, -⟩ := classed_of_checkInitial check
      rw [start_enters running check initial]
      refine settles enter_withholds ⟨rfl, tidy running, rfl⟩ fun entry now running _ => ?_
      exact Sealed.tell (by trivial) (Slot.tidy_of_running running)

/-- A deferred entry is made with the data out of the slot, and nothing is pending afterwards. -/
theorem enterPending_seals {next : Bool → Operation β} (tidy : slot.Tidy)
    (hn : ∀ elsewhere slot, slot.Tidy → slot.pending = false →
      (next elsewhere slot).Sealed Slot.Tidy) :
    ((table.enterPending >>= next) slot).Sealed Slot.Tidy := by
  cases pending : slot.pending with
  | false =>
    rw [enterPending_bind pending]
    exact hn _ _ tidy pending
  | true =>
    rw [bind_apply, enterPending_owed pending, ← bind_apply]
    simp only [bind_assoc, pure_bind]
    refine block_seals tidy fun block => takeData_seals tidy fun running => ?_
    refine settles enter_withholds ⟨running, rfl, rfl⟩ fun entry now running settled => ?_
    exact hn _ _ (Slot.tidy_of_running running) settled

theorem stepped_seals (tidy : slot.Tidy) (settled : slot.pending = false) :
    (table.stepped slot).Sealed Slot.Tidy := by
  unfold stepped
  refine takeData_seals tidy fun running => ?_
  have halted : Slot.Halted { slot with data := .null } := ⟨running, rfl, settled⟩
  rw [bind_apply, slot_apply, andThen_ok]
  refine block_seals halted.tidy fun block => ?_
  exact (run_withholds halted).seals (fun _ tidy => tidy) fun _ _ halted =>
    Slot.tidy_of_running halted.1

theorem stopped_seals (tidy : slot.Tidy) (settled : slot.pending = false) :
    (table.stopped slot).Sealed Slot.Tidy := by
  unfold stopped
  rw [bind_apply, slot_apply, andThen_ok]
  split
  · exact Slot.tidy_fresh
  · refine takeData_seals tidy fun running => ?_
    have halted : Slot.Halted { slot with data := .null } := ⟨running, rfl, settled⟩
    refine (Withholds.tell rfl halted).seals (fun _ tidy => tidy) fun _ now halted => ?_
    rw [bind_apply, slot_apply, andThen_ok]
    refine block_seals halted.tidy fun block => ?_
    refine (retire_withholds halted).seals (fun _ tidy => tidy) fun entry now _ => ?_
    rw [bind_apply, reset, change_apply, andThen_ok]
    exact block_seals Slot.tidy_fresh fun _ => Slot.tidy_fresh

theorem activeChannel_sealed {found : List (String × Channel)} {rejected : Value} :
    (table.activeChannel found target rejected).Sealed := by
  refine .look fun slot => Sealed.ofExcept.bind fun active => ?_
  split
  · split
    · exact .refuse
    · exact .pure
  · exact .refuse

theorem pushed_sealed {message : Value} : (table.pushed channels target message).Sealed := by
  refine Sealed.ofExcept.bind fun found => activeChannel_sealed.bind fun (channel, data) => ?_
  exact (Sealed.tell (by trivial)).bind fun _ => .tell (by trivial)

theorem polled_sealed : (table.polled channels target payload).Sealed := by
  refine Sealed.ofExcept.bind fun found => activeChannel_sealed.bind fun (channel, data) => ?_
  refine (Sealed.demand (by trivial)).bind fun message => ?_
  split
  · exact .pure
  · exact (Sealed.tell (by trivial)).bind fun _ => .pure

/-- Every call is sealed. -/
theorem operation_sealed (call : Call) (channels : Option Channels) :
    (call.operation table channels).Sealed := by
  intro slot tidy
  cases call with
  | start data => exact (start_sealed tidy).map
  | reset => exact Slot.tidy_fresh
  | peek => exact (Sealed.look (fun _ => .ofExcept) tidy).map
  | isState target => exact (Sealed.look (fun _ => .ofExcept) tidy).map
  | step =>
    refine Dialogue.Sealed.map ?_
    rw [step_eq]
    refine enterPending_seals tidy fun elsewhere now tidy settled => ?_
    split
    · exact tidy
    · exact stepped_seals tidy settled
  | stop =>
    refine Dialogue.Sealed.map ?_
    rw [stop_eq]
    exact enterPending_seals tidy fun _ now tidy settled => stopped_seals tidy settled
  | push target message =>
    refine Dialogue.Sealed.map ?_
    cases channels with
    | none => exact tidy
    | some channels =>
      rw [push_some]
      exact enterPending_seals tidy fun _ now tidy _ => pushed_sealed tidy
  | poll target payload =>
    refine Dialogue.Sealed.map ?_
    cases channels with
    | none => exact tidy
    | some channels =>
      rw [poll_some]
      exact enterPending_seals tidy fun _ now tidy _ => polled_sealed tidy

end Table

/-! ## 3. Runs -/

/-- The calls that wait are sealed, if they get the slot back like this. -/
def Slot.Resumes : List Frame → Slot → Prop
  | [], _ => True
  | frame :: waiting, slot => (Dialogue.ask frame.request slot frame.resume).Sealed
      fun final => final.Tidy ∧ final.Resumes waiting

/-- The running call is sealed, and leaves the slot so that the waiting calls are. -/
def Moment.Sealed (moment : Moment) : Prop :=
  moment.doing.Sealed fun final => final.Tidy ∧ final.Resumes moment.waiting

theorem Slot.tidy_of_create {table : Table} {given : Value} {slot : Slot}
    (created : table.create given = .ok slot) : slot.Tidy := by
  rcases table.create_cases created with rfl | ⟨rfl, -⟩
  · exact tidy_fresh
  · exact tidy_of_running rfl

namespace Table

variable {table : Table} {allows : Request → Call → Prop}

/-- A call that is made while a request is open does nothing at all, or the request has room for
    whatever it does. -/
theorem vain_or_leaves {request : Request} {call : Call} {slot : Slot}
    (permitted : request.Permits call) (channels : Option Channels) :
    (call.operation table channels).Vacant slot ∨
      ¬ (request.isMessage = false ∧ slot.Halted) ∧
        ∀ final, final.Tidy → request.Leaves slot final := by
  by_cases out : request.isMessage = false ∧ slot.Halted
  · refine .inl (vacant_of_halted out.2 ?_ channels)
    exact permitted.resolve_left (by simp [out.1])
  · refine .inr ⟨out, fun final tidy => ⟨tidy, fun speechless halted => ?_⟩⟩
    exact absurd ⟨speechless, halted⟩ out

/-- At every moment of a run the running call is sealed. -/
theorem Lives.sealed (permits : ∀ request call, allows request call → request.Permits call)
    {moment : Moment} (lives : table.Lives allows moment) : moment.Sealed := by
  have performs : ∀ (call : Call) channels slot, slot.Tidy →
      Moment.Sealed ⟨call, call.operation table channels slot, []⟩ := fun call channels slot tidy =>
    (operation_sealed call channels tidy).mono fun _ tidy => ⟨tidy, trivial⟩
  induction lives with
  | begun call channels created => exact performs call channels _ (Slot.tidy_of_create created)
  | called next channels _ ih => exact performs next channels _ ih.1
  | answered answer _ ih => exact ih.2.2 answer _ (Request.leaves_refl ih.1)
  | @nested _ request slot _ _ next channels allowed _ ih =>
    have tidy : slot.Tidy := ih.1
    rcases vain_or_leaves (permits _ _ allowed) channels with ⟨outcome, vain⟩ | ⟨-, leaves⟩
    · exact show Dialogue.Sealed _ (next.operation table channels slot) from vain ▸ ⟨tidy, ih⟩
    · exact (operation_sealed next channels tidy).mono fun final tidy =>
        ⟨tidy, ih.moved (leaves final tidy)⟩
  | returned _ ih => exact ih.2

/-! ## 4. Calls with others made in the midst of them -/

/-- A course of a call during which callbacks may make calls on the machine before they answer. Only
    its own requests are recorded. -/
inductive Undergoes (table : Table) (allows : Request → Call → Prop) :
    Dialogue Reply → Course → Except Failure Reply → Slot → Prop where
  | done (outcome : Except Failure Reply) (slot : Slot) :
      Undergoes table allows (.done outcome slot) [] outcome slot
  | answered {request : Request} {slot final : Slot} {resume : Answer → Slot → Dialogue Reply}
      {course : Course} {outcome : Except Failure Reply} (answer : Answer)
      (rest : Undergoes table allows (resume answer slot) course outcome final) :
      Undergoes table allows (.ask request slot resume) ((request, answer) :: course) outcome final
  | nested {request : Request} {slot middle final : Slot} {resume : Answer → Slot → Dialogue Reply}
      {inner course : Course} {result outcome : Except Failure Reply} (next : Call)
      (channels : Option Channels) (allowed : allows request next)
      (inside : Undergoes table allows (next.operation table channels slot) inner result middle)
      (rest : Undergoes table allows (.ask request middle resume) course outcome final) :
      Undergoes table allows (.ask request slot resume) course outcome final

theorem Undergoes.mono {others : Request → Call → Prop} {dialogue : Dialogue Reply}
    {course : Course} {outcome : Except Failure Reply} {final : Slot}
    (undergoes : table.Undergoes allows dialogue course outcome final)
    (h : ∀ request call, allows request call → others request call) :
    table.Undergoes others dialogue course outcome final := by
  induction undergoes with
  | done outcome slot => exact .done outcome slot
  | answered answer _ ih => exact .answered answer ih
  | nested next channels allowed _ _ inside rest =>
    exact .nested next channels (h _ _ allowed) inside rest

/-- They are the courses of runs. -/
theorem Lives.undergoes {call : Call} {dialogue : Dialogue Reply} {waiting : List Frame}
    {course : Course} {outcome : Except Failure Reply} {final : Slot}
    (lives : table.Lives allows ⟨call, dialogue, waiting⟩)
    (undergoes : table.Undergoes allows dialogue course outcome final) :
    table.Lives allows ⟨call, .done outcome final, waiting⟩ := by
  induction undergoes generalizing call waiting with
  | done => exact lives
  | answered answer _ ih => exact ih (.answered answer lives)
  | nested next channels allowed _ _ inside rest =>
    exact rest (.returned (inside (.nested next channels allowed lives)))

/-- If no calls are allowed, these are the courses during which only the call changes the slot. -/
theorem undergoes_iff_plays (none : ∀ request call, ¬ allows request call)
    {dialogue : Dialogue Reply} {course : Course} {outcome : Except Failure Reply} {final : Slot} :
    table.Undergoes allows dialogue course outcome final ↔
      Dialogue.Plays dialogue course outcome final := by
  constructor
  · intro undergoes
    induction undergoes with
    | done outcome slot => exact .done outcome slot
    | answered answer _ ih => exact .ask ih
    | nested _ _ allowed => exact absurd allowed (none _ _)
  · intro plays
    induction plays with
    | done outcome slot => exact .done outcome slot
    | ask _ ih => exact .answered _ ih

/-- Calls that those make who do not carry a message or a report may be left out. -/
theorem Undergoes.without (permits : ∀ request call, allows request call → request.Permits call)
    {dialogue : Dialogue Reply} {course : Course} {outcome : Except Failure Reply} {final : Slot}
    (undergoes : table.Undergoes allows dialogue course outcome final) {ends : Slot → Prop}
    (shut : dialogue.Sealed ends) :
    table.Undergoes (fun request call => allows request call ∧ request.Carries) dialogue course
      outcome final ∧ ends final := by
  induction undergoes generalizing ends with
  | done outcome slot => exact ⟨.done outcome slot, shut⟩
  | answered answer _ ih =>
    obtain ⟨rest, ended⟩ := ih (shut.2.2 answer _ (Request.leaves_refl shut.1))
    exact ⟨.answered answer rest, ended⟩
  | @nested request slot middle _ _ _ _ _ _ next channels allowed undergoes _ inside rest =>
    obtain ⟨inside, tidy⟩ := inside (operation_sealed next channels shut.1)
    rcases vain_or_leaves (permits _ _ allowed) channels with ⟨result, vain⟩ | ⟨room, leaves⟩
    · have same : middle = slot := by
        rw [vain] at undergoes
        cases undergoes
        rfl
      subst same
      exact rest shut
    · obtain ⟨rest, ended⟩ := rest (shut.moved (leaves middle tidy))
      have carries : request.Carries := by
        refine Classical.byContradiction fun other => room ⟨?_, shut.2.1 other⟩
        exact Bool.eq_false_iff.mpr fun message => other (Request.carries_of_isMessage message)
      exact ⟨.nested next channels ⟨allowed, carries⟩ inside rest, ended⟩

/-! ## 5. Main theorem -/

/-- Calls on a machine with this slot are rejected: they make no request and leave the slot as it
    is. -/
structure Rebuffs (table : Table) (channels : Option Channels) (slot : Slot) : Prop where
  start : ∀ data, ∃ error, error.kind = .internalError ∧
    (Call.start data).operation table channels slot = .done (.error (.error error)) slot
  step : ∃ error, error.kind = .internalError ∧
    Call.step.operation table channels slot = .done (.error (.error error)) slot
  push : ∀ target message, ((Call.push target message).operation table channels).Barred slot
  poll : ∀ target payload, ((Call.poll target payload).operation table channels).Barred slot

theorem rebuffs_of_halted {slot : Slot} (halted : slot.Halted) (channels : Option Channels) :
    table.Rebuffs channels slot := by
  rw [halted.eq_halted]
  refine ⟨fun data => ⟨.alreadyRunning table.name, rfl, ?_⟩, ⟨.empty table.name, rfl, rfl⟩,
    fun target message => push_barred.bind, fun target payload => poll_barred.bind⟩
  rw [Call.operation, Operation.map_apply, start_running rfl]
  rfl

/-- At this moment of a run the machine is shut to the callbacks that deal with its data. -/
structure Shut (table : Table) (allows : Request → Call → Prop) (moment : Moment) : Prop where
  /-- A request other than for a message or a report is made by a running machine with an empty slot
      and no pending entry. -/
  empty : ∀ request slot resume, moment.doing = .ask request slot resume → ¬ request.Carries →
    slot.Halted
  /-- The calls of its callback are rejected. -/
  rebuffs : ∀ request slot resume, moment.doing = .ask request slot resume → ¬ request.Carries →
    ∀ channels, table.Rebuffs channels slot
  /-- Whether the callback makes calls or not, the running call continues and ends in the same way.
      -/
  unmoved : ∀ course outcome final, table.Undergoes allows moment.doing course outcome final ↔
    table.Undergoes (fun request call => allows request call ∧ request.Carries) moment.doing course
      outcome final
  /-- So if no other calls are made, it ends as without them. -/
  alone : (∀ request call, allows request call → ¬ request.Carries) →
    ∀ course outcome final, table.Undergoes allows moment.doing course outcome final ↔
      Dialogue.Plays moment.doing course outcome final

/-- At every moment of every run in which `stop` and `reset` are not called from within an operation
    on data, the machine is shut to the callbacks that deal with its data. -/
theorem shut_during_callbacks (permits : ∀ request call, allows request call → request.Permits call)
    {moment : Moment} (lives : table.Lives allows moment) : table.Shut allows moment := by
  have shut := lives.sealed permits
  have empty : ∀ request slot resume, moment.doing = .ask request slot resume →
      ¬ request.Carries → slot.Halted := by
    intro request slot resume asks other
    rw [Moment.Sealed, asks] at shut
    exact shut.2.1 other
  have unmoved : ∀ course outcome final, table.Undergoes allows moment.doing course outcome final ↔
      table.Undergoes (fun request call => allows request call ∧ request.Carries) moment.doing
        course outcome final := fun course outcome final =>
    ⟨fun undergoes => (undergoes.without permits shut).1,
      fun undergoes => undergoes.mono fun _ _ => And.left⟩
  refine ⟨empty, fun request slot resume asks other =>
    rebuffs_of_halted (empty request slot resume asks other), unmoved, fun others => ?_⟩
  intro course outcome final
  rw [unmoved]
  exact undergoes_iff_plays fun request call allowed => others request call allowed.1 allowed.2

/-- Whoever deals with the data of the lamp may try to step it. -/
def Stepping (request : Request) (call : Call) : Prop := ¬ request.Carries ∧ call = .step

/-- The entry hook of the lamp calls `step` during `start`: the step is rejected, and the start
    succeeds. -/
theorem shut_during_callbacks_lamp :
    Lamp.plain.Rebuffs none (.halted Lamp.offBlock.tag) ∧
      Lamp.plain.Undergoes Stepping
        ((Call.start (.object 0 Lamp.off)).operation Lamp.plain none (.fresh Lamp.plain))
        [(.hook .entry Lamp.offBlock.tag true (.object 0 Lamp.off), .ok .null),
          (Lamp.plain.startLine, .ok .null)] (.ok .nothing)
        (.holding ⟨Lamp.offBlock.tag, .object 0 Lamp.off⟩) ∧
      Dialogue.Plays
        ((Call.start (.object 0 Lamp.off)).operation Lamp.plain none (.fresh Lamp.plain))
        [(.hook .entry Lamp.offBlock.tag true (.object 0 Lamp.off), .ok .null),
          (Lamp.plain.startLine, .ok .null)] (.ok .nothing)
        (.holding ⟨Lamp.offBlock.tag, .object 0 Lamp.off⟩) := by
  have created : Lamp.plain.create .null = .ok (.fresh Lamp.plain) := rfl
  have permits : ∀ request call, Stepping request call → request.Permits call := by
    rintro request _ ⟨-, rfl⟩
    exact .inr ⟨nofun, nofun⟩
  have shut := shut_during_callbacks permits (.begun (.start (.object 0 Lamp.off)) none created)
  have undergoes : Lamp.plain.Undergoes Stepping
      ((Call.start (.object 0 Lamp.off)).operation Lamp.plain none (.fresh Lamp.plain))
      [(.hook .entry Lamp.offBlock.tag true (.object 0 Lamp.off), .ok .null),
        (Lamp.plain.startLine, .ok .null)] (.ok .nothing)
      (.holding ⟨Lamp.offBlock.tag, .object 0 Lamp.off⟩) :=
    .nested .step none ⟨id, rfl⟩ (.done _ _)
      (.answered (.ok .null) (.answered (.ok .null) (.done _ _)))
  exact ⟨shut.rebuffs _ _ _ rfl id none, undergoes,
    (shut.alone (fun _ _ => And.left) _ _ _).mp undergoes⟩

end Table

end MachineSpec
