/-
MachineSpec.Proofs.Interference — runs in which callbacks call the machine.

A callback may call the machine whose request it answers: a hook may read the active state,
a receiver may make a step, and each of these calls may make requests in turn. A run of a
machine is then a stack of calls: one is running, and the others wait for the answer to a
request. `Lives` are the moments of all runs, where `allows` says which calls a callback may
make during a request.

`Terms` state what may happen to the slot while a request is open, and what has to hold at
every request. `Secure` says that a dialogue keeps to the terms for all answers and all such
changes of the slot; there is a rule for each way of building an operation.

* `Lives.secure`: if every call keeps to the terms, and the calls that are allowed change
  the slot within the terms only, then at every moment of every run the running call and the
  waiting calls keep to the terms.
-/
import MachineSpec.Proofs.Calls

namespace MachineSpec

open Operation (Assertion)

/-! ## 1. Terms -/

/-- The terms on which a machine is used. -/
structure Terms where
  /-- What may become of the slot while a request is open. -/
  rely : Request → Slot → Slot → Prop
  /-- What holds of the slot while no operation has taken the data out. -/
  steady : Slot → Prop
  /-- What holds of the answers so far whenever a request is made. -/
  asks : Request → Course → Prop
  /-- What holds of the answers when a call returns. -/
  returns : Call → Reply → Course → Prop
  /-- What holds of the answers when a call fails. -/
  fails : Failure → Course → Prop
  still : ∀ request slot, rely request slot slot
  trans : ∀ {request slot middle final}, rely request slot middle → rely request middle final →
    rely request slot final
  steady_rely : ∀ {request slot final}, rely request slot final → steady slot → steady final

/-! ## 2. Secure dialogues -/

namespace Dialogue

variable {α β : Type} {terms : Terms} {after after' : α → Assertion}
  {failed failed' : Failure → Assertion} {past : Course}

/-- With the given past the dialogue keeps to the terms, and ends as promised. -/
def Secure (terms : Terms) (after : α → Assertion) (failed : Failure → Assertion) :
    Dialogue α → Course → Prop
  | .done (.ok a) slot, past => after a past slot
  | .done (.error failure) slot, past => failed failure past slot
  | .ask request slot resume, past =>
    terms.steady slot ∧ terms.asks request past ∧ ∀ answer final, terms.rely request slot final →
      Secure terms after failed (resume answer final) (past ++ [(request, answer)])

theorem Secure.mono {dialogue : Dialogue α} (h : dialogue.Secure terms after failed past)
    (ha : ∀ a past slot, after a past slot → after' a past slot)
    (hf : ∀ failure past slot, failed failure past slot → failed' failure past slot) :
    dialogue.Secure terms after' failed' past := by
  induction dialogue generalizing past with
  | done outcome slot =>
    cases outcome with
    | ok a => exact ha _ _ _ h
    | error failure => exact hf _ _ _ h
  | ask request slot resume ih =>
    obtain ⟨steady, asks, rest⟩ := h
    exact ⟨steady, asks, fun answer final relied => ih answer final (rest answer final relied)⟩

theorem Secure.andThen {dialogue : Dialogue β} {middle : β → Assertion}
    {next : β → Operation α} (h : dialogue.Secure terms middle failed past)
    (hn : ∀ b past slot, middle b past slot → (next b slot).Secure terms after failed past) :
    (dialogue.andThen next).Secure terms after failed past := by
  induction dialogue generalizing past with
  | done outcome slot =>
    cases outcome with
    | ok b => exact hn _ _ _ h
    | error failure => exact h
  | ask request slot resume ih =>
    obtain ⟨steady, asks, rest⟩ := h
    exact ⟨steady, asks, fun answer final relied => ih answer final (rest answer final relied)⟩

/-- Somebody has touched the slot, within the terms, and has not answered yet. -/
theorem Secure.moved {request : Request} {slot final : Slot}
    {resume : Answer → Slot → Dialogue α}
    (h : (Dialogue.ask request slot resume).Secure terms after failed past)
    (relied : terms.rely request slot final) :
    (Dialogue.ask request final resume).Secure terms after failed past := by
  obtain ⟨steady, asks, rest⟩ := h
  exact ⟨terms.steady_rely relied steady, asks,
    fun answer last later => rest answer last (terms.trans relied later)⟩

/-- If only the dialogue changes the slot, the terms are kept. -/
theorem Secure.plays {dialogue : Dialogue α} (h : dialogue.Secure terms after failed past)
    {course : Course} {outcome : Except Failure α} {final : Slot} :
    Plays dialogue course outcome final →
      match outcome with
      | .ok a => after a (past ++ course) final
      | .error failure => failed failure (past ++ course) final := by
  intro plays
  induction plays generalizing past with
  | done outcome slot =>
    rw [List.append_nil]
    cases outcome with
    | ok a => exact h
    | error failure => exact h
  | @ask request slot resume answer course outcome final _ ih =>
    have rest := ih (h.2.2 answer slot (terms.still request slot))
    rwa [List.append_assoc] at rest

/-- Every request of a course is made on the terms. -/
theorem Secure.asked {dialogue : Dialogue α} (h : dialogue.Secure terms after failed past)
    {course before rest : Course} {asked : Request × Answer} {outcome : Except Failure α}
    {final : Slot} (plays : Plays dialogue course outcome final)
    (split : course = before ++ asked :: rest) : terms.asks asked.1 (past ++ before) := by
  induction plays generalizing past before with
  | done => simp at split
  | @ask request slot resume answer course outcome final _ ih =>
    cases before with
    | nil =>
      cases split
      rw [List.append_nil]
      exact h.2.1
    | cons first before =>
      cases split
      have asks := ih (h.2.2 answer slot (terms.still request slot)) rfl
      rwa [List.append_assoc] at asks

end Dialogue

/-! ## 3. Secure operations -/

namespace Operation

variable {α β : Type}

/-- Where `before` holds, the operation keeps to the terms and ends as promised. -/
def Secure (terms : Terms) (before : Assertion) (operation : Operation α) (after : α → Assertion)
    (failed : Failure → Assertion) : Prop :=
  ∀ ⦃past slot⦄, before past slot → (operation slot).Secure terms after failed past

namespace Secure

variable {terms : Terms} {before before' : Assertion} {operation : Operation α}
  {after after' : α → Assertion} {failed failed' : Failure → Assertion} {next : α → Operation β}
  {ended : β → Assertion}

theorem mono (h : operation.Secure terms before after failed)
    (hb : ∀ past slot, before' past slot → before past slot)
    (ha : ∀ a past slot, after a past slot → after' a past slot)
    (hf : ∀ failure past slot, failed failure past slot → failed' failure past slot) :
    operation.Secure terms before' after' failed' :=
  fun _ _ holds => (h (hb _ _ holds)).mono ha hf

/-- What is no matter of course or slot may be set apart. -/
theorem given {p : Prop} (h : p → operation.Secure terms before after failed) :
    operation.Secure terms (fun past slot => before past slot ∧ p) after failed :=
  fun _ _ holds => h holds.2 holds.1

theorem pure {a : α} (h : ∀ past slot, before past slot → after a past slot) :
    (Pure.pure a : Operation α).Secure terms before after failed :=
  fun past slot holds => h past slot holds

theorem fail {failure : Failure} (h : ∀ past slot, before past slot → failed failure past slot) :
    (Operation.fail failure).Secure terms before after failed :=
  fun past slot holds => h past slot holds

/-- The rule of sequels. -/
theorem bind (h : operation.Secure terms before after failed)
    (hn : ∀ a, (next a).Secure terms (after a) ended failed) :
    (operation >>= next).Secure terms before ended failed :=
  fun _ _ holds => (h holds).andThen fun a _ _ middle => hn a middle

theorem map {f : α → β} (h : operation.Secure terms before (fun a => ended (f a)) failed) :
    (f <$> operation).Secure terms before ended failed :=
  h.bind fun _ => .pure fun _ _ holds => holds

/-- To look at the slot is to know it. -/
theorem look {next : Slot → Operation α} (h : ∀ now,
    (next now).Secure terms (fun past slot => before past slot ∧ slot = now) after failed) :
    (Operation.slot >>= next).Secure terms before after failed :=
  fun _ slot holds => h slot ⟨holds, rfl⟩

theorem change {f : Slot → Slot} (after : Unit → Assertion)
    (h : ∀ past slot, before past slot → after () past (f slot)) :
    (Operation.change f).Secure terms before after failed :=
  fun past slot holds => h past slot holds

/-- A request may be made where the terms allow it, and what is known afterwards has to hold whatever
    became of the slot. -/
theorem attempt {request : Request} {after : Answer → Assertion}
    (steady : ∀ past slot, before past slot → terms.steady slot)
    (asks : ∀ past slot, before past slot → terms.asks request past)
    (answered : ∀ past slot answer final, before past slot → terms.rely request slot final →
      after answer (past ++ [(request, answer)]) final) :
    (Operation.attempt request).Secure terms before after failed :=
  fun past slot holds => ⟨steady past slot holds, asks past slot holds,
    fun answer final relied => answered past slot answer final holds relied⟩

end Secure

end Operation

/-! ## 4. Runs -/

/-- The slot that a dialogue has come to. -/
def Dialogue.slot {α : Type} : Dialogue α → Slot
  | .done _ slot => slot
  | .ask _ slot _ => slot

/-- A call that waits for the answer to a request. -/
structure Frame where
  call : Call
  request : Request
  resume : Answer → Slot → Dialogue Reply

/-- A moment of a run: the running call, what is left of it, and the calls that wait, the most
    recent first. -/
structure Moment where
  call : Call
  doing : Dialogue Reply
  waiting : List Frame

/-- The moments of the runs of a machine that was created with some data or with none. Between its
    calls any call may be made, and while a request is open those calls that `allows` permits for
    it. -/
inductive Table.Lives (table : Table) (allows : Request → Call → Prop) : Moment → Prop where
  | begun {given : Value} {slot : Slot} (call : Call) (channels : Option Channels)
      (created : table.create given = .ok slot) :
      Lives table allows ⟨call, call.operation table channels slot, []⟩
  | called {call : Call} {outcome : Except Failure Reply} {slot : Slot} (next : Call)
      (channels : Option Channels) (lives : Lives table allows ⟨call, .done outcome slot, []⟩) :
      Lives table allows ⟨next, next.operation table channels slot, []⟩
  | answered {call : Call} {request : Request} {slot : Slot}
      {resume : Answer → Slot → Dialogue Reply} {waiting : List Frame} (answer : Answer)
      (lives : Lives table allows ⟨call, .ask request slot resume, waiting⟩) :
      Lives table allows ⟨call, resume answer slot, waiting⟩
  | nested {call : Call} {request : Request} {slot : Slot}
      {resume : Answer → Slot → Dialogue Reply} {waiting : List Frame} (next : Call)
      (channels : Option Channels) (allowed : allows request next)
      (lives : Lives table allows ⟨call, .ask request slot resume, waiting⟩) :
      Lives table allows
        ⟨next, next.operation table channels slot, ⟨call, request, resume⟩ :: waiting⟩
  | returned {call : Call} {outcome : Except Failure Reply} {slot : Slot} {frame : Frame}
      {waiting : List Frame}
      (lives : Lives table allows ⟨call, .done outcome slot, frame :: waiting⟩) :
      Lives table allows ⟨frame.call, .ask frame.request slot frame.resume, waiting⟩

/-- If no other call is made, the running call comes to its end. -/
theorem Table.Lives.plays {table : Table} {allows : Request → Call → Prop} {call : Call}
    {dialogue : Dialogue Reply} {waiting : List Frame}
    (lives : table.Lives allows ⟨call, dialogue, waiting⟩) {course : Course}
    {outcome : Except Failure Reply} {final : Slot}
    (plays : Dialogue.Plays dialogue course outcome final) :
    table.Lives allows ⟨call, .done outcome final, waiting⟩ := by
  induction plays with
  | done => exact lives
  | ask _ ih => exact ih (.answered _ lives)

/-! ## 5. Runs that keep to the terms -/

/-- The calls that wait keep to the terms if they get the slot back like this. -/
def Terms.Bears (terms : Terms) : List Frame → Slot → Prop
  | [], _ => True
  | frame :: waiting, slot => ∃ past,
    (Dialogue.ask frame.request slot frame.resume).Secure terms
      (fun reply past final =>
        (terms.steady final ∧ terms.returns frame.call reply past) ∧ terms.Bears waiting final)
      (fun failure past final =>
        (terms.steady final ∧ terms.fails failure past) ∧ terms.Bears waiting final) past

/-- With the given past the running call keeps to the terms, and leaves the slot so that the waiting
    calls do. -/
def Moment.Secure (terms : Terms) (moment : Moment) (past : Course) : Prop :=
  moment.doing.Secure terms
    (fun reply past final =>
      (terms.steady final ∧ terms.returns moment.call reply past) ∧
        terms.Bears moment.waiting final)
    (fun failure past final =>
      (terms.steady final ∧ terms.fails failure past) ∧ terms.Bears moment.waiting final) past

namespace Moment.Secure

variable {terms : Terms} {moment : Moment} {past : Course} {slot : Slot}

/-- At every moment the slot satisfies the terms. -/
theorem steady (secure : moment.Secure terms past) : terms.steady moment.doing.slot := by
  obtain ⟨call, doing, waiting⟩ := moment
  cases doing with
  | done outcome slot =>
    cases outcome with
    | ok reply => exact secure.1.1
    | error failure => exact secure.1.1
  | ask request slot resume => exact secure.1

theorem asks (secure : moment.Secure terms past) {request : Request}
    {resume : Answer → Slot → Dialogue Reply} (asking : moment.doing = .ask request slot resume) :
    terms.asks request past := by
  unfold Moment.Secure at secure
  rw [asking] at secure
  exact secure.2.1

theorem returns (secure : moment.Secure terms past) {reply : Reply}
    (ended : moment.doing = .done (.ok reply) slot) : terms.returns moment.call reply past := by
  unfold Moment.Secure at secure
  rw [ended] at secure
  exact secure.1.2

theorem fails (secure : moment.Secure terms past) {failure : Failure}
    (ended : moment.doing = .done (.error failure) slot) : terms.fails failure past := by
  unfold Moment.Secure at secure
  rw [ended] at secure
  exact secure.1.2

end Moment.Secure

namespace Table

variable {table : Table} {terms : Terms} {allows : Request → Call → Prop}

/-- The calls of the machine keep to the terms. A call that is allowed to a callback does so too: it
    leaves the slot as it was, or the terms permit any change during that request. -/
structure Abides (table : Table) (terms : Terms) (allows : Request → Call → Prop) : Prop where
  created : ∀ given slot, table.create given = .ok slot → terms.steady slot
  performs : ∀ (call : Call) (channels : Option Channels),
    (call.operation table channels).Secure terms (fun past slot => past = [] ∧ terms.steady slot)
      (fun reply past slot => terms.steady slot ∧ terms.returns call reply past)
      (fun failure past slot => terms.steady slot ∧ terms.fails failure past)
  tolerates : ∀ request call channels slot, allows request call → terms.steady slot →
    (∀ final, terms.steady final → terms.rely request slot final) ∨
      ∃ outcome, call.operation table channels slot = .done outcome slot

/-- A call that no other call waits for. -/
theorem Abides.first (abides : table.Abides terms allows) {slot : Slot}
    (steady : terms.steady slot) (call : Call) (channels : Option Channels) :
    Moment.Secure terms ⟨call, call.operation table channels slot, []⟩ [] :=
  (abides.performs call channels ⟨rfl, steady⟩).mono (fun _ _ _ h => ⟨h, trivial⟩)
    (fun _ _ _ h => ⟨h, trivial⟩)

/-- At every moment of a run the running call keeps to the terms. -/
theorem Lives.secure (abides : table.Abides terms allows) {moment : Moment}
    (lives : table.Lives allows moment) : ∃ past, moment.Secure terms past := by
  induction lives with
  | begun call channels created =>
    exact ⟨[], abides.first (abides.created _ _ created) call channels⟩
  | @called _ outcome _ next channels _ ih =>
    obtain ⟨past, secure⟩ := ih
    exact ⟨[], abides.first secure.steady next channels⟩
  | answered answer _ ih =>
    obtain ⟨past, -, -, rest⟩ := ih
    exact ⟨_, rest answer _ (terms.still _ _)⟩
  | @nested call request slot resume waiting next channels allowed _ ih =>
    obtain ⟨past, secure⟩ := ih
    have performs := abides.performs next channels ⟨rfl, secure.1⟩
    refine ⟨[], ?_⟩
    unfold Moment.Secure
    rcases abides.tolerates request next channels slot allowed secure.1 with room | ⟨outcome, ends⟩
    · exact performs.mono (fun _ _ final h => ⟨h, past, secure.moved (room final h.1)⟩)
        (fun _ _ final h => ⟨h, past, secure.moved (room final h.1)⟩)
    · -- nobody is asked, so the slot is the one that the call below was given away with
      rw [ends] at performs
      rw [ends]
      cases outcome with
      | ok reply => exact ⟨performs, past, secure⟩
      | error failure => exact ⟨performs, past, secure⟩
  | @returned _ outcome _ _ _ _ ih =>
    obtain ⟨past, secure⟩ := ih
    cases outcome with
    | ok reply => exact secure.2
    | error failure => exact secure.2

end Table

end MachineSpec
