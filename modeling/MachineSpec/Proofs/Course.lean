/-
MachineSpec.Proofs.Course — courses of dialogues, and assertions along them.

A course of an operation is the list of its requests, each with its answer. `Plays` says
which courses a dialogue has. This module decomposes courses along the composition of
operations, and states the rule by which the other modules prove properties of operations.

* `plays_bind_iff`: a course of an operation and its sequel is a course of the operation
  followed by one of the sequel, unless the operation fails.
* `plays_play`: answering the requests without changing the slot realises one of the
  courses.
* `Triple`: an assertion is about the requests so far and the slot. A triple starts from one
  assertion and ensures one for a result and one for a failure. There is a rule for each way
  of building an operation, and no other proof opens `Plays`.
-/
import MachineSpec.Engine.Dialogue

namespace MachineSpec

/-- Requests with their answers, in the order in which they were made. -/
abbrev Course := List (Request × Answer)

theorem Except.map_map {ε α β γ : Type} {result : Except ε α} {f : α → β} {g : β → γ} :
    (result.map f).map g = result.map fun a => g (f a) := by
  cases result <;> rfl

/-! ## 1. Courses of dialogues -/

namespace Dialogue

variable {α β : Type} {course : Course} {outcome : Except Failure α} {final : Slot}

@[simp] theorem plays_done_iff {result : Except Failure α} {slot : Slot} :
    Plays (.done result slot) course outcome final ↔
      course = [] ∧ outcome = result ∧ final = slot := by
  constructor
  · intro h
    cases h
    exact ⟨rfl, rfl, rfl⟩
  · rintro ⟨rfl, rfl, rfl⟩
    exact .done _ _

@[simp] theorem plays_ask_iff {request : Request} {slot : Slot}
    {resume : Answer → Slot → Dialogue α} :
    Plays (.ask request slot resume) course outcome final ↔
      ∃ answer rest, course = (request, answer) :: rest ∧
        Plays (resume answer slot) rest outcome final := by
  constructor
  · intro h
    cases h with
    | ask rest => exact ⟨_, _, rfl, rest⟩
  · rintro ⟨answer, rest, rfl, h⟩
    exact .ask h

/-- A course of a dialogue and its sequel is cut in two where the sequel begins, or there is no
    sequel because the dialogue fails. -/
theorem plays_andThen_iff {dialogue : Dialogue β} {next : β → Operation α} :
    Plays (dialogue.andThen next) course outcome final ↔
      (∃ b middle first second, Plays dialogue first (.ok b) middle ∧
        Plays (next b middle) second outcome final ∧ course = first ++ second) ∨
      ∃ failure, Plays dialogue course (.error failure) final ∧ outcome = .error failure := by
  -- the sequel begins at the leaves, so it is the course of the rest that has to stay open
  induction dialogue generalizing course with
  | done result slot =>
    cases result with
    | ok b =>
      constructor
      · intro h
        exact .inl ⟨b, slot, [], course, .done _ _, h, rfl⟩
      · rintro (⟨_, _, first, second, h, h', rfl⟩ | ⟨failure, h, rfl⟩)
        · cases h
          exact h'
        · cases h
    | error failure =>
      constructor
      · intro h
        cases h
        exact .inr ⟨failure, .done _ _, rfl⟩
      · rintro (⟨_, _, _, _, h, _, _⟩ | ⟨_, h, rfl⟩)
        · cases h
        · cases h
          exact .done _ _
  | ask request slot resume ih =>
    simp only [andThen, plays_ask_iff, ih]
    constructor
    · rintro ⟨answer, rest, rfl, ⟨b, middle, first, second, h, h', rfl⟩ | ⟨failure, h, rfl⟩⟩
      · exact .inl ⟨b, middle, _, second, ⟨answer, first, rfl, h⟩, h', rfl⟩
      · exact .inr ⟨failure, ⟨answer, rest, rfl, h⟩, rfl⟩
    · rintro (⟨b, middle, _, second, ⟨answer, first, rfl, h⟩, h', rfl⟩ |
        ⟨failure, ⟨answer, rest, rfl, h⟩, rfl⟩)
      · exact ⟨answer, first ++ second, rfl, .inl ⟨b, middle, first, second, h, h', rfl⟩⟩
      · exact ⟨answer, rest, rfl, .inr ⟨failure, h, rfl⟩⟩

/-- Nothing but the answers is open: the same course ends in the same way. -/
theorem plays_unique {dialogue : Dialogue α} {outcome' : Except Failure α} {final' : Slot}
    (h : Plays dialogue course outcome final) (h' : Plays dialogue course outcome' final') :
    outcome = outcome' ∧ final = final' := by
  induction h with
  | done outcome slot =>
    obtain ⟨-, rfl, rfl⟩ := plays_done_iff.mp h'
    exact ⟨rfl, rfl⟩
  | ask _ ih =>
    cases h' with
    | ask rest => exact ih rest

/-- Whoever answers requests in worlds that hold the machine, and leaves its slot alone, brings
    about a course. -/
theorem plays_play {σ : Type} {store : Slot → σ → σ} {load : σ → Slot}
    {handle : Request → σ → Answer × σ} {holds : σ → Prop}
    (load_store : ∀ slot world, holds world → load (store slot world) = slot)
    (holds_store : ∀ slot world, holds world → holds (store slot world))
    (untouched : ∀ request world, holds world →
      load (handle request world).2 = load world ∧ holds (handle request world).2)
    (dialogue : Dialogue α) {world : σ} (here : holds world) :
    ∃ course, Plays dialogue course (dialogue.play store load handle world).1
      (load (dialogue.play store load handle world).2) := by
  induction dialogue generalizing world with
  | done result slot =>
    refine ⟨[], ?_⟩
    rw [play, load_store slot world here]
    exact .done result slot
  | ask request slot resume ih =>
    obtain ⟨same, still⟩ := untouched request (store slot world) (holds_store slot world here)
    rw [load_store slot world here] at same
    obtain ⟨course, h⟩ := ih (handle request (store slot world)).1 slot still
    refine ⟨(request, (handle request (store slot world)).1) :: course, .ask ?_⟩
    simpa [play, same] using h

end Dialogue

/-! ## 2. Courses of operations -/

namespace Operation

open Dialogue

variable {α β : Type} {course : Course} {outcome : Except Failure α} {slot final : Slot}

/-! Equations for an operation and the slot that it is given, one for each way of building it. With
them an operation that asks nothing can be read off. -/

@[simp] theorem pure_apply {a : α} : (pure a : Operation α) slot = .done (.ok a) slot := rfl

@[simp] theorem bind_apply {operation : Operation β} {next : β → Operation α} :
    (operation >>= next) slot = (operation slot).andThen next := rfl

@[simp] theorem map_apply {f : β → α} {operation : Operation β} :
    (f <$> operation) slot = (operation slot).andThen fun b => pure (f b) := rfl

@[simp] theorem andThen_ok {b : β} {next : β → Operation α} :
    (Dialogue.done (.ok b) slot).andThen next = next b slot := rfl

@[simp] theorem andThen_error {failure : Failure} {next : β → Operation α} :
    (Dialogue.done (.error failure) slot).andThen next = .done (.error failure) slot := rfl

theorem andThen_assoc {γ : Type} {dialogue : Dialogue γ} {next : γ → Operation β}
    {last : β → Operation α} : (dialogue.andThen next).andThen last =
      dialogue.andThen fun c => next c >>= last := by
  induction dialogue with
  | done outcome slot => cases outcome <;> rfl
  | ask request slot resume ih =>
    simp only [Dialogue.andThen]
    congr 1
    funext answer slot
    exact ih answer slot

theorem andThen_pure {dialogue : Dialogue α} : dialogue.andThen pure = dialogue := by
  induction dialogue with
  | done outcome slot => cases outcome <;> rfl
  | ask request slot resume ih =>
    simp only [Dialogue.andThen]
    congr 1
    funext answer slot
    exact ih answer slot

/-- Where the parts of an operation are cut does not matter. -/
instance : LawfulMonad Operation := LawfulMonad.mk' Operation
  (fun _ => funext fun _ => andThen_pure)
  (fun _ _ => rfl)
  (fun _ _ _ => funext fun _ => andThen_assoc)

@[simp] theorem refuse_apply {error : Error} :
    (refuse error : Operation α) slot = .done (.error (.error error)) slot := rfl

@[simp] theorem ofExcept_ok {a : α} : Operation.ofExcept (.ok a) = pure a := rfl

@[simp] theorem ofExcept_error {error : Error} :
    (Operation.ofExcept (.error error) : Operation α) = refuse error := rfl

@[simp] theorem slot_apply : Operation.slot slot = .done (.ok slot) slot := rfl

@[simp] theorem change_apply {f : Slot → Slot} : change f slot = .done (.ok ()) (f slot) := rfl

theorem plays_bind_iff {operation : Operation β} {next : β → Operation α} :
    Plays ((operation >>= next) slot) course outcome final ↔
      (∃ b middle first second, Plays (operation slot) first (.ok b) middle ∧
        Plays (next b middle) second outcome final ∧ course = first ++ second) ∨
      ∃ failure, Plays (operation slot) course (.error failure) final ∧
        outcome = .error failure :=
  plays_andThen_iff

/-- To rename the result of an operation is to rename the results of its courses. -/
theorem plays_map_iff {operation : Operation β} {f : β → α} :
    Plays ((f <$> operation) slot) course outcome final ↔
      ∃ result, Plays (operation slot) course result final ∧ outcome = result.map f := by
  constructor
  · intro h
    rcases plays_bind_iff.mp h with
      ⟨b, middle, first, second, played, rest, rfl⟩ | ⟨failure, played, rfl⟩
    · obtain ⟨rfl, rfl, rfl⟩ := plays_done_iff.mp rest
      exact ⟨.ok b, by simpa using played, rfl⟩
    · exact ⟨.error failure, played, rfl⟩
  · rintro ⟨result, played, rfl⟩
    apply plays_bind_iff.mpr
    cases result with
    | ok b => exact .inl ⟨b, final, course, [], played, .done _ _, by simp⟩
    | error failure => exact .inr ⟨failure, played, rfl⟩

theorem plays_demand_iff {request : Request} {outcome : Except Failure Value} :
    Plays (demand request slot) course outcome final ↔
      ∃ answer, course = [(request, answer)] ∧ outcome = answer.mapError .raised ∧
        final = slot := by
  constructor
  · intro h
    cases h with
    | @ask _ _ _ answer _ _ _ rest =>
      cases answer with
      | ok value =>
        obtain ⟨rfl, rfl, rfl⟩ := plays_done_iff.mp rest
        exact ⟨_, rfl, rfl, rfl⟩
      | error exception =>
        obtain ⟨rfl, rfl, rfl⟩ := plays_done_iff.mp rest
        exact ⟨_, rfl, rfl, rfl⟩
  · rintro ⟨answer, rfl, rfl, rfl⟩
    cases answer with
    | ok value => exact .ask (.done _ _)
    | error exception => exact .ask (.done _ _)

/-- A demand comes first in a course, and if it is answered with an exception it comes last. -/
theorem plays_demand_bind_iff {request : Request} {next : Value → Operation α} :
    Plays ((demand request >>= next) slot) course outcome final ↔
      (∃ value rest, course = (request, .ok value) :: rest ∧
        Plays (next value slot) rest outcome final) ∨
      ∃ exception, course = [(request, .error exception)] ∧
        outcome = .error (.raised exception) ∧ final = slot := by
  constructor
  · intro h
    rcases plays_bind_iff.mp h with
      ⟨value, middle, first, rest, asked, goes, rfl⟩ | ⟨failure, asked, rfl⟩
    · obtain ⟨answer, rfl, same, rfl⟩ := plays_demand_iff.mp asked
      cases answer with
      | ok _ => cases same; exact .inl ⟨value, rest, rfl, goes⟩
      | error _ => cases same
    · obtain ⟨answer, rfl, same, rfl⟩ := plays_demand_iff.mp asked
      cases answer with
      | ok _ => cases same
      | error exception => cases same; exact .inr ⟨exception, rfl, rfl, rfl⟩
  · rintro (⟨value, rest, rfl, goes⟩ | ⟨exception, rfl, rfl, rfl⟩)
    · exact plays_bind_iff.mpr
        (.inl ⟨value, slot, _, rest, plays_demand_iff.mpr ⟨_, rfl, rfl, rfl⟩, goes, rfl⟩)
    · exact plays_bind_iff.mpr (.inr ⟨_, plays_demand_iff.mpr ⟨_, rfl, rfl, rfl⟩, rfl⟩)

/-- The same for a request whose answer is not used. -/
theorem plays_tell_bind_iff {request : Request} {next : Unit → Operation α} :
    Plays (((do let _ ← demand request : Operation Unit) >>= next) slot) course outcome final ↔
      (∃ value rest, course = (request, .ok value) :: rest ∧
        Plays (next () slot) rest outcome final) ∨
      ∃ exception, course = [(request, .error exception)] ∧
        outcome = .error (.raised exception) ∧ final = slot := by
  rw [bind_assoc]
  exact plays_demand_bind_iff

/-- Reading the slot makes no request. -/
theorem plays_look_iff {result : Slot → Except Error α} :
    Plays ((Operation.slot >>= fun slot => .ofExcept (result slot)) slot) course outcome final ↔
      course = [] ∧ outcome = (result slot).mapError .error ∧ final = slot := by
  rw [bind_apply, slot_apply, andThen_ok]
  cases result slot with
  | ok a => exact plays_done_iff
  | error error => exact plays_done_iff

theorem plays_attempt_iff {request : Request} {outcome : Except Failure Answer} :
    Plays (attempt request slot) course outcome final ↔
      ∃ answer, course = [(request, answer)] ∧ outcome = .ok answer ∧ final = slot := by
  rw [attempt, plays_ask_iff]
  constructor
  · rintro ⟨answer, rest, rfl, h⟩
    obtain ⟨rfl, rfl, rfl⟩ := plays_done_iff.mp h
    exact ⟨answer, rfl, rfl, rfl⟩
  · rintro ⟨answer, rfl, rfl, rfl⟩
    exact ⟨answer, [], rfl, .done _ _⟩

/-! ## 3. Triples -/

/-- What can be said of a machine at a point of a course: of the requests so far, and of the slot. -/
abbrev Assertion := Course → Slot → Prop

/-- Where `before` holds, every course of the operation leads to `after` of its result or to `failed`
    of its failure. -/
def Triple (before : Assertion) (operation : Operation α) (after : α → Assertion)
    (failed : Failure → Assertion) : Prop :=
  ∀ ⦃past slot course outcome final⦄, before past slot →
    Plays (operation slot) course outcome final →
      match outcome with
      | .ok a => after a (past ++ course) final
      | .error failure => failed failure (past ++ course) final

namespace Triple

variable {before before' : Assertion} {operation : Operation α} {after after' : α → Assertion}
  {failed failed' : Failure → Assertion} {next : α → Operation β} {ended : β → Assertion}

/-- Before the first request there is no past. -/
theorem apply (h : Triple before operation after failed) {course : Course}
    {outcome : Except Failure α} {slot final : Slot} (holds : before [] slot) :
    Plays (operation slot) course outcome final →
      match outcome with
      | .ok a => after a course final
      | .error failure => failed failure course final :=
  fun plays => h holds plays

/-- A triple may ask for more and promise less. -/
theorem mono (h : Triple before operation after failed)
    (hb : ∀ past slot, before' past slot → before past slot)
    (ha : ∀ a past slot, after a past slot → after' a past slot)
    (hf : ∀ failure past slot, failed failure past slot → failed' failure past slot) :
    Triple before' operation after' failed' := by
  intro past slot course outcome final holds plays
  have := h (hb _ _ holds) plays
  cases outcome with
  | ok a => exact ha _ _ _ this
  | error failure => exact hf _ _ _ this

/-- What is no matter of course or slot may be set apart. -/
theorem given {p : Prop} (h : p → Triple before operation after failed) :
    Triple (fun past slot => before past slot ∧ p) operation after failed := by
  intro past slot course outcome final holds plays
  exact h holds.2 holds.1 plays

theorem pure {a : α} (h : ∀ past slot, before past slot → after a past slot) :
    Triple before (Pure.pure a) after failed := by
  intro past slot course outcome final holds plays
  obtain ⟨rfl, rfl, rfl⟩ := plays_done_iff.mp plays
  simpa using h past _ holds

theorem fail {failure : Failure} (h : ∀ past slot, before past slot → failed failure past slot) :
    Triple before (Operation.fail failure) after failed := by
  intro past slot course outcome final holds plays
  obtain ⟨rfl, rfl, rfl⟩ := plays_done_iff.mp plays
  simpa using h past _ holds

theorem refuse {error : Error}
    (h : ∀ past slot, before past slot → failed (.error error) past slot) :
    Triple before (Operation.refuse error) after failed :=
  fail h

/-- The rule of sequels. A failure of the first part is a failure of the whole. -/
theorem bind (h : Triple before operation after failed)
    (hn : ∀ a, Triple (after a) (next a) ended failed) :
    Triple before (operation >>= next) ended failed := by
  intro past slot course outcome final holds plays
  rcases plays_bind_iff.mp plays with
    ⟨a, middle, first, second, played, rest, rfl⟩ | ⟨failure, played, rfl⟩
  · have := hn a (h holds played) rest
    rwa [List.append_assoc] at this
  · exact h holds played

/-- To look at the slot is to know it. -/
theorem look {next : Slot → Operation α}
    (h : ∀ now, Triple (fun past slot => before past slot ∧ slot = now) (next now) after failed) :
    Triple before (Operation.slot >>= next) after failed := by
  intro past slot course outcome final holds plays
  rcases plays_bind_iff.mp plays with
    ⟨now, middle, first, second, looked, rest, rfl⟩ | ⟨failure, looked, rfl⟩
  · obtain ⟨rfl, same, rfl⟩ := plays_done_iff.mp looked
    cases same
    exact h _ ⟨holds, rfl⟩ rest
  · simp at looked

theorem attempt {request : Request} {after : Answer → Assertion}
    (h : ∀ past slot answer, before past slot → after answer (past ++ [(request, answer)]) slot) :
    Triple before (Operation.attempt request) after failed := by
  intro past slot course outcome final holds plays
  obtain ⟨answer, rfl, rfl, rfl⟩ := plays_attempt_iff.mp plays
  exact h past _ answer holds

theorem demand {request : Request} {after : Value → Assertion}
    (returned : ∀ past slot value, before past slot →
      after value (past ++ [(request, .ok value)]) slot)
    (raised : ∀ past slot exception, before past slot →
      failed (.raised exception) (past ++ [(request, .error exception)]) slot) :
    Triple before (Operation.demand request) after failed := by
  intro past slot course outcome final holds plays
  obtain ⟨answer, rfl, rfl, rfl⟩ := plays_demand_iff.mp plays
  cases answer with
  | ok value => exact returned past _ value holds
  | error exception => exact raised past _ exception holds

end Triple

/-! ## 4. Invariants of operations -/

/-- What holds before the operation still holds afterwards, however it ends. -/
def Preserves (operation : Operation α) (invariant : Assertion) : Prop :=
  operation.Triple invariant (fun _ => invariant) (fun _ => invariant)

namespace Preserves

variable {invariant : Assertion} {operation : Operation α} {next : α → Operation β}

theorem plays (h : operation.Preserves invariant) (holds : invariant [] slot)
    (plays : Plays (operation slot) course outcome final) : invariant course final := by
  have kept := h.apply holds plays
  cases outcome with
  | ok a => exact kept
  | error failure => exact kept

theorem pure {a : α} : (Pure.pure a : Operation α).Preserves invariant :=
  Triple.pure fun _ _ h => h

theorem fail {failure : Failure} : (Operation.fail failure : Operation α).Preserves invariant :=
  Triple.fail fun _ _ h => h

theorem refuse {error : Error} : (Operation.refuse error : Operation α).Preserves invariant :=
  fail

theorem bind (h : operation.Preserves invariant) (hn : ∀ a, (next a).Preserves invariant) :
    (operation >>= next).Preserves invariant :=
  Triple.bind h hn

theorem attempt {request : Request} (h : ∀ past slot answer, invariant past slot →
    invariant (past ++ [(request, answer)]) slot) :
    (Operation.attempt request).Preserves invariant :=
  Triple.attempt h

theorem demand {request : Request} (h : ∀ past slot answer, invariant past slot →
    invariant (past ++ [(request, answer)]) slot) :
    (Operation.demand request).Preserves invariant :=
  Triple.demand (fun past slot value => h past slot (.ok value))
    (fun past slot exception => h past slot (.error exception))

end Preserves

end Operation

end MachineSpec
