/-
MachineSpec.Proofs.Supply — where the data in the slot comes from.

An operation ends with data that it was given or that a conversion returned. With type
checks the result of a conversion is an instance of the class of its state, and so it is not
`null` if no state is bound to a class that `null` is an instance of (`Discerns`). Then
every operation *brings* data if it starts with some, for all answers and all changes of the
slot in the meantime.

The operations on data of a state *pass* the slot on as they find it; only the calls of
users take data out and put it back.
-/
import MachineSpec.Proofs.Lifecycle

namespace MachineSpec

/-! ## 1. Bringing data -/

/-- The failure is not that something cannot be had. -/
def Failure.Blames (failure : Failure) : Prop :=
  ∀ error, failure = .error error → error.declines = false

theorem Failure.Blames.raised {exception : Value} : (Failure.raised exception).Blames :=
  fun _ h => nomatch h

theorem Failure.Blames.error {error : Error} (h : error.declines = false) :
    (Failure.error error).Blames := by
  rintro _ ⟨⟩
  exact h

namespace Dialogue

variable {α β : Type}

/-- Whatever is answered and whatever becomes of the slot, the result is good, and a failure comes
    from an answer. -/
def Brings (good : α → Prop) : Dialogue α → Prop
  | .done (.ok a) _ => good a
  | .done (.error failure) _ => failure.Blames
  | .ask _ _ resume => ∀ answer slot, Brings good (resume answer slot)

theorem Brings.andThen {good : α → Prop} {fine : β → Prop} {dialogue : Dialogue α}
    {next : α → Operation β} (h : dialogue.Brings good)
    (hn : ∀ a slot, good a → (next a slot).Brings fine) : (dialogue.andThen next).Brings fine := by
  induction dialogue with
  | done outcome slot =>
    cases outcome with
    | ok a => exact hn a slot h
    | error failure => exact h
  | ask request slot resume ih => exact fun answer final => ih answer final (h answer final)

theorem Brings.plays {good : α → Prop} {dialogue : Dialogue α} (h : dialogue.Brings good)
    {course : Course} {outcome : Except Failure α} {final : Slot}
    (plays : Plays dialogue course outcome final) :
    (∀ a, outcome = .ok a → good a) ∧ ∀ failure, outcome = .error failure → failure.Blames := by
  induction plays with
  | done outcome slot =>
    cases outcome with
    | ok a => exact ⟨by rintro _ ⟨⟩; exact h, nofun⟩
    | error failure => exact ⟨nofun, by rintro _ ⟨⟩; exact h⟩
  | ask _ ih => exact ih (h _ _)

end Dialogue

namespace Operation

variable {α β : Type}

/-- The same of an operation, from whatever slot. -/
def Brings (operation : Operation α) (good : α → Prop) : Prop :=
  ∀ slot, (operation slot).Brings good

namespace Brings

variable {good : α → Prop} {fine : β → Prop} {request : Request}

theorem pure {a : α} (h : good a) : (Pure.pure a : Operation α).Brings good := fun _ => h

theorem fail {failure : Failure} (h : failure.Blames) :
    (Operation.fail failure : Operation α).Brings good := fun _ => h

theorem refuse {error : Error} (h : error.declines = false) :
    (Operation.refuse error : Operation α).Brings good :=
  fail (.error h)

theorem bind {operation : Operation α} {next : α → Operation β} (h : operation.Brings good)
    (hn : ∀ a, good a → (next a).Brings fine) : (operation >>= next).Brings fine :=
  fun slot => (h slot).andThen fun a final ha => hn a ha final

theorem attempt : (Operation.attempt request).Brings fun _ => True := fun _ _ _ => trivial

theorem demand : (Operation.demand request).Brings fun _ => True :=
  attempt.bind fun answer _ => by
    cases answer with
    | ok value => exact pure trivial
    | error exception => exact fail .raised

theorem tell : (do let _ ← Operation.demand request : Operation Unit).Brings fun _ => True :=
  demand.bind fun _ _ => pure trivial

end Brings

end Operation

/-! ## 2. Data of states -/

/-- What a machine relies on to tell data from nothing: types are checked, and no state is bound to
    a class that `null` is an instance of. -/
structure Table.Discerns (table : Table) : Prop where
  checks : table.checkTypes = true
  classes : ∀ block ∈ table.blocks, Value.null.isA block.kind = false

namespace Table

open Operation

variable {table : Table} {route : FailureRoute} {request : Request} {block : Block} {data : Value}

/-- What fits a state is something. -/
theorem Discerns.full (discerns : table.Discerns) (mem : block ∈ table.blocks)
    (fits : data.isA block.kind = true) : data.isNull = false := by
  cases null : data.isNull with
  | false => rfl
  | true =>
    rw [Value.eq_null_of_isNull null, discerns.classes block mem] at fits
    cases fits

theorem block_brings {tag : String} :
    (table.block tag).Brings fun block => table.block? tag = some block := by
  unfold Table.block
  split
  · rename_i found
    exact .pure found
  · exact .refuse rfl

theorem callErrorState_brings : (callErrorState route request).Brings fun _ => True :=
  Brings.attempt.bind fun answer _ => by
    cases answer with
    | ok value => exact .pure trivial
    | error exception =>
      dsimp only
      split
      · exact .refuse rfl
      · exact .fail .raised

theorem choose_brings {transitions : List Transition} :
    (choose data transitions).Brings fun _ => True := by
  induction transitions with
  | nil => exact .pure trivial
  | cons transition rest ih =>
    refine Brings.demand.bind fun answer _ => ?_
    cases given : answer.verdict? with
    | none =>
      rw [Guard.coerce_none given]
      exact .refuse rfl
    | some verdict =>
      rw [Guard.coerce_some given]
      cases verdict with
      | transit => exact .pure trivial
      | remain => exact ih

variable (sound : table.Sound) (discerns : table.Discerns)
include sound discerns

theorem redirect_brings (fallible : table.failure = some route) {failed : Block}
    {exception : Value} : (table.redirect route failed data exception).Brings
      fun entry => entry.data.isNull = false := by
  refine Brings.tell.bind fun _ _ => ?_
  split
  · exact .refuse rfl
  · refine Brings.demand.bind fun made _ => ?_
    dsimp only
    split
    · exact .refuse rfl
    · rename_i fits
      have fits : made.isA route.errorBlock.kind = true := by simpa [discerns.checks] using fits
      refine Brings.demand.bind fun _ _ => callErrorState_brings.bind fun _ _ => .pure ?_
      exact discerns.full (mem_of_block? (sound.errorBlock route fallible)) fits

theorem call_brings {owner : Block} : (table.call owner data request).Brings
    fun result => ∀ entry ∈ result, entry.data.isNull = false := by
  unfold Table.call
  split
  · exact Brings.demand.bind fun _ _ => .pure (by simp)
  · rename_i fallible
    split
    · exact callErrorState_brings.bind fun _ _ => .pure (by simp)
    · refine Brings.attempt.bind fun answer _ => ?_
      cases answer with
      | ok value => exact .pure (by simp)
      | error exception =>
        dsimp only
        split
        · exact (redirect_brings sound discerns fallible).bind fun entry full =>
            .pure (by simpa using full)
        · exact .fail .raised

theorem runActions_brings {transitions : List Transition} :
    (table.runActions block data transitions).Brings
      fun result => ∀ entry ∈ result, entry.data.isNull = false := by
  induction transitions with
  | nil => exact .pure (by simp)
  | cons transition rest ih =>
    refine (call_brings sound discerns).bind fun result full => ?_
    cases result with
    | some entry => exact .pure full
    | none => exact ih

theorem leave_brings : (table.leave block data).Brings
    fun result => ∀ entry ∈ result, entry.data.isNull = false := by
  refine (call_brings sound discerns).bind fun result full => ?_
  cases result with
  | some entry => exact .pure full
  | none => exact runActions_brings sound discerns

/-! With data to begin with, something comes of it. -/

variable (full : data.isNull = false)
include full

theorem enter_brings {reporting : Bool} : (table.enter block data reporting).Brings
    fun entry => entry.data.isNull = false := by
  refine (call_brings sound discerns).bind fun result given => ?_
  cases result with
  | some entry => exact .pure (given entry rfl)
  | none =>
    dsimp only
    split
    · exact Brings.tell.bind fun _ _ => .pure full
    · exact .pure full

theorem retire_brings : (table.retire block data).Brings
    fun entry => entry.data.isNull = false := by
  refine (leave_brings sound discerns).bind fun result given => ?_
  cases result with
  | some entry => exact .pure (given entry rfl)
  | none => exact Brings.tell.bind fun _ _ => .pure full

omit full in
theorem take_brings {transition : Transition} : (table.take block transition data).Brings
    fun entry => entry.data.isNull = false := by
  refine (leave_brings sound discerns).bind fun result given => ?_
  cases result with
  | some entry => exact .pure (given entry rfl)
  | none =>
    refine Brings.tell.bind fun _ _ => Brings.tell.bind fun _ _ => block_brings.bind
      fun target found => Brings.demand.bind fun made _ => ?_
    split
    · exact .refuse rfl
    · rename_i fits
      have fits : made.isA target.kind = true := by simpa [discerns.checks] using fits
      exact enter_brings sound discerns (discerns.full (mem_of_block? found) fits)

theorem run_brings : (table.run block data).Brings fun entry => entry.data.isNull = false := by
  refine Brings.tell.bind fun _ _ => (call_brings sound discerns).bind fun result given => ?_
  cases result with
  | some entry => exact .pure (given entry rfl)
  | none =>
    refine choose_brings.bind fun chosen _ => ?_
    cases chosen with
    | some transition => exact take_brings sound discerns
    | none => exact .pure full

end Table

/-! ## 3. Passing the slot on -/

namespace Dialogue

variable {α β : Type}

/-- The slot is passed on as it is got, from one request to the next and to the end. -/
def Passes : Dialogue α → Slot → Prop
  | .done _ slot, given => slot = given
  | .ask _ slot resume, given => slot = given ∧ ∀ answer final, Passes (resume answer final) final

theorem Passes.andThen {dialogue : Dialogue α} {next : α → Operation β} {slot : Slot}
    (h : dialogue.Passes slot) (hn : ∀ a slot, (next a slot).Passes slot) :
    (dialogue.andThen next).Passes slot := by
  induction dialogue generalizing slot with
  | done outcome final =>
    obtain rfl : final = slot := h
    cases outcome with
    | ok a => exact hn a final
    | error failure => rfl
  | ask request final resume ih =>
    obtain ⟨rfl, passes⟩ := h
    exact ⟨rfl, fun answer last => ih answer last (passes answer last)⟩

end Dialogue

namespace Operation

variable {α β : Type}

/-- The operation passes the slot on. -/
def Passes (operation : Operation α) : Prop := ∀ slot, (operation slot).Passes slot

namespace Passes

theorem pure {a : α} : (Pure.pure a : Operation α).Passes := fun _ => rfl

theorem refuse {error : Error} : (Operation.refuse error : Operation α).Passes := fun _ => rfl

theorem ofExcept {result : Except Error α} : (Operation.ofExcept result).Passes := by
  cases result with
  | ok a => exact pure
  | error error => exact refuse

theorem bind {operation : Operation α} {next : α → Operation β} (h : operation.Passes)
    (hn : ∀ a, (next a).Passes) : (operation >>= next).Passes :=
  fun slot => (h slot).andThen fun a final => hn a final

theorem look {next : Slot → Operation α} (h : ∀ slot, (next slot).Passes) :
    (Operation.slot >>= next).Passes := fun slot => h slot slot

theorem fail {failure : Failure} : (Operation.fail failure : Operation α).Passes := fun _ => rfl

theorem attempt {request : Request} : (Operation.attempt request).Passes :=
  fun _ => ⟨rfl, fun _ _ => rfl⟩

theorem demand {request : Request} : (Operation.demand request).Passes := fun slot =>
  ⟨rfl, fun answer final => by cases answer <;> rfl⟩

theorem map {operation : Operation α} {f : α → β} (h : operation.Passes) :
    (f <$> operation).Passes :=
  bind h fun _ => pure

theorem tell {request : Request} : (do let _ ← Operation.demand request : Operation Unit).Passes :=
  bind demand fun _ => pure

end Passes

end Operation

namespace Table

open Operation

variable {table : Table} {block : Block} {data : Value}

theorem callErrorState_passes {route : FailureRoute} {request : Request} :
    (callErrorState route request).Passes :=
  Passes.attempt.bind fun answer => by
    cases answer with
    | ok value => exact .pure
    | error exception =>
      dsimp only
      split
      · exact .refuse
      · exact .fail

theorem redirect_passes {route : FailureRoute} {exception : Value} :
    (table.redirect route block data exception).Passes := by
  refine Passes.tell.bind fun _ => ?_
  split
  · exact .refuse
  · refine Passes.demand.bind fun made => ?_
    dsimp only
    split
    · exact .refuse
    · exact Passes.demand.bind fun _ => callErrorState_passes.bind fun _ => .pure

theorem call_passes {request : Request} : (table.call block data request).Passes := by
  unfold Table.call
  split
  · exact Passes.demand.bind fun _ => .pure
  · split
    · exact callErrorState_passes.bind fun _ => .pure
    · refine Passes.attempt.bind fun answer => ?_
      cases answer with
      | ok value => exact .pure
      | error exception =>
        dsimp only
        split
        · exact redirect_passes.map
        · exact .fail

theorem enter_passes {reported : Bool} : (table.enter block data reported).Passes := by
  refine call_passes.bind fun result => ?_
  cases result with
  | some entry => exact .pure
  | none =>
    dsimp only
    split
    · exact Passes.tell.bind fun _ => .pure
    · exact .pure

end Table

end MachineSpec
