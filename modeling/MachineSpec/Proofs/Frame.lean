/-
MachineSpec.Proofs.Frame — operations on data do not change the slot.

The operations of `MachineSpec.Engine.Step` work on data that was taken out of the slot
before, and the calling operation puts the result back. So they leave the slot as it is,
however they end. `Keeps` says so, together with two facts that hold for every table: an
entry to be put into the slot has the tag of a block, and no lookup of a block or of a
conversion fails.
-/
import MachineSpec.Engine.Step
import MachineSpec.Proofs.Compiled
import MachineSpec.Proofs.Course

namespace MachineSpec

/-- The failure is not that of a look-up that missed. -/
def Failure.Found (failure : Failure) : Prop := ∀ tag, failure ≠ .error (.noBlock tag)

theorem Failure.Found.raised (exception : Value) : (Failure.raised exception).Found :=
  fun _ h => nomatch h

theorem Failure.Found.error {error : Error} (h : ∀ tag, error ≠ .noBlock tag) :
    (Failure.error error).Found := by
  rintro tag ⟨⟩
  exact h tag rfl

/-- The error says that a request could not be made as asked. It comes from no answer and from no
    lookup that failed. -/
def Error.declines : Error → Bool
  | .escalated _ | .wrongConversion .. | .wrongErrorData .. | .noVerdict _ | .noBlock _ => false
  | _ => true

theorem Failure.Found.declined {error : Error} (h : error.declines = true) :
    (Failure.error error).Found :=
  .error fun tag same => by
    rw [same] at h
    cases h

theorem Guard.coerce_some {value : Value} {verdict : Guard} (h : value.verdict? = some verdict) :
    Guard.coerce value = .ok verdict := by
  rw [Guard.coerce, h]

theorem Guard.coerce_none {value : Value} (h : value.verdict? = none) :
    Guard.coerce value = .error (.noVerdict value) := by
  rw [Guard.coerce, h]

/-- A guard can only be blamed for giving no verdict. -/
theorem Guard.coerce_error {value : Value} {error : Error}
    (h : Guard.coerce value = .error error) : error = .noVerdict value := by
  unfold Guard.coerce at h
  split at h
  · cases h
  · cases h
    rfl

/-! ## 1. Keeping the slot -/

/-- The operation leaves the slot as it is. Its results are good and its failures are not those of
    missing blocks. -/
def Operation.Keeps {α : Type} (operation : Operation α) (good : α → Prop) : Prop :=
  ∀ kept : Slot, operation.Triple (fun _ slot => slot = kept)
    (fun a _ slot => slot = kept ∧ good a) (fun failure _ slot => slot = kept ∧ failure.Found)

namespace Operation.Keeps

variable {α β : Type} {good : α → Prop} {fine : β → Prop}

/-- What is kept on a course. -/
theorem plays {operation : Operation α} (h : operation.Keeps good) {slot final : Slot}
    {course : Course} {outcome : Except Failure α}
    (plays : Dialogue.Plays (operation slot) course outcome final) :
    final = slot ∧ (∀ a, outcome = .ok a → good a) ∧
      ∀ failure, outcome = .error failure → failure.Found := by
  have kept := (h slot).apply rfl plays
  cases outcome with
  | ok a => exact ⟨kept.1, by rintro _ ⟨⟩; exact kept.2, by simp⟩
  | error failure => exact ⟨kept.1, by simp, by rintro _ ⟨⟩; exact kept.2⟩

/-- Behind a part that keeps the slot, the slot is known to be the same still. -/
theorem cut {operation : Operation α} (h : operation.Keeps good) {next : α → Operation β}
    {slot final : Slot} {course : Course} {outcome : Except Failure β}
    (plays : Dialogue.Plays ((operation >>= next) slot) course outcome final) :
    (∃ a first second, Dialogue.Plays (operation slot) first (.ok a) slot ∧ good a ∧
      Dialogue.Plays (next a slot) second outcome final ∧ course = first ++ second) ∨
    ∃ failure, Dialogue.Plays (operation slot) course (.error failure) slot ∧
      outcome = .error failure ∧ final = slot := by
  rcases plays_bind_iff.mp plays with
    ⟨a, middle, first, second, played, rest, rfl⟩ | ⟨failure, played, rfl⟩
  · obtain ⟨rfl, hgood, -⟩ := h.plays played
    exact .inl ⟨a, first, second, played, hgood a rfl, rest, rfl⟩
  · obtain ⟨rfl, -, -⟩ := h.plays played
    exact .inr ⟨failure, played, rfl, rfl⟩

theorem pure {a : α} (h : good a) : (Pure.pure a : Operation α).Keeps good := fun _ =>
  Triple.pure fun _ _ hs => ⟨hs, h⟩

theorem fail {failure : Failure} (h : failure.Found) :
    (Operation.fail failure : Operation α).Keeps good := fun _ =>
  Triple.fail fun _ _ hs => ⟨hs, h⟩

theorem refuse {error : Error} (h : (Failure.error error).Found) :
    (Operation.refuse error : Operation α).Keeps good :=
  fail h

theorem bind {operation : Operation α} {next : α → Operation β} (h : operation.Keeps good)
    (hn : ∀ a, good a → (next a).Keeps fine) : (operation >>= next).Keeps fine := fun kept =>
  (h kept).bind fun a => .given fun ha => hn a ha kept

theorem weaken {operation : Operation α} {worse : α → Prop} (h : operation.Keeps good)
    (hw : ∀ a, good a → worse a) : operation.Keeps worse := fun kept =>
  (h kept).mono (fun _ _ hs => hs) (fun a _ _ hs => ⟨hs.1, hw a hs.2⟩) (fun _ _ _ hs => hs)

theorem ofExcept {result : Except Error α} (ho : ∀ a, result = .ok a → good a)
    (hr : ∀ error, result = .error error → (Failure.error error).Found) :
    (Operation.ofExcept result).Keeps good := by
  cases result with
  | ok a => exact pure (ho a rfl)
  | error error => exact refuse (hr error rfl)

theorem attempt {request : Request} : (Operation.attempt request).Keeps fun _ => True := fun _ =>
  Triple.attempt fun _ _ _ hs => ⟨hs, trivial⟩

theorem demand {request : Request} : (Operation.demand request).Keeps fun _ => True := fun _ =>
  Triple.demand (fun _ _ _ hs => ⟨hs, trivial⟩) (fun _ _ exception hs => ⟨hs, .raised exception⟩)

end Operation.Keeps

namespace Table

open Operation

/-- Whether a tag is that of a block. -/
def Knows (table : Table) (tag : String) : Prop := ∃ block, table.block? tag = some block

/-! ## 2. Calls -/

variable {table : Table}

theorem report_keeps {enabled : Bool} {line : String} :
    (do let _ ← demand (.report enabled line) : Operation Unit).Keeps fun _ => True :=
  Keeps.demand.bind fun _ _ => .pure trivial

theorem callErrorState_keeps {route : FailureRoute} {request : Request} :
    (callErrorState route request).Keeps fun _ => True := by
  refine Keeps.attempt.bind fun answer _ => ?_
  cases answer with
  | ok value => exact .pure trivial
  | error exception =>
    dsimp only
    split
    · exact .refuse (.error nofun)
    · exact .fail (.raised exception)

theorem redirect_keeps (sound : table.Sound) {route : FailureRoute}
    (hroute : table.failure = some route) {failed : Block} (hmem : failed ∈ table.blocks)
    (hother : failed.tag ≠ route.errorBlock.tag) {data exception : Value} :
    (table.redirect route failed data exception).Keeps fun entry => table.Knows entry.tag := by
  obtain ⟨conversion, hlookup⟩ := sound.conversions route hroute failed hmem hother
  refine report_keeps.bind fun _ _ => ?_
  rw [hlookup]
  refine Keeps.demand.bind fun made _ => ?_
  dsimp only
  split
  · exact .refuse (.error nofun)
  · refine Keeps.demand.bind fun _ _ => callErrorState_keeps.bind fun _ _ => .pure ?_
    exact ⟨_, sound.errorBlock route hroute⟩

theorem call_keeps (sound : table.Sound) {owner : Block} (hmem : owner ∈ table.blocks)
    {data : Value} {request : Request} :
    (table.call owner data request).Keeps fun result => ∀ entry ∈ result, table.Knows entry.tag := by
  unfold Table.call
  split
  · exact Keeps.demand.bind fun _ _ => .pure (by simp)
  · rename_i route hroute
    split
    · exact callErrorState_keeps.bind fun _ _ => .pure (by simp)
    · rename_i hother
      refine Keeps.attempt.bind fun answer _ => ?_
      cases answer with
      | ok value => exact .pure (by simp)
      | error exception =>
        dsimp only
        split
        · exact (redirect_keeps sound hroute hmem hother).bind fun entry hentry =>
            .pure (by simpa using hentry)
        · exact .fail (.raised exception)

theorem callHook_keeps (sound : table.Sound) {owner : Block} (hmem : owner ∈ table.blocks)
    {stage : Stage} {data : Value} :
    (table.callHook owner stage data).Keeps fun result =>
      ∀ entry ∈ result, table.Knows entry.tag :=
  call_keeps sound hmem

theorem block_found {tag : String} {block : Block} (h : table.block? tag = some block) :
    table.block tag = pure block := by
  unfold Table.block
  rw [h]

theorem block_keeps {tag : String} (h : table.Knows tag) :
    (table.block tag).Keeps fun block => table.block? tag = some block := by
  obtain ⟨block, hblock⟩ := h
  rw [block_found hblock]
  exact .pure hblock

/-! ## 3. Entering and leaving -/

variable (sound : table.Sound) {block : Block} (hmem : block ∈ table.blocks) {data : Value}
include sound hmem

/-- The tag of a block is known, if only because its own block can be found by it. -/
theorem knows_of_mem : table.Knows block.tag :=
  sound.block?_of_mem (sound.state_mem hmem)

theorem enter_keeps {reported : Bool} :
    (table.enter block data reported).Keeps fun entry => table.Knows entry.tag := by
  refine (callHook_keeps sound hmem).bind fun result hresult => ?_
  cases result with
  | some entry => exact .pure (hresult entry rfl)
  | none =>
    dsimp only
    split
    · exact report_keeps.bind fun _ _ => .pure (knows_of_mem sound hmem)
    · exact .pure (knows_of_mem sound hmem)

theorem runActions_keeps {transitions : List Transition} :
    (table.runActions block data transitions).Keeps fun result =>
      ∀ entry ∈ result, table.Knows entry.tag := by
  induction transitions with
  | nil => exact .pure (by simp)
  | cons transition rest ih =>
    refine (call_keeps sound hmem).bind fun result hresult => ?_
    cases result with
    | some entry => exact .pure hresult
    | none => exact ih

theorem leave_keeps :
    (table.leave block data).Keeps fun result => ∀ entry ∈ result, table.Knows entry.tag := by
  refine (callHook_keeps sound hmem).bind fun result hresult => ?_
  cases result with
  | some entry => exact .pure hresult
  | none => exact runActions_keeps sound hmem

theorem retire_keeps :
    (table.retire block data).Keeps fun entry => table.Knows entry.tag := by
  refine (leave_keeps sound hmem).bind fun result hresult => ?_
  cases result with
  | some entry => exact .pure (hresult entry rfl)
  | none => exact report_keeps.bind fun _ _ => .pure (knows_of_mem sound hmem)

/-! ## 4. Steps -/

theorem take_keeps {transition : Transition} (ht : transition ∈ block.transitions) :
    (table.take block transition data).Keeps fun entry => table.Knows entry.tag := by
  refine (leave_keeps sound hmem).bind fun result hresult => ?_
  cases result with
  | some entry => exact .pure (hresult entry rfl)
  | none =>
    refine report_keeps.bind fun _ _ => report_keeps.bind fun _ _ => ?_
    refine (block_keeps (sound.block?_of_transition hmem ht)).bind fun target htarget => ?_
    refine Keeps.demand.bind fun converted _ => ?_
    split
    · exact .refuse (.error nofun)
    · exact enter_keeps sound (mem_of_block? htarget)

omit sound hmem in
theorem choose_keeps {transitions : List Transition} :
    (choose data transitions).Keeps fun chosen => ∀ transition ∈ chosen, transition ∈ transitions := by
  induction transitions with
  | nil => exact .pure (by simp)
  | cons transition rest ih =>
    refine Keeps.demand.bind fun answer _ => ?_
    have hcoerce : (Operation.ofExcept (Guard.coerce answer)).Keeps fun _ => True :=
      .ofExcept (fun _ _ => trivial) fun error h => by
        rw [Guard.coerce_error h]
        exact .error nofun
    refine hcoerce.bind fun verdict _ => ?_
    cases verdict with
    | transit => exact .pure (by simp)
    | remain => exact ih.weaken fun chosen h t ht => List.mem_cons_of_mem _ (h t ht)

theorem run_keeps : (table.run block data).Keeps fun entry => table.Knows entry.tag := by
  refine report_keeps.bind fun _ _ => (callHook_keeps sound hmem).bind fun result hresult => ?_
  cases result with
  | some entry => exact .pure (hresult entry rfl)
  | none =>
    refine choose_keeps.bind fun chosen hchosen => ?_
    cases chosen with
    | some transition => exact take_keeps sound hmem (hchosen transition rfl)
    | none => exact .pure (knows_of_mem sound hmem)

end Table

end MachineSpec
