/-
MachineSpec.Proofs.Occupancy — a running machine holds data unless a call failed.

Data is out of the slot during an operation on it, and lost after a failure. It is also lost
if it is `null`, since a slot with `null` is empty. With type checks this is excluded if no
state is bound to a class that `null` is an instance of (`Discerns`);
`Table.running_without_data` is a machine with a state bound to `object`.

Callbacks may call the machine at any time. The proof distinguishes two parts of an
operation. Until it has put data back it *mends* the slot: whatever callbacks leave in it,
the operation puts data there or resets the machine. Behind that point, or if it only reads,
it *passes* on the slot that it finds. Each waiting call of a run does one or the other; if
the slot is empty then one of them mends it, unless a call has failed since the last start.

* `Table.running_holds_data`: between calls, if no call has failed since the machine was
  created, started or reset, a running machine holds data, and the next call does not find
  it empty.
-/
import MachineSpec.Proofs.Interference
import MachineSpec.Proofs.Supply

namespace MachineSpec

/-! ## 1. Mending -/

/-- A machine that runs holds data. -/
def Slot.Occupied (slot : Slot) : Prop := slot.running = true → slot.data.isNull = false

namespace Dialogue

variable {α β : Type}

/-- Unless the dialogue fails it puts the slot in order: whatever becomes of the slot before that is
    done, and behind it what it gets is passed on. -/
def Mends : Dialogue α → Prop
  | .done (.ok _) slot => slot.Occupied
  | .done (.error _) _ => True
  | .ask _ slot resume => (∀ answer final, Mends (resume answer final)) ∨
      slot.Occupied ∧ ∀ answer final, (resume answer final).Passes final

theorem Passes.slot {dialogue : Dialogue α} {slot : Slot} (h : dialogue.Passes slot) :
    dialogue.slot = slot := by
  cases dialogue with
  | done => exact h
  | ask => exact h.1

/-- What passes a slot on that is in order has nothing to mend. -/
theorem Passes.mends {dialogue : Dialogue α} {slot : Slot} (h : dialogue.Passes slot)
    (occupied : slot.Occupied) : dialogue.Mends := by
  cases dialogue with
  | done outcome final =>
    obtain rfl : final = slot := h
    cases outcome with
    | ok a => exact occupied
    | error failure => trivial
  | ask request final resume =>
    obtain ⟨rfl, passes⟩ := h
    exact .inr ⟨occupied, passes⟩

/-- What brings data can be mended behind it. -/
theorem Brings.mends {good : α → Prop} {dialogue : Dialogue α} {next : α → Operation β}
    (h : dialogue.Brings good) (hn : ∀ a slot, good a → (next a slot).Mends) :
    (dialogue.andThen next).Mends := by
  induction dialogue with
  | done outcome slot =>
    cases outcome with
    | ok a => exact hn a slot h
    | error failure => trivial
  | ask request slot resume ih =>
    exact .inl fun answer final => ih answer final (h answer final)

/-- To rename the result does not matter. -/
theorem Mends.map {dialogue : Dialogue α} {f : α → β} (h : dialogue.Mends) :
    (dialogue.andThen fun a => Pure.pure (f a)).Mends := by
  induction dialogue with
  | done outcome slot =>
    cases outcome with
    | ok a => exact h
    | error failure => trivial
  | ask request slot resume ih =>
    rcases h with free | ⟨occupied, passes⟩
    · exact .inl fun answer final => ih answer final (free answer final)
    · exact .inr ⟨occupied, fun answer final => (passes answer final).andThen fun _ _ => rfl⟩

end Dialogue

/-! ## 2. Calls -/

/-- The call brings the machine to a beginning. -/
def Call.Restarts : Call → Prop
  | .start _ | .reset => True
  | _ => False

namespace Table

open Operation

variable {table : Table} {slot : Slot} {channels : Channels} {target payload : Designator}

theorem activeChannel_passes {found : List (String × Channel)} {rejected : Value} :
    (table.activeChannel found target rejected).Passes := by
  refine .look fun slot => Passes.ofExcept.bind fun active => ?_
  split
  · split
    · exact .refuse
    · exact .pure
  · exact .refuse

theorem pushed_passes {message : Value} : (table.pushed channels target message).Passes := by
  refine Passes.ofExcept.bind fun found => activeChannel_passes.bind fun (channel, data) => ?_
  exact Passes.tell.bind fun _ => Passes.tell

theorem polled_passes : (table.polled channels target payload).Passes := by
  refine Passes.ofExcept.bind fun found => activeChannel_passes.bind fun (channel, data) => ?_
  refine Passes.demand.bind fun message => ?_
  split
  · exact .pure
  · exact Passes.tell.bind fun _ => .pure

/-- The rest of a step behind the deferred entry. -/
def stepped (table : Table) : Operation Unit := do
  let data ← table.takeData
  let block ← table.block (← Operation.slot).tag
  let entry ← table.run block data
  settle entry

/-- The rest of a stop behind the deferred entry. -/
def stopped (table : Table) : Operation Snapshot := do
  let slot ← Operation.slot
  if slot.running && slot.data.isNull then do
    table.reset
    refuse (.empty table.name)
  else do
    let data ← table.takeData
    table.reportLife "Stop" ""
    let block ← table.block (← Operation.slot).tag
    let entry ← table.retire block data
    table.reset
    let last ← table.block entry.tag
    return ⟨entry.tag, last.kind, entry.data⟩

theorem step_eq : table.step =
    table.enterPending >>= fun elsewhere => if elsewhere then pure () else table.stepped := rfl

theorem stop_eq : table.stop = table.enterPending >>= fun _ => table.stopped := rfl

/-- The data is taken out of the slot of a machine that runs and holds some, and of no other. -/
theorem takeData_cases (table : Table) (slot : Slot) :
    (slot.running = true ∧ slot.data.isNull = false) ∧
      table.takeData slot = .done (.ok slot.data) { slot with data := .null } ∨
    ¬ (slot.running = true ∧ slot.data.isNull = false) ∧
      table.takeData slot = .done (.error (.error (.empty table.name))) slot := by
  cases running : slot.running <;> cases null : slot.data.isNull <;>
    simp [takeData, running, null]

theorem enterPending_owed (pending : slot.pending = true) : table.enterPending slot =
    (table.block slot.tag >>= fun block => table.takeData >>= fun data =>
      table.enter block data true >>= fun entry => settle entry >>= fun _ =>
        pure (entry.tag != block.tag) : Operation Bool) { slot with pending := false } := by
  simp [enterPending, pending]

/-- A machine that does not run is started with data that fits, whatever else is in its slot. -/
theorem start_enters {data : Value} {block : Block} (idle : slot.running = false)
    (check : table.checkInitial data = .ok ())
    (initial : table.block? table.machine.initial.tag = some block) :
    table.start data slot = (table.enter block data false >>= fun entry => settle entry >>= fun _ =>
        table.reportLife "Start" table.machine.initial.text)
      { slot with running := true, pending := false, tag := table.machine.initial.tag } := by
  simp [start, idle, check, Table.block, initial]

/-- What is put into the slot is there as long as it is only passed on. -/
theorem settle_mends {β : Type} {entry : Entry} {next : Unit → Operation β}
    (full : entry.data.isNull = false) (passes : (next ()).Passes) :
    ((settle entry >>= next) slot).Mends :=
  (passes _).mends fun _ => full

theorem fits_of_checkInitial {block : Block} {data : Value}
    (initial : table.block? table.machine.initial.tag = some block)
    (check : table.checkInitial data = .ok ()) : data.isA block.kind = true := by
  unfold checkInitial at check
  rw [initial] at check
  dsimp only at check
  split at check
  · assumption
  · cases check

variable (sound : table.Sound) (discerns : table.Discerns)
include sound discerns

theorem start_mends {data : Value} : (table.start data slot).Mends := by
  cases running : slot.running with
  | true =>
    rw [start_running running]
    trivial
  | false =>
    cases check : table.checkInitial data with
    | error error =>
      have refused : table.start data slot = .done (.error (.error error)) slot := by
        simp [start, running, check]
      rw [refused]
      trivial
    | ok _ =>
      obtain ⟨block, initial⟩ := sound.initial_block
      have full := discerns.full (mem_of_block? initial) (fits_of_checkInitial initial check)
      rw [start_enters running check initial]
      exact (enter_brings sound discerns full _).mends fun entry final full =>
        settle_mends full Passes.tell

/-- A deferred entry leaves the slot in order. -/
theorem enterPending_mends {β : Type} {next : Bool → Operation β} (pending : slot.pending = true)
    (hn : ∀ elsewhere slot, slot.Occupied → (next elsewhere slot).Mends) :
    ((table.enterPending >>= next) slot).Mends := by
  rw [bind_apply, enterPending_owed pending, ← bind_apply]
  simp only [bind_assoc, pure_bind]
  refine (block_brings _).mends fun block now _ => ?_
  rcases takeData_cases table now with ⟨⟨running, full⟩, taken⟩ | ⟨_, empty⟩
  · rw [bind_apply, taken, andThen_ok]
    exact (enter_brings sound discerns full _).mends fun entry final full =>
      hn _ _ fun _ => full
  · rw [bind_apply, empty]
    trivial

theorem stepped_mends : (table.stepped slot).Mends := by
  unfold stepped
  rcases takeData_cases table slot with ⟨⟨running, full⟩, taken⟩ | ⟨_, empty⟩
  · rw [bind_apply, taken, andThen_ok]
    refine (block_brings _).mends fun block now _ => ?_
    exact (run_brings sound discerns full _).mends fun entry final full => fun _ => full
  · rw [bind_apply, empty]
    trivial

theorem stopped_mends : (table.stopped slot).Mends := by
  rw [stopped, bind_apply, slot_apply, andThen_ok]
  split
  · trivial
  · rcases takeData_cases table slot with ⟨⟨running, full⟩, taken⟩ | ⟨_, empty⟩
    · rw [bind_apply, taken, andThen_ok]
      refine (Brings.tell _).mends fun _ now _ => ?_
      refine (block_brings _).mends fun block now _ => ?_
      refine (retire_brings sound discerns full _).mends fun entry now _ => ?_
      -- the machine is as good as new from here on, whatever the last look-up comes to
      refine Dialogue.Passes.mends (?_ : Dialogue.Passes _ (.fresh table)) nofun
      rw [bind_apply, reset, change_apply, andThen_ok, Table.block]
      split
      · rfl
      · rfl
    · rw [bind_apply, empty]
      trivial

/-- A call mends the slot or passes it on; one that restarts the machine mends it. -/
theorem operation_mends (call : Call) (channels : Option Channels) (slot : Slot) :
    (call.operation table channels slot).Mends ∨
      (call.operation table channels slot).Passes slot ∧ ¬ call.Restarts := by
  cases call with
  | start data => exact .inl (start_mends sound discerns).map
  | reset => exact .inl (show Slot.Occupied (.fresh table) from nofun)
  | peek => exact .inr ⟨(Passes.look fun _ => .ofExcept).map slot, id⟩
  | isState target => exact .inr ⟨(Passes.look fun _ => .ofExcept).map slot, id⟩
  | step =>
    refine .inl (Dialogue.Mends.map ?_)
    rw [step_eq]
    cases pending : slot.pending with
    | true =>
      refine enterPending_mends sound discerns pending fun elsewhere slot occupied => ?_
      split
      · exact occupied
      · exact stepped_mends sound discerns
    | false =>
      rw [enterPending_bind pending, if_neg (by decide)]
      exact stepped_mends sound discerns
  | stop =>
    refine .inl (Dialogue.Mends.map ?_)
    rw [stop_eq]
    cases pending : slot.pending with
    | true =>
      exact enterPending_mends sound discerns pending fun _ _ _ => stopped_mends sound discerns
    | false =>
      rw [enterPending_bind pending]
      exact stopped_mends sound discerns
  | push target message =>
    cases channels with
    | none => exact .inr ⟨Passes.refuse.map slot, id⟩
    | some channels =>
      cases pending : slot.pending with
      | true =>
        refine .inl (Dialogue.Mends.map ?_)
        rw [push_some]
        exact enterPending_mends sound discerns pending fun _ slot occupied =>
          (pushed_passes slot).mends occupied
      | false =>
        refine .inr ⟨Dialogue.Passes.andThen ?_ fun _ _ => rfl, id⟩
        rw [push_some, enterPending_bind pending]
        exact pushed_passes slot
  | poll target payload =>
    cases channels with
    | none => exact .inr ⟨Passes.refuse.map slot, id⟩
    | some channels =>
      cases pending : slot.pending with
      | true =>
        refine .inl (Dialogue.Mends.map ?_)
        rw [poll_some]
        exact enterPending_mends sound discerns pending fun _ slot occupied =>
          (polled_passes slot).mends occupied
      | false =>
        refine .inr ⟨Dialogue.Passes.andThen ?_ fun _ _ => rfl, id⟩
        rw [poll_some, enterPending_bind pending]
        exact polled_passes slot

end Table

/-! ## 3. Runs -/

/-- The dialogue has ended with a failure. -/
def Dialogue.Failed {α : Type} : Dialogue α → Prop
  | .done (.error _) _ => True
  | _ => False

/-- The moments of the runs of a machine, as in `Table.Lives`, where `well` says that no call has
    failed since the machine was created, started or reset. -/
inductive Table.Runs (table : Table) (allows : Request → Call → Prop) : Prop → Moment → Prop where
  | begun {given : Value} {slot : Slot} (call : Call) (channels : Option Channels)
      (created : table.create given = .ok slot) :
      Runs table allows (¬ (call.operation table channels slot).Failed)
        ⟨call, call.operation table channels slot, []⟩
  | called {well : Prop} {call : Call} {outcome : Except Failure Reply} {slot : Slot} (next : Call)
      (channels : Option Channels) (runs : Runs table allows well ⟨call, .done outcome slot, []⟩) :
      Runs table allows
        ((well ∨ next.Restarts) ∧ ¬ (next.operation table channels slot).Failed)
        ⟨next, next.operation table channels slot, []⟩
  | answered {well : Prop} {call : Call} {request : Request} {slot : Slot}
      {resume : Answer → Slot → Dialogue Reply} {waiting : List Frame} (answer : Answer)
      (runs : Runs table allows well ⟨call, .ask request slot resume, waiting⟩) :
      Runs table allows (well ∧ ¬ (resume answer slot).Failed) ⟨call, resume answer slot, waiting⟩
  | nested {well : Prop} {call : Call} {request : Request} {slot : Slot}
      {resume : Answer → Slot → Dialogue Reply} {waiting : List Frame} (next : Call)
      (channels : Option Channels) (allowed : allows request next)
      (runs : Runs table allows well ⟨call, .ask request slot resume, waiting⟩) :
      Runs table allows
        ((well ∨ next.Restarts) ∧ ¬ (next.operation table channels slot).Failed)
        ⟨next, next.operation table channels slot, ⟨call, request, resume⟩ :: waiting⟩
  | returned {well : Prop} {call : Call} {outcome : Except Failure Reply} {slot : Slot}
      {frame : Frame} {waiting : List Frame}
      (runs : Runs table allows well ⟨call, .done outcome slot, frame :: waiting⟩) :
      Runs table allows well ⟨frame.call, .ask frame.request slot frame.resume, waiting⟩

namespace Table

variable {table : Table} {allows : Request → Call → Prop} {well : Prop}

/-- `Runs` reaches every moment that `Lives` reaches, and no other. -/
theorem lives_iff {moment : Moment} :
    table.Lives allows moment ↔ ∃ well, table.Runs allows well moment := by
  constructor
  · intro lives
    induction lives with
    | begun call channels created => exact ⟨_, .begun call channels created⟩
    | called next channels _ ih =>
      obtain ⟨_, runs⟩ := ih
      exact ⟨_, .called next channels runs⟩
    | answered answer _ ih =>
      obtain ⟨_, runs⟩ := ih
      exact ⟨_, .answered answer runs⟩
    | nested next channels allowed _ ih =>
      obtain ⟨_, runs⟩ := ih
      exact ⟨_, .nested next channels allowed runs⟩
    | returned _ ih =>
      obtain ⟨_, runs⟩ := ih
      exact ⟨_, .returned runs⟩
  · rintro ⟨_, runs⟩
    induction runs with
    | begun call channels created => exact .begun call channels created
    | called next channels _ ih => exact .called next channels ih
    | answered answer _ ih => exact .answered answer ih
    | nested next channels allowed _ ih => exact .nested next channels allowed ih
    | returned _ ih => exact .returned ih

theorem not_failed_of_plays {α : Type} {dialogue : Dialogue α} {course : Course} {a : α}
    {final : Slot} (plays : Dialogue.Plays dialogue course (.ok a) final) : ¬ dialogue.Failed := by
  cases plays with
  | done => exact id
  | ask => exact id

/-- If no other call is made, a call that succeeds comes to its end and the invariant holds. -/
theorem Runs.plays {call : Call} {dialogue : Dialogue Reply} {waiting : List Frame}
    (runs : table.Runs allows well ⟨call, dialogue, waiting⟩) {course : Course} {reply : Reply}
    {final : Slot} (plays : Dialogue.Plays dialogue course (.ok reply) final) :
    ∃ still : Prop, (well → still) ∧
      table.Runs allows still ⟨call, .done (.ok reply) final, waiting⟩ := by
  generalize succeeds : Except.ok reply = outcome at plays
  induction plays generalizing well with
  | done => exact ⟨well, id, succeeds ▸ runs⟩
  | ask rest ih =>
    subst succeeds
    obtain ⟨still, keeps, runs⟩ := ih (.answered _ runs) rfl
    exact ⟨still, fun fine => keeps ⟨fine, not_failed_of_plays rest⟩, runs⟩

end Table

/-- Upon any answer the call that waits mends the slot. -/
def Frame.Mends (frame : Frame) : Prop := ∀ answer slot, (frame.resume answer slot).Mends

/-- Upon any answer the call that waits passes the slot on. -/
def Frame.Passes (frame : Frame) : Prop := ∀ answer slot, (frame.resume answer slot).Passes slot

/-- All calls mend the slot or pass it on, and if all is well it is in order or will be mended. -/
structure Moment.Ordered (well : Prop) (moment : Moment) : Prop where
  doing : moment.doing.Mends ∨ moment.doing.Passes moment.doing.slot
  waiting : ∀ frame ∈ moment.waiting, frame.Mends ∨ frame.Passes
  well : well → ¬ moment.doing.Failed ∧
    (moment.doing.slot.Occupied ∨ moment.doing.Mends ∨ ∃ frame ∈ moment.waiting, frame.Mends)

namespace Moment.Ordered

variable {well : Prop} {call : Call} {slot : Slot} {waiting : List Frame}

theorem weaken {moment : Moment} {better : Prop} (ordered : moment.Ordered well)
    (h : better → well) : moment.Ordered better :=
  ⟨ordered.doing, ordered.waiting, fun fine => ordered.well (h fine)⟩

/-- Where a call has ended the slot is in order, or one of those who wait will mend it. -/
theorem ended {outcome : Except Failure Reply}
    (ordered : Ordered well ⟨call, .done outcome slot, waiting⟩) (fine : well) :
    slot.Occupied ∨ ∃ frame ∈ waiting, frame.Mends := by
  obtain ⟨succeeded, here | mends | later⟩ := ordered.well fine
  · exact .inl here
  · cases outcome with
    | ok reply => exact .inl mends
    | error failure => exact absurd trivial succeeded
  · exact .inr later

variable {request : Request} {resume : Answer → Slot → Dialogue Reply}

/-- A call that makes a request is one that waits. -/
theorem asking (ordered : Ordered well ⟨call, .ask request slot resume, waiting⟩) :
    (∀ frame ∈ ⟨call, request, resume⟩ :: waiting, frame.Mends ∨ frame.Passes) ∧
      (well → slot.Occupied ∨ ∃ frame ∈ ⟨call, request, resume⟩ :: waiting, frame.Mends) := by
  obtain ⟨doing, others, order⟩ := ordered
  refine ⟨List.forall_mem_cons.mpr ⟨?_, others⟩, fun fine => ?_⟩
  · -- which of the two holds is settled by the place of the request, not by the operation
    rcases doing with (free | ⟨_, passes⟩) | ⟨_, passes⟩
    · exact .inl free
    · exact .inr passes
    · exact .inr passes
  · obtain ⟨-, here | (free | ⟨here, -⟩) | ⟨frame, mem, mends⟩⟩ := order fine
    · exact .inl here
    · exact .inr ⟨_, .head _, free⟩
    · exact .inl here
    · exact .inr ⟨frame, .tail _ mem, mends⟩

end Moment.Ordered

namespace Table

open Dialogue

variable {table : Table} {allows : Request → Call → Prop} {well : Prop} {moment : Moment}

theorem create_occupied {given : Value} {slot : Slot} (created : table.create given = .ok slot) :
    slot.Occupied := by
  rcases create_cases created with rfl | ⟨rfl, full, -⟩
  · exact nofun
  · exact fun _ => full

/-- A call upon a slot that is in order, or that one of those who wait will mend. -/
theorem ordered_of_call (sound : table.Sound) (discerns : table.Discerns) (call : Call)
    (channels : Option Channels) {slot : Slot} {waiting : List Frame}
    (others : ∀ frame ∈ waiting, frame.Mends ∨ frame.Passes)
    (order : well → slot.Occupied ∨ ∃ frame ∈ waiting, frame.Mends) :
    Moment.Ordered ((well ∨ call.Restarts) ∧ ¬ (call.operation table channels slot).Failed)
      ⟨call, call.operation table channels slot, waiting⟩ := by
  rcases operation_mends sound discerns call channels slot with mends | ⟨passes, goesOn⟩
  · exact ⟨.inl mends, others, fun fine => ⟨fine.2, .inr (.inl mends)⟩⟩
  · -- what only passes the slot on leaves it to those who wait, and is no new beginning
    refine ⟨.inr (passes.slot.symm ▸ passes), others, fun fine => ⟨fine.2, ?_⟩⟩
    rcases order (fine.1.resolve_right goesOn) with here | mended
    · exact .inl (passes.slot.symm ▸ here)
    · exact .inr (.inr mended)

/-- An answer is what a call that waits was waiting for. -/
theorem ordered_of_answer {frame : Frame} {answer : Answer} {slot : Slot} {waiting : List Frame}
    (calls : ∀ other ∈ frame :: waiting, other.Mends ∨ other.Passes)
    (order : well → slot.Occupied ∨ ∃ other ∈ frame :: waiting, other.Mends) :
    Moment.Ordered (well ∧ ¬ (frame.resume answer slot).Failed)
      ⟨frame.call, frame.resume answer slot, waiting⟩ := by
  obtain ⟨here, others⟩ := List.forall_mem_cons.mp calls
  rcases here with mends | passes
  · exact ⟨.inl (mends answer slot), others, fun fine =>
      ⟨fine.2, .inr (.inl (mends answer slot))⟩⟩
  · have same := (passes answer slot).slot
    refine ⟨.inr (same.symm ▸ passes answer slot), others, fun fine => ⟨fine.2, ?_⟩⟩
    rcases order fine.1 with occupied | ⟨other, mem, mends⟩
    · exact .inl (same.symm ▸ occupied)
    · rcases List.mem_cons.mp mem with rfl | mem
      · exact .inr (.inl (mends answer slot))
      · exact .inr (.inr ⟨other, mem, mends⟩)

/-- The call that waits for a call which has ended is back at its request. -/
theorem ordered_of_return {frame : Frame} {slot : Slot} {waiting : List Frame}
    (calls : ∀ other ∈ frame :: waiting, other.Mends ∨ other.Passes)
    (order : well → slot.Occupied ∨ ∃ other ∈ frame :: waiting, other.Mends) :
    Moment.Ordered well ⟨frame.call, .ask frame.request slot frame.resume, waiting⟩ := by
  obtain ⟨here, others⟩ := List.forall_mem_cons.mp calls
  refine ⟨here.imp .inl fun passes => ⟨rfl, passes⟩, others, fun fine => ⟨id, ?_⟩⟩
  rcases order fine with occupied | ⟨other, mem, mends⟩
  · exact .inl occupied
  · rcases List.mem_cons.mp mem with rfl | mem
    · exact .inr (.inl (.inl mends))
    · exact .inr (.inr ⟨other, mem, mends⟩)

/-- At every moment of a run the calls are in order. -/
theorem Runs.ordered (sound : table.Sound) (discerns : table.Discerns)
    (runs : table.Runs allows well moment) : moment.Ordered well := by
  induction runs with
  | begun call channels created =>
    have others : ∀ frame ∈ ([] : List Frame), frame.Mends ∨ frame.Passes := by simp
    have ordered := ordered_of_call sound discerns call channels others
      fun _ : True => .inl (create_occupied created)
    exact ordered.weaken fun fine => ⟨.inl trivial, fine⟩
  | called next channels _ ih =>
    have others : ∀ frame ∈ ([] : List Frame), frame.Mends ∨ frame.Passes := by simp
    exact ordered_of_call sound discerns next channels others ih.ended
  | answered answer _ ih =>
    obtain ⟨calls, order⟩ := ih.asking
    exact ordered_of_answer calls order
  | nested next channels _ _ ih =>
    obtain ⟨others, order⟩ := ih.asking
    exact ordered_of_call sound discerns next channels others order
  | returned _ ih => exact ordered_of_return ih.waiting ih.ended

/-- The slots of a machine between calls, if no call has failed since it was created, started or
    reset. -/
inductive Rests (table : Table) (allows : Request → Call → Prop) : Slot → Prop where
  | created {given : Value} {slot : Slot} (made : table.create given = .ok slot) :
      Rests table allows slot
  | ended {well : Prop} {call : Call} {outcome : Except Failure Reply} {slot : Slot}
      (runs : table.Runs allows well ⟨call, .done outcome slot, []⟩) (fine : well) :
      Rests table allows slot

/-- A call that succeeds, with no other call made in the meantime, keeps this. -/
theorem Rests.plays {slot final : Slot} (rests : table.Rests allows slot) {call : Call}
    {channels : Option Channels} {course : Course} {reply : Reply}
    (plays : Plays (call.operation table channels slot) course (.ok reply) final) :
    table.Rests allows final := by
  have succeeds := not_failed_of_plays plays
  cases rests with
  | created made =>
    have begun : table.Runs allows _ _ := .begun call channels made
    obtain ⟨_, keeps, runs⟩ := begun.plays plays
    exact .ended runs (keeps succeeds)
  | ended runs fine =>
    obtain ⟨_, keeps, runs⟩ := (runs.called call channels).plays plays
    exact .ended runs (keeps ⟨.inl fine, succeeds⟩)

theorem Rests.occupied (sound : table.Sound) (discerns : table.Discerns) {slot : Slot}
    (rests : table.Rests allows slot) : slot.Occupied := by
  cases rests with
  | created made => exact create_occupied made
  | ended runs fine =>
    rcases (runs.ordered sound discerns).ended fine with occupied | ⟨_, mem, _⟩
    · exact occupied
    · cases mem

end Table

/-! ## 4. The next call

It takes the data out of the slot, and may have an entry to make up for before that. Who is asked
to enter the data may reset the machine, and then there is nothing to take out; but that is not the
machine that was found empty. So whoever is asked has to leave the machine running. -/

namespace Dialogue

variable {α β : Type} {after middle : α → Slot → Prop} {failed failed' : Failure → Prop}

/-- As long as callbacks leave the machine running, the dialogue ends with these conditions. -/
def Meets (after : α → Slot → Prop) (failed : Failure → Prop) : Dialogue α → Prop
  | .done (.ok a) slot => after a slot
  | .done (.error failure) _ => failed failure
  | .ask _ _ resume => ∀ answer slot, slot.running = true → Meets after failed (resume answer slot)

theorem Meets.mono {dialogue : Dialogue α} (h : dialogue.Meets after failed)
    (weaker : ∀ failure, failed failure → failed' failure) : dialogue.Meets after failed' := by
  induction dialogue with
  | done outcome slot =>
    cases outcome with
    | ok a => exact h
    | error failure => exact weaker failure h
  | ask request slot resume ih => exact fun answer final up => ih answer final (h answer final up)

theorem Meets.andThen {dialogue : Dialogue α} {next : α → Operation β} {last : β → Slot → Prop}
    (h : dialogue.Meets after failed)
    (hn : ∀ a slot, after a slot → (next a slot).Meets last failed) :
    (dialogue.andThen next).Meets last failed := by
  induction dialogue with
  | done outcome slot =>
    cases outcome with
    | ok a => exact hn a slot h
    | error failure => exact h
  | ask request slot resume ih => exact fun answer final up => ih answer final (h answer final up)

theorem Brings.meets {good : α → Prop} {dialogue : Dialogue α} (h : dialogue.Brings good) :
    dialogue.Meets (fun a _ => good a) Failure.Blames := by
  induction dialogue with
  | done outcome slot =>
    cases outcome with
    | ok a => exact h
    | error failure => exact h
  | ask request slot resume ih => exact fun answer final _ => ih answer final (h answer final)

/-- What passes the slot on ends with a machine that runs. -/
theorem Brings.meets_running {good : α → Prop} {dialogue : Dialogue α} {slot : Slot}
    (h : dialogue.Brings good) (passes : dialogue.Passes slot) (running : slot.running = true) :
    dialogue.Meets (fun a final => good a ∧ final.running = true) Failure.Blames := by
  induction dialogue generalizing slot with
  | done outcome final =>
    obtain rfl : final = slot := passes
    cases outcome with
    | ok a => exact ⟨h, running⟩
    | error failure => exact h
  | ask request final resume ih =>
    exact fun answer last up => ih answer last (h answer last) (passes.2 answer last) up

end Dialogue

namespace Table

open Operation

variable {table : Table} {slot : Slot} {block : Block} {data : Value}

/-! A machine that runs and holds data is not found empty. -/

section

variable (sound : table.Sound) (discerns : table.Discerns)
include sound discerns

theorem enter_meets {reporting : Bool} (full : data.isNull = false)
    (running : slot.running = true) : (table.enter block data reporting slot).Meets
      (fun entry middle => entry.data.isNull = false ∧ middle.running = true) Failure.Blames :=
  (enter_brings sound discerns full slot).meets_running (enter_passes slot) running

variable (running : slot.running = true) (full : slot.data.isNull = false)
include running full

theorem enterPending_meets : (table.enterPending slot).Meets
    (fun _ middle => middle.running = true ∧ middle.data.isNull = false) Failure.Blames := by
  cases pending : slot.pending with
  | false =>
    have still : table.enterPending slot = .done (.ok false) slot := by
      simp [enterPending, pending]
    rw [still]
    exact ⟨running, full⟩
  | true =>
    rw [enterPending_owed pending, bind_apply]
    cases found : table.block? slot.tag with
    | none =>
      have missing : table.block slot.tag = refuse (.noBlock slot.tag) := by
        simp [Table.block, found]
      rw [missing]
      exact .error rfl
    | some block =>
      rcases takeData_cases table { slot with pending := false } with ⟨-, taken⟩ | ⟨empty, -⟩
      · rw [block_found found, pure_apply, andThen_ok, bind_apply, taken, andThen_ok]
        refine (enter_meets sound discerns full ?_).andThen fun entry middle good => ?_
        · exact running
        · exact ⟨good.2, good.1⟩
      · exact absurd ⟨running, full⟩ empty

theorem stepped_meets : (table.stepped slot).Meets (fun _ _ => True) Failure.Blames := by
  unfold stepped
  rcases takeData_cases table slot with ⟨-, taken⟩ | ⟨empty, -⟩
  · rw [bind_apply, taken, andThen_ok]
    refine Dialogue.Brings.meets (?_ : Dialogue.Brings (fun _ => True) _)
    refine (block_brings _).andThen fun block now _ => ?_
    exact (run_brings sound discerns full _).andThen fun entry final _ => trivial
  · exact absurd ⟨running, full⟩ empty

theorem stopped_meets : (table.stopped slot).Meets (fun _ _ => True) Failure.Blames := by
  rw [stopped, bind_apply, slot_apply, andThen_ok, if_neg (by simp [full])]
  rcases takeData_cases table slot with ⟨-, taken⟩ | ⟨empty, -⟩
  · rw [bind_apply, taken, andThen_ok]
    refine Dialogue.Brings.meets (?_ : Dialogue.Brings (fun _ => True) _)
    refine (Brings.tell _).andThen fun _ now _ => ?_
    refine (block_brings _).andThen fun block now _ => ?_
    refine (retire_brings sound discerns full _).andThen fun entry now _ => ?_
    exact block_brings.bind (fun _ _ => .pure trivial) _
  · exact absurd ⟨running, full⟩ empty

end

/-- Between calls, if no call has failed since the machine was created, started or reset, a running
    machine holds data. The next call finds data, also after a deferred entry, and neither `step`
    nor `stop` reports that there is none. Earlier callbacks may have called the machine in any way;
    those of the next call are assumed to leave it running. -/
theorem running_holds_data (compiled : table.Compiled) (discerns : table.Discerns)
    {allows : Request → Call → Prop} (rests : table.Rests allows slot)
    (running : slot.running = true) :
    slot.data.isNull = false ∧
    (table.enterPending slot).Meets
      (fun _ middle => middle.running = true ∧ middle.data.isNull = false)
      (· ≠ .error (.empty table.name)) ∧
    (table.step slot).Meets (fun _ _ => True) (· ≠ .error (.empty table.name)) ∧
    (table.stop slot).Meets (fun _ _ => True) (· ≠ .error (.empty table.name)) := by
  have full := rests.occupied compiled.sound discerns running
  have entered := enterPending_meets compiled.sound discerns running full
  have notEmpty : ∀ failure : Failure, failure.Blames → failure ≠ .error (.empty table.name) := by
    rintro _ blames rfl
    cases blames _ rfl
  refine ⟨full, entered.mono notEmpty, .mono ?_ notEmpty, .mono ?_ notEmpty⟩
  · rw [step_eq, bind_apply]
    refine entered.andThen fun elsewhere middle held => ?_
    split
    · trivial
    · exact stepped_meets compiled.sound discerns held.1 held.2
  · rw [stop_eq, bind_apply]
    exact entered.andThen fun _ middle held =>
      stopped_meets compiled.sound discerns held.1 held.2

/-- A lamp that was started with data of `Off`. -/
theorem running_holds_data_lamp :
    let started := Slot.holding ⟨Lamp.offBlock.tag, .object 0 Lamp.off⟩
    Lamp.plain.Rests (fun _ _ => True) started ∧ started.running = true ∧
      started.data.isNull = false ∧
      (Lamp.plain.step started).Meets (fun _ _ => True) (· ≠ .error (.empty "Lamp")) := by
  have starts : Dialogue.Plays
      ((Call.start (.object 0 Lamp.off)).operation Lamp.plain none (.fresh Lamp.plain))
      [(.hook .entry Lamp.offBlock.tag true (.object 0 Lamp.off), .ok .null),
       (.report false (traceLine "Lamp" "Start" "Off"), .ok .null)]
      (.ok .nothing) (.holding ⟨Lamp.offBlock.tag, .object 0 Lamp.off⟩) :=
    .ask (.ask (.done _ _))
  have fresh : Lamp.plain.create .null = .ok (.fresh Lamp.plain) := rfl
  have rests : Lamp.plain.Rests (fun _ _ => True) _ := (Rests.created fresh).plays starts
  have law := running_holds_data Lamp.plain_compiled ⟨rfl, by decide⟩ rests rfl
  exact ⟨rests, rfl, law.1, law.2.2.1⟩

/-- A machine with a state for just any object. -/
def box : Table :=
  let any : State := ⟨Lamp.state "Any", []⟩
  ⟨⟨"Box", any, [any], [], none⟩, ⟨false, false, false⟩,
    [⟨any, Class.object, ⟨false, false, false⟩, []⟩], none, true⟩

theorem box_compiled : box.Compiled :=
  ⟨⟨"Box", Lamp.state "Any", [Lamp.state "Any"], [], none, Lamp.span⟩, box.machine,
    Bindings.empty [("Any", .cls Class.object)], box.flags, true, rfl, rfl⟩

/-- A machine with a state bound to `object` is started with `null`: it runs, no call has failed,
    and its slot is empty. -/
theorem running_without_data :
    box.Compiled ∧ box.checkTypes = true ∧ ∃ slot,
      box.Rests (fun _ _ => False) slot ∧ slot.running = true ∧ slot.data.isNull = true ∧
      box.step slot = .done (.error (.error (.empty box.name))) slot ∧
      box.stop slot = .done (.error (.error (.empty box.name))) (.fresh box) := by
  have starts : Dialogue.Plays ((Call.start .null).operation box none (.fresh box))
      [(.hook .entry "AnyState" false .null, .ok .null),
       (.report false (traceLine "Box" "Start" "Any"), .ok .null)]
      (.ok .nothing) (.holding ⟨"AnyState", .null⟩) :=
    .ask (.ask (.done _ _))
  have fresh : box.create .null = .ok (.fresh box) := rfl
  exact ⟨box_compiled, rfl, _, (Rests.created fresh).plays starts, rfl, rfl, rfl, rfl⟩

end Table

end MachineSpec
