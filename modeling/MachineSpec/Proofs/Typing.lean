/-
MachineSpec.Proofs.Typing — type checks keep data and state in step.

Data comes into the slot in four ways: by creation, by `start`, by the conversion of a
transition, and by the conversion of data that failed. Each is checked.
`Table.data_typed_and_conversions_screened` proves for machines with type checks that the
data in the slot, and the data of every request, is an instance of the class bound to its
state; and that a conversion is rejected if and only if its result is not.

The first part has an exception. Callbacks may call the machine while its data is out of the
slot. Most calls are then rejected, but `stop` and `reset` are not: they leave a machine
that holds the data that is put back and does not run, and that can be started a second time
(`Table.data_mistyped_after_reset`). So the first part is about runs in which these two
calls are made only between operations on data (`Request.Permits`). The second part has no
such condition (`Screens`).
-/
import MachineSpec.Proofs.Halting
import MachineSpec.Proofs.Regime

namespace MachineSpec

/-! ## 1. Data of the right class -/

/-- The calls that a callback may make: any while a message is carried, and any but those that drop
    the data while the data is dealt with. -/
def Request.Permits (request : Request) (call : Call) : Prop :=
  request.isMessage = true ∨ call ≠ .stop ∧ call ≠ .reset

namespace Table

variable {table : Table} {slot : Slot}

/-- The data is an instance of the class bound to the tag. -/
def Classed (table : Table) (tag : String) (data : Value) : Prop :=
  ∃ block, table.block? tag = some block ∧ data.isA block.kind = true

/-- The slot of a machine while a callback runs that may read it. -/
structure Sorted (table : Table) (slot : Slot) : Prop where
  known : table.Knows slot.tag
  /-- What is in the slot is of the class bound to its tag. -/
  classed : slot.data.isNull = false → table.Classed slot.tag slot.data
  /-- There is nothing in it unless the machine runs. -/
  stopped : slot.running = false → slot.data = .null

/-- Nothing is of any class that it would have to be. -/
theorem sorted_empty {tag : String} {running pending : Bool} (known : table.Knows tag) :
    table.Sorted ⟨tag, .null, running, pending⟩ :=
  ⟨known, nofun, fun _ => rfl⟩

theorem sorted_of_create (sound : table.Sound) {given : Value}
    (created : table.create given = .ok slot) : table.Sorted slot := by
  rcases create_cases created with rfl | ⟨rfl, -, block, initial, fits⟩
  · exact sorted_empty sound.initial_block
  · exact ⟨sound.initial_block, fun _ => ⟨block, initial, fits⟩, nofun⟩

theorem classed_of_checkInitial {data : Value} (h : table.checkInitial data = .ok ()) :
    table.Classed table.machine.initial.tag data := by
  unfold checkInitial at h
  split at h
  · cases h
  · rename_i block initial
    split at h
    · rename_i fits
      exact ⟨block, initial, fits⟩
    · cases h

end Table

/-! ## 2. Calls upon an empty slot -/

/-- From the slot, the operation ends without a request, and leaves the slot as it is. -/
def Operation.Vacant {α : Type} (operation : Operation α) (slot : Slot) : Prop :=
  ∃ outcome, operation slot = .done outcome slot

namespace Operation.Vacant

variable {α β : Type} {slot : Slot}

theorem of_barred {operation : Operation α} (h : operation.Barred slot) : operation.Vacant slot := by
  obtain ⟨error, h⟩ := h
  exact ⟨_, h⟩

theorem look {result : Slot → Except Error α} :
    (Operation.slot >>= fun slot => Operation.ofExcept (result slot)).Vacant slot := by
  unfold Vacant
  rw [bind_apply, slot_apply, andThen_ok]
  cases result slot with
  | ok a => exact ⟨_, rfl⟩
  | error error => exact ⟨_, rfl⟩

theorem map {operation : Operation α} {f : α → β} (h : operation.Vacant slot) :
    (f <$> operation).Vacant slot := by
  obtain ⟨outcome, h⟩ := h
  unfold Vacant
  rw [map_apply, h]
  cases outcome with
  | ok a => exact ⟨_, rfl⟩
  | error failure => exact ⟨_, rfl⟩

end Operation.Vacant

namespace Table

open Operation

variable {table : Table} {slot : Slot}

/-- While its data is out of the slot all calls upon a machine are vain, except for those that bring
    it back to the initial state. -/
theorem vacant_of_halted (halted : slot.Halted) {call : Call}
    (other : call ≠ .stop ∧ call ≠ .reset) (channels : Option Channels) :
    (call.operation table channels).Vacant slot := by
  rw [halted.eq_halted]
  cases call with
  | start data => exact Vacant.map ⟨_, start_running rfl data⟩
  | step => exact Vacant.map ⟨_, step_halted _⟩
  | stop => exact absurd rfl other.1
  | reset => exact absurd rfl other.2
  | peek | isState target => exact Vacant.look.map
  | push target message => exact (Vacant.of_barred push_barred).map
  | poll target payload => exact (Vacant.of_barred poll_barred).map

end Table

/-! ## 3. Machines that check types -/

namespace Regime

variable {table : Table}

/-- The regime of a machine that checks types. While its data is out of the slot no callback may
    change the slot; at other times the slot stays sorted. -/
def ofTypes (sound : table.Sound) (checks : table.checkTypes = true) : Regime table where
  rely request slot final := (table.Sorted slot → table.Sorted final) ∧
    (request.isMessage = false → slot.Halted → final = slot)
  idle := table.Sorted
  ready slot := table.Sorted slot ∧ slot.pending = false
  busy slot := slot.Halted ∧ table.Knows slot.tag
  place := table.Classed
  still _ _ := ⟨id, fun _ _ => rfl⟩
  trans first second := by
    refine ⟨fun sorted => second.1 (first.1 sorted), fun speechless halted => ?_⟩
    have same := first.2 speechless halted
    rw [second.2 speechless (same ▸ halted), same]
  idle_rely relied := relied.1
  busy_rely speechless relied busy := by
    rw [relied.2 speechless busy.1]
    exact busy
  held speechless relied busy placed := by
    rw [relied.2 speechless busy.1]
    exact placed
  known sorted := sorted.known
  known_place placed := by
    obtain ⟨block, known, -⟩ := placed
    exact ⟨block, known⟩
  idle_of_ready := And.left
  idle_of_busy busy := by
    rw [busy.1.eq_halted]
    exact Table.sorted_empty busy.2
  created := Table.sorted_of_create sound
  fresh := Table.sorted_empty sound.initial_block
  begins sorted stopped := ⟨⟨rfl, sorted.stopped stopped, rfl⟩, sound.initial_block⟩
  starts := Table.classed_of_checkInitial
  owes sorted := ⟨⟨sorted.known, sorted.classed, sorted.stopped⟩, rfl⟩
  out ready running full :=
    ⟨⟨⟨running, rfl, ready.2⟩, ready.1.known⟩, ready.1.classed full⟩
  back := by
    rintro slot entry ⟨⟨running, -, settled⟩, -⟩ ⟨block, known, fits⟩
    refine ⟨⟨⟨block, known⟩, fun _ => ⟨block, known, fits⟩, fun stopped => ?_⟩, settled⟩
    cases running.symm.trans stopped
  moves _ _ _ known fits := ⟨_, sound.block?_of_tag (Table.mem_of_block? known), fits checks⟩
  fails fallible fits := ⟨_, sound.errorBlock _ fallible, fits checks⟩

/-- A machine abides by it if no callback drops the data while it is dealt with. -/
theorem ofTypes_abides (sound : table.Sound) (checks : table.checkTypes = true) :
    table.Abides (ofTypes sound checks).terms Request.Permits := by
  refine abides sound fun request call channels slot permitted _ => ?_
  by_cases out : request.isMessage = false ∧ slot.Halted
  · rcases permitted with message | other
    · rw [out.1] at message
      cases message
    · exact .inr (Table.vacant_of_halted out.2 other channels)
  · exact .inl fun final sorted => ⟨fun _ => sorted, fun speechless halted =>
      absurd ⟨speechless, halted⟩ out⟩

end Regime

/-! ## 4. Conversions that do not fit -/

/-- The failure is that of a conversion which did not make data of the class that it was for. -/
def Failure.Mismatch (failure : Failure) : Prop :=
  ∃ error, failure = .error error ∧ error.kind = .transitionError

/-- Two errors only are of that class. -/
theorem Error.of_mismatch {error : Error} (h : error.kind = .transitionError) :
    (∃ machine destination found expected,
      error = .wrongConversion machine destination found expected) ∨
    ∃ source destination found, error = .wrongErrorData source destination found := by
  cases error with
  | wrongConversion => exact .inl ⟨_, _, _, _, rfl⟩
  | wrongErrorData => exact .inr ⟨_, _, _, rfl⟩
  | rejected why =>
    cases why <;> simp only [kind] at h <;> exact absurd h (by decide)
  | _ =>
    simp only [kind] at h
    exact absurd h (by decide)

namespace Table

open Operation Dialogue

variable {table : Table}

/-- The block of the state that a conversion has to make data of. -/
def target? (table : Table) : Request → Option Block
  | .convert transition _ => table.block? transition.destination.tag
  | .convertFailed .. => table.failure.map FailureRoute.errorBlock
  | _ => none

/-- The answer is what a conversion made, and no instance of the class bound to its target. -/
def Misfit (table : Table) (asked : Request × Answer) : Prop :=
  ∃ target made, table.target? asked.1 = some target ∧ asked.2 = .ok made ∧
    made.isA target.kind = false

theorem not_mismatch_of_declines {error : Error} (declines : error.declines = true) :
    ¬ (Failure.error error).Mismatch := by
  rintro ⟨_, ⟨⟩, same⟩
  rcases Error.of_mismatch same with ⟨_, _, _, _, rfl⟩ | ⟨_, _, _, rfl⟩ <;> cases declines

/-- Among the faults only that of a conversion which made data of the wrong class is a mismatch. -/
theorem misfit_of_fault {asked : Request × Answer} {failure : Failure}
    (faulty : table.fault asked = some failure) (mismatch : failure.Mismatch) :
    table.Misfit asked := by
  obtain ⟨error, same, kind⟩ := mismatch
  cases faults_of_fault faulty with
  | raised => cases same
  | wrongConversion known _ unfit => exact ⟨_, _, known, rfl, unfit⟩
  | wrongErrorData fallible _ _ unfit => exact ⟨_, _, by simp [target?, fallible], rfl, unfit⟩
  | escalated | noVerdict =>
    rcases Error.of_mismatch kind with ⟨_, _, _, _, rfl⟩ | ⟨_, _, _, rfl⟩ <;> cases same

/-- A conversion that made data of the wrong class is at fault, if types are checked. -/
theorem Misfit.fault {asked : Request × Answer} (misfit : table.Misfit asked)
    (checks : table.checkTypes = true)
    (known : ∀ tag data, asked.1.owner? = some (tag, data) → table.Knows tag) :
    ∃ failure, table.fault asked = some failure ∧ failure.Mismatch := by
  obtain ⟨request, answer⟩ := asked
  obtain ⟨target, made, aims, same, unfit⟩ := misfit
  obtain rfl : answer = .ok made := same
  have checked : (table.checkTypes && !made.isA target.kind) = true := by simp [checks, unfit]
  cases request with
  | convert transition data =>
    exact ⟨_, (fault_convert aims data made).trans (if_pos checked), _, rfl, rfl⟩
  | convertFailed tag conversion data =>
    obtain ⟨route, fallible, rfl⟩ := Option.map_eq_some_iff.mp aims
    obtain ⟨failed, found⟩ := known tag data rfl
    exact ⟨_, (fault_convertFailed fallible found conversion data made).trans (if_pos checked), _,
      rfl, rfl⟩
  | _ => cases aims

/-! ## 5. Main theorem -/

/-- At this moment all data is of the class bound to the state that it is data of. -/
structure Typed (table : Table) (moment : Moment) : Prop where
  /-- The data in the slot is, if there is any. -/
  slot : moment.doing.slot.data.isNull = false →
    table.Classed moment.doing.slot.tag moment.doing.slot.data
  /-- The data of the open request is of the class of its state. -/
  requests : ∀ request slot resume, moment.doing = .ask request slot resume →
    ∀ tag data, request.owner? = some (tag, data) → table.Classed tag data
  /-- The data that a stop returns is, and it comes with that class. -/
  stopped : ∀ snapshot slot, moment.call = .stop →
    moment.doing = .done (.ok (.snapshot snapshot)) slot →
      snapshot.data.isA snapshot.kind = true ∧
        ∃ block, table.block? snapshot.tag = some block ∧ snapshot.kind = block.kind

/-- The dialogue has come to its end, and what it made was of the wrong class. -/
def Refused {α : Type} (dialogue : Dialogue α) : Prop :=
  ∃ failure slot, dialogue = .done (.error failure) slot ∧ failure.Mismatch

/-- The results of conversions are checked, and calls are rejected for no other reason of this kind.
    -/
structure Screens (table : Table) : Prop where
  /-- No call is rejected for that before its first request. -/
  begins : ∀ (call : Call) channels slot, table.Knows slot.tag →
    ¬ Refused (call.operation table channels slot)
  /-- A call is rejected for that at once if the answer is a result of a conversion of the wrong
      class, and upon no other answer. -/
  answers : ∀ allows call request slot resume waiting,
    table.Lives allows ⟨call, .ask request slot resume, waiting⟩ → ∀ answer,
      Refused (resume answer slot) ↔ table.Misfit (request, answer)
  /-- So a call is rejected for that if and only if its last answer is such, and such an answer is
      the last: the result is not passed to `consume_error`, and is not entered. -/
  ends : ∀ slot (event : Event) final, table.Reachable slot → event.Occurs table slot final →
    ((∃ failure, event.outcome = .error failure ∧ failure.Mismatch) ↔
      ∃ before asked, event.course = before ++ [asked] ∧ table.Misfit asked) ∧
    ∀ before asked after, event.course = before ++ asked :: after → table.Misfit asked → after = []

theorem typed_of_lives (sound : table.Sound) (checks : table.checkTypes = true) {moment : Moment}
    (lives : table.Lives Request.Permits moment) : table.Typed moment := by
  obtain ⟨past, secure⟩ := lives.secure (Regime.ofTypes_abides sound checks)
  have sorted : table.Sorted moment.doing.slot := secure.steady
  refine ⟨sorted.classed, fun request slot resume asks tag data owned => ?_,
    fun snapshot slot stops ends => ?_⟩
  · exact (secure.asks asks).2 tag data owned
  · obtain ⟨⟨block, known, fits⟩, other, found, same⟩ := (secure.returns ends).2 snapshot stops rfl
    cases known.symm.trans found
    exact ⟨same ▸ fits, block, known, same⟩

section

variable (sound : table.Sound) (checks : table.checkTypes = true)
include sound

theorem begins_unrefused {call : Call} {channels : Option Channels} {slot : Slot}
    (known : table.Knows slot.tag) : ¬ Refused (call.operation table channels slot) := by
  rintro ⟨failure, final, ends, mismatch⟩
  have secure := (Regime.ofTags sound.confines).performs sound call channels ⟨rfl, known⟩
  rw [ends] at secure
  obtain ⟨-, ⟨before, last, split, -, -⟩ | ⟨-, error, rfl, declines⟩⟩ := secure
  · simp at split
  · exact not_mismatch_of_declines declines mismatch

include checks

omit sound in
/-- A secure dialogue is refused exactly upon a misfit. -/
theorem refused_iff {α : Type} {regime : Regime table} {after : α → Assertion}
    {failed : Failure → Assertion} {past : Course} {request : Request} {slot : Slot}
    {resume : Answer → Slot → Dialogue α}
    (secure : (Dialogue.ask request slot resume).Secure regime.terms after failed past)
    (returned : ∀ a past slot, after a past slot → table.Unharmed past)
    (fallen : ∀ failure past slot, failed failure past slot → table.Blamed failure past)
    (answer : Answer) :
    Refused (resume answer slot) ↔ table.Misfit (request, answer) := by
  have placed := secure.2.1.2
  constructor
  · rintro ⟨failure, final, same, mismatch⟩
    have ends := secure.2.2 answer slot (regime.still request slot)
    rw [same] at ends
    rcases fallen _ _ _ ends with ⟨before, last, split, -, faulty⟩ | ⟨-, error, rfl, declines⟩
    · obtain ⟨-, rfl⟩ := List.append_inj' split rfl |>.imp_right List.singleton_inj.mp
      exact misfit_of_fault faulty mismatch
    · exact absurd mismatch (not_mismatch_of_declines declines)
  · intro misfit
    obtain ⟨failure, faulty, mismatch⟩ :=
      misfit.fault checks fun tag data owned => regime.known_place (placed tag data owned)
    obtain ⟨final, ended⟩ := Regime.ends_of_fault secure returned fallen faulty
    exact ⟨failure, final, ended, mismatch⟩

theorem misfit_ends {slot final : Slot} (known : table.Knows slot.tag) {call : Call}
    {channels : Option Channels} {outcome : Except Failure Reply} {before after : Course}
    {asked : Request × Answer}
    (plays : Plays (call.operation table channels slot) (before ++ asked :: after) outcome final)
    (misfit : table.Misfit asked) :
    after = [] ∧ ∃ failure, outcome = .error failure ∧ failure.Mismatch := by
  obtain ⟨failure, faulty, mismatch⟩ :=
    misfit.fault checks fun _ _ owned => knows_owner sound known plays owned
  obtain ⟨rfl, rfl⟩ := fault_ends sound known plays faulty
  exact ⟨rfl, failure, rfl, mismatch⟩

theorem screens : table.Screens := by
  refine ⟨fun call channels slot known => begins_unrefused sound known,
    fun allows call request slot resume waiting lives answer => ?_,
    fun slot event final reachable occurs => ?_⟩
  · obtain ⟨past, secure⟩ := lives.secure (Regime.ofTags_abides sound sound.confines allows)
    exact refused_iff checks secure (fun _ _ _ ended => ended.1.2.1) (fun _ _ _ ended => ended.1.2)
      answer
  · obtain ⟨_, _, _, created, history⟩ := reachable
    have known := (history.condition sound created).knows sound
    refine ⟨⟨fun ⟨failure, failed, mismatch⟩ => ?_, fun ⟨before, asked, split, misfit⟩ => ?_⟩,
      fun before asked after split misfit => ?_⟩
    · rcases (Regime.blame sound known occurs).2 failure failed with
        ⟨before, last, split, -, faulty⟩ | ⟨-, error, rfl, declines⟩
      · exact ⟨before, last, split, misfit_of_fault faulty mismatch⟩
      · exact absurd mismatch (not_mismatch_of_declines declines)
    · unfold Event.Occurs at occurs
      rw [split] at occurs
      exact (misfit_ends sound checks known occurs misfit).2
    · unfold Event.Occurs at occurs
      rw [split] at occurs
      exact (misfit_ends sound checks known occurs misfit).1

end

/-- With type checks, at every moment of every run in which `stop` and `reset` are not called from
    within an operation on data, the data in the slot and the data of the request is of the class
    bound to its state. In every run, a conversion is rejected if and only if its result is of
    another class. -/
theorem data_typed_and_conversions_screened (compiled : table.Compiled)
    (checks : table.checkTypes = true) :
    (∀ moment, table.Lives Request.Permits moment → table.Typed moment) ∧ table.Screens :=
  ⟨fun _ => typed_of_lives compiled.sound checks, screens compiled.sound checks⟩

/-- The lamp takes its first step, but what it is switched into is off. -/
def misswitching : Event :=
  ⟨.step, none,
    [(.hook .entry Lamp.offBlock.tag true (.object 0 Lamp.off), .ok .null),
     (.report false (traceLine "Lamp" "Enter" "Off"), .ok .null),
     (.report false (traceLine "Lamp" "Execute" "Off"), .ok .null),
     (.hook .execute Lamp.offBlock.tag true (.object 0 Lamp.off), .ok .null),
     (.guard Lamp.switch (.object 0 Lamp.off), .ok (.bool true)),
     (.hook .exit Lamp.offBlock.tag true (.object 0 Lamp.off), .ok .null),
     (.action Lamp.switch (.object 0 Lamp.off), .ok .null),
     (.report false (traceLine "Lamp" "Exit" "Off"), .ok .null),
     (.report false (traceLine "Lamp" "Transit" "From Off to On"), .ok .null),
     (.convert Lamp.switch (.object 0 Lamp.off), .ok (.object 1 Lamp.off))],
    .error (.error (.wrongConversion "Lamp" "On" "Off" "On"))⟩

/-- A step of a lamp that was created with data of `Off`, and one whose conversion returns data of
    another class. -/
theorem data_typed_and_conversions_screened_lamp :
    Lamp.plain.Typed ⟨.step,
        Call.operation Lamp.plain none .step (.seeded Lamp.plain (.object 0 Lamp.off)), []⟩ ∧
      ∃ failure, misswitching.outcome = .error failure ∧ failure.Mismatch := by
  have created : Lamp.plain.create (.object 0 Lamp.off) =
      .ok (.seeded Lamp.plain (.object 0 Lamp.off)) := rfl
  have occurs : misswitching.Occurs Lamp.plain (.seeded Lamp.plain (.object 0 Lamp.off))
      (.halted Lamp.offBlock.tag) :=
    .ask (.ask (.ask (.ask (.ask (.ask (.ask (.ask (.ask (.ask (.done _ _))))))))))
  have misfit : Lamp.plain.Misfit
      (.convert Lamp.switch (.object 0 Lamp.off), .ok (.object 1 Lamp.off)) :=
    ⟨Lamp.onBlock, .object 1 Lamp.off, rfl, rfl, rfl⟩
  have law := data_typed_and_conversions_screened Lamp.plain_compiled rfl
  exact ⟨law.1 _ (.begun .step none created),
    (law.2.ends _ _ _ ⟨_, _, _, created, .nil⟩ occurs).1.mpr
      ⟨misswitching.course.dropLast, _, rfl, misfit⟩⟩

/-- The entry of `On` resets the machine, which then holds the data of `On` without running. It is
    started again with data of `Off` whose entry raises, and is left with the tag of `Off` and the
    data of `On`. -/
theorem data_mistyped_after_reset :
    Lamp.plain.Compiled ∧ Lamp.plain.checkTypes = true ∧
      ∃ moment, Lamp.plain.Lives (fun _ _ => True) moment ∧ moment.waiting = [] ∧
        moment.doing = .done (.error (.raised (.object 3 Lamp.fault)))
          ⟨Lamp.offBlock.tag, .object 1 Lamp.on, true, false⟩ ∧
        ¬ Lamp.plain.Typed moment := by
  have created : Lamp.plain.create .null = .ok (.fresh Lamp.plain) := rfl
  have starting : Plays
      (Call.operation Lamp.plain none (.start (.object 0 Lamp.off)) (.fresh Lamp.plain))
      [(.hook .entry Lamp.offBlock.tag true (.object 0 Lamp.off), .ok .null),
       (Lamp.plain.startLine, .ok .null)]
      (.ok .nothing) (.holding ⟨Lamp.offBlock.tag, .object 0 Lamp.off⟩) :=
    .ask (.ask (.done _ _))
  have started : Lamp.plain.Lives (fun _ _ => True) _ := (Lives.begun _ _ created).plays starting
  -- the lamp is executed, asked, left, and made into one that is on, which is called upon to enter
  have entering : Lamp.plain.Lives (fun _ _ => True) _ :=
    .answered (.ok (.object 1 Lamp.on)) <| .answered (.ok .null) <| .answered (.ok .null) <|
      .answered (.ok .null) <| .answered (.ok .null) <| .answered (.ok (.bool true)) <|
        .answered (.ok .null) <| .answered (.ok .null) <| .called .step none started
  have switched : Lamp.plain.Lives (fun _ _ => True) _ :=
    .answered (.ok .null) <| .answered (.ok .null) <| .returned <| .nested .reset none trivial entering
  have failed : Lamp.plain.Lives (fun _ _ => True) _ :=
    .answered (.error (.object 3 Lamp.fault)) <| .called (.start (.object 2 Lamp.off)) none switched
  refine ⟨Lamp.plain_compiled, rfl, _, failed, rfl, rfl, fun typed => ?_⟩
  obtain ⟨block, known, fits⟩ := typed.slot rfl
  cases known
  cases fits

end Table

end MachineSpec
