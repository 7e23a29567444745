/-
MachineSpec.Proofs.Seeding — creating a machine with data defers its start.

A machine can be created with data. It runs at once, and the entry of the data is deferred
to the first `step`, `stop` or message. `Table.create_defers_start` compares this with a
`start` with the same data followed by the same call: both make the same requests in the
same order and end with the same outcome and slot.

They differ in one line of the trace. `start` reports the line `Start` after the entry, and
a deferred entry reports `Enter`, or nothing if the entry was redirected (`Told`). So the
two can be told apart by a trace sink that raises on one of these lines; the comparison
covers all runs of the created machine in which the sink does not raise there.

* `Table.create_differs_from_start`: a sink that raises on `Enter`.

A step is not made in addition if the deferred entry was redirected: that entry is the step.
-/
import MachineSpec.Proofs.Lockstep

namespace MachineSpec

/-! ## 1. What is left of a course -/

namespace Dialogue

variable {α β : Type}

/-- Behind a course that ended with a result the sequel begins. -/
theorem plays_behind_iff {dialogue : Dialogue β} {asked : Course} {b : β} {middle : Slot}
    (plays : Plays dialogue asked (.ok b) middle) {next : β → Operation α} {rest : Course}
    {outcome : Except Failure α} {final : Slot} :
    Plays (dialogue.andThen next) (asked ++ rest) outcome final ↔
      Plays (next b middle) rest outcome final := by
  generalize result : Except.ok b = ended at plays
  induction plays with
  | done outcome slot =>
    cases result
    exact Iff.rfl
  | @ask request slot resume answer course _ _ _ ih =>
    rw [← ih result]
    constructor
    · intro goes
      cases goes with
      | ask goes => exact goes
    · exact fun goes => .ask goes

end Dialogue

/-- The event, with something asked before. -/
def Event.after (event : Event) (asked : Course) : Event :=
  { event with course := asked ++ event.course }

theorem Event.after_append {event : Event} {first second : Course} :
    event.after (first ++ second) = (event.after second).after first := by
  simp [after]

namespace Table

open Operation Dialogue

variable {table : Table} {given : Value} {slot final ready : Slot} {course : Course}

theorem trail_cons_iff {event : Event} {later : List (Event × Slot)} :
    table.Trail slot ((event, final) :: later) ↔
      event.Occurs table slot final ∧ table.Trail final later := by
  constructor
  · intro trail
    cases trail with
    | cons occurs rest => exact ⟨occurs, rest⟩
  · exact fun ⟨occurs, rest⟩ => .cons occurs rest

/-! ## 2. The entry -/

/-- An entry leads elsewhere if the data fails, and nowhere else if it does not. -/
theorem callHook_elsewhere (sound : table.Sound) {block : Block} (mem : block ∈ table.blocks)
    {stage : Stage} {data : Value} {entry : Entry}
    (plays : Plays (table.callHook block stage data slot) course (.ok (some entry)) final) :
    entry.tag ≠ block.tag := by
  cases failure : table.failure with
  | none =>
    unfold callHook call at plays
    rw [failure] at plays
    rcases plays_bind_iff.mp plays with ⟨_, _, _, _, _, ends, _⟩ | ⟨_, _, same⟩
    · obtain ⟨-, same, -⟩ := plays_done_iff.mp ends
      cases same
    · cases same
  | some route =>
    rcases call_cases failure rfl plays with
      ⟨-, nothing⟩ | ⟨error, after, result, -, takes, redirects, same⟩
    · cases nothing _ rfl
    · cases result with
      | error failure => cases same
      | ok made =>
        cases same
        intro here
        exact takes.other (here.symm.trans (redirect_tag sound failure mem takes redirects))

theorem Sound.initial_state (sound : table.Sound) {block : Block}
    (initial : table.block? table.machine.initial.tag = some block) :
    block.state = table.machine.initial := by
  have mem := sound.closed.initial
  rw [← sound.states] at mem
  obtain ⟨other, mem, same⟩ := List.mem_map.mp mem
  have found := sound.block?_of_tag mem
  rw [Block.tag, same, initial] at found
  cases found
  exact same

/-- The line that reports the entry into the initial state. -/
def enterLine (table : Table) : Request :=
  .report table.flags.life (traceLine table.name "Enter" table.machine.initial.text)

/-- What the trace is told once the entry has led to a slot. -/
inductive Told (table : Table) (ready : Slot) : Course → Prop where
  | entered (value : Value) (here : ready.tag = table.machine.initial.tag) :
      Told table ready [(table.enterLine, .ok value)]
  | redirected (elsewhere : ready.tag ≠ table.machine.initial.tag) : Told table ready []

/-- The deferred entry reports `Enter`, and the sink raises on this line. -/
structure SinkRaises (table : Table) (ready final : Slot) (event : Event) (exception : Value) :
    Prop where
  here : ready.tag = table.machine.initial.tag
  course : event.course = [(table.enterLine, .error exception)]
  outcome : event.outcome = .error (.raised exception)
  final : final = .halted table.machine.initial.tag

/-- What is left of an entry once the data was called upon. -/
def entered (table : Table) (block : Block) (data : Value) (reported : Bool) :
    Option Entry → Operation Entry
  | some entry => return entry
  | none => do
    if reported then table.reportLife "Enter" block.state.text else pure ()
    return ⟨block.tag, data⟩

theorem enter_eq {block : Block} {data : Value} {reported : Bool} :
    table.enter block data reported =
      table.callHook block .entry data >>= table.entered block data reported := by
  refine congrArg (table.callHook block .entry data >>= ·) (funext fun result => ?_)
  cases result <;> rfl

/-- Data that was entered is put into the slot, and the call continues. -/
theorem settled_bind {entry : Entry} {block : Block} {tag : String} (same : block.tag = tag)
    {α : Type} {next : Bool → Operation α} :
    ((do settle entry; return entry.tag != block.tag : Operation Bool) >>= next) (.halted tag) =
      next (entry.tag != tag) (.holding entry) := by
  rw [bind_apply, bind_apply, settle_halted, andThen_ok, pure_apply, andThen_ok, same]

/-- An entry whose course is known from a start has the same course when it is deferred. The trace
    is written then, and the call continues where the start would have ended. -/
theorem enterPending_behind_iff (sound : table.Sound) (full : given.isNull = false) {block : Block}
    (initial : table.block? table.machine.initial.tag = some block) {asked : Course} {entry : Entry}
    (enters : Plays (table.enter block given false (.halted table.machine.initial.tag)) asked
      (.ok entry) (.halted table.machine.initial.tag))
    {α : Type} {next : Bool → Operation α} {rest : Course} {outcome : Except Failure α} :
    Plays ((table.enterPending >>= next) (.seeded table given)) (asked ++ rest) outcome final ↔
      (∃ told second, table.Told (.holding entry) told ∧ rest = told ++ second ∧
        Plays (next (entry.tag != table.machine.initial.tag) (.holding entry)) second outcome final) ∨
      entry.tag = table.machine.initial.tag ∧ ∃ exception,
        rest = [(table.enterLine, .error exception)] ∧ outcome = .error (.raised exception) ∧
        final = .halted table.machine.initial.tag := by
  have mem := mem_of_block? initial
  have tag := tag_of_block? initial
  rw [enter_eq] at enters
  rcases (callHook_keeps sound mem).cut enters with
    ⟨result, first, second, asks, -, ends, rfl⟩ | ⟨_, _, same, _⟩
  · rw [bind_apply, enterPending_seeded initial full, ← bind_apply, enter_eq, bind_assoc, bind_assoc,
      bind_apply, List.append_assoc, plays_behind_iff asks]
    cases result with
    | some led =>
      have elsewhere := callHook_elsewhere sound mem asks
      obtain ⟨rfl, same, -⟩ := plays_done_iff.mp ends
      cases same
      rw [tag] at elsewhere
      rw [List.nil_append, bind_apply, entered, pure_apply, andThen_ok, settled_bind tag]
      constructor
      · exact fun goes => .inl ⟨[], rest, .redirected elsewhere, rfl, goes⟩
      · rintro (⟨_, _, told, rfl, goes⟩ | ⟨here, -⟩)
        · cases told with
          | entered value here => exact absurd here elsewhere
          | redirected => exact goes
        · exact absurd here elsewhere
    | none =>
      obtain ⟨rfl, same, -⟩ := plays_done_iff.mp ends
      cases same
      have line : table.reportLife "Enter" block.state.text =
          (do let _ ← demand table.enterLine : Operation Unit) := by
        rw [sound.initial_state initial]
        rfl
      rw [List.nil_append, entered, if_pos rfl, line, bind_assoc, plays_tell_bind_iff]
      simp only [pure_bind, settled_bind tag]
      constructor
      · rintro (⟨value, second, rfl, goes⟩ | ⟨exception, rfl, rfl, rfl⟩)
        · exact .inl ⟨_, second, .entered value tag, rfl, goes⟩
        · exact .inr ⟨tag, exception, rfl, rfl, rfl⟩
      · rintro (⟨_, _, told, rfl, goes⟩ | ⟨-, raised⟩)
        · cases told with
          | entered value => exact .inl ⟨value, _, rfl, goes⟩
          | redirected elsewhere => exact absurd tag elsewhere
        · exact .inr raised
  · cases same

/-! ## 3. The first call -/

/-- The first call makes the deferred entry and continues. A message needs a channel, and a step
    does not continue if the entry was redirected. -/
structure GoesOn (table : Table) (ready : Slot) (event : Event) : Prop where
  enters : event.call.Enters
  equipped : event.channels ≠ none
  here : event.call = .step → ready.tag = table.machine.initial.tag

theorem GoesOn.after {event : Event} (goesOn : table.GoesOn ready event) (told : Course) :
    table.GoesOn ready (event.after told) :=
  ⟨goesOn.enters, goesOn.equipped, goesOn.here⟩

/-- Calls that make up for the entry do so first, and go on in the same way wherever it led. -/
theorem operation_enters {call : Call} (enters : call.Enters) (channels : Channels) :
    ∃ next : Bool → Operation Reply,
      call.operation table (some channels) = table.enterPending >>= next ∧
      (call ≠ .step → ∀ elsewhere, next elsewhere = next false) := by
  cases enters with
  | step => exact ⟨_, map_bind _ _ _, fun other => absurd rfl other⟩
  | stop =>
    refine ⟨_, map_bind _ _ _, fun _ _ => ?_⟩
    rfl
  | push =>
    refine ⟨_, (congrArg (_ <$> ·) push_some).trans (map_bind _ _ _), fun _ _ => ?_⟩
    rfl
  | poll =>
    refine ⟨_, (congrArg (_ <$> ·) poll_some).trans (map_bind _ _ _), fun _ _ => ?_⟩
    rfl

/-- The course of a first call is that of the entry, what the trace is told, and the course that the
    call has where the entry was made already. -/
theorem occurs_behind_iff (sound : table.Sound) (full : given.isNull = false) {block : Block}
    (initial : table.block? table.machine.initial.tag = some block) {asked : Course} {entry : Entry}
    (enters : Plays (table.enter block given false (.halted table.machine.initial.tag)) asked
      (.ok entry) (.halted table.machine.initial.tag))
    {event : Event} (goesOn : table.GoesOn (.holding entry) event) :
    (event.after asked).Occurs table (.seeded table given) final ↔
      (∃ told, ∃ rest : Event, table.Told (.holding entry) told ∧ event = rest.after told ∧
        rest.Occurs table (.holding entry) final) ∨
      ∃ exception, table.SinkRaises (.holding entry) final event exception := by
  obtain ⟨call, channels, course, outcome⟩ := event
  obtain ⟨makesUp, equipped, stays⟩ := goesOn
  obtain ⟨channels, rfl⟩ := Option.ne_none_iff_exists'.mp equipped
  obtain ⟨next, same, onward⟩ := @operation_enters table _ makesUp channels
  have onto : call.operation table (some channels) (.holding entry) =
      next (entry.tag != table.machine.initial.tag) (.holding entry) := by
    rw [same, enterPending_bind rfl]
    by_cases step : call = .step
    · rw [show entry.tag = table.machine.initial.tag from stays step, bne_self_eq_false]
    · rw [onward step (_ != _)]
  show Plays (call.operation table (some channels) (.seeded table given)) (asked ++ course) outcome
    final ↔ _
  rw [same, enterPending_behind_iff sound full initial enters, ← onto]
  constructor
  · rintro (⟨told, second, tells, rfl, goes⟩ | ⟨here, exception, rfl, rfl, rfl⟩)
    · exact .inl ⟨told, ⟨call, some channels, second, outcome⟩, tells, rfl, goes⟩
    · exact .inr ⟨exception, here, rfl, rfl, rfl⟩
  · rintro (⟨told, rest, tells, same, goes⟩ | ⟨exception, here, rfl, rfl, rfl⟩)
    · obtain ⟨_, _, second, _⟩ := rest
      cases same
      exact .inl ⟨told, second, tells, rfl, goes⟩
    · exact .inr ⟨here, exception, rfl, rfl, rfl⟩

/-! ## 4. Main theorem -/

/-- A machine that was created with data defers the entry, which has this course, and a start with
    the same data leads to this slot. -/
structure Defers (table : Table) (given : Value) (asked : Course) (ready : Slot) : Prop where
  /-- Its runs include those of the started machine. -/
  follows : ∀ event final later told, table.GoesOn ready event → table.Told ready told →
    table.Trail ready ((event, final) :: later) →
    table.Trail (.seeded table given) ((event.after (asked ++ told), final) :: later)
  /-- If the entry is answered as it was at the start, it has no other runs, unless the sink raises.
      -/
  leads : ∀ event final later, table.GoesOn ready event →
    table.Trail (.seeded table given) ((event.after asked, final) :: later) →
    (∃ told, ∃ rest : Event, table.Told ready told ∧ event = rest.after told ∧
      table.Trail ready ((rest, final) :: later)) ∨
    ∃ exception, table.SinkRaises ready final event exception

/-- If `start` succeeds on a new machine with some data, then the machine can also be created with
    this data. It makes no request until its first call, which makes the requests of the start and
    then proceeds as the call after the start does, with `Told` in place of the line `Start`. From
    then on the two machines do not differ. -/
theorem create_defers_start (compiled : table.Compiled) (full : given.isNull = false)
    {channels : Option Channels} {begun : Course}
    (starts : Event.Occurs ⟨.start given, channels, begun, .ok .nothing⟩ table (.fresh table) ready) :
    table.create given = .ok (.seeded table given) ∧
    ∃ asked value, begun = asked ++ [(table.startLine, .ok value)] ∧
      table.Defers given asked ready := by
  have sound := compiled.sound
  obtain ⟨result, plays, same⟩ := plays_map_iff.mp starts
  cases result with
  | error failure => cases same
  | ok _ =>
    obtain ⟨block, initial⟩ := sound.initial_block
    cases check : table.checkInitial given with
    | error error =>
      rw [start_refused check] at plays
      obtain ⟨-, same, -⟩ := plays_done_iff.mp plays
      cases same
    | ok _ =>
      rw [start_fresh initial check] at plays
      -- the start is cut behind the entry: what was asked until then is put off by the other machine
      rcases (enter_keeps sound (mem_of_block? initial)).cut plays with
        ⟨entry, asked, second, enters, -, rest, rfl⟩ | ⟨_, _, same, _⟩
      · rw [bind_apply, settle_halted, andThen_ok] at rest
        obtain ⟨result, reported, same⟩ := plays_map_iff.mp rest
        obtain ⟨answer, rfl, rfl, rfl⟩ := plays_demand_iff.mp reported
        cases answer with
        | error exception => cases same
        | ok value =>
          refine ⟨by simp [create, full, check, Slot.seeded], asked, value, rfl, ?_, ?_⟩
          · intro event final later told goesOn tells trail
            obtain ⟨occurs, onward⟩ := trail_cons_iff.mp trail
            refine trail_cons_iff.mpr ⟨?_, onward⟩
            rw [Event.after_append]
            exact (occurs_behind_iff sound full initial enters (goesOn.after told)).mpr
              (.inl ⟨told, event, tells, rfl, occurs⟩)
          · intro event final later goesOn trail
            obtain ⟨occurs, onward⟩ := trail_cons_iff.mp trail
            rcases (occurs_behind_iff sound full initial enters goesOn).mp occurs with
              ⟨told, rest, tells, rfl, goes⟩ | raises
            · exact .inl ⟨told, rest, tells, rfl, trail_cons_iff.mpr ⟨goes, onward⟩⟩
            · exact .inr raises
      · cases same

/-- The entry of the data fails. The lamp that was created with it goes to its error state at the
    stop. -/
theorem create_defers_start_fault :
    Value.isNull (.object 0 Lamp.off) = false ∧
      Lamp.fallible.Trail (.seeded Lamp.fallible (.object 0 Lamp.off))
        [(⟨.stop, some .empty,
          [(.hook .entry Lamp.offBlock.tag true (.object 0 Lamp.off), .error (.object 2 Lamp.fault)),
           (.report false (traceLine "Lamp" "Enter error state" ""), .ok .null),
           (.convertFailed Lamp.offBlock.tag Lamp.breaking (.object 0 Lamp.off),
            .ok (.object 1 Lamp.broken)),
           (.consume (.object 1 Lamp.broken) (.object 2 Lamp.fault), .ok .null),
           (.hook .entry Lamp.brokenBlock.tag true (.object 1 Lamp.broken), .ok .null),
           (Lamp.fallible.stopLine, .ok .null),
           (.hook .exit Lamp.brokenBlock.tag true (.object 1 Lamp.broken), .ok .null),
           (.report false (traceLine "Lamp" "Exit" "Broken"), .ok .null)],
          .ok (.snapshot ⟨Lamp.brokenBlock.tag, Lamp.broken, .object 1 Lamp.broken⟩)⟩,
          .fresh Lamp.fallible)] := by
  have starts : Event.Occurs ⟨.start (.object 0 Lamp.off), none,
      [(.hook .entry Lamp.offBlock.tag true (.object 0 Lamp.off), .error (.object 2 Lamp.fault)),
       (.report false (traceLine "Lamp" "Enter error state" ""), .ok .null),
       (.convertFailed Lamp.offBlock.tag Lamp.breaking (.object 0 Lamp.off),
        .ok (.object 1 Lamp.broken)),
       (.consume (.object 1 Lamp.broken) (.object 2 Lamp.fault), .ok .null),
       (.hook .entry Lamp.brokenBlock.tag true (.object 1 Lamp.broken), .ok .null)] ++
      [(Lamp.fallible.startLine, .ok .null)], .ok .nothing⟩ Lamp.fallible (.fresh Lamp.fallible)
      (.holding ⟨Lamp.brokenBlock.tag, .object 1 Lamp.broken⟩) :=
    .ask (.ask (.ask (.ask (.ask (.ask (.done _ _))))))
  have stops : Event.Occurs ⟨.stop, some .empty,
      [(Lamp.fallible.stopLine, .ok .null),
       (.hook .exit Lamp.brokenBlock.tag true (.object 1 Lamp.broken), .ok .null),
       (.report false (traceLine "Lamp" "Exit" "Broken"), .ok .null)],
      .ok (.snapshot ⟨Lamp.brokenBlock.tag, Lamp.broken, .object 1 Lamp.broken⟩)⟩ Lamp.fallible
      (.holding ⟨Lamp.brokenBlock.tag, .object 1 Lamp.broken⟩) (.fresh Lamp.fallible) :=
    .ask (.ask (.ask (.done _ _)))
  obtain ⟨-, asked, value, same, defers⟩ := create_defers_start Lamp.fallible_compiled rfl starts
  obtain ⟨rfl, -⟩ := List.append_inj' same rfl
  have elsewhere : Lamp.brokenBlock.tag ≠ Lamp.fallible.machine.initial.tag := by decide
  exact ⟨rfl, defers.follows _ _ [] [] ⟨.stop, Option.some_ne_none _, by rintro ⟨⟩⟩ (.redirected elsewhere)
    (.cons stops (.nil _))⟩

/-- The lamp whose life is traced. -/
def traced : Table := { Lamp.plain with flags := ⟨true, false, false⟩ }

/-- The trace sink raises on the line `Enter`, and every other request is answered with `null`. -/
def failsOnEnter : Request → Answer
  | .report true line =>
    if line = traceLine "Lamp" "Enter" "Off" then .error (.object 1 Class.exception) else .ok .null
  | _ => .ok .null

/-- With a sink that raises on `Enter`, the lamp starts and stops; if it is created with the same
    data, then `stop` fails. -/
theorem create_differs_from_start :
    traced.Compiled ∧
    Event.Occurs ⟨.start (.object 0 Lamp.off), some .empty,
      [.hook .entry Lamp.offBlock.tag true (.object 0 Lamp.off), traced.startLine].map
        (fun request => (request, failsOnEnter request)), .ok .nothing⟩
      traced (.fresh traced) (.holding ⟨Lamp.offBlock.tag, .object 0 Lamp.off⟩) ∧
    Event.Occurs ⟨.stop, some .empty,
      [traced.stopLine, .hook .exit Lamp.offBlock.tag true (.object 0 Lamp.off),
        .action Lamp.switch (.object 0 Lamp.off), .report true (traceLine "Lamp" "Exit" "Off")].map
        (fun request => (request, failsOnEnter request)),
      .ok (.snapshot ⟨Lamp.offBlock.tag, Lamp.off, .object 0 Lamp.off⟩)⟩
      traced (.holding ⟨Lamp.offBlock.tag, .object 0 Lamp.off⟩) (.fresh traced) ∧
    traced.create (.object 0 Lamp.off) = .ok (.seeded traced (.object 0 Lamp.off)) ∧
    Event.Occurs ⟨.stop, some .empty,
      [.hook .entry Lamp.offBlock.tag true (.object 0 Lamp.off), traced.enterLine].map
        (fun request => (request, failsOnEnter request)),
      .error (.raised (.object 1 Class.exception))⟩
      traced (.seeded traced (.object 0 Lamp.off)) (.halted Lamp.offBlock.tag) :=
  ⟨⟨Lamp.decl none, traced.machine, Lamp.bindings, traced.flags, true, rfl, rfl⟩,
    .ask (.ask (.done _ _)), .ask (.ask (.ask (.ask (.done _ _)))), rfl, .ask (.ask (.done _ _))⟩

end Table

end MachineSpec
