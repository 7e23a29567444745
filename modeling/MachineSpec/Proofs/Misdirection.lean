/-
MachineSpec.Proofs.Misdirection — calls with a target that is no state.

The caller of `isState`, `push` or `poll` may pass any text or class as a target. If it
designates no state, `isState` should fail with a binding error, and messages with one of
the two message errors, and the machine should not change.

A text that is no tag is read as a type name. If it cannot be read, the error of the parser
escapes from all three calls: `Stumbles`. All other targets are treated as documented:
`Honours`.

* `Table.unreadable_target_fails`: both cases, between and within the calls of any run, if
  no entry is pending.
* `Table.unreadable_target_error_undocumented`: the empty text as a target.
-/
import MachineSpec.Proofs.Pace
import MachineSpec.Proofs.Polling
import MachineSpec.Proofs.Regime

namespace MachineSpec

namespace Table

open Operation Dialogue Channels

variable {table : Table} {target payload : Designator} {message : Value} {slot : Slot}
  {channel : Channel} {data : Value}

/-! ## 1. Messages under way -/

/-- A message that has a channel is delivered once, whatever calls are made in the meantime. -/
theorem delivered_recites :
    ((fun _ => Reply.nothing) <$> table.delivered channel data message).Recites
      (table.Delivers channel data message) := by
  have told : ((fun _ => Reply.nothing) <$> table.delivered channel data message) =
      demand (table.pushLine channel) >>= fun _ =>
        demand (.deliver channel data message) >>= fun _ => pure .nothing := by
    simp [delivered, reportMessage, pushLine]
  rw [told]
  refine (Recites.demand_bind _ fun _ => .demand_bind _ fun _ => .pure).congr ?_
  intro course outcome
  constructor
  · rintro (⟨value, _ | exception⟩ | ⟨exception⟩)
    · exact .inr ⟨value, _, rfl, .inl ⟨_, rfl, rfl⟩⟩
    · exact .inr ⟨value, _, rfl, .inr ⟨exception, [], rfl, rfl, rfl⟩⟩
    · exact .inl ⟨exception, rfl, rfl⟩
  · rintro (⟨exception, rfl, rfl⟩ | ⟨value, _, rfl, ⟨exception, rfl, rfl⟩ | ⟨result, _, rfl, rfl, rfl⟩⟩)
    · exact .untold exception
    · exact .told value (.error exception)
    · exact .told value (.ok result)

/-- A message that has a channel is produced once, whatever calls are made in the meantime. -/
theorem fetched_recites : (Reply.message <$> table.fetched channel data).Recites
    (table.Fetches channel data) := by
  have asked : (Reply.message <$> table.fetched channel data) =
      demand (.produce channel data) >>= fun message =>
        if message.isNull then pure (.message message)
        else do
          let _ ← demand (table.pollLine channel)
          return .message message := by
    simp only [fetched, reportMessage, map_bind]
    congr 1
    funext message
    split <;> simp [pollLine]
  rw [asked]
  refine (Recites.demand_bind
    (fun message => if message.isNull then Returns (.message message)
      else Behind [table.pollLine channel] (Returns (.message message))) fun message => ?_).congr ?_
  · split
    · exact .pure
    · exact .tell
  intro course outcome
  constructor
  · rintro (_ | ⟨message, answer, some⟩ | ⟨exception⟩)
    · exact .inr ⟨.null, [], rfl, rfl, rfl⟩
    · refine .inr ⟨message, _, rfl, ?_⟩
      rw [some, if_neg (by decide), behind_cons_iff]
      cases answer with
      | ok result => exact .inr ⟨result, [], rfl, behind_nil_iff.mpr ⟨rfl, rfl⟩⟩
      | error exception => exact .inl ⟨exception, rfl, rfl⟩
    · exact .inl ⟨exception, rfl, rfl⟩
  · rintro (⟨exception, rfl, rfl⟩ | ⟨message, after, rfl, goes⟩)
    · exact .raised exception
    · cases null : message.isNull with
      | true =>
        rw [null, if_pos rfl] at goes
        obtain ⟨rfl, rfl⟩ := goes
        rw [Value.eq_null_of_isNull null]
        exact .nothing
      | false =>
        rw [null, if_neg (by decide), behind_cons_iff] at goes
        rcases goes with ⟨exception, rfl, rfl⟩ | ⟨result, _, rfl, ends⟩
        · exact .told message (.error exception) null
        · obtain ⟨rfl, rfl⟩ := behind_nil_iff.mp ends
          exact .told message (.ok result) null

/-! ## 2. Targets -/

/-- The target is a text that is no tag and cannot be read, and that is why. -/
def Unreadable (table : Table) (target : Designator) (why : ParseError) : Prop :=
  ∃ name, target = .text name ∧ ¬ table.Knows name ∧ Reference.ofText name = .error why

theorem tagsFor_unreadable {why : ParseError} (unreadable : table.Unreadable target why) :
    table.tagsFor target = .error (.rejected (.malformed why)) := by
  obtain ⟨name, rfl, unknown, malformed⟩ := unreadable
  simp [tagsFor, designated, block?_of_unknown unknown, malformed]

/-- Any other target points out states, or none. -/
theorem tagsFor_readable (readable : ∀ why, ¬ table.Unreadable target why) :
    (∃ tags, table.tagsFor target = .ok tags) ∨
      table.tagsFor target = .error (.notAState target table.name) := by
  rcases table.tagsFor_cases target with points | denied | ⟨name, why, rfl, malformed, unread⟩
  · exact .inl points
  · exact .inr denied
  · refine absurd ⟨name, rfl, fun known => ?_, malformed⟩ (readable why)
    rw [tagsFor_tag known] at unread
    cases unread

/-! ## 3. Channels -/

section

variable {channels : Channels} {direction : Direction} {rejected : Value}

/-- The channel is one of the active state, which is pointed out, and for the payload. -/
structure Conveys (table : Table) (has : Channel → Prop) (target payload : Designator) (slot : Slot)
    (channel : Channel) : Prop where
  points : table.Points target slot.tag
  here : has channel
  active : channel.tag = slot.tag
  suits : channel.Suits payload
  full : slot.data.isNull = false

/-- Such a channel is chosen, or the message is rejected. -/
theorem chosen_readable (known : table.Knows slot.tag)
    (readable : ∀ why, ¬ table.Unreadable target why) :
    (∃ channel, table.Conveys (· ∈ channels.along direction) target payload slot channel ∧
      table.chosen channels direction target payload rejected slot =
        .done (.ok (channel, slot.data)) slot) ∨
    ∃ error, TurnsDown target rejected error ∧
      table.chosen channels direction target payload rejected slot =
        .done (.error (.error error)) slot := by
  rcases tagsFor_readable readable with ⟨tags, points⟩ | denied
  · by_cases admits : ∃ channel, Admits channels direction tags payload slot channel
    · obtain ⟨channel, admits⟩ := admits
      obtain ⟨here, active, suits⟩ := suits_of_find admits.finds
      exact .inl ⟨channel, ⟨⟨tags, points, admits.aimed⟩, here, active, suits, admits.full⟩,
        chosen_admitted known points admits⟩
    · exact .inr (chosen_turned known rejected points fun channel admitted =>
        admits ⟨channel, admitted⟩)
  · exact .inr ⟨_, .undeclared rfl, chosen_denied denied⟩

theorem chosen_unreadable {why : ParseError} (unreadable : table.Unreadable target why) :
    table.chosen channels direction target payload rejected slot =
      .done (.error (.error (.rejected (.malformed why)))) slot := by
  simp [chosen, select, tagsFor_unreadable unreadable]

end

/-! ## 4. Main theorem -/

/-- The result of a message: it goes through a channel that carries it, with these courses whatever
    calls are made in the meantime; or it is rejected and the slot is unchanged. -/
inductive Dealt (table : Table) (call : Call) (channels : Option Channels) (direction : Direction)
    (target payload : Designator) (rejected : Value) (slot : Slot)
    (deals : Channel → Course → Except Failure Reply → Prop) : Prop where
  | served {declared : Channels} {channel : Channel} (some : channels = some declared)
      (conveys : table.Conveys (· ∈ declared.along direction) target payload slot channel)
      {operation : Operation Reply} (same : call.operation table channels slot = operation slot)
      (recites : operation.Recites (deals channel)) :
      Dealt table call channels direction target payload rejected slot deals
  | turned {error : Error} (why : TurnsDown target rejected error)
      (refused : call.operation table channels slot = .done (.error (.error error)) slot) :
      Dealt table call channels direction target payload rejected slot deals

/-- With this target all three calls fail with the error of the parser, and leave the slot as it
    was. -/
structure Stumbles (table : Table) (target : Designator) (why : ParseError) (slot : Slot) :
    Prop where
  looks : ∀ channels, (Call.isState target).operation table channels slot =
    .done (.error (.error (.rejected (.malformed why)))) slot
  pushes : ∀ channels message, (Call.push target message).operation table (some channels) slot =
    .done (.error (.error (.rejected (.malformed why)))) slot
  polls : ∀ channels payload, (Call.poll target payload).operation table (some channels) slot =
    .done (.error (.error (.rejected (.malformed why)))) slot

/-- With this target the calls do what they are documented to do: `isState` answers or fails with a
    binding error, and messages are delivered or rejected. -/
structure Honours (table : Table) (target : Designator) (slot : Slot) : Prop where
  looks : ∀ channels,
    (∃ truth, (Call.isState target).operation table channels slot = .done (.ok (.truth truth)) slot ∧
      (truth = true ↔ table.Points target slot.tag)) ∨
    (Call.isState target).operation table channels slot =
      .done (.error (.error (.notAState target table.name))) slot
  pushes : ∀ channels message, table.Dealt (.push target message) channels .push target
    (.cls message.kind) message slot fun channel => table.Delivers channel slot.data message
  polls : ∀ channels payload, table.Dealt (.poll target payload) channels .poll target payload
    .null slot fun channel => table.Fetches channel slot.data

section

variable (settled : slot.pending = false)
include settled

theorem push_settled {channels : Channels} :
    (Call.push target message).operation table (some channels) slot =
      (table.chosen channels .push target (.cls message.kind) message >>= fun choice =>
        (fun _ => Reply.nothing) <$> table.delivered choice.1 choice.2 message) slot := by
  rw [Call.operation, push_some, map_bind, enterPending_bind settled, pushed_eq, map_bind]

theorem poll_settled {channels : Channels} :
    (Call.poll target payload).operation table (some channels) slot =
      (table.chosen channels .poll target payload .null >>= fun choice =>
        Reply.message <$> table.fetched choice.1 choice.2) slot := by
  rw [Call.operation, poll_some, map_bind, enterPending_bind settled, polled_eq, map_bind]

theorem stumbles_of_unreadable {why : ParseError} (unreadable : table.Unreadable target why) :
    table.Stumbles target why slot where
  looks channels := by
    simp only [Call.operation, isState, tagsFor_unreadable unreadable]
    rfl
  pushes channels message := by
    rw [push_settled settled, bind_apply, chosen_unreadable unreadable, andThen_error]
  polls channels payload := by
    rw [poll_settled settled, bind_apply, chosen_unreadable unreadable, andThen_error]

omit settled in
/-- A message call chooses a channel and continues with it. -/
theorem dealt {call : Call} {direction : Direction} {rejected : Value}
    {next : Channel × Value → Operation Reply}
    {deals : Channel → Course → Except Failure Reply → Prop} (known : table.Knows slot.tag)
    (readable : ∀ why, ¬ table.Unreadable target why)
    (without : call.operation table none slot =
      .done (.error (.error (.noMessages table.name))) slot)
    (chooses : ∀ channels, call.operation table (some channels) slot =
      (table.chosen channels direction target payload rejected >>= next) slot)
    (goes : ∀ channel, (next (channel, slot.data)).Recites (deals channel))
    (channels : Option Channels) :
    table.Dealt call channels direction target payload rejected slot deals := by
  cases channels with
  | none => exact .turned (.undeclared rfl) without
  | some declared =>
    rcases chosen_readable known readable with ⟨channel, conveys, chosen⟩ | ⟨error, turns, turned⟩
    · refine .served rfl conveys ?_ (goes channel)
      rw [chooses, bind_apply, chosen, andThen_ok]
    · refine .turned turns ?_
      rw [chooses, bind_apply, turned, andThen_error]

theorem honours_of_readable (known : table.Knows slot.tag)
    (readable : ∀ why, ¬ table.Unreadable target why) : table.Honours target slot where
  looks channels := by
    rcases tagsFor_readable readable with ⟨tags, points⟩ | denied
    · refine .inl ⟨tags.contains slot.tag, (resolves_of_tagsFor points).looks channels slot, ?_⟩
      rw [List.contains_iff_mem, mem_of_points points]
    · exact .inr ((denies_of_tagsFor denied).looks channels slot)
  pushes channels message :=
    dealt known readable rfl (fun _ => push_settled settled) (fun _ => delivered_recites) channels
  polls channels payload :=
    dealt known readable rfl (fun _ => poll_settled settled) (fun _ => fetched_recites) channels

end

/-- At every moment of every run without a pending entry, calls with a target that cannot be read
    fail with the error of the parser, and calls with any other target do what they are documented
    to do. The slot does not change. -/
theorem unreadable_target_fails (compiled : table.Compiled) {allows : Request → Call → Prop}
    {moment : Moment} (lives : table.Lives allows moment)
    (settled : moment.doing.slot.pending = false) (target : Designator) :
    (∀ why, table.Unreadable target why → table.Stumbles target why moment.doing.slot) ∧
      ((∀ why, ¬ table.Unreadable target why) → table.Honours target moment.doing.slot) := by
  have sound := compiled.sound
  obtain ⟨past, secure⟩ := lives.secure (Regime.ofTags_abides sound sound.confines allows)
  exact ⟨fun why => stumbles_of_unreadable settled, honours_of_readable settled secure.steady⟩

/-! The lamp is off, and somebody asks for the state with no name. -/

theorem nameless : ∃ why, Reference.ofText "" = .error why := by
  have unread : (Reference.ofText "").toOption = none := by decide +kernel
  cases read : Reference.ofText "" with
  | error why => exact ⟨why, rfl⟩
  | ok reference =>
    rw [read] at unread
    cases unread

theorem nameless_unreadable : ∃ why, Lamp.plain.Unreadable (.text "") why := by
  obtain ⟨why, malformed⟩ := nameless
  exact ⟨why, "", rfl, by rintro ⟨_, ⟨⟩⟩, malformed⟩

theorem off_lives : Lamp.plain.Lives (fun _ _ => True)
    ⟨.start (.object 0 Lamp.off), .done (.ok .nothing) offSlot, []⟩ := by
  have created : Lamp.plain.create .null = .ok (.fresh Lamp.plain) := rfl
  have starts : Plays
      ((Call.start (.object 0 Lamp.off)).operation Lamp.plain none (.fresh Lamp.plain))
      [(.hook .entry Lamp.offBlock.tag true (.object 0 Lamp.off), .ok .null),
        (Lamp.plain.startLine, .ok .null)] (.ok .nothing) offSlot := .ask (.ask (.done _ _))
  exact (Lives.begun _ none created).plays starts

/-- The empty text, and the tag of a state. -/
theorem unreadable_target_fails_lamp :
    (∃ why, Lamp.plain.Stumbles (.text "") why offSlot) ∧
      Lamp.plain.Honours (.text Lamp.offBlock.tag) offSlot := by
  obtain ⟨why, unreadable⟩ := nameless_unreadable
  refine ⟨⟨why, (unreadable_target_fails Lamp.plain_compiled off_lives rfl _).1 why unreadable⟩,
    (unreadable_target_fails Lamp.plain_compiled off_lives rfl _).2 ?_⟩
  rintro why ⟨name, same, unknown, -⟩
  cases same
  exact unknown ⟨Lamp.offBlock, rfl⟩

/-- With the empty text as target, `isState` and `poll` fail with an error that is none of the
    documented ones. -/
theorem unreadable_target_error_undocumented :
    Lamp.plain.Compiled ∧ Lamp.plain.Reachable offSlot ∧ offSlot.pending = false ∧
    Channels.ofMessages tellBindings Lamp.plain ⟨"Lamp", [tellMessage]⟩ =
      .ok ⟨[], [tellChannel]⟩ ∧
    ∃ error : Error,
      Event.Occurs ⟨.isState (.text ""), some ⟨[], [tellChannel]⟩, [], .error (.error error)⟩
        Lamp.plain offSlot offSlot ∧
      error.kind.inherits .bindingError = false ∧
      Event.Occurs ⟨.poll (.text "") (.cls power), some ⟨[], [tellChannel]⟩, [],
        .error (.error error)⟩ Lamp.plain offSlot offSlot ∧
      error.kind.inherits .channelNotDeclaredError = false ∧
      error.kind.inherits .stateIsNotActiveError = false := by
  obtain ⟨why, unreadable⟩ := nameless_unreadable
  have stumbles : Lamp.plain.Stumbles (.text "") why offSlot := stumbles_of_unreadable rfl unreadable
  refine ⟨Lamp.plain_compiled, offSlot_reachable, rfl, rfl, .rejected (.malformed why), ?_,
    (by decide : Class.parseError.inherits .bindingError = false), ?_,
    (by decide : Class.parseError.inherits .channelNotDeclaredError = false),
    (by decide : Class.parseError.inherits .stateIsNotActiveError = false)⟩
  · rw [Event.Occurs, stumbles.looks]
    exact .done _ _
  · rw [Event.Occurs, stumbles.polls]
    exact .done _ _

end Table

end MachineSpec
