/-
MachineSpec.Proofs.Polling — polls are answered through the channel of the nearest class.

A push and a poll search for a channel in the same way: along the linearisation of the
class, the nearest first. For a push this is right, as the message is an instance of all
these classes. A poll for a class can thus be answered through the channel of a base class,
with a message that is no instance of the class (`Table.poll_answered_by_base_channel`).

`Table.poll_through_nearest_channel` states this with no other exception. Beside `Nearest`
it uses that a deferred entry calls no receiver or producer, because the data is out of the
slot then (`Withholds`).
-/
import MachineSpec.Proofs.Inactivity
import MachineSpec.Proofs.Reentry

namespace MachineSpec

/-! ## 1. Channels of the nearest class -/

namespace Channels

variable {has : Channel → Prop} {tag : String} {kind : Class} {channel : Channel}

/-- The channel of the nearest class is one for the payload. -/
theorem Nearest.serves (nearest : Nearest has tag kind channel) : Serves has (.cls kind) tag := by
  obtain ⟨before, layer, after, split, same, -⟩ := nearest.first
  refine ⟨channel, nearest.here, nearest.active, inherits_iff.mpr ⟨layer, ?_, same.symm⟩⟩
  simp [split]

end Channels

namespace Table

open Operation Dialogue Channels

variable {table : Table} {channels : Channels} {bindings : Bindings} {messages : Messages}
  {target : Designator} {kind : Class} {slot final : Slot} {course : Course}

/-- A designator points out states or none, or it is a text that cannot be read. -/
theorem tagsFor_cases (table : Table) (target : Designator) :
    (∃ tags, table.tagsFor target = .ok tags) ∨
      table.tagsFor target = .error (.notAState target table.name) ∨
      ∃ name why, target = .text name ∧ Reference.ofText name = .error why ∧
        table.tagsFor target = .error (.rejected (.malformed why)) := by
  cases target with
  | cls kind =>
    by_cases unbound : table.tagsOf kind = []
    · exact .inr (.inl (tagsFor_unbound unbound))
    · exact .inl ⟨_, tagsFor_cls unbound⟩
  | text name =>
    by_cases known : table.Knows name
    · exact .inl ⟨_, tagsFor_tag known⟩
    · cases read : Reference.ofText name with
      | error why =>
        refine .inr (.inr ⟨name, why, rfl, read, ?_⟩)
        simp [tagsFor, designated, block?_of_unknown known, read]
      | ok reference =>
        by_cases known' : table.Knows reference.tag
        · exact .inl ⟨_, tagsFor_read read known known'⟩
        · exact .inr (.inl (tagsFor_unread read known known'))

/-! ## 2. Polls -/

/-- No state that is pointed out has a channel for the payload. -/
def Unserved (table : Table) (has : Channel → Prop) (target payload : Designator) : Prop :=
  ∀ tag, table.Points target tag → ¬ Serves has payload tag

/-- The error says that no channel is declared, or that the text of the target cannot be read. -/
inductive Undeclares (target : Designator) : Error → Prop where
  | undeclared {error : Error} (kind : error.kind = .channelNotDeclaredError) :
      Undeclares target error
  | unreadable {name : String} {why : ParseError} (text : target = .text name)
      (malformed : Reference.ofText name = .error why) :
      Undeclares target (.rejected (.malformed why))

/-- The channel through which a message of the class is asked for: the active state is pointed out,
    and the channel is that of the nearest class, which is the class itself if it has one. -/
structure Supplies (table : Table) (has : Channel → Prop) (target : Designator) (kind : Class)
    (slot : Slot) (channel : Channel) : Prop where
  points : table.Points target slot.tag
  nearest : Nearest has slot.tag kind channel
  own : ∀ other, has other → other.tag = slot.tag → other.kind.same kind = true → other = channel

/-- A poll is answered through such a channel, or it is rejected without a request. -/
inductive Polls (table : Table) (has : Channel → Prop) (target : Designator) (kind : Class)
    (slot : Slot) : Course → Except Failure Reply → Prop where
  | fetched {channel : Channel} {course : Course} {outcome : Except Failure Reply}
      (supplies : table.Supplies has target kind slot channel)
      (fetches : table.Fetches channel slot.data course outcome) :
      Polls table has target kind slot course outcome
  | turned {error : Error} (why : table.Unserved has target (.cls kind) → Undeclares target error) :
      Polls table has target kind slot [] (.error (.error error))

section

variable (attached : Channels.ofMessages bindings table messages = .ok channels)
include attached

/-- That is when the search finds none. -/
theorem unserved_iff {direction : Direction} {payload : Designator} {tags : List String}
    (points : table.tagsFor target = .ok tags) :
    table.Unserved (Declared bindings messages.messages direction) target payload ↔
      ∀ tag ∈ tags, find (channels.along direction) tag payload = none := by
  have same : (· ∈ channels.along direction) = Declared bindings messages.messages direction :=
    funext fun _ => propext (along_iff attached)
  simp only [Unserved, find_eq_none_iff, same, mem_of_points points]

theorem polled_polls (known : table.Knows slot.tag) {result : Except Failure Value}
    (plays : Plays (table.polled channels target (.cls kind) slot) course result final) :
    final = slot ∧ table.Polls (Declared bindings messages.messages .poll) target kind slot course
      (result.map .message) := by
  rw [polled_eq, bind_apply] at plays
  rcases table.tagsFor_cases target with
    ⟨tags, points⟩ | denied | ⟨name, why, text, unread, denied⟩
  · by_cases admits : ∃ channel, Admits channels .poll tags (.cls kind) slot channel
    · obtain ⟨channel, admits⟩ := admits
      rw [chosen_admitted known points admits, andThen_ok] at plays
      obtain ⟨same, fetches⟩ := fetches_of_plays plays
      have nearest := (finds_iff attached).mp admits.finds
      refine ⟨same, .fetched ⟨⟨tags, points, admits.aimed⟩, nearest, fun other has here own => ?_⟩
        fetches⟩
      have finds := (finds_iff attached).mpr (nearest_of_own has here own)
      exact Option.some.inj (finds.symm.trans admits.finds)
    · by_cases unserved :
          table.Unserved (Declared bindings messages.messages .poll) target (.cls kind)
      · rw [chosen_undeclared points ((unserved_iff attached points).mp unserved),
          andThen_error] at plays
        obtain ⟨rfl, rfl, rfl⟩ := plays_done_iff.mp plays
        exact ⟨rfl, .turned fun _ => .undeclared rfl⟩
      · obtain ⟨error, -, turned⟩ := chosen_turned known .null points fun channel admitted =>
          admits ⟨channel, admitted⟩
        rw [turned, andThen_error] at plays
        obtain ⟨rfl, rfl, rfl⟩ := plays_done_iff.mp plays
        exact ⟨rfl, .turned fun contrary => absurd contrary unserved⟩
  · rw [chosen_denied denied, andThen_error] at plays
    obtain ⟨rfl, rfl, rfl⟩ := plays_done_iff.mp plays
    exact ⟨rfl, .turned fun _ => .undeclared rfl⟩
  · have chosen : table.chosen channels .poll target (.cls kind) .null slot =
        .done (.error (.error (.rejected (.malformed why)))) slot := by
      simp [Table.chosen, select, denied]
    rw [chosen, andThen_error] at plays
    obtain ⟨rfl, rfl, rfl⟩ := plays_done_iff.mp plays
    exact ⟨rfl, .turned fun _ => .unreadable text unread⟩

end

/-- Without a channel for the class or a class that it extends, a poll is rejected. -/
theorem Polls.of_unserved {has : Channel → Prop} {outcome : Except Failure Reply}
    (polls : table.Polls has target kind slot course outcome)
    (unserved : table.Unserved has target (.cls kind)) :
    course = [] ∧ ∃ error, Undeclares target error ∧ outcome = .error (.error error) := by
  cases polls with
  | fetched supplies => exact absurd supplies.nearest.serves (unserved _ supplies.points)
  | turned why => exact ⟨rfl, _, why unserved, rfl⟩

/-! ## 3. Pending entries -/

/-- A deferred entry makes no request for a message, and leads to one of the states. -/
theorem enterPending_entered (sound : table.Sound) {given : Value}
    (condition : table.Condition given slot) {outcome : Except Failure Bool}
    (plays : Plays (table.enterPending slot) course outcome final) :
    (∀ asked ∈ course, asked.1.isMessage = false) ∧ table.Knows final.tag := by
  rw [← bind_pure table.enterPending] at plays
  cases pending : slot.pending with
  | false =>
    rw [enterPending_bind pending] at plays
    obtain ⟨rfl, -, rfl⟩ := plays_done_iff.mp plays
    exact ⟨List.forall_mem_nil _, condition.knows sound⟩
  | true =>
    cases condition with
    | seeded block initial full =>
      have halted := Slot.halted_halted table.machine.initial.tag
      rcases enterPending_cut sound initial full plays with
        ⟨failure, enters, rfl, rfl⟩ | ⟨entry, first, second, enters, known, ends, rfl⟩
      · exact ⟨((enter_withholds halted).plays enters).2, block, initial⟩
      · obtain ⟨rfl, -, rfl⟩ := plays_done_iff.mp ends
        rw [List.append_nil]
        exact ⟨((enter_withholds halted).plays enters).2, known⟩
    | _ => cases pending

/-! ## 4. Main theorem -/

/-- The result of a poll: a pending entry is made first, and if it fails, so does the poll. -/
inductive Limited (table : Table) (has : Channel → Prop) (target : Designator) (kind : Class)
    (slot : Slot) : Course → Except Failure Reply → Slot → Prop where
  | failed {course : Course} {failure : Failure} {final : Slot}
      (entry : Plays (table.enterPending slot) course (.error failure) final)
      (silent : ∀ asked ∈ course, asked.1.isMessage = false) :
      Limited table has target kind slot course (.error failure) final
  | polled {first rest : Course} {elsewhere : Bool} {outcome : Except Failure Reply} {final : Slot}
      (entry : Plays (table.enterPending slot) first (.ok elsewhere) final)
      (silent : ∀ asked ∈ first, asked.1.isMessage = false)
      (polls : table.Polls has target kind final rest outcome) :
      Limited table has target kind slot (first ++ rest) outcome final

theorem limited_of_occurs (compiled : table.Compiled)
    (attached : Channels.ofMessages bindings table messages = .ok channels)
    (reachable : table.Reachable slot) {outcome : Except Failure Reply}
    (occurs : Event.Occurs ⟨.poll target (.cls kind), some channels, course, outcome⟩ table slot
      final) :
    table.Limited (Declared bindings messages.messages .poll) target kind slot course outcome
      final := by
  have sound := compiled.sound
  obtain ⟨given, initial, events, created, history⟩ := reachable
  have condition := history.condition sound created
  obtain ⟨result, plays, rfl⟩ := plays_map_iff.mp occurs
  rw [poll_some] at plays
  rcases plays_bind_iff.mp plays with
    ⟨elsewhere, middle, first, rest, entered, polled, rfl⟩ | ⟨failure, failed, rfl⟩
  · obtain ⟨silent, known⟩ := enterPending_entered sound condition entered
    obtain ⟨rfl, polls⟩ := polled_polls attached known polled
    exact .polled entered silent polls
  · exact .failed failed (enterPending_entered sound condition failed).1

/-- Without a channel for the class or a class that it extends, no producer is called. -/
theorem Limited.of_unserved {has : Channel → Prop} {outcome : Except Failure Reply}
    (limited : table.Limited has target kind slot course outcome final)
    (unserved : table.Unserved has target (.cls kind)) :
    (∀ asked ∈ course, asked.1.isMessage = false) ∧
      ((∃ failure, Plays (table.enterPending slot) course (.error failure) final ∧
          outcome = .error failure) ∨
        ∃ error, Undeclares target error ∧ outcome = .error (.error error)) := by
  cases limited with
  | failed entry silent => exact ⟨silent, .inl ⟨_, entry, rfl⟩⟩
  | polled entry silent polls =>
    obtain ⟨rfl, refused⟩ := polls.of_unserved unserved
    rw [List.append_nil]
    exact ⟨silent, .inr refused⟩

/-- A message that is returned is the answer of a producer. -/
theorem Limited.supplied {has : Channel → Prop} {message : Value}
    (limited : table.Limited has target kind slot course (.ok (.message message)) final)
    (some : message.isNull = false) :
    ∃ channel, table.Supplies has target kind final channel ∧
      (.produce channel final.data, .ok message) ∈ course := by
  generalize answered : Except.ok (Reply.message message) = outcome at limited
  cases limited with
  | failed => cases answered
  | polled entry silent polls =>
    cases polls with
    | turned => cases answered
    | @fetched channel _ _ supplies fetches =>
      refine ⟨channel, supplies, List.mem_append_right _ ?_⟩
      cases fetches with
      | nothing =>
        cases answered
        cases some
      | told given answer =>
        cases answer with
        | ok value =>
          cases answered
          exact .head _
        | error exception => cases answered
      | raised => cases answered

/-- A poll for a class calls no producer but that of a channel of the active state, which has to be
    designated, for the nearest class; a message that is returned comes from it. If no designated
    state has a channel for the class or for a class that it extends, no producer is called, and the
    poll fails as undeclared, unless a pending entry fails before. -/
theorem poll_through_nearest_channel (compiled : table.Compiled)
    (attached : Channels.ofMessages bindings table messages = .ok channels)
    (reachable : table.Reachable slot) {outcome : Except Failure Reply}
    (occurs : Event.Occurs ⟨.poll target (.cls kind), some channels, course, outcome⟩ table slot
      final) :
    table.Limited (Declared bindings messages.messages .poll) target kind slot course outcome
      final ∧
    (table.Unserved (Declared bindings messages.messages .poll) target (.cls kind) →
      (∀ asked ∈ course, asked.1.isMessage = false) ∧
        ((∃ failure, Plays (table.enterPending slot) course (.error failure) final ∧
            outcome = .error failure) ∨
          ∃ error, Undeclares target error ∧ outcome = .error (.error error))) ∧
    ∀ message, outcome = .ok (.message message) → message.isNull = false →
      ∃ channel, table.Supplies (Declared bindings messages.messages .poll) target kind final
          channel ∧ (.produce channel final.data, .ok message) ∈ course := by
  have limited := limited_of_occurs compiled attached reachable occurs
  refine ⟨limited, limited.of_unserved, ?_⟩
  rintro message rfl some
  exact limited.supplied some

/-! The lamp that is off tells of its power. -/

def tellMessage : Message := ⟨Lamp.state "Power", .poll, Lamp.state "Off", Lamp.span⟩

def tellBindings : Bindings :=
  { Bindings.empty [("Power", .cls power)] with
    producers := [(((Lamp.state "Off").tag, "Power"), .routine 0)] }

def tellChannel : Channel := ⟨tellMessage, power, .callback (.routine 0)⟩

def offSlot : Slot := .holding ⟨Lamp.offBlock.tag, .object 0 Lamp.off⟩

theorem offSlot_reachable : Lamp.plain.Reachable offSlot := by
  have created : Lamp.plain.create .null = .ok (.fresh Lamp.plain) := rfl
  have starts : Event.Occurs ⟨.start (.object 0 Lamp.off), none,
      [(.hook .entry Lamp.offBlock.tag true (.object 0 Lamp.off), .ok .null),
       (Lamp.plain.startLine, .ok .null)], .ok .nothing⟩ Lamp.plain (.fresh Lamp.plain) offSlot :=
    .ask (.ask (.done _ _))
  exact ⟨_, _, _, created, .snoc .nil starts⟩

/-- What is declared is that one channel. -/
theorem kind_of_declared {channel : Channel}
    (declared : Declared tellBindings [tellMessage] .poll channel) : channel.kind = power := by
  obtain ⟨message, kind, courier⟩ := channel
  obtain rfl : message = tellMessage := List.mem_singleton.mp declared.message
  have known : tellBindings.resolveClass .payload tellMessage.payload.type = .ok power := rfl
  exact (Except.ok.inj (known.symm.trans declared.kind)).symm

/-- A poll for `Power` calls the producer; a poll for `object` is undeclared. -/
theorem poll_through_nearest_channel_lamp :
    (∃ channel, Lamp.plain.Supplies (Declared tellBindings [tellMessage] .poll)
        (.text Lamp.offBlock.tag) power offSlot channel ∧
      (Request.produce channel (.object 0 Lamp.off), Except.ok (.object 1 power)) ∈
        [(Request.produce tellChannel (.object 0 Lamp.off), (.ok (.object 1 power) : Answer)),
          (Lamp.plain.pollLine tellChannel, .ok .null)]) ∧
    ∃ error, Undeclares (.text Lamp.offBlock.tag) error ∧
      (Except.error (.error (.noChannel "Lamp" .poll "object" "OffState")) : Except Failure Reply) =
        .error (.error error) := by
  have attached : Channels.ofMessages tellBindings Lamp.plain ⟨"Lamp", [tellMessage]⟩ =
      .ok ⟨[], [tellChannel]⟩ := rfl
  have answered : Event.Occurs ⟨.poll (.text Lamp.offBlock.tag) (.cls power),
      some ⟨[], [tellChannel]⟩,
      [(.produce tellChannel (.object 0 Lamp.off), .ok (.object 1 power)),
        (Lamp.plain.pollLine tellChannel, .ok .null)], .ok (.message (.object 1 power))⟩
      Lamp.plain offSlot offSlot := .ask (.ask (.done _ _))
  have refused : Event.Occurs ⟨.poll (.text Lamp.offBlock.tag) (.cls .object),
      some ⟨[], [tellChannel]⟩, [], .error (.error (.noChannel "Lamp" .poll "object" "OffState"))⟩
      Lamp.plain offSlot offSlot := .done _ _
  have unserved : Lamp.plain.Unserved (Declared tellBindings [tellMessage] .poll)
      (.text Lamp.offBlock.tag) (.cls .object) := by
    rintro tag - ⟨channel, declared, -, suits⟩
    rw [Channel.Suits, kind_of_declared declared] at suits
    exact absurd suits (by decide)
  obtain ⟨-, -, supplied⟩ :=
    poll_through_nearest_channel Lamp.plain_compiled attached offSlot_reachable answered
  obtain ⟨-, silent, -⟩ :=
    poll_through_nearest_channel Lamp.plain_compiled attached offSlot_reachable refused
  refine ⟨supplied _ rfl rfl, (silent unserved).2.resolve_left ?_⟩
  rintro ⟨failure, entry, -⟩
  cases entry

/-- `Surge` extends `Power` and has no channel. A poll for it is answered through the channel for
    `Power`, with a message that is no `Surge`. -/
theorem poll_answered_by_base_channel :
    Lamp.plain.Compiled ∧
    Channels.ofMessages tellBindings Lamp.plain ⟨"Lamp", [tellMessage]⟩ =
      .ok ⟨[], [tellChannel]⟩ ∧
    Lamp.plain.Reachable offSlot ∧
    (∀ channel, Declared tellBindings [tellMessage] .poll channel →
      channel.kind.same surge = false) ∧
    Event.Occurs ⟨.poll (.text Lamp.offBlock.tag) (.cls surge), some ⟨[], [tellChannel]⟩,
      [(.produce tellChannel (.object 0 Lamp.off), .ok (.object 1 power)),
        (Lamp.plain.pollLine tellChannel, .ok .null)], .ok (.message (.object 1 power))⟩
      Lamp.plain offSlot offSlot ∧
    (Value.object 1 power).isA surge = false := by
  refine ⟨Lamp.plain_compiled, rfl, offSlot_reachable, fun channel declared => ?_,
    .ask (.ask (.done _ _)), by decide⟩
  rw [kind_of_declared declared]
  decide

end Table

end MachineSpec
