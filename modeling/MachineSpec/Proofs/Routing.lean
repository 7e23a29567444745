/-
MachineSpec.Proofs.Routing — the channel and callback that a message reaches.

The channels of a machine are made when its messages are attached: one for each message,
with the class bound to its payload and with the bound callback or else the method of the
data. `Declared` describes them, and `along_iff` says that there are no others. Two channels
of one direction and state have different classes, so a class selects at most one.

A pushed message may be of a class without a channel. The classes that it extends are
searched in order of linearisation, and the first that has a channel at the active state is
taken (`Nearest`).

* `Table.message_reaches_nearest_channel`: a message reaches the callback of that channel
  once, with the data in the slot, if the target designates the active state and there is
  data. Otherwise no callback is called and the call fails, with the pushed message in the
  error.
-/
import MachineSpec.Proofs.Designation

namespace MachineSpec

/-! ## 1. Declared channels -/

namespace Channels

/-- The channel that one of the messages declares. -/
structure Declared (bindings : Bindings) (messages : List Message) (direction : Direction)
    (channel : Channel) : Prop where
  message : channel.message ∈ messages
  direction : channel.message.direction = direction
  /-- It is for the class that the payload is bound to. -/
  kind : bindings.resolveClass .payload channel.message.payload.type = .ok channel.kind
  /-- A callback that was bound for the message goes before the method of the data. -/
  courier : channel.courier =
    match bindings.messageCallback? channel.message.direction
        (Bindings.messageKey channel.message.target.type channel.message.payload.type) with
    | some callback => .callback callback
    | none => .method

/-- No two channels are for the same class at the same state. -/
def Distinct (along : List Channel) : Prop :=
  ∀ first ∈ along, ∀ second ∈ along, first.tag = second.tag → first.kind.id = second.kind.id →
    first = second

variable {bindings : Bindings} {table : Table} {channels extended : Channels} {channel : Channel}
  {along : List Channel} {tag : String} {id : Nat} {machine : String}

theorem courier_ok {kind : Class} {message : Message} {carries : Courier}
    (h : courier bindings machine kind message = .ok carries) :
    carries = match bindings.messageCallback? message.direction
        (Bindings.messageKey message.target.type message.payload.type) with
      | some callback => .callback callback
      | none => .method := by
  unfold courier at h
  cases bound : bindings.messageCallback? message.direction
      (Bindings.messageKey message.target.type message.payload.type) with
  | some callback =>
    rw [bound] at h
    cases h
    rfl
  | none =>
    rw [bound] at h
    dsimp only at h
    split at h
    · cases h
      rfl
    · cases h

theorem ofKind_none_iff : ofKind along tag id = none ↔
    ∀ channel ∈ along, channel.tag = tag → channel.kind.id ≠ id := by
  simp [ofKind, List.find?_eq_none]

theorem ofKind_some_iff (distinct : Distinct along) : ofKind along tag id = some channel ↔
    channel ∈ along ∧ channel.tag = tag ∧ channel.kind.id = id := by
  constructor
  · intro found
    exact ⟨List.mem_of_find?_eq_some found, fits_of_ofKind found⟩
  · rintro ⟨mem, rfl, rfl⟩
    cases found : ofKind along channel.tag channel.kind.id with
    | none => exact absurd rfl (ofKind_none_iff.mp found channel mem rfl)
    | some other =>
      have fits := fits_of_ofKind found
      rw [distinct other (List.mem_of_find?_eq_some found) channel mem fits.1 fits.2]

/-- A channel is added at the end of its direction, and only if its place was free. -/
theorem add_ok (h : channels.add machine channel = .ok extended) :
    (∀ direction other, other ∈ extended.along direction ↔ other ∈ channels.along direction ∨
      other = channel ∧ channel.message.direction = direction) ∧
    ∀ other ∈ channels.along channel.message.direction, other.tag = channel.tag →
      other.kind.id ≠ channel.kind.id := by
  dsimp only [add] at h
  split at h
  · cases h
  · rename_i free
    refine ⟨fun direction other => ?_, ofKind_none_iff.mp free⟩
    cases h
    cases way : channel.message.direction <;> cases direction <;> simp [along]

theorem distinct_add (h : channels.add machine channel = .ok extended) {direction : Direction}
    (distinct : Distinct (channels.along direction)) : Distinct (extended.along direction) := by
  obtain ⟨added, free⟩ := add_ok h
  intro first mem second mem' tags kinds
  rcases (added direction first).mp mem with before | ⟨rfl, here⟩
  · rcases (added direction second).mp mem' with before' | ⟨rfl, here⟩
    · exact distinct first before second before' tags kinds
    · exact absurd kinds (free first (here ▸ before) tags)
  · rcases (added direction second).mp mem' with before' | ⟨rfl, _⟩
    · exact absurd kinds.symm (free second (here ▸ before') tags.symm)
    · rfl

/-- What a list of messages declares, its first message or the others do. -/
theorem declared_cons_iff {first : Message} {rest : List Message} {kind : Class}
    {carries : Courier} {direction : Direction}
    (bound : bindings.resolveClass .payload first.payload.type = .ok kind)
    (carried : carries = match bindings.messageCallback? first.direction
        (Bindings.messageKey first.target.type first.payload.type) with
      | some callback => .callback callback
      | none => .method) :
    Declared bindings (first :: rest) direction channel ↔
      channel = ⟨first, kind, carries⟩ ∧ first.direction = direction ∨
        Declared bindings rest direction channel := by
  constructor
  · rintro ⟨mem, way, kind', courier⟩
    rcases List.mem_cons.mp mem with here | later
    · obtain ⟨message, other, carries'⟩ := channel
      obtain rfl : message = first := here
      rw [bound] at kind'
      cases kind'
      exact .inl ⟨by rw [carried, ← courier], way⟩
    · exact .inr ⟨later, way, kind', courier⟩
  · rintro (⟨rfl, way⟩ | ⟨mem, way, kind, courier⟩)
    · exact ⟨.head _, way, bound, carried⟩
    · exact ⟨.tail _ mem, way, kind, courier⟩

/-- Messages add the channels that they declare, and no two for the same class at the same state. -/
theorem addMessages_ok {messages : List Message} :
    ∀ {channels : Channels}, addMessages bindings table channels messages = .ok extended →
      ∀ direction, (∀ channel, channel ∈ extended.along direction ↔
          channel ∈ channels.along direction ∨ Declared bindings messages direction channel) ∧
        (Distinct (channels.along direction) → Distinct (extended.along direction)) := by
  induction messages with
  | nil =>
    rintro channels ⟨⟩ direction
    refine ⟨fun channel => ⟨.inl, ?_⟩, id⟩
    rintro (here | declared)
    · exact here
    · cases declared.message
  | cons first rest ih =>
    intro channels h direction
    simp only [addMessages, Except.bind_eq_ok_iff] at h
    obtain ⟨kind, bound, h⟩ := h
    split at h
    · cases h
    · simp only [Except.bind_eq_ok_iff] at h
      obtain ⟨carries, carried, more, added, h⟩ := h
      obtain ⟨members, distinct⟩ := ih h direction
      refine ⟨fun channel => ?_, fun before => distinct (distinct_add added before)⟩
      rw [members, (add_ok added).1, declared_cons_iff bound (courier_ok carried), or_assoc]

variable {messages : Messages} (attached : ofMessages bindings table messages = .ok channels)
include attached

theorem along_iff {direction : Direction} :
    channel ∈ channels.along direction ↔ Declared bindings messages.messages direction channel := by
  rw [((addMessages_ok attached) direction).1]
  cases direction <;> simp [empty, along]

theorem distinct_along (direction : Direction) : Distinct (channels.along direction) := by
  refine ((addMessages_ok attached) direction).2 ?_
  cases direction <;> exact nofun

omit attached

/-! ## 2. The nearest class -/

/-- Going through a class and those it extends, the channel is that of the first which has one at
    the state with the tag. -/
structure Nearest (has : Channel → Prop) (tag : String) (kind : Class) (channel : Channel) :
    Prop where
  here : has channel
  active : channel.tag = tag
  first : ∃ before layer after, kind.lineage = before ++ layer :: after ∧
    channel.kind.id = layer.id ∧
    ∀ nearer ∈ before, ∀ other, has other → other.tag = tag → other.kind.id ≠ nearer.id

theorem find_cls_iff (distinct : Distinct along) {kind : Class} :
    find along tag (.cls kind) = some channel ↔ Nearest (· ∈ along) tag kind channel := by
  unfold find
  rw [List.findSome?_eq_some_iff]
  simp only [ofKind_some_iff distinct, ofKind_none_iff]
  constructor
  · rintro ⟨before, layer, after, split, ⟨mem, tag, id⟩, nearer⟩
    exact ⟨mem, tag, before, layer, after, split, id, nearer⟩
  · rintro ⟨mem, tag, before, layer, after, split, id, nearer⟩
    exact ⟨before, layer, after, split, ⟨mem, tag, id⟩, nearer⟩

/-- No class is nearer than the class itself. -/
theorem nearest_of_own {has : Channel → Prop} {kind : Class} (here : has channel)
    (at_ : channel.tag = tag) (own : channel.kind.same kind = true) :
    Nearest has tag kind channel :=
  ⟨here, at_, [], kind.own, kind.bases, rfl, beq_iff_eq.mp own, nofun⟩

end Channels

namespace Table

open Operation Dialogue Channels

variable {table : Table} {bindings : Bindings} {messages : Messages} {channels : Channels}
  {direction : Direction} {target : Designator} {slot final : Slot} {course : Course}

/-! ## 3. Targets -/

/-- The designator is the tag of the state, or the class that is bound to it. -/
inductive Aims (table : Table) (tag : String) : Designator → Prop where
  | tag : Aims table tag (.text tag)
  | cls {block : Block} {kind : Class} (known : table.block? tag = some block)
      (same : block.kind.same kind = true) : Aims table tag (.cls kind)

/-- The designator is the tag of a state or a class. -/
inductive Direct (table : Table) : Designator → Prop where
  | tag {tag : String} (known : table.Knows tag) : Direct table (.text tag)
  | cls {kind : Class} : Direct table (.cls kind)

/-- The tags that such a designator points out are those of the states that it aims at. -/
theorem Direct.points (sound : table.Sound) (direct : table.Direct target) :
    (∃ tags, table.tagsFor target = .ok tags ∧ ∀ tag, tag ∈ tags ↔ table.Aims tag target) ∨
      table.tagsFor target = .error (.notAState target table.name) ∧
        ∀ tag, ¬ table.Aims tag target := by
  cases direct with
  | @tag tag known =>
    refine .inl ⟨[tag], tagsFor_tag known, fun other => ⟨fun mem => ?_, fun aims => ?_⟩⟩
    · rw [List.mem_singleton.mp mem]
      exact .tag
    · cases aims
      exact List.mem_singleton_self _
  | @cls kind =>
    have aims_iff (tag : String) : tag ∈ table.tagsOf kind ↔ table.Aims tag (.cls kind) := by
      rw [sound.mem_tagsOf_iff]
      exact ⟨fun ⟨_, known, same⟩ => .cls known same, fun | .cls known same => ⟨_, known, same⟩⟩
    by_cases unbound : table.tagsOf kind = []
    · refine .inr ⟨tagsFor_unbound unbound, fun tag aims => ?_⟩
      have mem := (aims_iff tag).mpr aims
      rw [unbound] at mem
      cases mem
    · exact .inl ⟨_, tagsFor_cls unbound, aims_iff⟩

/-! ## 4. Deliveries -/

/-- The line that reports a delivery. -/
def pushLine (table : Table) (channel : Channel) : Request :=
  .report table.flags.messages (traceLine table.name "Push"
    (channel.message.payload.text ++ " to " ++ channel.message.target.text))

/-- The line that reports that a message was fetched. -/
def pollLine (table : Table) (channel : Channel) : Request :=
  .report table.flags.messages (traceLine table.name "Poll"
    (channel.message.payload.text ++ " from " ++ channel.message.target.text))

/-- The message is delivered once, and no other callback is called. An exception of the sink or of
    the callback is passed on. -/
inductive Delivers (table : Table) (channel : Channel) (data message : Value) :
    Course → Except Failure Reply → Prop where
  | told (value : Value) (answer : Answer) : Delivers table channel data message
      [(table.pushLine channel, .ok value), (.deliver channel data message, answer)]
      ((answer.mapError .raised).map fun _ => .nothing)
  | untold (exception : Value) : Delivers table channel data message
      [(table.pushLine channel, .error exception)] (.error (.raised exception))

/-- A message is asked for once, and it is returned, be it nothing. -/
inductive Fetches (table : Table) (channel : Channel) (data : Value) :
    Course → Except Failure Reply → Prop where
  | nothing : Fetches table channel data [(.produce channel data, .ok .null)] (.ok (.message .null))
  | told (message : Value) (answer : Answer) (some : message.isNull = false) :
      Fetches table channel data
        [(.produce channel data, .ok message), (table.pollLine channel, answer)]
        ((answer.mapError .raised).map fun _ => .message message)
  | raised (exception : Value) : Fetches table channel data
      [(.produce channel data, .error exception)] (.error (.raised exception))

theorem delivers_of_plays {channel : Channel} {data message : Value} {outcome : Except Failure Unit}
    (plays : Plays (table.delivered channel data message slot) course outcome final) :
    final = slot ∧
      table.Delivers channel data message course (outcome.map fun _ => .nothing) := by
  rcases plays_tell_bind_iff.mp plays with ⟨value, rest, rfl, asks⟩ | ⟨exception, rfl, rfl, rfl⟩
  · rcases plays_demand_bind_iff.mp asks with ⟨_, _, rfl, ends⟩ | ⟨exception, rfl, rfl, rfl⟩
    · obtain ⟨rfl, rfl, rfl⟩ := plays_done_iff.mp ends
      exact ⟨rfl, .told value (.ok _)⟩
    · exact ⟨rfl, .told value (.error exception)⟩
  · exact ⟨rfl, .untold exception⟩

theorem fetches_of_plays {channel : Channel} {data : Value} {outcome : Except Failure Value}
    (plays : Plays (table.fetched channel data slot) course outcome final) :
    final = slot ∧ table.Fetches channel data course (outcome.map .message) := by
  rcases plays_demand_bind_iff.mp plays with ⟨message, rest, rfl, goes⟩ | ⟨exception, rfl, rfl, rfl⟩
  · cases null : message.isNull with
    | true =>
      rw [null, if_pos rfl] at goes
      obtain ⟨rfl, rfl, rfl⟩ := plays_done_iff.mp goes
      rw [Value.eq_null_of_isNull null]
      exact ⟨rfl, .nothing⟩
    | false =>
      rw [null, if_neg (by decide)] at goes
      rcases plays_tell_bind_iff.mp goes with ⟨value, _, rfl, ends⟩ | ⟨exception, rfl, rfl, rfl⟩
      · obtain ⟨rfl, rfl, rfl⟩ := plays_done_iff.mp ends
        exact ⟨rfl, .told message (.ok value) null⟩
      · exact ⟨rfl, .told message (.error exception) null⟩
  · exact ⟨rfl, .raised exception⟩

/-! ## 5. Main theorem -/

/-- The route for messages of the class: there is data in the slot, its state is designated, and the
    channel is the nearest that is declared for the state. -/
structure Routes (table : Table) (bindings : Bindings) (messages : Messages) (direction : Direction)
    (target : Designator) (kind : Class) (slot : Slot) (channel : Channel) : Prop where
  full : slot.data.isNull = false
  aims : table.Aims slot.tag target
  nearest : Nearest (Declared bindings messages.messages direction) slot.tag kind channel

section

variable (attached : Channels.ofMessages bindings table messages = .ok channels)
include attached

/-- The channel that is found is that of the nearest class. -/
theorem finds_iff {tag : String} {kind : Class} {channel : Channel} :
    Channels.find (channels.along direction) tag (.cls kind) = some channel ↔
      Nearest (Declared bindings messages.messages direction) tag kind channel := by
  have same : (· ∈ channels.along direction) = Declared bindings messages.messages direction :=
    funext fun _ => propext (along_iff attached)
  rw [← same]
  exact find_cls_iff (distinct_along attached direction)

theorem admits_iff {tags : List String} (points : ∀ tag, tag ∈ tags ↔ table.Aims tag target)
    {kind : Class} {channel : Channel} :
    Admits channels direction tags (.cls kind) slot channel ↔
      table.Routes bindings messages direction target kind slot channel := by
  constructor
  · rintro ⟨aimed, found, full⟩
    exact ⟨full, (points _).mp aimed, (finds_iff attached).mp found⟩
  · rintro ⟨full, aims, nearest⟩
    exact ⟨(points _).mpr aims, (finds_iff attached).mpr nearest, full⟩

variable (sound : table.Sound) (known : table.Knows slot.tag) (direct : table.Direct target)
include sound known direct

/-- If there is a route, its channel is chosen; otherwise the call is rejected. -/
theorem chosen_routes (kind : Class) (rejected : Value) :
    (∀ channel, table.Routes bindings messages direction target kind slot channel →
      table.chosen channels direction target (.cls kind) rejected slot =
        .done (.ok (channel, slot.data)) slot) ∧
    ((∀ channel, ¬ table.Routes bindings messages direction target kind slot channel) →
      ∃ error, TurnsDown target rejected error ∧
        table.chosen channels direction target (.cls kind) rejected slot =
          .done (.error (.error error)) slot) := by
  rcases direct.points sound with ⟨tags, points, aims⟩ | ⟨denied, nowhere⟩
  · simp only [← admits_iff attached aims]
    exact ⟨fun channel => chosen_admitted known points, chosen_turned known rejected points⟩
  · refine ⟨fun channel routes => absurd routes.aims (nowhere _), fun _ => ?_⟩
    exact ⟨_, .undeclared rfl, chosen_denied denied⟩

/-- So what follows is done with that channel, or the call is rejected without a request. -/
theorem chosen_plays {α : Type} {next : Channel × Value → Operation α} {kind : Class}
    {rejected : Value} {outcome : Except Failure α}
    (plays : Plays ((table.chosen channels direction target (.cls kind) rejected >>= next) slot)
      course outcome final) :
    (∀ channel, table.Routes bindings messages direction target kind slot channel →
      Plays (next (channel, slot.data) slot) course outcome final) ∧
    ((∀ channel, ¬ table.Routes bindings messages direction target kind slot channel) →
      final = slot ∧ course = [] ∧ ∃ error, TurnsDown target rejected error ∧
        outcome = .error (.error error)) := by
  obtain ⟨passes, turned⟩ := chosen_routes attached sound known direct kind rejected
  rw [bind_apply] at plays
  refine ⟨fun channel routes => ?_, fun none => ?_⟩
  · rwa [passes channel routes, andThen_ok] at plays
  · obtain ⟨error, turns, chosen⟩ := turned none
    rw [chosen, andThen_error] at plays
    obtain ⟨rfl, rfl, rfl⟩ := plays_done_iff.mp plays
    exact ⟨rfl, rfl, error, turns, rfl⟩

theorem push_routes (settled : slot.pending = false) {message : Value}
    {outcome : Except Failure Reply}
    (occurs : Event.Occurs ⟨.push target message, some channels, course, outcome⟩ table slot
      final) :
    (∀ channel, table.Routes bindings messages .push target message.kind slot channel →
      final = slot ∧ table.Delivers channel slot.data message course outcome) ∧
    ((∀ channel, ¬ table.Routes bindings messages .push target message.kind slot channel) →
      final = slot ∧ course = [] ∧ ∃ error, TurnsDown target message error ∧
        outcome = .error (.error error)) := by
  obtain ⟨result, plays, rfl⟩ := plays_map_iff.mp occurs
  rw [push_some, enterPending_bind settled, pushed_eq] at plays
  obtain ⟨passes, turned⟩ := chosen_plays attached sound known direct plays
  refine ⟨fun channel routes => delivers_of_plays (passes channel routes), fun none => ?_⟩
  obtain ⟨same, silent, error, turns, rfl⟩ := turned none
  exact ⟨same, silent, error, turns, rfl⟩

theorem poll_routes (settled : slot.pending = false) {kind : Class}
    {outcome : Except Failure Reply}
    (occurs : Event.Occurs ⟨.poll target (.cls kind), some channels, course, outcome⟩ table slot
      final) :
    (∀ channel, table.Routes bindings messages .poll target kind slot channel →
      final = slot ∧ table.Fetches channel slot.data course outcome) ∧
    ((∀ channel, ¬ table.Routes bindings messages .poll target kind slot channel) →
      final = slot ∧ course = [] ∧ ∃ error, TurnsDown target .null error ∧
        outcome = .error (.error error)) := by
  obtain ⟨result, plays, rfl⟩ := plays_map_iff.mp occurs
  rw [poll_some, enterPending_bind settled, polled_eq] at plays
  obtain ⟨passes, turned⟩ := chosen_plays attached sound known direct plays
  refine ⟨fun channel routes => fetches_of_plays (passes channel routes), fun none => ?_⟩
  obtain ⟨same, silent, error, turns, rfl⟩ := turned none
  exact ⟨same, silent, error, turns, rfl⟩

omit sound known direct

/-- There is at most one route. -/
theorem routes_unique {kind : Class} {first second : Channel}
    (routes : table.Routes bindings messages direction target kind slot first)
    (routes' : table.Routes bindings messages direction target kind slot second) :
    first = second := by
  have finds := (finds_iff attached).mpr routes.nearest
  have finds' := (finds_iff attached).mpr routes'.nearest
  exact Option.some.inj (finds.symm.trans finds')

end

/-- A message that is pushed to the active state is delivered once, with the data in the slot,
    through the channel of the nearest class; a polled one is produced once, likewise. In every
    other case no callback is called: the target is not active, and the error returns the pushed
    message, or there is no channel. A class with a channel of its own is routed through it. -/
theorem message_reaches_nearest_channel (compiled : table.Compiled)
    (attached : Channels.ofMessages bindings table messages = .ok channels)
    (reachable : table.Reachable slot) (settled : slot.pending = false)
    (direct : table.Direct target) :
    (∀ message course outcome final,
      Event.Occurs ⟨.push target message, some channels, course, outcome⟩ table slot final →
      (∀ channel, table.Routes bindings messages .push target message.kind slot channel →
        final = slot ∧ table.Delivers channel slot.data message course outcome) ∧
      ((∀ channel, ¬ table.Routes bindings messages .push target message.kind slot channel) →
        final = slot ∧ course = [] ∧ ∃ error, TurnsDown target message error ∧
          outcome = .error (.error error))) ∧
    (∀ kind course outcome final,
      Event.Occurs ⟨.poll target (.cls kind), some channels, course, outcome⟩ table slot final →
      (∀ channel, table.Routes bindings messages .poll target kind slot channel →
        final = slot ∧ table.Fetches channel slot.data course outcome) ∧
      ((∀ channel, ¬ table.Routes bindings messages .poll target kind slot channel) →
        final = slot ∧ course = [] ∧ ∃ error, TurnsDown target .null error ∧
          outcome = .error (.error error))) ∧
    ∀ direction kind channel,
      (table.Routes bindings messages direction target kind slot channel →
        ∀ other, table.Routes bindings messages direction target kind slot other →
          other = channel) ∧
      (slot.data.isNull = false → table.Aims slot.tag target →
        Declared bindings messages.messages direction channel → channel.tag = slot.tag →
        channel.kind.same kind = true →
          table.Routes bindings messages direction target kind slot channel) := by
  have sound := compiled.sound
  obtain ⟨given, initial, events, created, history⟩ := reachable
  have known := (history.condition sound created).knows sound
  refine ⟨fun _ _ _ _ => push_routes attached sound known direct settled,
    fun _ _ _ _ => poll_routes attached sound known direct settled,
    fun direction kind channel => ⟨fun routes other routes' =>
        routes_unique attached routes' routes,
      fun full aims declared here own => ⟨full, aims, nearest_of_own declared here own⟩⟩⟩

/-! The lamp takes notice of power, and of whatever is a kind of power. -/

def power : Class := Class.object.plain 104 "Power"
def surge : Class := power.plain 105 "Surge"

def powerMessage : Message := ⟨Lamp.state "Power", .push, Lamp.state "Off", Lamp.span⟩

def powerBindings : Bindings :=
  { Lamp.bindings with
    namespaceEntries := [("Power", .cls power)]
    receivers := [(((Lamp.state "Off").tag, "Power"), .routine 0)] }

def powerChannel : Channel := ⟨powerMessage, power, .callback (.routine 0)⟩

/-- A message of a subclass is delivered through the channel of its base class while `Off` is
    active, and is not declared for `On`. -/
theorem message_reaches_nearest_channel_lamp :
    Lamp.plain.Delivers powerChannel (.object 0 Lamp.off) (.object 1 surge)
      [(Lamp.plain.pushLine powerChannel, .ok .null),
       (.deliver powerChannel (.object 0 Lamp.off) (.object 1 surge), .ok .null)] (.ok .nothing) ∧
    ∃ error, TurnsDown (.text Lamp.onBlock.tag) (.object 1 surge) error ∧
      (Except.error (.error (.noChannel "Lamp" .push "Surge" "OnState")) : Except Failure Reply) =
        .error (.error error) := by
  have attached : Channels.ofMessages powerBindings Lamp.plain ⟨"Lamp", [powerMessage]⟩ =
      .ok ⟨[powerChannel], []⟩ := rfl
  have created : Lamp.plain.create .null = .ok (.fresh Lamp.plain) := rfl
  have starts : Event.Occurs ⟨.start (.object 0 Lamp.off), none,
      [(.hook .entry Lamp.offBlock.tag true (.object 0 Lamp.off), .ok .null),
       (Lamp.plain.startLine, .ok .null)], .ok .nothing⟩
      Lamp.plain (.fresh Lamp.plain) (.holding ⟨Lamp.offBlock.tag, .object 0 Lamp.off⟩) :=
    .ask (.ask (.done _ _))
  have reachable : Lamp.plain.Reachable (.holding ⟨Lamp.offBlock.tag, .object 0 Lamp.off⟩) :=
    ⟨_, _, _, created, .snoc .nil starts⟩
  have byClass : Lamp.plain.Direct (.cls Lamp.off) := .cls
  have byTag : Lamp.plain.Direct (.text Lamp.onBlock.tag) := .tag ⟨_, rfl⟩
  have aimed := message_reaches_nearest_channel Lamp.plain_compiled attached reachable rfl byClass
  have missed := message_reaches_nearest_channel Lamp.plain_compiled attached reachable rfl byTag
  have pushed : Event.Occurs ⟨.push (.cls Lamp.off) (.object 1 surge),
      some ⟨[powerChannel], []⟩,
      [(Lamp.plain.pushLine powerChannel, .ok .null),
       (.deliver powerChannel (.object 0 Lamp.off) (.object 1 surge), .ok .null)], .ok .nothing⟩
      Lamp.plain (.holding ⟨Lamp.offBlock.tag, .object 0 Lamp.off⟩)
      (.holding ⟨Lamp.offBlock.tag, .object 0 Lamp.off⟩) :=
    .ask (.ask (.done _ _))
  have misdirected : Event.Occurs ⟨.push (.text Lamp.onBlock.tag) (.object 1 surge),
      some ⟨[powerChannel], []⟩, [],
      .error (.error (.noChannel "Lamp" .push "Surge" "OnState"))⟩
      Lamp.plain (.holding ⟨Lamp.offBlock.tag, .object 0 Lamp.off⟩)
      (.holding ⟨Lamp.offBlock.tag, .object 0 Lamp.off⟩) :=
    .done _ _
  refine ⟨((aimed.1 _ _ _ _ pushed).1 powerChannel ⟨rfl, .cls rfl rfl, ?_⟩).2, ?_⟩
  · refine ⟨⟨.head _, rfl, rfl, rfl⟩, rfl, [surge.own], power.own, power.bases, rfl, rfl, ?_⟩
    rintro _ (_ | ⟨_, ⟨⟩⟩) ⟨message, kind, _⟩ ⟨mem, -, bound, -⟩ -
    obtain rfl : message = powerMessage := List.mem_singleton.mp mem
    have known : powerBindings.resolveClass .payload powerMessage.payload.type = .ok power := rfl
    cases known.symm.trans bound
    exact show (104 : Nat) ≠ 105 by decide
  · refine ((missed.1 _ _ _ _ misdirected).2 fun channel routes => ?_).2.2
    have far := routes.aims
    generalize here : Slot.tag _ = tag at far
    cases far
    revert here
    decide

end Table

end MachineSpec
