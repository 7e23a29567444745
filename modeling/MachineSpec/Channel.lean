/-
MachineSpec.Channel — the passages of messages into and out of states.

A machine with messages has one channel for each of them. A channel belongs to
a state, a direction and the class that its payload is bound to, and no two
channels of a machine agree in all three. What delivers or makes the payload is
a callback that was bound for it, or else a method of the state's data.

A message that is pushed finds its channel by its class: the channel of the
nearest class in its line. What is polled can be named by the class, too, or
by the text of the payload as it was declared.
-/
import MachineSpec.Table

namespace MachineSpec

/-! ## 1. Channels -/

/-- What delivers a payload into the data of a state, or makes one of it. -/
inductive Courier where
  /-- A method of the data. -/
  | method
  /-- A callback that was bound for the passage. -/
  | callback (callback : Callback)
deriving Repr

/-- The method of the data that takes or gives payloads. -/
def Direction.method : Direction → String
  | .push => "receive_message"
  | .poll => "return_message"

/-- One channel: the message it was declared by, the class of its payload, and its courier. -/
structure Channel where
  message : Message
  kind : Class
  courier : Courier
deriving Repr

/-- The tag of the state at the end of a channel. -/
def Channel.tag (channel : Channel) : String := channel.message.target.tag

/-- The channels of one machine, those of each direction in declared order. -/
structure Channels where
  push : List Channel
  poll : List Channel
deriving Repr

namespace Channels

/-- No channels. -/
def empty : Channels := ⟨[], []⟩

/-- The channels of one direction. -/
def along (channels : Channels) : Direction → List Channel
  | .push => channels.push
  | .poll => channels.poll

/-- All channels, those that deliver first. -/
def all (channels : Channels) : List Channel := channels.push ++ channels.poll

/-! ## 2. Choosing a channel -/

/-- The channel of a state, among those of one direction, for a payload of the given class. -/
def ofKind (channels : List Channel) (tag : String) (kind : Nat) : Option Channel :=
  channels.find? fun channel => channel.tag == tag && channel.kind.id == kind

/-- The channel of a state for a payload, pointed out by its text or by its class. -/
def find (channels : List Channel) (tag : String) : Designator → Option Channel
  | .text name =>
    channels.find? fun channel => channel.tag == tag && channel.message.payload.text == name
  | .cls kind => kind.lineage.findSome? fun layer => ofKind channels tag layer.id

/-- The channels for a payload at the states that a designator points out, with their tags. There
    has to be one, at whichever of the states. -/
def select (channels : Channels) (table : Table) (direction : Direction)
    (target payload : Designator) : Except Error (List (String × Channel)) :=
  match table.tagsFor target with
  | .error (.notAState target machine) => .error (.noTarget target machine)
  | .error error => .error error
  | .ok tags =>
    let found := tags.filterMap fun tag =>
      (find (channels.along direction) tag payload).map fun channel => (tag, channel)
    if found.isEmpty then .error (.noChannel table.name direction payload.name target.name)
    else .ok found

/-! ## 3. Making channels -/

/-- The channels with one more, unless it cannot be told from another. -/
def add (channels : Channels) (machine : String) (channel : Channel) : Except Error Channels :=
  let direction := channel.message.direction
  match ofKind (channels.along direction) channel.tag channel.kind.id with
  | some existing =>
    .error (.samePayload machine existing.message.payload.text channel.message.payload.text
      channel.kind.name channel.message.target.text)
  | none =>
    .ok (match direction with
      | .push => { channels with push := channels.push ++ [channel] }
      | .poll => { channels with poll := channels.poll ++ [channel] })

/-- What carries a message: the callback bound for it or else, if the class of the state has the
    method, the data itself. -/
def courier (bindings : Bindings) (machine : String) (kind : Class) (message : Message) :
    Except Error Courier :=
  match bindings.messageCallback? message.direction
      (Bindings.messageKey message.target.type message.payload.type) with
  | some callback => .ok (.callback callback)
  | none =>
    if kind.answers message.direction.method then .ok .method
    else .error (.noCallback machine message.target.text message.direction.method
      message.payload.text)

/-- The channels with those of more messages. -/
def addMessages (bindings : Bindings) (table : Table) (channels : Channels) :
    List Message → Except Error Channels
  | [] => .ok channels
  | message :: rest => do
    let kind ← bindings.resolveClass .payload message.payload.type
    match table.block? message.target.tag with
    | none => .error (.noBlock message.target.tag)
    | some block => do
      let courier ← courier bindings table.name block.kind message
      let extended ← channels.add table.name ⟨message, kind, courier⟩
      addMessages bindings table extended rest

/-- The channels that checked messages add to a machine. -/
def ofMessages (bindings : Bindings) (table : Table) (messages : Messages) :
    Except Error Channels :=
  addMessages bindings table .empty messages.messages

end Channels

end MachineSpec
