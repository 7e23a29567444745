/-
MachineSpec.Declaration — declarations as they are written.

    machine            Name, Initial, [State, …], [Source => Destination, …]
    fallible machine   Name, Initial, [State, …], [Source => Destination, …], ErrorType, ErrorState
    messages           Name, [Payload -> State, Payload <- State, …]

Nothing here is checked: a declaration may mention states it does not list.
What makes a machine of a declaration is in `MachineSpec.Graph.Check`.
-/
import MachineSpec.TypeName

namespace MachineSpec

/-! ## 1. Transitions and messages -/

/-- A directed transition between two states. -/
structure Edge where
  source : Reference
  destination : Reference
  span : Span
deriving DecidableEq, Repr

/-- The text of a transition. -/
def Edge.text (edge : Edge) : String := edge.source.text ++ " => " ++ edge.destination.text

/-- Whether a message is delivered into a state or asked of it. -/
inductive Direction where
  | push
  | poll
deriving DecidableEq, Repr

/-- The arrow that writes a direction: it points the way the payload goes. -/
def Direction.arrow : Direction → String
  | .push => "->"
  | .poll => "<-"

/-- One message channel: what travels, which way, and the state at the other end. -/
structure Message where
  payload : Reference
  direction : Direction
  target : Reference
  span : Span
deriving DecidableEq, Repr

/-- The text of a message channel. -/
def Message.text (message : Message) : String :=
  message.payload.text ++ " " ++ message.direction.arrow ++ " " ++ message.target.text

/-! ## 2. Declarations -/

/-- What a fallible machine declares beyond a plain one. -/
structure FailureDecl where
  errorType : Reference
  errorState : Reference
deriving DecidableEq, Repr

/-- A machine as declared; it is fallible if it says what becomes of failures. -/
structure MachineDecl where
  name : String
  initial : Reference
  states : List Reference
  edges : List Edge
  failure : Option FailureDecl
  span : Span
deriving DecidableEq, Repr

/-- The message channels of one machine as declared. -/
structure MessagesDecl where
  name : String
  messages : List Message
  span : Span
deriving DecidableEq, Repr

/-- A declaration of a document. -/
inductive Declaration where
  | machine (body : MachineDecl)
  | messages (body : MessagesDecl)
deriving DecidableEq, Repr

end MachineSpec
