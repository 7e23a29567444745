/-
MachineSpec.Graph.Depth — documents read with a limit on nested calls.

The readers of `MachineSpec.Declaration.Reading` call themselves for arguments within
arguments, and an interpreter has a limit on nested calls. Here this limit is a
parameter: arguments may nest less than `limit` deep, and a reader that meets one nested
deeper gives up. This is neither a result nor an error of the text, so a confined reader
has three ways to end.

Only arguments nest. Lists are read by loops, and a declaration takes a fixed number of
calls beside its arguments, so the other readers differ from those without a limit only
in passing it on. A level of nesting takes one call for the argument, and one more for a
list of arguments; the limit counts levels.
-/
import MachineSpec.Graph.Reading

namespace MachineSpec

/-- A reader that may give up for want of room, and then has no result. -/
abbrev Confined := OptionT Parse

namespace Confined

open Parse (accept current expect expectEnd peek refuse advance)

variable {α : Type}

/-! ## 1. Lists and type names -/

/-- There is no room for one more call. -/
def exhausted : Confined α := OptionT.fail

/-- `Parse.separatedWithin` for a confined reader of items. -/
def separatedWithin (close : TokenKind) (item : Confined α) : Nat → Confined (List α)
  | 0 => return []
  | bound + 1 => do
    if ← peek close 0 then
      return []
    else
      let first ← item
      let others ← if ← accept .comma then separatedWithin close item bound else pure []
      return first :: others

/-- The items of a list before the token that closes it. -/
def separated (close : TokenKind) (item : Confined α) : Confined (List α) := do
  let stream : TokenStream ← (get : Parse TokenStream)
  separatedWithin close item (stream.upcoming.length + 1)

/-- A list in brackets. -/
def bracketed (item : Confined α) : Confined (List α) := do
  let _ ← expect .leftBracket "'['"
  let items ← separated .rightBracket item
  let _ ← expect .rightBracket "',' or ']'"
  return items

/-- A non-empty list of type arguments in angle brackets, given how to read one argument. -/
def angled (argument : Confined String) : Confined (List String) := do
  let _ ← expect .less "'<'"
  let arguments ← separated .greater argument
  if arguments.isEmpty then (refuse "Expected at least one type argument" : Parse Unit) else pure ()
  let _ ← expect .greater "'>' to close the type argument list"
  return arguments

/-- The canonical text of a type argument, with room for so many levels. -/
def typeArg : Nat → Confined String
  | 0 => exhausted
  | room + 1 => do
    if ← accept .ampersand then
      let lifetime ← if ← peek .lifetime 0 then pure ((← advance).text ++ " ") else pure ""
      return "&" ++ lifetime ++ (← typeArg room)
    else if ← peek .lifetime 0 then
      return (← advance).text
    else if ← accept .leftBracket then
      let inner ← typeArg room
      let _ ← expect .rightBracket "']'"
      return "[" ++ inner ++ "]"
    else
      let name ← expect .name "a type name"
      let arguments ← if ← peek .less 0 then angled (typeArg room) else pure []
      return TypeName.text ⟨name.text, arguments⟩

variable (limit : Nat)

/-- A type name, where `what` says what it is wanted for. -/
def reference (what : String) : Confined Reference := do
  let name ← expect .name what
  let arguments ← if ← peek .less 0 then angled (typeArg limit) else pure []
  return ⟨⟨name.text, arguments⟩, name.span⟩

/-- The name of a state. -/
def state : Confined Reference := reference limit "a state name"

/-! ## 2. Declarations -/

/-- A transition. -/
def edge : Confined Edge := do
  let first ← current
  let source ← state limit
  let _ ← expect .transitionArrow "'=>'"
  let destination ← state limit
  return ⟨source, destination, first.span⟩

/-- A message channel. -/
def message : Confined Message := do
  let first ← current
  let payload ← reference limit "a message type"
  let way ← Parse.direction
  let target ← state limit
  return ⟨payload, way, target, first.span⟩

/-- What a fallible machine declares behind its transitions. -/
def failure : Confined FailureDecl := do
  let _ ← expect .comma "',' followed by the error type"
  let errorType ← reference limit "an error type"
  let _ ← expect .comma "',' followed by the error state"
  let errorState ← state limit
  return ⟨errorType, errorState⟩

/-- A machine, up to the token that ends its declaration. -/
def machine (fallible : Bool) (close : TokenKind) : Confined MachineDecl := do
  let name ← expect .name "the state machine name"
  let _ ← expect .comma "','"
  let initial ← state limit
  let _ ← expect .comma "','"
  let states ← bracketed (state limit)
  let _ ← expect .comma "','"
  let edges ← bracketed (edge limit)
  let failing ← if fallible then some <$> failure limit else pure none
  let _ ← accept .comma
  expectEnd close
  return ⟨name.text, initial, states, edges, failing, name.span⟩

/-- The message channels of a machine, up to the token that ends their declaration. -/
def messages (close : TokenKind) : Confined MessagesDecl := do
  let name ← expect .name "the state machine name"
  let _ ← expect .comma "','"
  let channels ← bracketed (message limit)
  let _ ← accept .comma
  expectEnd close
  return ⟨name.text, channels, name.span⟩

/-- The body that the given keyword introduces, up to the closing parenthesis. -/
def body (keyword : Token) : Confined Declaration :=
  if keyword.text = "machine" then .machine <$> machine limit false .rightParen
  else if keyword.text = "fallible_machine" then .machine <$> machine limit true .rightParen
  else if keyword.text = "messages" then .messages <$> messages limit .rightParen
  else OptionT.lift (throw ⟨.unknownDeclaration keyword.text, keyword.span⟩)

/-- A declaration of a document. -/
def declaration : Confined Declaration := do
  let keyword ← expect .name "'machine', 'fallible_machine' or 'messages'"
  let _ ← expect .leftParen "'('"
  let declared ← body limit keyword
  let _ ← expect .rightParen "')'"
  let _ ← accept .semicolon
  return declared

/-! ## 3. Documents -/

/-- Why reading stops before the end of a text. -/
inductive Stop where
  | fault (error : ParseError)
  | exhausted
deriving DecidableEq, Repr

/-- The declarations up to where reading stops, at most `bound` of them. -/
def declarationsWithin : Nat → TokenStream → List Declaration × Option Stop
  | 0, _ => ([], none)
  | bound + 1, stream =>
    if stream.current.kind = .finish then ([], none)
    else
      match (declaration limit).run.run stream with
      | (.error error, _) => ([], some (.fault error))
      | (.ok none, _) => ([], some .exhausted)
      | (.ok (some first), rest) =>
        let (others, stop) := declarationsWithin bound rest
        (first :: others, stop)

/-- The declarations of a text up to where reading stops. -/
def declarations (stream : TokenStream) : List Declaration × Option Stop :=
  declarationsWithin limit stream.upcoming.length stream

end Confined

/-- How a text fails to be read as a document under a limit on nested calls. -/
inductive Document.Failure where
  | rejected (why : Rejection)
  | exhausted
deriving DecidableEq, Repr

/-- Why no document comes of a text whose reading stops there. -/
def Confined.Stop.failure : Confined.Stop → Document.Failure
  | .fault error => .rejected (.malformed error)
  | .exhausted => .exhausted

end MachineSpec
