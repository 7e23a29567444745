/-
MachineSpec.Declaration.Reading — declarations read from tokens.

    TypeArg  ::=  Name ('<' TypeArgs '>')?  |  '&' Lifetime? TypeArg
               |  Lifetime  |  '[' TypeArg ']'
    State    ::=  Name ('<' TypeArgs '>')?
    Edge     ::=  State '=>' State
    Message  ::=  State ('->' | '<-') State

Type arguments, states, transitions and messages all come in lists that commas
separate and that may end in one; `separated` reads such a list up to the token
that closes it. Only the form is read here; whether the names fit together is
checked once the whole declaration is known.

Arguments nest, so `typeArg` calls itself below `<`, `&` and `[`. Each of these
calls stands behind a token already taken: the number of tokens that were left
bounds the depth, and the bound is never felt.
-/
import MachineSpec.Declaration
import MachineSpec.Token.Stream

namespace MachineSpec.Parse

/-! ## 1. Lists -/

/-- The items of a list before the token that closes it, at most `bound` of them. An item is
    followed by another only behind a comma. -/
def separatedWithin {α : Type} (close : TokenKind) (item : Parse α) : Nat → Parse (List α)
  | 0 => return []
  | bound + 1 => do
    if ← peek close 0 then
      return []
    else
      let first ← item
      let others ← if ← accept .comma then separatedWithin close item bound else pure []
      return first :: others

/-- The items of a list before the token that closes it. Behind every item but the last stands a
    comma, so there are at most one more than tokens left. -/
def separated {α : Type} (close : TokenKind) (item : Parse α) : Parse (List α) := do
  separatedWithin close item ((← get).upcoming.length + 1)

/-- A list in brackets. -/
def bracketed {α : Type} (item : Parse α) : Parse (List α) := do
  let _ ← expect .leftBracket "'['"
  let items ← separated .rightBracket item
  let _ ← expect .rightBracket "',' or ']'"
  return items

/-! ## 2. Type names -/

/-- A non-empty list of type arguments in angle brackets, given how to read one argument. -/
def angled (argument : Parse String) : Parse (List String) := do
  let _ ← expect .less "'<'"
  let arguments ← separated .greater argument
  if arguments.isEmpty then refuse "Expected at least one type argument" else pure ()
  let _ ← expect .greater "'>' to close the type argument list"
  return arguments

/-- The canonical text of a type argument nested less than `depth` deep. -/
def typeArgWithin : Nat → Parse String
  | 0 => refuse "Expected a type name"
  | depth + 1 => do
    if ← accept .ampersand then
      let lifetime ← if ← peek .lifetime 0 then pure ((← advance).text ++ " ") else pure ""
      return "&" ++ lifetime ++ (← typeArgWithin depth)
    else if ← peek .lifetime 0 then
      return (← advance).text
    else if ← accept .leftBracket then
      let inner ← typeArgWithin depth
      let _ ← expect .rightBracket "']'"
      return "[" ++ inner ++ "]"
    else
      let name ← expect .name "a type name"
      let arguments ← if ← peek .less 0 then angled (typeArgWithin depth) else pure []
      return TypeName.text ⟨name.text, arguments⟩

/-- The canonical text of a type argument. -/
def typeArg : Parse String := do typeArgWithin ((← get).upcoming.length + 1)

/-- A list of type arguments. -/
def typeArgs : Parse (List String) := angled typeArg

/-- A type name, where `what` says what it is wanted for. -/
def reference (what : String) : Parse Reference := do
  let name ← expect .name what
  let arguments ← if ← peek .less 0 then typeArgs else pure []
  return ⟨⟨name.text, arguments⟩, name.span⟩

/-- The name of a state. -/
def state : Parse Reference := reference "a state name"

/-! ## 3. Transitions and messages -/

/-- A transition. -/
def edge : Parse Edge := do
  let first ← current
  let source ← state
  let _ ← expect .transitionArrow "'=>'"
  let destination ← state
  return ⟨source, destination, first.span⟩

/-- The arrow of a message. -/
def direction : Parse Direction := do
  if ← accept .pushArrow then return .push
  else if ← accept .pollArrow then return .poll
  else refuse "A direction must be specified with either '->' or '<-'"

/-- A message channel. -/
def message : Parse Message := do
  let first ← current
  let payload ← reference "a message type"
  let way ← direction
  let target ← state
  return ⟨payload, way, target, first.span⟩

/-! ## 4. Declarations -/

/-- What a fallible machine declares behind its transitions. -/
def failure : Parse FailureDecl := do
  let _ ← expect .comma "',' followed by the error type"
  let errorType ← reference "an error type"
  let _ ← expect .comma "',' followed by the error state"
  let errorState ← state
  return ⟨errorType, errorState⟩

/-- A machine, up to the token that ends its declaration. -/
def machine (fallible : Bool) (close : TokenKind) : Parse MachineDecl := do
  let name ← expect .name "the state machine name"
  let _ ← expect .comma "','"
  let initial ← state
  let _ ← expect .comma "','"
  let states ← bracketed state
  let _ ← expect .comma "','"
  let edges ← bracketed edge
  let failing ← if fallible then some <$> failure else pure none
  let _ ← accept .comma
  expectEnd close
  return ⟨name.text, initial, states, edges, failing, name.span⟩

/-- The message channels of a machine, up to the token that ends their declaration. -/
def messages (close : TokenKind) : Parse MessagesDecl := do
  let name ← expect .name "the state machine name"
  let _ ← expect .comma "','"
  let channels ← bracketed message
  let _ ← accept .comma
  expectEnd close
  return ⟨name.text, channels, name.span⟩

/-- The body that the given keyword introduces, up to the closing parenthesis. -/
def body (keyword : Token) : Parse Declaration :=
  if keyword.text = "machine" then .machine <$> machine false .rightParen
  else if keyword.text = "fallible_machine" then .machine <$> machine true .rightParen
  else if keyword.text = "messages" then .messages <$> messages .rightParen
  else throw ⟨.unknownDeclaration keyword.text, keyword.span⟩

/-- A declaration of a document: a keyword, a body in parentheses and perhaps a semicolon. -/
def declaration : Parse Declaration := do
  let keyword ← expect .name "'machine', 'fallible_machine' or 'messages'"
  let _ ← expect .leftParen "'('"
  let declared ← body keyword
  let _ ← expect .rightParen "')'"
  let _ ← accept .semicolon
  return declared

/-- The declarations up to the end of a text or the first fault, at most `bound` of them. -/
def declarationsWithin : Nat → TokenStream → List Declaration × Option ParseError
  | 0, _ => ([], none)
  | bound + 1, stream =>
    if stream.current.kind = .finish then ([], none)
    else
      match declaration.run stream with
      | (.error error, _) => ([], some error)
      | (.ok first, rest) =>
        let (others, error) := declarationsWithin bound rest
        (first :: others, error)

/-- The declarations of a text up to its end or its first fault. Each takes a token or more, so
    there are no more of them than tokens. -/
def declarations (stream : TokenStream) : List Declaration × Option ParseError :=
  declarationsWithin stream.upcoming.length stream

/-! ## 5. Whole texts -/

/-- Reads a whole text. -/
def text {α : Type} (production : Parse α) (source : String) : Except ParseError α :=
  match tokenize source with
  | .error error => .error error
  | .ok tokens => (production.run (.ofTokens tokens)).1

end MachineSpec.Parse

namespace MachineSpec

/-- The type name that a text consists of. -/
def Reference.ofText (source : String) : Except ParseError Reference :=
  Parse.text (do
    let reference ← Parse.state
    Parse.expectEnd .finish
    return reference) source

/-- The machine that a text declares. -/
def MachineDecl.ofText (fallible : Bool) (source : String) : Except ParseError MachineDecl :=
  Parse.text (Parse.machine fallible .finish) source

/-- The message channels that a text declares. -/
def MessagesDecl.ofText (source : String) : Except ParseError MessagesDecl :=
  Parse.text (Parse.messages .finish) source

end MachineSpec
