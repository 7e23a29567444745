/-
MachineSpec.Token.Stream — reading tokens one after another.

A stream is what is left of a list of tokens, and how many were taken before.
Reading never goes back, and at the end it stays there: the token that stands
for the end can be looked at and even taken, but it is always still there.

A reader that fails leaves the stream where it stopped, so that a caller can
tell how far the text was in order.
-/
import MachineSpec.Token.Scan

namespace MachineSpec

/-- The tokens not taken yet, how many were taken, and where the text ends. -/
structure TokenStream where
  taken : Nat
  upcoming : List Token
  finish : Position
deriving DecidableEq, Repr

namespace TokenStream

/-- The stream of all tokens of a text. -/
def ofTokens (tokens : Tokens) : TokenStream := ⟨0, tokens.items, tokens.finish⟩

/-- The token `offset` places ahead, or the end if the stream is shorter. -/
def ahead (stream : TokenStream) (offset : Nat) : Token :=
  stream.upcoming[offset]?.getD ⟨.finish, "", stream.finish.span 0⟩

/-- The next token. -/
def current (stream : TokenStream) : Token := stream.ahead 0

/-- The stream after its next token. -/
def tail (stream : TokenStream) : TokenStream :=
  match stream.upcoming with
  | [] => stream
  | _ :: rest => { stream with taken := stream.taken + 1, upcoming := rest }

end TokenStream

/-- A reader of a part of a text: it takes tokens and gives a result or the first fault. -/
abbrev Parse := ExceptT ParseError (StateM TokenStream)

namespace Parse

/-- Looks at the next token. -/
def current : Parse Token := return (← get).current

/-- Whether the token `offset` places ahead is of the given kind. -/
def peek (kind : TokenKind) (offset : Nat) : Parse Bool := do
  let token := (← get).ahead offset
  return token.kind == kind

/-- Takes the next token. -/
def advance : Parse Token := do
  let token ← current
  modify TokenStream.tail
  return token

/-- Takes the next token if it is of the given kind, and tells whether it was. -/
def accept (kind : TokenKind) : Parse Bool := do
  if ← peek kind 0 then
    let _ ← advance
    return true
  else
    return false

/-- Refuses the next token, with a remark on what was wanted instead. -/
def refuse {α : Type} (wanted : String) : Parse α := do
  let token ← current
  let found := if token.kind = .finish then none else some token.text
  throw ⟨.unexpected wanted found, token.span⟩

/-- Takes the next token, which has to be of the given kind. -/
def expect (kind : TokenKind) (what : String) : Parse Token := do
  if ← peek kind 0 then advance else refuse ("Expected " ++ what)

/-- Checks that a declaration ends here, without taking what ends it. -/
def expectEnd (kind : TokenKind) : Parse Unit := do
  unless ← peek kind 0 do refuse "Expected end of declaration"

end Parse

end MachineSpec
