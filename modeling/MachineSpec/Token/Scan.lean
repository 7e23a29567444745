/-
MachineSpec.Token.Scan — the tokens of a text.

Blanks separate tokens and mean nothing else; so do comments, which run from
`#` or `//` to the end of the line. Everything between is cut into lexemes:
punctuation, arrows, lifetimes such as `'a`, and names such as `Foo`,
`pkg.Foo` or `pkg::Foo`.

## How the scanner goes

`scan` walks the text one character at a time and remembers only what the
character before it left open: a comment, or a number of characters that still
belong to the current token. A token is delivered at its first character, where
`lexeme?` tells its kind and how many further characters it takes. The recursion
is on the text itself, so there is no measure to maintain and no bound to
exhaust.
-/
import MachineSpec.Token
import MachineSpec.Text.Numeral
import MachineSpec.Text.Blank

namespace MachineSpec

open Text

/-! ## 1. Names -/

/-- Whether a character can begin a word of a name. -/
def isNameStart (c : Char) : Bool := isLetter c || c == '_'

/-- Whether a character can go on with a word of a name. -/
def isNamePart (c : Char) : Bool := isAlphanumeric c || c == '_'

/-- How many characters after the first one still belong to a name. A separator belongs to it only
    if a new word begins right behind: the dot, the colon and the double colon join words. -/
def nameTail : List Char → Nat
  | [] => 0
  | [c] => if isNamePart c then 1 else 0
  | c :: d :: rest =>
    if isNamePart c then nameTail (d :: rest) + 1
    else if (c == '.' || c == ':') && isNameStart d then nameTail (d :: rest) + 1
    else if c == ':' && d == ':' && rest.head?.any isNameStart then nameTail rest + 2
    else 0

/-! ## 2. Lexemes -/

/-- The kind of a token that consists of the one character `c`, whatever follows it. -/
def punctuation? : Char → Option TokenKind
  | ',' => some .comma
  | ';' => some .semicolon
  | '[' => some .leftBracket
  | ']' => some .rightBracket
  | '(' => some .leftParen
  | ')' => some .rightParen
  | '<' => some .less
  | '>' => some .greater
  | '&' => some .ampersand
  | _ => none

/-- The kind of the arrow written by the two characters `c` and `d`. -/
def arrow? : Char → Char → Option TokenKind
  | '=', '>' => some .transitionArrow
  | '-', '>' => some .pushArrow
  | '<', '-' => some .pollArrow
  | _, _ => none

/-- The lexeme that begins with `c`: its kind, and how many characters of `rest` it takes. An arrow
    goes before the punctuation it begins with. -/
def lexeme? (c : Char) (rest : List Char) : Except Malformation (TokenKind × Nat) :=
  match rest.head?.bind (arrow? c) with
  | some kind => .ok (kind, 1)
  | none =>
    match punctuation? c with
    | some kind => .ok (kind, 0)
    | none =>
      if c = '\'' then
        match (rest.takeWhile isNamePart).length with
        | 0 => .error .lifetimeWithoutName
        | length => .ok (.lifetime, length)
      else if isNameStart c then .ok (.name, nameTail rest)
      else .error (.strayCharacter c)

/-! ## 3. The scan -/

/-- Whether a comment begins with `c`. -/
def opensComment (c : Char) (rest : List Char) : Bool :=
  c == '#' || (c == '/' && rest.head? == some '/')

/-- What is left open in front of the next character. -/
inductive Pending where
  /-- A comment, which lasts to the end of the line. -/
  | comment
  /-- A token to which this many more characters belong; none if a new one may begin. -/
  | lexeme (left : Nat)
deriving DecidableEq, Repr

/-- The tokens of a text, and where it ends. -/
structure Tokens where
  items : List Token
  finish : Position
deriving DecidableEq, Repr

/-- The token that stands for the end. -/
def Tokens.last (tokens : Tokens) : Token := ⟨.finish, "", tokens.finish.span 0⟩

/-- All tokens, closed by the one that stands for the end. -/
def Tokens.all (tokens : Tokens) : List Token := tokens.items ++ [tokens.last]

/-- The tokens of the rest of a text. -/
def scan : Pending → Position → List Char → Except ParseError Tokens
  | _, here, [] => .ok ⟨[], here⟩
  | .comment, here, c :: rest =>
    scan (if c = '\n' then .lexeme 0 else .comment) (here.next c) rest
  | .lexeme (left + 1), here, c :: rest => scan (.lexeme left) (here.next c) rest
  | .lexeme 0, here, c :: rest =>
    if isBlank c then scan (.lexeme 0) (here.next c) rest
    else if opensComment c rest then scan .comment (here.next c) rest
    else
      match lexeme? c rest with
      | .error cause => .error ⟨cause, here.span 1⟩
      | .ok (kind, more) =>
        match scan (.lexeme more) (here.next c) rest with
        | .error error => .error error
        | .ok tokens =>
          let token := ⟨kind, String.ofList (c :: rest.take more), here.span (more + 1)⟩
          .ok ⟨token :: tokens.items, tokens.finish⟩

/-- The tokens of a text. -/
def tokenize (text : String) : Except ParseError Tokens :=
  scan (.lexeme 0) .start text.toList

end MachineSpec
