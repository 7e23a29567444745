/-
MachineSpec.Token — positions in a specification text, tokens, and malformed texts.

Offsets, columns and lengths count characters; lines and columns begin at one.
A position is moved forward one character at a time by `Position.next`, which
is the only place that knows what a line feed does to lines and columns.
-/
import MachineSpec.Text.Quoted

namespace MachineSpec

/-! ## 1. Positions -/

/-- A place between two characters of a text. -/
structure Position where
  offset : Nat
  line : Nat
  column : Nat
deriving DecidableEq, Repr

/-- The place before the first character. -/
def Position.start : Position := ⟨0, 1, 1⟩

/-- The place after the character `c`. Only a line feed begins a new line. -/
def Position.next (here : Position) (c : Char) : Position :=
  if c = '\n' then ⟨here.offset + 1, here.line + 1, 1⟩
  else ⟨here.offset + 1, here.line, here.column + 1⟩

/-- The place after a stretch of text. -/
def Position.after (here : Position) (text : List Char) : Position := text.foldl Position.next here

/-- A stretch of text on one line: where it begins and how long it is. -/
structure Span extends Position where
  length : Nat
deriving DecidableEq, Repr

/-- The stretch of the given length that begins here. -/
def Position.span (here : Position) (length : Nat) : Span := ⟨here, length⟩

/-! ## 2. Tokens -/

/-- The kinds of tokens. `finish` stands for the end of the text and for nothing in it. -/
inductive TokenKind where
  | name
  | lifetime
  | comma
  | semicolon
  | leftBracket
  | rightBracket
  | leftParen
  | rightParen
  | less
  | greater
  | ampersand
  | transitionArrow
  | pushArrow
  | pollArrow
  | finish
deriving DecidableEq, Repr

/-- A token: its kind, the characters it consists of, and where they stand. -/
structure Token where
  kind : TokenKind
  text : String
  span : Span
deriving DecidableEq, Repr

/-! ## 3. Malformed texts -/

/-- What can be wrong with the form of a text. -/
inductive Malformation where
  /-- An apostrophe is not followed by the name of a lifetime. -/
  | lifetimeWithoutName
  /-- A character belongs to no token and separates none. -/
  | strayCharacter (c : Char)
  /-- Something else was wanted in place of the token found, or of the end of the text. -/
  | unexpected (wanted : String) (found : Option String)
  /-- A declaration begins with a word that introduces none. -/
  | unknownDeclaration (keyword : String)
deriving DecidableEq, Repr

/-- What is wrong, in words and without the place. -/
def Malformation.text : Malformation → String
  | .lifetimeWithoutName => "Expected a lifetime name after \"'\""
  | .strayCharacter c => "Unexpected character " ++ Text.quoted (String.singleton c)
  | .unexpected wanted found =>
    wanted ++ " but got " ++ (found.map Text.quoted).getD "end of input"
  | .unknownDeclaration keyword => "Unknown declaration " ++ Text.quoted keyword

/-- A malformed text: what is wrong and where. -/
structure ParseError where
  cause : Malformation
  span : Span
deriving DecidableEq, Repr

/-- A remark with the place it is about, if there is one. -/
def located (remark : String) : Option Span → String
  | none => remark
  | some place =>
    remark ++ " (line " ++ toString place.line ++ ", column " ++ toString place.column ++ ")"

/-- What is wrong and where, in words. -/
def ParseError.message (error : ParseError) : String := located error.cause.text (some error.span)

end MachineSpec
