/-
MachineSpec.Text.Words — the words of a text, and the text in capitalised words.

A word is a run of ASCII lower-case letters, which the capital just before it
opens; a run of capitals, which stops before a capital that opens a lower-case
run; or a run of digits. So `XMLFile2go` has the words `XML`, `File`, `2` and
`go`. Every other character, letters beyond ASCII included, only separates.

`words` decides at each character whether the next one belongs to the same
word. That needs two characters of lookahead and no state, so it is a plain
recursion on the text.
-/

namespace MachineSpec.Text

/-- Whether a character can stand in a word. -/
def isWordChar (c : Char) : Bool := c.isUpper || c.isLower || c.isDigit

/-- Whether the first character of `rest` belongs to the same word as the character before it. -/
def staysInWord (c : Char) (rest : List Char) : Bool :=
  match rest with
  | [] => false
  | d :: following =>
    if d.isLower then c.isUpper || c.isLower
    else if d.isUpper then c.isUpper && !(following.head?.any Char.isLower)
    else c.isDigit && d.isDigit

/-- The words of a text, from left to right. -/
def words : List Char → List (List Char)
  | [] => []
  | c :: rest =>
    if isWordChar c then
      match words rest with
      | [] => [[c]]
      | word :: others =>
        if staysInWord c rest then (c :: word) :: others else [c] :: word :: others
    else words rest

/-- A word with its first letter in upper case and the others in lower case. -/
def capitalized : List Char → List Char
  | [] => []
  | c :: rest => c.toUpper :: rest.map Char.toLower

/-- The capitalised words of a text, joined without a separator. -/
def pascalCase (text : String) : String :=
  String.ofList ((words text.toList).flatMap capitalized)

end MachineSpec.Text
