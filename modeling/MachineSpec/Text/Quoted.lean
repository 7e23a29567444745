/-
MachineSpec.Text.Quoted — a text between quotation marks, as messages show it.

The text stands between apostrophes, or between double quotes if it holds an
apostrophe and no double quote. Inside, the backslash and the delimiter get a
backslash in front, line feed, carriage return and tab are written `\n`, `\r`
and `\t`, and every other unprintable character is written by its number with
two, four or eight hexadecimal digits, the fewest that fit.
-/
import MachineSpec.Text.Unprintable

namespace MachineSpec.Text

/-! ## 1. Characters by their number -/

/-- The hexadecimal digit of a number below sixteen, in lower case. -/
def hexDigit (n : Nat) : Char := Char.ofNat (if n < 10 then 48 + n else 87 + n)

/-- The last `width` hexadecimal digits of a number, the most significant first. -/
def hexDigits : Nat → Nat → List Char
  | 0, _ => []
  | width + 1, n => hexDigits width (n / 16) ++ [hexDigit (n % 16)]

/-- A character by its number: the mark tells how many digits follow it. -/
def numbered (c : Char) : List Char :=
  if c.toNat < 0x100 then '\\' :: 'x' :: hexDigits 2 c.toNat
  else if c.toNat < 0x10000 then '\\' :: 'u' :: hexDigits 4 c.toNat
  else '\\' :: 'U' :: hexDigits 8 c.toNat

/-! ## 2. Quoting -/

/-- How one character is written between two delimiters. -/
def escaped (delimiter c : Char) : List Char :=
  if c = '\\' ∨ c = delimiter then ['\\', c]
  else if c = '\n' then ['\\', 'n']
  else if c = '\r' then ['\\', 'r']
  else if c = '\t' then ['\\', 't']
  else if isPrintable c then [c]
  else numbered c

/-- The delimiter of a text: the double quote only where it saves a backslash. -/
def delimiterOf (text : List Char) : Char :=
  if '\'' ∈ text ∧ '"' ∉ text then '"' else '\''

/-- A text between its delimiters. -/
def quoted (text : String) : String :=
  let delimiter := delimiterOf text.toList
  String.ofList (delimiter :: text.toList.flatMap (escaped delimiter) ++ [delimiter])

/-- Several texts in brackets, each between its own delimiters. -/
def quotedList (texts : List String) : String :=
  "[" ++ String.intercalate ", " (texts.map quoted) ++ "]"

end MachineSpec.Text
