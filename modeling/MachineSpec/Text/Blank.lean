/-
MachineSpec.Text.Blank — the characters that separate tokens and mean nothing.

A blank has the bidirectional class WS, B or S, or the general category Zs, in
version 14 of the Unicode character database. The information separators
U+001C to U+001F and the next-line character U+0085 are blank by this rule; the
zero-width space U+200B is not.
-/
import MachineSpec.Text.Interval

namespace MachineSpec.Text

/-- The blank characters, as ascending intervals of code points. -/
def blanks : List Interval :=
  [(0x9, 0xd), (0x1c, 0x20), (0x85, 0x85), (0xa0, 0xa0), (0x1680, 0x1680), (0x2000, 0x200a),
   (0x2028, 0x2029), (0x202f, 0x202f), (0x205f, 0x205f), (0x3000, 0x3000)]

/-- Whether a character is blank. -/
def isBlank (c : Char) : Bool := covers blanks c.toNat

end MachineSpec.Text
