import Pasteboard.Text.CodePoint

/-!
# Blanks

Two sets of blanks are in use. A numeral may stand between the code points of the Unicode property
`White_Space`; what a command says about its failure is trimmed of these and of the four information
separators U+001C to U+001F as well.
-/

namespace Pasteboard

namespace CodePoint

/-- The runs of code points with the Unicode property `White_Space`. -/
def blankRanges : List (Nat × Nat) :=
  [(0x9, 0xD), (0x20, 0x20), (0x85, 0x85), (0xA0, 0xA0), (0x1680, 0x1680), (0x2000, 0x200A),
   (0x2028, 0x2029), (0x202F, 0x202F), (0x205F, 0x205F), (0x3000, 0x3000)]

/-- The code point has the property `White_Space`. -/
def isBlank (c : CodePoint) : Bool :=
  blankRanges.any fun (first, last) => decide (first ≤ c.val ∧ c.val ≤ last)

/-- The code point is a blank or an information separator. -/
def isBlankOrSeparator (c : CodePoint) : Bool :=
  c.isBlank || decide (0x1C ≤ c.val ∧ c.val ≤ 0x1F)

end CodePoint

namespace Text

/-- The text without blanks and information separators at its ends. -/
def trimmed (t : Text) : Text := t.trim CodePoint.isBlankOrSeparator

/-- The text without one line end at its end: a carriage return and a line feed, or a line feed. -/
def withoutLineEnd (t : Text) : Text :=
  if t.endsWith "\r\n" then t.take (t.length - 2)
  else if t.endsWith "\n" then t.take (t.length - 1)
  else t

end Text

end Pasteboard
