import Pasteboard.Text.Printable

/-!
# Quoted text

How a text is shown inside a message: between apostrophes, or between quotation marks if it holds an
apostrophe and no quotation mark. A backslash and the mark in use are escaped with a backslash, a
tab, line feed and carriage return have letters, and what is not printable is given by its number in
two, four or eight hexadecimal digits.
-/

namespace Pasteboard

namespace Text

/-- The mark around a quoted text: an apostrophe unless that would need escapes and a quotation mark
would not. -/
def quoteMark (t : Text) : CodePoint :=
  if t.contains (CodePoint.ofChar (Char.ofNat 39)) && !t.contains (CodePoint.ofChar '"') then
    CodePoint.ofChar '"'
  else CodePoint.ofChar (Char.ofNat 39)

/-- The number of a code point as an escape: two, four or eight digits, as few as it needs. -/
def escapeNumber (c : CodePoint) : Text :=
  if c.val ≤ 0xFF then "\\x" ++ hex 2 c.val
  else if c.val ≤ 0xFFFF then "\\u" ++ hex 4 c.val
  else "\\U" ++ hex 8 c.val

/-- One code point inside marks `mark`. -/
def quotePoint (mark c : CodePoint) : Text :=
  if c = mark ∨ c = CodePoint.ofChar '\\' then [CodePoint.ofChar '\\', c]
  else if c = CodePoint.ofChar '\t' then "\\t"
  else if c = CodePoint.ofChar '\n' then "\\n"
  else if c = CodePoint.ofChar '\r' then "\\r"
  else if c.isPrintable then [c]
  else escapeNumber c

/-- The text between marks, with escapes for what cannot stand there. -/
def quoted (t : Text) : Text :=
  let mark := t.quoteMark
  mark :: t.flatMap (quotePoint mark) ++ [mark]

end Text

end Pasteboard
