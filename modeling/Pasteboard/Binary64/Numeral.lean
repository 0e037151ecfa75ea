import Pasteboard.Binary64.Nearest
import Pasteboard.Text.Blank

/-!
# Numerals

A numeral is a sign, digits with at most one point among or around them, and an exponent; or a sign
and one of the words `inf`, `infinity` and `nan` in any case. `Numeral.read?` reads one that fills
the whole text, `readNumber?` one that may stand between blanks or have single underscores inside.
-/

namespace Pasteboard

/-- The number that a row of digits writes. -/
def digitsValue (digits : Text) : Nat :=
  digits.foldl (fun n c => 10 * n + (c.val - 48)) 0

/-- A decimal numeral: the digits before and behind the point, and the exponent. -/
structure Numeral where
  negative : Bool
  whole : Text
  fraction : Text
  exponent : Int

namespace Numeral

/-- The number nearest to what the numeral writes. -/
def value (n : Numeral) : Binary64 :=
  Binary64.ofDecimal n.negative (digitsValue (n.whole ++ n.fraction))
    (n.exponent - n.fraction.length)

/-- Splits a sign off a text; no sign counts as plus. -/
def takeSign : Text → Bool × Text
  | [] => (false, [])
  | c :: rest =>
    if c = CodePoint.ofChar '-' then (true, rest)
    else if c = CodePoint.ofChar '+' then (false, rest)
    else (false, c :: rest)

/-- The integer that a sign and digits write; there must be a digit and nothing else. -/
def readExponent? (t : Text) : Option Int :=
  let (negative, digits) := takeSign t
  if digits.isEmpty || !digits.all CodePoint.isDigit then none
  else
    let n : Int := digitsValue digits
    some (if negative then -n else n)

/-- The exponent that the rest of a numeral is: empty, or an `e` in either case and an integer. -/
def readTail? : Text → Option Int
  | [] => some 0
  | c :: rest =>
    if c = CodePoint.ofChar 'e' ∨ c = CodePoint.ofChar 'E' then readExponent? rest else none

/-- Reads a decimal numeral without its sign. -/
def readUnsigned? (negative : Bool) (t : Text) : Option Numeral :=
  let (whole, rest) := t.span CodePoint.isDigit
  let (fraction, rest) := match rest with
    | [] => ([], [])
    | c :: tail =>
      if c = CodePoint.ofChar '.' then tail.span CodePoint.isDigit else ([], c :: tail)
  if whole.isEmpty && fraction.isEmpty then none
  else (readTail? rest).map fun exponent => ⟨negative, whole, fraction, exponent⟩

/-- The number that a text writes: a decimal numeral or one of the words. -/
def read? (t : Text) : Option Binary64 :=
  let (negative, body) := takeSign t
  let word := body.toLowerAscii
  if word = Text.ofString "inf" ∨ word = Text.ofString "infinity" then some (.infinite negative)
  else if word = Text.ofString "nan" then some .nan
  else (readUnsigned? negative body).map value

end Numeral

/-- The text without its underscores, each of which must stand alone inside the text. -/
def withoutUnderscores? (t : Text) : Option Text :=
  let mark := CodePoint.ofChar '_'
  let parts := t.splitAt mark
  if parts.length < 2 || parts.any List.isEmpty then none else some parts.flatten

/-- The number that a text writes between blanks; or else with single underscores inside, where no
blanks are allowed. -/
def readNumber? (t : Text) : Option Binary64 :=
  match Numeral.read? (t.trim CodePoint.isBlank) with
  | some x => some x
  | none => (withoutUnderscores? t).bind Numeral.read?

end Pasteboard
