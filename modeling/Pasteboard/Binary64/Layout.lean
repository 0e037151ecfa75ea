import Pasteboard.Binary64.Digits
import Pasteboard.Text.CodePoint

/-!
# Layout of numbers

A layout says how digits become text: between which powers of ten a number is written without an
exponent, whether a whole number keeps a fraction, how an exponent is written, and the words for
what is not finite. Three layouts are in use: `display` in messages and answers, `document` in JSON,
and `brief`, with six digits, in the message about a command that took too long.
-/

namespace Pasteboard

/-- How a number is laid out. -/
structure NumberLayout where
  /-- The least power of ten of a first digit that is written without an exponent. -/
  plainFrom : Int
  /-- The first power of ten that is written with an exponent. -/
  plainBelow : Int
  /-- A whole number without an exponent ends in `.0`. -/
  keepsFraction : Bool
  /-- The least number of digits of an exponent. -/
  exponentDigits : Nat
  /-- The word for what is not a number. -/
  nan : Text
  /-- The word for an infinity. -/
  infinity : Text
  /-- A negative infinity has a minus sign. -/
  signsInfinity : Bool

namespace NumberLayout

/-- Plain from 0.0001 to below ten to the sixteenth, exponents of two digits. -/
def display : NumberLayout where
  plainFrom := -4
  plainBelow := 16
  keepsFraction := true
  exponentDigits := 2
  nan := "nan"
  infinity := "inf"
  signsInfinity := true

/-- Plain from 0.00001 to below ten to the sixteenth, exponents of one digit, no infinities. -/
def document : NumberLayout where
  plainFrom := -5
  plainBelow := 16
  keepsFraction := true
  exponentDigits := 1
  nan := "null"
  infinity := "null"
  signsInfinity := false

/-- Plain from 0.0001 to below a million, no fraction that says nothing. -/
def brief : NumberLayout where
  plainFrom := -4
  plainBelow := 6
  keepsFraction := false
  exponentDigits := 2
  nan := "nan"
  infinity := "inf"
  signsInfinity := true

end NumberLayout

/-- The digits without zeros at the end, and the exponent that makes up for them. -/
def Decimal.normal (d : Decimal) : List Char × Int :=
  let digits := Nat.toDigits 10 d.digits
  let kept := (digits.reverse.dropWhile (· == '0')).reverse
  if kept.isEmpty then (['0'], 0)
  else (kept, d.exponent + (digits.length - kept.length : Nat))

/-- A zero, `n` times. -/
def Decimal.zeros (n : Nat) : List Char := List.replicate n '0'

/-- A fraction behind a point; what a whole number shows there depends on the layout. -/
def Decimal.fractionPart (layout : NumberLayout) (digits : List Char) : List Char :=
  if digits.isEmpty then (if layout.keepsFraction then ['.', '0'] else []) else '.' :: digits

/-- The exponent: a sign and at least so many digits as the layout asks for. -/
def Decimal.exponentPart (layout : NumberLayout) (e : Int) : List Char :=
  let digits := Nat.toDigits 10 e.natAbs
  ['e', if e < 0 then '-' else '+'] ++ zeros (layout.exponentDigits - digits.length) ++ digits

/-- The text of a decimal number that is not negative. -/
def Decimal.render (layout : NumberLayout) (d : Decimal) : List Char :=
  let (digits, exponent) := d.normal
  let lead : Int := exponent + digits.length - 1
  if layout.plainFrom ≤ lead ∧ lead < layout.plainBelow then
    if lead < 0 then
      ['0', '.'] ++ zeros (-lead - 1).toNat ++ digits
    else
      let whole := (lead + 1).toNat
      digits.take whole ++ zeros (whole - digits.length) ++ fractionPart layout (digits.drop whole)
  else
    let fraction := digits.drop 1
    digits.take 1 ++ (if fraction.isEmpty then [] else '.' :: fraction) ++ exponentPart layout lead

namespace Binary64

/-- The text of a number in a layout, with the digits that `digits` chooses for a place. -/
def renderWith (layout : NumberLayout) (digits : Nat → Decimal) : Binary64 → Text
  | nan => layout.nan
  | infinite negative =>
    (if negative && layout.signsInfinity then "-" else "") ++ layout.infinity
  | finite negative place =>
    (if negative then "-" else "")
      ++ ((digits place.val).render layout).map CodePoint.ofChar

/-- The number as messages show it. -/
def display (x : Binary64) : Text := x.renderWith .display shortest

/-- The number as a JSON document holds it. -/
def document (x : Binary64) : Text := x.renderWith .document shortest

/-- The number with six significant digits. -/
def brief (x : Binary64) : Text := x.renderWith .brief (significant 6)

end Binary64

end Pasteboard
