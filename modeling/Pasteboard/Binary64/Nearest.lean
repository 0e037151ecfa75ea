import Pasteboard.Binary64.Basic

/-!
# The nearest binary64 number

`nearest` rounds a ratio of natural numbers to the nearest magnitude, a ratio halfway between two to
the one at the even place; from halfway between the last magnitude and the next power of two on, the
result is an infinity. `ofDecimal` does this for a decimal numeral of any length and exponent.
-/

namespace Pasteboard

/-- The quotient rounded to the nearest natural number, a half to the even neighbour. -/
def roundHalfEven (n d : Nat) : Nat :=
  let q := n / d
  let r := n % d
  if 2 * r < d then q
  else if d < 2 * r then q + 1
  else q + q % 2

namespace Binary64

/-- The place of the magnitude nearest to `num / den`, of two the even one; `placeCount` and above
stand for what is too large. -/
def nearestPlace (num den : Nat) : Nat :=
  let scaled := num * unitsPerOne
  let excess := Nat.log2 (scaled / den) - 52
  excess * Nat.pow 2 52 + roundHalfEven scaled (den * Nat.pow 2 excess)

/-- The number nearest to `num / den`, with a sign. -/
def nearest (negative : Bool) (num den : Nat) : Binary64 :=
  ofPlace negative (nearestPlace num den)

/-- Decimal exponents beyond this bound, above or below, give an infinity or zero. -/
def exponentBound : Nat := 400

/-- The number nearest to `digits * 10 ^ exponent`, with a sign. Exponents far out are settled by
their size: `digits` is below `10 ^ (log2 digits + 1)`. -/
def ofDecimal (negative : Bool) (digits : Nat) (exponent : Int) : Binary64 :=
  if digits = 0 then ofPlace negative 0
  else if (exponentBound : Int) < exponent then .infinite negative
  else if exponent < -((exponentBound + Nat.log2 digits + 1 : Nat) : Int) then ofPlace negative 0
  else if 0 ≤ exponent then nearest negative (digits * Nat.pow 10 exponent.toNat) 1
  else nearest negative digits (Nat.pow 10 (-exponent).toNat)

/-- The number nearest to an integer. -/
def ofInt (i : Int) : Binary64 := nearest (decide (i < 0)) i.natAbs 1

/-- The number nearest to an integer, unless that would be infinite. -/
def ofInt? (i : Int) : Option Binary64 :=
  if (ofInt i).isFinite then some (ofInt i) else none

end Binary64

end Pasteboard
