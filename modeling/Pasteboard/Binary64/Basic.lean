/-!
# Binary64 numbers

A number of 64 bits as it is: not a number, infinite, or finite. The magnitude of a finite number is
its place in the increasing sequence of all magnitudes, which is also its bit pattern without the
sign: `0` is zero, the places below `2 ^ 52` are subnormal, and each block of `2 ^ 52` places has
twice the spacing of the one before. `units` is the magnitude in multiples of the least one,
`2 ^ (-1074)`, so every question about the value of a finite number is one about natural numbers.
-/

namespace Pasteboard

/-- The number of finite magnitudes. -/
def Binary64.placeCount : Nat := 2047 * Nat.pow 2 52

/-- A binary64 number; all patterns that are not a number count as one. -/
inductive Binary64
  | nan
  | infinite (negative : Bool)
  | finite (negative : Bool) (place : Fin Binary64.placeCount)
deriving DecidableEq

namespace Binary64

/-- The block of a place: the power of two between its spacing and the least one. -/
def block (place : Nat) : Nat := place / Nat.pow 2 52 - 1

/-- The magnitude at a place over the spacing there. -/
def significand (place : Nat) : Nat :=
  if place < Nat.pow 2 52 then place else Nat.pow 2 52 + place % Nat.pow 2 52

/-- The magnitude at a place, in multiples of `2 ^ (-1074)`. -/
def units (place : Nat) : Nat := significand place * Nat.pow 2 (block place)

/-- The number of the least magnitudes in one. -/
def unitsPerOne : Nat := Nat.pow 2 1074

/-- The number at a place; a place beyond the last one is an infinity. -/
def ofPlace (negative : Bool) (place : Nat) : Binary64 :=
  if h : place < placeCount then .finite negative ⟨place, h⟩ else .infinite negative

/-- Zero. -/
def zero : Binary64 := ofPlace false 0

/-- The number is above zero. -/
def isPositive : Binary64 → Bool
  | nan => false
  | infinite negative => !negative
  | finite negative place => !negative && decide (0 < place.val)

/-- The number is finite. -/
def isFinite : Binary64 → Bool
  | finite _ _ => true
  | _ => false

/-- The number is at most the natural number `n`. -/
def atMost (n : Nat) : Binary64 → Bool
  | nan => false
  | infinite negative => negative
  | finite negative place => negative || decide (units place.val ≤ n * unitsPerOne)

/-- Equality of numbers: both zeros are equal, and what is no number is equal to nothing. -/
def sameNumber : Binary64 → Binary64 → Bool
  | nan, _ => false
  | _, nan => false
  | infinite m, infinite n => m == n
  | finite m p, finite n q => decide (p = q) && (m == n || decide (p.val = 0))
  | _, _ => false

/-- The integer that a number is, if it is one. -/
def toInt? : Binary64 → Option Int
  | finite negative place =>
    let u := units place.val
    if u % unitsPerOne = 0 then
      let n : Int := (u / unitsPerOne : Nat)
      some (if negative then -n else n)
    else none
  | _ => none

end Binary64

end Pasteboard
