import Pasteboard.Binary64.Nearest

/-!
# Decimal digits of a binary64 number

A magnitude is written with digits on a grid of powers of ten. `shortest` takes the coarsest grid on
which one of the two neighbours of the magnitude is read back as that magnitude, and of two such
neighbours the nearer one, halfway the even one; the exact decimal expansion, which always reads
back, stands behind the search. `significant` rounds to a fixed number of digits.
-/

namespace Pasteboard

/-- A decimal number: digits and the power of ten of the last one. -/
structure Decimal where
  digits : Nat
  exponent : Int
deriving DecidableEq

/-- The number of decimal digits of a natural number; one for zero. -/
def digitCount (n : Nat) : Nat := (Nat.toDigits 10 n).length

namespace Binary64

/-- The power of ten above a positive ratio: `10 ^ (k - 1) ≤ num / den < 10 ^ k`. -/
def magnitudeExponent (num den : Nat) : Int :=
  if den ≤ num then digitCount (num / den)
  else 1 - (digitCount ((den - 1) / num) : Int)

/-- The ratio `num / den` over `10 ^ exponent`, as a ratio again. -/
def overPowerOfTen (num den : Nat) (exponent : Int) : Nat × Nat :=
  if 0 ≤ exponent then (num, den * Nat.pow 10 exponent.toNat)
  else (num * Nat.pow 10 (-exponent).toNat, den)

/-- The decimal is read back as the magnitude at `place`. -/
def readsBack (place : Nat) (d : Decimal) : Bool :=
  decide (ofDecimal false d.digits d.exponent = ofPlace false place)

/-- The shortest form of the magnitude at `place` with `count` digits, if there is one: of the two
neighbours on that grid the one that reads back, of two the nearer, of two as near the even one. -/
def onGrid? (place count : Nat) : Option Decimal :=
  let num := units place
  let exponent := magnitudeExponent num unitsPerOne - count
  let (n, d) := overPowerOfTen num unitsPerOne exponent
  let low : Decimal := ⟨n / d, exponent⟩
  let high : Decimal := ⟨n / d + 1, exponent⟩
  match readsBack place low, readsBack place high with
  | true, true => some ⟨roundHalfEven n d, exponent⟩
  | true, false => some low
  | false, true => some high
  | false, false => none

/-- The magnitude at `place` exactly, as every multiple of a power of one half can be written. -/
def exactDecimal (place : Nat) : Decimal := ⟨units place * Nat.pow 5 1074, -1074⟩

/-- The fewest digits that are read back as the magnitude at `place`. -/
def shortest (place : Nat) : Decimal :=
  if place = 0 then ⟨0, 0⟩
  else ((List.range 17).findSome? fun i => onGrid? place (i + 1)).getD (exactDecimal place)

/-- The magnitude at `place` rounded to `count` digits, a half to the even neighbour. -/
def significant (count place : Nat) : Decimal :=
  if place = 0 then ⟨0, 0⟩
  else
    let num := units place
    let exponent := magnitudeExponent num unitsPerOne - count
    let (n, d) := overPowerOfTen num unitsPerOne exponent
    ⟨roundHalfEven n d, exponent⟩

end Binary64

end Pasteboard
