import Mathlib.Algebra.Order.Ring.Nat
import Mathlib.Data.Nat.Log
import Mathlib.Tactic.Ring
import Pasteboard.Binary64.Digits

/-!
# Rounding to binary64

What is rounded is a ratio, so equal ratios are rounded alike (`Binary64.nearestPlace_congr`), and a
magnitude that is there is rounded to itself (`Binary64.nearestPlace_units`). The bounds in
`Binary64.ofDecimal` only save work: it is the nearest number for every exponent
(`Binary64.ofDecimal_eq_nearest`), and digits and exponent may be traded against each other.

With this, whatever `Binary64.shortest` finds is read back as the magnitude that it was found for
(`Binary64.ofDecimal_shortest`): a form from the search because the search tests it, the exact form
because it is exact.
-/

namespace Pasteboard

/-! ### Rounding a ratio -/

theorem roundHalfEven_mul (n d : Nat) {c : Nat} (hc : 0 < c) :
    roundHalfEven (n * c) (d * c) = roundHalfEven n d := by
  have hlow : 2 * (n % d * c) < d * c ↔ 2 * (n % d) < d := by
    rw [← Nat.mul_assoc]
    exact Nat.mul_lt_mul_right hc
  have hhigh : d * c < 2 * (n % d * c) ↔ d < 2 * (n % d) := by
    rw [← Nat.mul_assoc]
    exact Nat.mul_lt_mul_right hc
  simp only [roundHalfEven, Nat.mul_div_mul_right _ _ hc, Nat.mul_mod_mul_right, hlow, hhigh]

/-- A whole quotient is not changed by rounding. -/
theorem roundHalfEven_of_mul (q : Nat) {d : Nat} (hd : 0 < d) : roundHalfEven (q * d) d = q := by
  simp only [roundHalfEven, Nat.mul_div_cancel _ hd, Nat.mul_mod_left, Nat.mul_zero, hd, if_true]

theorem roundHalfEven_of_lt {n d : Nat} (h : 2 * n < d) : roundHalfEven n d = 0 := by
  have hn : n < d := by omega
  simp only [roundHalfEven, Nat.div_eq_of_lt hn, Nat.mod_eq_of_lt hn, h, if_true]

/-- Rounding gives one of the two neighbours. -/
theorem roundHalfEven_cases (n d : Nat) :
    roundHalfEven n d = n / d ∨ roundHalfEven n d = n / d + 1 := by
  simp only [roundHalfEven]
  split_ifs <;> omega

namespace Binary64

theorem nearestPlace_mul (num den : Nat) {c : Nat} (hc : 0 < c) :
    nearestPlace (num * c) (den * c) = nearestPlace num den := by
  have hscaled : num * c * unitsPerOne = num * unitsPerOne * c := Nat.mul_right_comm _ _ _
  have hden : ∀ e, den * c * Nat.pow 2 e = den * Nat.pow 2 e * c := fun e =>
    Nat.mul_right_comm _ _ _
  simp only [nearestPlace, hscaled, hden, Nat.mul_div_mul_right _ _ hc, roundHalfEven_mul _ _ hc]

/-- Equal ratios are rounded alike. -/
theorem nearestPlace_congr {a b c d : Nat} (hb : 0 < b) (hd : 0 < d) (h : a * d = c * b) :
    nearestPlace a b = nearestPlace c d := by
  rw [← nearestPlace_mul a b hd, ← nearestPlace_mul c d hb, h, Nat.mul_comm b d]

theorem unitsPerOne_pos : 0 < unitsPerOne := by decide +kernel

theorem units_of_lt {place : Nat} (h : place < Nat.pow 2 52) : units place = place := by
  rw [units, significand, if_pos h, block, Nat.div_eq_of_lt h]
  exact Nat.mul_one place

/-- Beyond the subnormal places a magnitude has 53 binary digits in front of its block. -/
theorem log2_units {place : Nat} (h : Nat.pow 2 52 ≤ place) :
    Nat.log2 (units place) = 52 + block place := by
  have hpow : Nat.pow 2 52 = 2 ^ 52 := rfl
  have hsig : significand place = 2 ^ 52 + place % 2 ^ 52 := if_neg (Nat.not_lt.2 h)
  have hmod : place % 2 ^ 52 < 2 ^ 52 := Nat.mod_lt _ (by decide)
  have hblock : 0 < 2 ^ block place := Nat.pow_pos (by decide)
  have hunits : units place = significand place * 2 ^ block place := rfl
  have hlow : 2 ^ (52 + block place) ≤ units place := by
    rw [hunits, hsig, Nat.pow_add]
    exact Nat.mul_le_mul_right _ (Nat.le_add_right _ _)
  have hhigh : units place < 2 ^ (53 + block place) := by
    rw [hunits, hsig, Nat.pow_add]
    exact Nat.mul_lt_mul_of_pos_right (by omega) hblock
  have hne : units place ≠ 0 := by
    have : 0 < 2 ^ (52 + block place) := Nat.pow_pos (by decide)
    omega
  have h₁ := (Nat.le_log2 hne).2 hlow
  have h₂ := (Nat.log2_lt hne).2 hhigh
  omega

/-- **A magnitude is rounded to its own place.** -/
theorem nearestPlace_units (place : Nat) : nearestPlace (units place) unitsPerOne = place := by
  have hu := unitsPerOne_pos
  rw [nearestPlace]
  -- what matters of the number of units is that it is positive
  generalize unitsPerOne = u at *
  have hq : units place * u / u = units place := Nat.mul_div_cancel _ hu
  rw [hq]
  by_cases h : place < Nat.pow 2 52
  · have hlog : Nat.log2 (units place) - 52 = 0 := by
      rw [units_of_lt h]
      rcases Nat.eq_zero_or_pos place with rfl | hpos
      · rfl
      · have := (Nat.log2_lt hpos.ne').2 h
        omega
    have hone : u * Nat.pow 2 0 = u := Nat.mul_one _
    rw [hlog, hone, roundHalfEven_of_mul _ hu, Nat.zero_mul, Nat.zero_add,
      units_of_lt h]
  · have hle : Nat.pow 2 52 ≤ place := Nat.not_lt.1 h
    have hsig : significand place = Nat.pow 2 52 + place % Nat.pow 2 52 := if_neg h
    have hblock : 0 < u * Nat.pow 2 (block place) := Nat.mul_pos hu (Nat.pow_pos (by decide))
    rw [log2_units hle, Nat.add_sub_cancel_left, units, Nat.mul_assoc,
      Nat.mul_comm (Nat.pow 2 _) u, roundHalfEven_of_mul _ hblock, hsig, block,
      Nat.sub_mul]
    have hone := Nat.mul_le_mul_right (Nat.pow 2 52) ((Nat.one_le_div_iff (by decide)).2 hle)
    have hdiv := Nat.div_add_mod place (Nat.pow 2 52)
    rw [Nat.mul_comm (Nat.pow 2 52)] at hdiv
    omega

/-! ### Decimals -/

/-- A ratio below half of the least magnitude is rounded to zero. -/
theorem nearestPlace_eq_zero {num den : Nat} (h : 2 * (num * unitsPerOne) < den) :
    nearestPlace num den = 0 := by
  have hlt : num * unitsPerOne < den := by omega
  have hlog : Nat.log2 (num * unitsPerOne / den) - 52 = 0 := by
    rw [Nat.div_eq_of_lt hlt]
    rfl
  have hone : den * Nat.pow 2 0 = den := Nat.mul_one den
  rw [nearestPlace, hlog, hone, roundHalfEven_of_lt h, Nat.zero_mul]

/-- A ratio of at least two to the power 1025 is rounded to no finite magnitude. -/
theorem placeCount_le_nearestPlace {num den : Nat} (hd : 0 < den)
    (h : 2 ^ 2099 * den ≤ num * unitsPerOne) : placeCount ≤ nearestPlace num den := by
  have hquot : 2 ^ 2099 ≤ num * unitsPerOne / den := (Nat.le_div_iff_mul_le hd).2 h
  have hne : num * unitsPerOne / den ≠ 0 := fun hzero => by
    rw [hzero] at hquot
    exact absurd hquot (by decide +kernel)
  have hlog : 2047 ≤ Nat.log2 (num * unitsPerOne / den) - 52 := by
    have := (Nat.le_log2 hne).2 hquot
    omega
  rw [nearestPlace]
  exact (Nat.mul_le_mul_right _ hlog).trans (Nat.le_add_right _ _)

theorem ofPlace_of_le (negative : Bool) {place : Nat} (h : placeCount ≤ place) :
    ofPlace negative place = .infinite negative := dif_neg (Nat.not_lt.2 h)

/-- **The bounds on the exponent change nothing**: a decimal is the number nearest to it. -/
theorem ofDecimal_eq_nearest (negative : Bool) (digits : Nat) (exponent : Int) :
    ofDecimal negative digits exponent =
      nearest negative (digits * 10 ^ exponent.toNat) (10 ^ (-exponent).toNat) := by
  have hten : ∀ k, 0 < 10 ^ k := fun k => Nat.pow_pos (by decide)
  rw [ofDecimal]
  split_ifs with hzero hlarge hsmall hsign
  · -- no digits: zero either way
    rw [hzero, Nat.zero_mul, nearest, nearestPlace_eq_zero]
    rw [Nat.zero_mul]
    exact hten _
  · -- an exponent above the bound: already one digit is beyond all finite magnitudes
    have he : 401 ≤ exponent.toNat := by
      rw [exponentBound] at hlarge
      omega
    have hbig : 2 ^ 2099 ≤ 10 ^ 401 * unitsPerOne := by decide +kernel
    have hpow : 10 ^ 401 ≤ 10 ^ exponent.toNat := pow_le_pow_right₀ (by decide) he
    have hnum := hpow.trans (Nat.le_mul_of_pos_left _ (Nat.pos_of_ne_zero hzero))
    have hden : (10 ^ (-exponent).toNat : Nat) = 1 := by
      rw [show (-exponent).toNat = 0 by omega, Nat.pow_zero]
    rw [hden, nearest, ofPlace_of_le]
    refine placeCount_le_nearestPlace Nat.one_pos ?_
    rw [Nat.mul_one]
    exact hbig.trans (Nat.mul_le_mul_right _ hnum)
  · -- an exponent below the bound: all the digits stay below half of the least magnitude
    have he : 401 + (Nat.log2 digits + 1) ≤ (-exponent).toNat := by
      rw [exponentBound] at hsmall
      omega
    have hunits : 2 * unitsPerOne ≤ 10 ^ 401 := by decide +kernel
    have hdigits : digits < 10 ^ (Nat.log2 digits + 1) :=
      (Nat.lt_log2_self (n := digits)).trans_le (Nat.pow_le_pow_left (by decide) _)
    have hnum : (10 ^ exponent.toNat : Nat) = 1 := by
      rw [show exponent.toNat = 0 by omega, Nat.pow_zero]
    rw [hnum, Nat.mul_one, nearest, nearestPlace_eq_zero]
    calc 2 * (digits * unitsPerOne) = 2 * unitsPerOne * digits := by ring
      _ ≤ 10 ^ 401 * digits := Nat.mul_le_mul_right _ hunits
      _ < 10 ^ 401 * 10 ^ (Nat.log2 digits + 1) := Nat.mul_lt_mul_of_pos_left hdigits (hten _)
      _ = 10 ^ (401 + (Nat.log2 digits + 1)) := (pow_add _ _ _).symm
      _ ≤ 10 ^ (-exponent).toNat := Nat.pow_le_pow_right (by decide) he
  · rw [show (-exponent).toNat = 0 by omega, Nat.pow_zero]
    rfl
  · rw [show exponent.toNat = 0 by omega, Nat.pow_zero, Nat.mul_one]
    rfl

/-- Zeros at the end of the digits may be traded against the exponent. -/
theorem ofDecimal_mul_pow (negative : Bool) (digits k : Nat) (exponent : Int) :
    ofDecimal negative (digits * 10 ^ k) exponent = ofDecimal negative digits (exponent + k) := by
  have hten : ∀ k, 0 < 10 ^ k := fun k => Nat.pow_pos (by decide)
  rw [ofDecimal_eq_nearest, ofDecimal_eq_nearest, nearest, nearest,
    nearestPlace_congr (hten _) (hten _)]
  have hexp : k + exponent.toNat + (-(exponent + k)).toNat =
      (exponent + k).toNat + (-exponent).toNat := by omega
  rw [Nat.mul_assoc, Nat.mul_assoc, Nat.mul_assoc, ← Nat.pow_add, ← Nat.pow_add, ← Nat.pow_add,
    ← hexp, Nat.add_assoc]

/-! ### The shortest digits -/

/-- What the search finds on a grid is read back: it is one of the two neighbours that were
tested. -/
theorem readsBack_of_onGrid {place count : Nat} {d : Decimal} (h : onGrid? place count = some d) :
    readsBack place d = true := by
  unfold onGrid? at h
  extract_lets num exponent at h
  clear_value exponent
  generalize overPowerOfTen num unitsPerOne exponent = ratio at h
  obtain ⟨n, den⟩ := ratio
  dsimp only at h
  split at h
  · next hlow hhigh =>
    cases h
    rcases roundHalfEven_cases n den with hr | hr
    · rw [hr]
      exact hlow
    · rw [hr]
      exact hhigh
  · next hlow _ =>
    cases h
    exact hlow
  · next _ hhigh =>
    cases h
    exact hhigh
  · cases h

/-- A decimal that is a magnitude is rounded to its place. -/
theorem ofDecimal_of_exact (negative : Bool) (place : Nat) {c k : Nat}
    (h : 10 ^ k = unitsPerOne * c) :
    ofDecimal negative (units place * c) (-k) = ofPlace negative place := by
  have hc : 0 < c := by
    rcases Nat.eq_zero_or_pos c with rfl | hc
    · have : 0 < 10 ^ k := Nat.pow_pos (by decide)
      omega
    · exact hc
  rw [ofDecimal_eq_nearest, nearest, Int.neg_neg, Int.toNat_natCast, Int.toNat_neg_natCast,
    Nat.pow_zero, Nat.mul_one, h, nearestPlace_mul _ _ hc, nearestPlace_units]

theorem readsBack_shortest (place : Nat) : readsBack place (shortest place) = true := by
  rw [shortest]
  split_ifs with hzero
  · rw [hzero]
    rfl
  · rcases hfound : (List.range 17).findSome? fun i => onGrid? place (i + 1) with _ | d
    · -- nothing was found, so the digits are those of the magnitude itself
      exact decide_eq_true (ofDecimal_of_exact false place (by decide +kernel))
    · obtain ⟨i, -, hi⟩ := List.exists_of_findSome?_eq_some hfound
      exact readsBack_of_onGrid hi

/-- **The shortest digits of a number are read back as that number**, with either sign. -/
theorem ofDecimal_shortest (negative : Bool) (place : Fin placeCount) :
    ofDecimal negative (shortest place).digits (shortest place).exponent =
      .finite negative place := by
  have hread : ofDecimal false (shortest place).digits (shortest place).exponent =
      ofPlace false place := of_decide_eq_true (readsBack_shortest place)
  rw [ofDecimal_eq_nearest, nearest] at hread ⊢
  rw [ofPlace, ofPlace, dif_pos place.isLt] at hread
  split at hread
  · next h =>
    injection hread with _ hplace
    rw [ofPlace, dif_pos h, hplace]
  · cases hread

end Binary64

end Pasteboard
