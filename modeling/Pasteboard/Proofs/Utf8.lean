import Mathlib.Tactic.Common
import Pasteboard.Charset.Codec

/-!
# Code points in UTF-8

A code point that has octets is the first piece of these octets, whatever follows them
(`Utf8.first_of_encodePoint`). The other way round, octets that are read as a code point are the
octets of that code point (`Utf8.encodePoint_of_first`), so nothing else is decoded: overlong forms,
encoded surrogates and pieces of code points are refused.
-/

namespace Pasteboard

namespace Utf8

theorem toNat_octet {n : Nat} (h : n < 256) : (octet n).toNat = n := by
  rw [octet, UInt8.toNat_ofNat', Nat.mod_eq_of_lt h]

/-- A test for a given first octet is one of its number. -/
theorem octet_eq_iff {n k : Nat} (h : n < 256) (hk : k < 256) :
    octet n = UInt8.ofNat k ↔ n = k := by
  rw [← UInt8.toNat_inj, toNat_octet h]
  exact iff_of_eq (congrArg (n = ·) (toNat_octet hk))

/-- What a continuation octet carries. -/
theorem payload_octet (n : Nat) : payload (octet (0x80 + n % 64)) = n % 64 := by
  have h : (octet (0x80 + n % 64)).toNat = 0x80 + n % 64 := toNat_octet (by omega)
  unfold payload
  omega

theorem isContinuation_octet (n : Nat) : isContinuation (octet (0x80 + n % 64)) = true := by
  rw [isContinuation, toNat_octet (by omega), decide_eq_true_eq]
  omega

/-- The second octet of three may follow the first one, as the code point needs three and is no
surrogate. -/
theorem mayFollow_of_three {n : Nat} (hlow : 0x800 ≤ n) (hhigh : n < 0x10000)
    (hs : ¬ (0xD800 ≤ n ∧ n ≤ 0xDFFF)) :
    mayFollow (octet (0xE0 + n / 4096)) (octet (0x80 + n / 64 % 64)) = true := by
  have hlead : ∀ k, k < 256 → (octet (0xE0 + n / 4096) = UInt8.ofNat k ↔ 0xE0 + n / 4096 = k) :=
    fun k hk => octet_eq_iff (by omega) hk
  have h₁ := hlead 0xE0 (by omega)
  have h₂ := hlead 0xED (by omega)
  have h₃ := hlead 0xF0 (by omega)
  have h₄ := hlead 0xF4 (by omega)
  rw [mayFollow, isContinuation_octet, toNat_octet (by omega : 0x80 + n / 64 % 64 < 256)]
  split_ifs with ha hb hc hd
  · have := h₁.1 ha
    rw [decide_eq_true_eq]
    omega
  · have := h₂.1 hb
    rw [decide_eq_true_eq]
    omega
  · have := h₃.1 hc
    omega
  · have := h₄.1 hd
    omega
  · rfl

/-- The second octet of four may follow the first one, as the code point needs four. -/
theorem mayFollow_of_four {n : Nat} (hlow : 0x10000 ≤ n) (hhigh : n < 0x110000) :
    mayFollow (octet (0xF0 + n / 262144)) (octet (0x80 + n / 4096 % 64)) = true := by
  have hlead : ∀ k, k < 256 → (octet (0xF0 + n / 262144) = UInt8.ofNat k ↔ 0xF0 + n / 262144 = k) :=
    fun k hk => octet_eq_iff (by omega) hk
  have h₁ := hlead 0xE0 (by omega)
  have h₂ := hlead 0xED (by omega)
  have h₃ := hlead 0xF0 (by omega)
  have h₄ := hlead 0xF4 (by omega)
  rw [mayFollow, isContinuation_octet, toNat_octet (by omega : 0x80 + n / 4096 % 64 < 256)]
  split_ifs with ha hb hc hd
  · have := h₁.1 ha
    omega
  · have := h₂.1 hb
    omega
  · have := h₃.1 hc
    rw [decide_eq_true_eq]
    omega
  · have := h₄.1 hd
    rw [decide_eq_true_eq]
    omega
  · rfl

theorem pointOf_val {c : CodePoint} {n : Nat} (h : n = c.val) (size : Nat) :
    pointOf n size = .point c size := by
  subst h
  rw [pointOf, CodePoint.ofNat?, dif_pos c.val_lt]

/-- **The octets of a code point are read as that code point**, by the number of octets. -/
theorem first_of_encodePoint {c : CodePoint} {bs : Bytes} (h : encodePoint c = some bs) :
    ∃ b tail, bs = b :: tail ∧ ∀ rest, first b (tail ++ rest) = .point c (tail.length + 1) := by
  have hlt := c.val_lt
  rw [encodePoint] at h
  -- one to four octets, by the size of the code point
  split_ifs at h with hs h₁ h₂ h₃
  · cases h
    refine ⟨_, [], rfl, fun rest => ?_⟩
    rw [first.eq_def, toNat_octet (by omega), if_pos h₁]
    exact pointOf_val rfl 1
  · cases h
    refine ⟨_, _, rfl, fun rest => ?_⟩
    rw [first.eq_def, toNat_octet (by omega), if_neg (by omega), if_neg (by omega),
      if_pos (by omega)]
    simp only [List.cons_append, List.nil_append, isContinuation_octet, if_true, payload_octet]
    exact pointOf_val (by omega) 2
  · cases h
    rw [CodePoint.isSurrogate, decide_eq_true_eq] at hs
    refine ⟨_, _, rfl, fun rest => ?_⟩
    rw [first.eq_def, toNat_octet (by omega), if_neg (by omega), if_neg (by omega),
      if_neg (by omega), if_pos (by omega)]
    simp only [List.cons_append, List.nil_append, mayFollow_of_three (Nat.not_lt.1 h₂) h₃ hs,
      isContinuation_octet, if_true, payload_octet, Bool.not_true, Bool.false_eq_true, if_false]
    exact pointOf_val (by omega) 3
  · cases h
    refine ⟨_, _, rfl, fun rest => ?_⟩
    rw [first.eq_def, toNat_octet (by omega), if_neg (by omega), if_neg (by omega),
      if_neg (by omega), if_neg (by omega), if_pos (by omega)]
    simp only [List.cons_append, List.nil_append, mayFollow_of_four (Nat.not_lt.1 h₃) hlt,
      isContinuation_octet, if_true, payload_octet, Bool.not_true, Bool.false_eq_true, if_false]
    exact pointOf_val (by omega) 4

/-! ### Only the octets of code points are read -/

theorem isSurrogate_eq_false {c : CodePoint} (h : ¬ (0xD800 ≤ c.val ∧ c.val ≤ 0xDFFF)) :
    c.isSurrogate = false := decide_eq_false h

theorem octet_toNat (b : UInt8) {n : Nat} (h : n = b.toNat) : octet n = b := by
  rw [h, octet, UInt8.ofNat_toNat]

/-- What a continuation octet carries, and that it is all that the octet says. -/
theorem isContinuation_iff {b : UInt8} :
    isContinuation b = true ↔ b.toNat = 0x80 + payload b ∧ payload b < 64 := by
  rw [isContinuation, decide_eq_true_eq]
  unfold payload
  omega

/-- An octet that may follow is a continuation octet; after four of the first octets it is one from
a part of their range. -/
theorem payload_of_mayFollow {lead b : UInt8} (h : mayFollow lead b = true) :
    b.toNat = 0x80 + payload b ∧ payload b < 64 ∧ (lead.toNat = 0xE0 → 0x20 ≤ payload b) ∧
      (lead.toNat = 0xED → payload b < 0x20) ∧ (lead.toNat = 0xF0 → 0x10 ≤ payload b) ∧
      (lead.toNat = 0xF4 → payload b < 0x10) := by
  have hnum : ∀ k : Nat, k < 256 → (lead = UInt8.ofNat k ↔ lead.toNat = k) := by
    intro k hk
    rw [← UInt8.toNat_inj, UInt8.toNat_ofNat', Nat.mod_eq_of_lt hk]
  have h₁ := hnum 0xE0 (by omega)
  have h₂ := hnum 0xED (by omega)
  have h₃ := hnum 0xF0 (by omega)
  have h₄ := hnum 0xF4 (by omega)
  rw [mayFollow] at h
  unfold payload
  split_ifs at h with ha hb hc hd
  · have := h₁.1 ha
    rw [decide_eq_true_eq] at h
    omega
  · have := h₂.1 hb
    rw [decide_eq_true_eq] at h
    omega
  · have := h₃.1 hc
    rw [decide_eq_true_eq] at h
    omega
  · have := h₄.1 hd
    rw [decide_eq_true_eq] at h
    omega
  · rw [isContinuation, decide_eq_true_eq] at h
    have := mt h₁.2 ha
    have := mt h₂.2 hb
    have := mt h₃.2 hc
    have := mt h₄.2 hd
    omega

/-- What is read as a code point with number `n`. -/
theorem eq_of_pointOf {n size size' : Nat} {c : CodePoint}
    (h : pointOf n size = .point c size') : c.val = n ∧ size' = size := by
  rw [pointOf, CodePoint.ofNat?] at h
  split_ifs at h with hn
  · cases h
    exact ⟨rfl, rfl⟩

/-- **Octets that are read as a code point are the octets of that code point**, by the number of
octets. -/
theorem encodePoint_of_first {b : UInt8} {rest : Bytes} {c : CodePoint} {size : Nat}
    (h : first b rest = .point c size) :
    ∃ tail more, rest = tail ++ more ∧ size = tail.length + 1 ∧
      encodePoint c = some (b :: tail) := by
  rw [first.eq_def] at h
  dsimp only at h
  split_ifs at h with h₁ h₂ h₃ h₄ h₅
  · obtain ⟨hc, rfl⟩ := eq_of_pointOf h
    refine ⟨[], rest, rfl, rfl, ?_⟩
    rw [encodePoint, isSurrogate_eq_false (by omega), if_neg nofun, hc, if_pos h₁,
      octet_toNat b rfl]
  · rcases rest with _ | ⟨b₁, rest⟩
    · cases h
    dsimp only at h
    split_ifs at h with hb₁
    obtain ⟨hc, rfl⟩ := eq_of_pointOf h
    obtain ⟨hn₁, hp₁⟩ := isContinuation_iff.1 hb₁
    refine ⟨[b₁], rest, rfl, rfl, ?_⟩
    rw [encodePoint, isSurrogate_eq_false (by omega), if_neg nofun, if_neg (by omega),
      if_pos (by omega), octet_toNat b (by omega), octet_toNat b₁ (by omega)]
  · rcases rest with _ | ⟨b₁, rest⟩
    · cases h
    dsimp only at h
    split_ifs at h with hb₁
    rcases rest with _ | ⟨b₂, rest⟩
    · cases h
    dsimp only at h
    split_ifs at h with hb₂
    obtain ⟨hc, rfl⟩ := eq_of_pointOf h
    -- the second octet is in its range, so the number needs three octets and is no surrogate
    rw [Bool.not_eq_true, Bool.not_eq_false'] at hb₁
    obtain ⟨hn₁, hp₁, hlow, hhigh, -, -⟩ := payload_of_mayFollow hb₁
    obtain ⟨hn₂, hp₂⟩ := isContinuation_iff.1 hb₂
    refine ⟨[b₁, b₂], rest, rfl, rfl, ?_⟩
    rw [encodePoint, isSurrogate_eq_false (by omega), if_neg nofun, if_neg (by omega),
      if_neg (by omega), if_pos (by omega), octet_toNat b (by omega), octet_toNat b₁ (by omega),
      octet_toNat b₂ (by omega)]
  · rcases rest with _ | ⟨b₁, rest⟩
    · cases h
    dsimp only at h
    split_ifs at h with hb₁
    rcases rest with _ | ⟨b₂, rest⟩
    · cases h
    dsimp only at h
    split_ifs at h with hb₂
    rcases rest with _ | ⟨b₃, rest⟩
    · cases h
    dsimp only at h
    split_ifs at h with hb₃
    obtain ⟨hc, rfl⟩ := eq_of_pointOf h
    -- likewise the number needs four octets and is that of a code point
    rw [Bool.not_eq_true, Bool.not_eq_false'] at hb₁ hb₂
    obtain ⟨hn₁, hp₁, -, -, hlow, hhigh⟩ := payload_of_mayFollow hb₁
    obtain ⟨hn₂, hp₂⟩ := isContinuation_iff.1 hb₂
    obtain ⟨hn₃, hp₃⟩ := isContinuation_iff.1 hb₃
    refine ⟨[b₁, b₂, b₃], rest, rfl, rfl, ?_⟩
    rw [encodePoint, isSurrogate_eq_false (by omega), if_neg nofun, if_neg (by omega),
      if_neg (by omega), if_neg (by omega), octet_toNat b (by omega), octet_toNat b₁ (by omega),
      octet_toNat b₂ (by omega), octet_toNat b₃ (by omega)]

end Utf8

end Pasteboard
