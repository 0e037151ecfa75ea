import Pasteboard.Proofs.Utf8

/-!
# Decoding is the converse of encoding

In each charset a code point that has octets is the first piece of these octets, whatever follows
them (`Charset.first_of_encodePoint`), and octets that are read as a code point are the octets of
that code point (`Charset.encodePoint_of_first`). So octets are read as a text exactly if they are
the octets of that text (`Charset.decode_eq_ok_iff`): in UTF-16 as in UTF-8, nothing is read from
surrogates that are no pair, from half a unit or from anything else that no text is written as.

Which texts have octets is a matter of their code points alone (`Charset.exists_encode_iff`).
-/

namespace Pasteboard

/-! ### UTF-16 -/

namespace Utf16

/-- A unit is read from its two octets. -/
theorem unit_unitBytes {n : Nat} (h : n < 0x10000) :
    unit (UInt8.ofNat (n % 256)) (UInt8.ofNat (n / 256)) = n := by
  have hlow : (UInt8.ofNat (n % 256)).toNat = n % 256 := Utf8.toNat_octet (by omega)
  have hhigh : (UInt8.ofNat (n / 256)).toNat = n / 256 := Utf8.toNat_octet (by omega)
  rw [unit, hlow, hhigh]
  omega

/-- Two octets are those of the unit that they are read as. -/
theorem unitBytes_unit (low high : UInt8) : unitBytes (unit low high) = [low, high] := by
  have hlow := low.toNat_lt
  have hmod : unit low high % 256 = low.toNat := by
    rw [unit]
    omega
  have hdiv : unit low high / 256 = high.toNat := by
    rw [unit]
    omega
  rw [unitBytes, hmod, hdiv, UInt8.ofNat_toNat, UInt8.ofNat_toNat]

theorem unit_lt (low high : UInt8) : unit low high < 0x10000 := by
  have hlow := low.toNat_lt
  have hhigh := high.toNat_lt
  rw [unit]
  omega

theorem pointOf_val {c : CodePoint} {n : Nat} (h : n = c.val) (size : Nat) :
    pointOf n size = .point c size := by
  subst h
  rw [pointOf, CodePoint.ofNat?, dif_pos c.val_lt]

theorem eq_of_pointOf {n size size' : Nat} {c : CodePoint}
    (h : pointOf n size = .point c size') : c.val = n ∧ size' = size := by
  rw [pointOf, CodePoint.ofNat?] at h
  split_ifs at h with hn
  · cases h
    exact ⟨rfl, rfl⟩

/-- **The octets of a code point are read as that code point**, be they one unit or two. -/
theorem first_of_encodePoint {c : CodePoint} {bs : Bytes} (h : encodePoint c = some bs) :
    ∃ b tail, bs = b :: tail ∧ ∀ rest, first b (tail ++ rest) = .point c (tail.length + 1) := by
  have hlt := c.val_lt
  rw [encodePoint] at h
  split_ifs at h with hs hone
  · -- one unit, and it is no surrogate
    rw [CodePoint.isSurrogate, decide_eq_true_eq] at hs
    cases h
    refine ⟨_, [_], rfl, fun rest => ?_⟩
    rw [List.singleton_append, first.eq_def]
    dsimp only
    rw [unit_unitBytes hone, if_pos (by omega)]
    exact pointOf_val rfl 2
  · -- a pair of surrogates, the high one first
    cases h
    have hhigh : 0xD800 + (c.val - 0x10000) / 1024 < 0xDC00 := by omega
    have hlow : 0xDC00 + (c.val - 0x10000) % 1024 < 0xE000 := by omega
    refine ⟨_, [_, _, _], rfl, fun rest => ?_⟩
    simp only [List.cons_append, List.nil_append]
    rw [first.eq_def]
    dsimp only
    rw [unit_unitBytes (by omega), unit_unitBytes (by omega), if_neg (by omega),
      if_neg (by omega), if_pos (by omega)]
    exact pointOf_val (by omega) 4

/-- **Octets that are read as a code point are the octets of that code point**, be they one unit or
two. -/
theorem encodePoint_of_first {b : UInt8} {rest : Bytes} {c : CodePoint} {size : Nat}
    (h : first b rest = .point c size) :
    ∃ tail more, rest = tail ++ more ∧ size = tail.length + 1 ∧
      encodePoint c = some (b :: tail) := by
  rcases rest with _ | ⟨b₁, rest⟩
  · cases h
  rw [first.eq_def] at h
  dsimp only at h
  have hunit := unit_lt b b₁
  split_ifs at h with hplain hstart
  · obtain ⟨hc, rfl⟩ := eq_of_pointOf h
    refine ⟨[b₁], rest, rfl, rfl, ?_⟩
    rw [encodePoint, Utf8.isSurrogate_eq_false (by omega), if_neg nofun, hc, if_pos hunit,
      unitBytes_unit]
  · rcases rest with _ | ⟨b₂, _ | ⟨b₃, rest⟩⟩
    · cases h
    · cases h
    dsimp only at h
    split_ifs at h with hpair
    obtain ⟨hc, rfl⟩ := eq_of_pointOf h
    -- the two surrogates give back the halves of the number
    have hhigh : 0xD800 + (c.val - 0x10000) / 1024 = unit b b₁ := by omega
    have hlow : 0xDC00 + (c.val - 0x10000) % 1024 = unit b₂ b₃ := by omega
    refine ⟨[b₁, b₂, b₃], rest, rfl, rfl, ?_⟩
    rw [encodePoint, Utf8.isSurrogate_eq_false (by omega), if_neg nofun, if_neg (by omega)]
    dsimp only
    rw [hhigh, hlow, unitBytes_unit, unitBytes_unit]
    rfl

end Utf16

namespace Charset

/-! ### Pieces -/

/-- The charset has the code point: the two forms of Unicode have all but surrogates, the others
have those up to a bound. -/
def Covers : Charset → CodePoint → Prop
  | utf8, c => c.isSurrogate = false
  | ascii, c => c.val < 128
  | latin1, c => c.val < 256
  | utf16le, c => c.isSurrogate = false

theorem exists_encodePoint_iff {cs : Charset} {c : CodePoint} :
    (∃ bs, cs.encodePoint c = some bs) ↔ cs.Covers c := by
  cases cs <;> simp only [Covers, encodePoint, Utf8.encodePoint, Utf16.encodePoint] <;>
    cases c.isSurrogate <;> split_ifs <;> simp_all

theorem ofByte_ofNat {c : CodePoint} (h : c.val < 256) :
    CodePoint.ofByte (UInt8.ofNat c.val) = c :=
  CodePoint.ext_val (Utf8.toNat_octet h)

/-- **The octets of a code point are read as that code point**, whatever follows them. -/
theorem first_of_encodePoint {cs : Charset} {c : CodePoint} {bs : Bytes}
    (h : cs.encodePoint c = some bs) :
    ∃ b tail, bs = b :: tail ∧
      ∀ rest, cs.first b (tail ++ rest) = .point c (tail.length + 1) := by
  cases cs with
  | utf8 => exact Utf8.first_of_encodePoint h
  | utf16le => exact Utf16.first_of_encodePoint h
  | ascii =>
    rw [encodePoint] at h
    split_ifs at h with hc
    cases h
    have hoctet : (UInt8.ofNat c.val).toNat = c.val := Utf8.toNat_octet (by omega)
    refine ⟨_, [], rfl, fun rest => ?_⟩
    rw [first, hoctet, if_pos hc, ofByte_ofNat (by omega)]
    rfl
  | latin1 =>
    rw [encodePoint] at h
    split_ifs at h with hc
    cases h
    refine ⟨_, [], rfl, fun rest => ?_⟩
    rw [first, ofByte_ofNat hc]
    rfl

/-- **Octets that are read as a code point are the octets of that code point.** -/
theorem encodePoint_of_first {cs : Charset} {b : UInt8} {rest : Bytes} {c : CodePoint} {size : Nat}
    (h : cs.first b rest = .point c size) :
    ∃ tail more, rest = tail ++ more ∧ size = tail.length + 1 ∧
      cs.encodePoint c = some (b :: tail) := by
  cases cs with
  | utf8 => exact Utf8.encodePoint_of_first h
  | utf16le => exact Utf16.encodePoint_of_first h
  | ascii =>
    rw [first] at h
    split_ifs at h with hb
    cases h
    refine ⟨[], rest, rfl, rfl, ?_⟩
    rw [encodePoint, CodePoint.val_ofByte, if_pos hb, UInt8.ofNat_toNat]
  | latin1 =>
    rw [first] at h
    cases h
    refine ⟨[], rest, rfl, rfl, ?_⟩
    rw [encodePoint, CodePoint.val_ofByte, if_pos b.toNat_lt, UInt8.ofNat_toNat]

/-! ### Texts -/

/-- A text has octets if each of its code points has, and they are those of the code points in a
row. -/
theorem encode_eq_ok_iff {cs : Charset} {t : Text} {bs : Bytes} :
    cs.encode t = .ok bs ↔
      (∀ c ∈ t, ∃ head, cs.encodePoint c = some head) ∧
        bs = t.flatMap fun c => (cs.encodePoint c).getD [] := by
  have hpoints : (t.findIdx? fun c => (cs.encodePoint c).isNone) = none ↔
      ∀ c ∈ t, ∃ head, cs.encodePoint c = some head := by
    rw [List.findIdx?_eq_none_iff]
    refine forall₂_congr fun c _ => ?_
    rw [← Option.isSome_iff_exists, Option.isNone_eq_false_iff]
  rw [encode, ← hpoints]
  split
  · next h =>
    rw [Except.ok.injEq, h]
    exact ⟨fun he => ⟨rfl, he.symm⟩, fun he => he.2.symm⟩
  · next i h =>
    rw [h]
    exact iff_of_false nofun fun he => nomatch he.1

/-- **A text has octets exactly if the charset has all its code points.** -/
theorem exists_encode_iff {cs : Charset} {t : Text} :
    (∃ bs, cs.encode t = .ok bs) ↔ ∀ c ∈ t, cs.Covers c := by
  simp only [encode_eq_ok_iff, exists_and_left, exists_eq, and_true, exists_encodePoint_iff]

theorem encode_nil (cs : Charset) : cs.encode [] = .ok [] := rfl

theorem encode_cons_eq_ok_iff {cs : Charset} {c : CodePoint} {t : Text} {bs : Bytes} :
    cs.encode (c :: t) = .ok bs ↔
      ∃ head tail, cs.encodePoint c = some head ∧ cs.encode t = .ok tail ∧ bs = head ++ tail := by
  simp only [encode_eq_ok_iff, List.forall_mem_cons, List.flatMap_cons]
  constructor
  · rintro ⟨⟨⟨head, hc⟩, ht⟩, rfl⟩
    exact ⟨head, _, hc, ⟨ht, rfl⟩, by rw [hc, Option.getD_some]⟩
  · rintro ⟨head, tail, hc, ⟨ht, rfl⟩, rfl⟩
    exact ⟨⟨⟨head, hc⟩, ht⟩, by rw [hc, Option.getD_some]⟩

/-- Octets that belong to the last code point are passed over. -/
theorem decodeFrom_skip (cs : Charset) (done : Text) (pos : Nat) (tail rest : Bytes) :
    cs.decodeFrom done pos tail.length (tail ++ rest) =
      cs.decodeFrom done (pos + tail.length) 0 rest := by
  induction tail generalizing pos with
  | nil => rfl
  | cons b tail ih =>
    rw [List.length_cons, List.cons_append, decodeFrom, ih, Nat.add_assoc, Nat.add_comm 1]

/-- Decoding goes over the octets of a text, whatever has been decoded before, by induction on the
text. -/
theorem decodeFrom_of_encode {cs : Charset} {t : Text} {bs : Bytes} (h : cs.encode t = .ok bs)
    (done : Text) (pos : Nat) : cs.decodeFrom done pos 0 bs = .ok (done.reverse ++ t) := by
  induction t generalizing bs done pos with
  | nil =>
    rw [encode_nil] at h
    cases h
    rw [decodeFrom, List.append_nil]
  | cons c t ih =>
    obtain ⟨head, more, hc, ht, rfl⟩ := encode_cons_eq_ok_iff.1 h
    obtain ⟨b, tail, rfl, hfirst⟩ := first_of_encodePoint hc
    rw [List.cons_append, decodeFrom, hfirst]
    dsimp only
    rw [Nat.add_sub_cancel, decodeFrom_skip, ih ht, List.reverse_cons, List.append_assoc]
    rfl

/-- What is decoded is what has been decoded before, and a text that the octets are those of, by
induction on the number of octets. -/
theorem encode_of_decodeFrom {cs : Charset} {done t : Text} {pos : Nat} {bs : Bytes}
    (h : cs.decodeFrom done pos 0 bs = .ok t) :
    ∃ u, t = done.reverse ++ u ∧ cs.encode u = .ok bs := by
  induction hn : bs.length using Nat.strongRecOn generalizing done pos bs with
  | ind n ih =>
    cases bs with
    | nil =>
      rw [decodeFrom] at h
      cases h
      exact ⟨[], (List.append_nil _).symm, encode_nil cs⟩
    | cons b rest =>
      rw [decodeFrom] at h
      split at h
      · next c size hpoint =>
        obtain ⟨tail, more, rfl, rfl, hc⟩ := encodePoint_of_first hpoint
        rw [Nat.add_sub_cancel, decodeFrom_skip] at h
        have hshorter : more.length < n := by
          rw [← hn, List.length_cons, List.length_append]
          omega
        obtain ⟨u, rfl, hu⟩ := ih _ hshorter h rfl
        refine ⟨c :: u, ?_, encode_cons_eq_ok_iff.2 ⟨b :: tail, more, hc, hu, rfl⟩⟩
        rw [List.reverse_cons, List.append_assoc]
        rfl
      · cases h

/-- **Decoding is the converse of encoding**: octets are read exactly as the text that they are the
octets of. -/
theorem decode_eq_ok_iff {cs : Charset} {t : Text} {bs : Bytes} :
    cs.decode bs = .ok t ↔ cs.encode t = .ok bs := by
  constructor
  · intro h
    obtain ⟨u, hu, hencode⟩ := encode_of_decodeFrom h
    rwa [hu]
  · intro h
    exact decodeFrom_of_encode h [] 0

/-! ### UTF-8 -/

/-- A text has octets in UTF-8 if it has no surrogates. -/
theorem encode_utf8_eq_ok_iff {t : Text} {bs : Bytes} :
    utf8.encode t = .ok bs ↔
      t.hasSurrogate = false ∧ bs = t.flatMap fun c => (utf8.encodePoint c).getD [] := by
  have hpoints : (∀ c ∈ t, utf8.Covers c) ↔ t.hasSurrogate = false := by
    rw [Text.hasSurrogate, List.any_eq_false]
    refine forall₂_congr fun c _ => ?_
    rw [Bool.not_eq_true, Covers]
  rw [encode_eq_ok_iff, ← hpoints]
  simp only [exists_encodePoint_iff]

/-- **A text without surrogates is what its UTF-8 octets decode to.** -/
theorem decode_utf8 {t : Text} (h : t.hasSurrogate = false) :
    utf8.decode (t.flatMap fun c => (utf8.encodePoint c).getD []) = .ok t :=
  decode_eq_ok_iff.2 (encode_utf8_eq_ok_iff.2 ⟨h, rfl⟩)

end Charset

end Pasteboard
