import Mathlib.Data.List.TakeDrop
import Mathlib.Data.List.TakeWhile
import Mathlib.Tactic.Common
import Pasteboard.Proofs.Grammar

/-!
# Reading what holds no other value

The readers of numbers, strings and words are compared with the grammar of documents, part by part
and in both directions. A reader gives only what is written, and it gives everything that is written
if what comes behind it is no more of a number. Together this says of strings that reading is the
same as the grammar (`readString?_eq_some_iff`), and it is put together for whatever holds no other
value in `SpellsScalar.read` and `spellsScalar_of_read`.
-/

namespace Pasteboard.Json

/-! ### Marks and words -/

theorem dropMark?_of_head?_ne {mark : Char} {t : Text}
    (h : t.head? ≠ some (CodePoint.ofChar mark)) : dropMark? mark t = none := by
  cases t with
  | nil => rfl
  | cons c rest => exact if_neg fun hc => h (congrArg some hc)

@[simp] theorem dropMark?_cons (mark : Char) (rest : Text) :
    dropMark? mark (CodePoint.ofChar mark :: rest) = some rest := if_pos rfl

/-- A word is not there if the text starts otherwise. -/
theorem dropWord?_of_ne {word : String} {first c : CodePoint} {w : Text}
    (hw : Text.ofString word = first :: w) (hne : first ≠ c) (tail : Text) :
    dropWord? word (c :: tail) = none := by
  rw [dropWord?, hw]
  exact if_neg (by simp [List.isPrefixOf, hne])

theorem dropMark?_eq_some_iff {mark : Char} {t rest : Text} :
    dropMark? mark t = some rest ↔ t = CodePoint.ofChar mark :: rest := by
  constructor
  · intro h
    cases t with
    | nil => cases h
    | cons c tail =>
      rw [dropMark?] at h
      split_ifs at h with hc
      cases h
      rw [hc]
  · rintro rfl
    exact dropMark?_cons mark rest

theorem dropWord?_eq_some_iff {word : String} {t rest : Text} :
    dropWord? word t = some rest ↔ t = Text.ofString word ++ rest := by
  rw [dropWord?]
  constructor
  · intro h
    split_ifs at h with hprefix
    obtain ⟨tail, rfl⟩ := List.isPrefixOf_iff_prefix.1 hprefix
    rw [List.drop_left] at h
    rw [Option.some.inj h]
  · rintro rfl
    rw [if_pos (List.isPrefixOf_iff_prefix.2 (List.prefix_append _ _)), List.drop_left]

/-! ### Numbers -/

/-- The text does not go on with the digit of a number. -/
def StopsDigits (rest : Text) : Prop := ∀ c ∈ rest.head?, c.isDigit = false

/-- The text does not go on with a part of a number. -/
def StopsNumber (rest : Text) : Prop :=
  StopsDigits rest ∧ ∀ c ∈ ['.', 'e', 'E'], rest.head? ≠ some (CodePoint.ofChar c)

theorem stopsDigits_of_isDigit {c : CodePoint} (hc : c.isDigit = false) (rest : Text) :
    StopsDigits (c :: rest) := by
  intro d hd
  cases hd
  exact hc

theorem stopsDigits_cons {c : Char} (hc : c.isDigit = false) (rest : Text) :
    StopsDigits (CodePoint.ofChar c :: rest) :=
  stopsDigits_of_isDigit (by rw [CodePoint.isDigit_ofChar, hc]) rest

theorem stopsNumber_cons {c : Char} (hdigit : c.isDigit = false)
    (hpart : c ∉ ['.', 'e', 'E']) (rest : Text) : StopsNumber (CodePoint.ofChar c :: rest) := by
  refine ⟨stopsDigits_cons hdigit rest, fun d hd h => hpart ?_⟩
  rwa [CodePoint.ofChar_inj (Option.some.inj h)]

theorem ne_ofChar_of_isDigit {c : CodePoint} (hc : c.isDigit = true) {mark : Char}
    (hmark : mark.isDigit = false) : c ≠ CodePoint.ofChar mark := by
  rintro rfl
  rw [CodePoint.isDigit_ofChar, hmark] at hc
  cases hc

/-- A row of digits is taken whole. -/
theorem span_of_digits {ds : Text} (hds : ∀ c ∈ ds, c.isDigit = true) {rest : Text}
    (hrest : StopsDigits rest) : (ds ++ rest).span CodePoint.isDigit = (ds, rest) := by
  have hstop : rest.takeWhile CodePoint.isDigit = [] ∧ rest.dropWhile CodePoint.isDigit = rest := by
    cases rest with
    | nil => exact ⟨rfl, rfl⟩
    | cons c rest =>
      have hc := hrest c rfl
      exact ⟨List.takeWhile_cons_of_neg (by rw [hc]; nofun),
        List.dropWhile_cons_of_neg (by rw [hc]; nofun)⟩
  rw [List.span_eq_takeWhile_dropWhile, List.takeWhile_append_of_pos hds,
    List.dropWhile_append_of_pos hds, hstop.1, hstop.2, List.append_nil]

theorem readFraction?_none {rest : Text} (h : rest.head? ≠ some (CodePoint.ofChar '.')) :
    readFraction? rest = some ([], rest) := by
  rw [readFraction?, dropMark?_of_head?_ne h]

theorem readExponent?_none {rest : Text} (h : rest.head? ≠ some (CodePoint.ofChar 'e'))
    (h' : rest.head? ≠ some (CodePoint.ofChar 'E')) : readExponent? rest = some (none, rest) := by
  rw [readExponent?, dropMark?_of_head?_ne h, dropMark?_of_head?_ne h']
  rfl

/-- A fraction does not start with a digit. -/
theorem SpellsFraction.stopsDigits {t digits rest : Text} (h : SpellsFraction t digits rest)
    (hrest : StopsDigits rest) : StopsDigits t := by
  cases h with
  | none => exact hrest
  | digits => exact stopsDigits_cons (c := '.') rfl _

/-- An exponent starts with neither a digit nor a point. -/
theorem SpellsExponent.stops {t rest : Text} {exponent? : Option Int}
    (h : SpellsExponent t exponent? rest) (hrest : StopsNumber rest) :
    StopsDigits t ∧ t.head? ≠ some (CodePoint.ofChar '.') := by
  cases h with
  | none => exact ⟨hrest.1, hrest.2 '.' (by decide)⟩
  | digits hmark =>
    rcases hmark with rfl | rfl
    · exact ⟨stopsDigits_cons (c := 'e') rfl _, fun h => absurd (Option.some.inj h) (by decide)⟩
    · exact ⟨stopsDigits_cons (c := 'E') rfl _, fun h => absurd (Option.some.inj h) (by decide)⟩

theorem IsDigits.isEmpty {t : Text} (h : IsDigits t) : t.isEmpty = false := by
  cases t with
  | nil => exact absurd rfl h.ne_nil
  | cons c tail => rfl

theorem SpellsFraction.read {t digits rest : Text} (h : SpellsFraction t digits rest)
    (hdigit : StopsDigits rest) (hpoint : rest.head? ≠ some (CodePoint.ofChar '.')) :
    readFraction? t = some (digits, rest) := by
  cases h with
  | none => exact readFraction?_none hpoint
  | digits hdigits =>
    rw [readFraction?, dropMark?_cons]
    dsimp only
    rw [span_of_digits hdigits.isDigit hdigit]
    dsimp only
    rw [hdigits.isEmpty, if_neg Bool.false_ne_true]

/-- What the digits at the front of a text are. -/
theorem span_isDigit (t : Text) :
    ∃ digits rest, t.span CodePoint.isDigit = (digits, rest) ∧ t = digits ++ rest ∧
      ∀ c ∈ digits, c.isDigit = true := by
  refine ⟨_, _, List.span_eq_takeWhile_dropWhile _ _, List.takeWhile_append_dropWhile.symm, ?_⟩
  exact fun c hc => List.mem_takeWhile_imp hc

theorem isDigits_of_isEmpty {t : Text} (hempty : ¬ t.isEmpty = true)
    (h : ∀ c ∈ t, c.isDigit = true) : IsDigits t :=
  ⟨fun ht => hempty (List.isEmpty_iff.2 ht), h⟩

theorem spellsFraction_of_read {t digits rest : Text} (h : readFraction? t = some (digits, rest)) :
    SpellsFraction t digits rest := by
  rw [readFraction?] at h
  split at h
  · cases h
    exact .none _
  · next tail htail =>
    obtain ⟨ds, after, hspan, rfl, hds⟩ := span_isDigit tail
    rw [hspan] at h
    dsimp only at h
    split_ifs at h with hempty
    cases h
    rw [dropMark?_eq_some_iff.1 htail]
    exact .digits (isDigits_of_isEmpty hempty hds) _

theorem SpellsSign.take {t rest : Text} {negative : Bool} (h : SpellsSign t negative rest)
    (hrest : ∃ c tail, rest = c :: tail ∧ c.isDigit = true) :
    Numeral.takeSign t = (negative, rest) := by
  cases h with
  | none =>
    -- a digit is no sign
    obtain ⟨c, tail, rfl, hc⟩ := hrest
    rw [Numeral.takeSign, if_neg (ne_ofChar_of_isDigit hc rfl),
      if_neg (ne_ofChar_of_isDigit hc rfl)]
  | plus => rfl
  | minus => rfl

theorem spellsSign_of_take {t rest : Text} {negative : Bool}
    (h : Numeral.takeSign t = (negative, rest)) : SpellsSign t negative rest := by
  cases t with
  | nil =>
    cases h
    exact .none []
  | cons c tail =>
    rw [Numeral.takeSign] at h
    split_ifs at h with hminus hplus
    · cases h
      rw [hminus]
      exact .minus _
    · cases h
      rw [hplus]
      exact .plus _
    · cases h
      exact .none _

theorem IsDigits.exists_cons {t : Text} (h : IsDigits t) (rest : Text) :
    ∃ c tail, t ++ rest = c :: tail ∧ c.isDigit = true := by
  cases t with
  | nil => exact absurd rfl h.ne_nil
  | cons c tail => exact ⟨c, tail ++ rest, rfl, h.isDigit c List.mem_cons_self⟩

theorem SpellsExponent.read {t rest : Text} {exponent? : Option Int}
    (h : SpellsExponent t exponent? rest) (hrest : StopsNumber rest) :
    readExponent? t = some (exponent?, rest) := by
  cases h with
  | none => exact readExponent?_none (hrest.2 'e' (by decide)) (hrest.2 'E' (by decide))
  | @digits mark hmark t _ _ _ hsign hdigits =>
    have hdrop : ((dropMark? 'e' (mark :: t)).orElse fun _ => dropMark? 'E' (mark :: t)) =
        some t := by
      rcases hmark with rfl | rfl
      · rw [dropMark?_cons]
        rfl
      · rw [dropMark?_cons]
        rfl
    rw [readExponent?, hdrop]
    dsimp only
    rw [hsign.take (hdigits.exists_cons rest)]
    dsimp only
    rw [span_of_digits hdigits.isDigit hrest.1]
    dsimp only
    rw [hdigits.isEmpty, if_neg Bool.false_ne_true]
    rfl

theorem spellsExponent_of_read {t rest : Text} {exponent? : Option Int}
    (h : readExponent? t = some (exponent?, rest)) : SpellsExponent t exponent? rest := by
  rw [readExponent?] at h
  split at h
  · cases h
    exact .none _
  · next tail htail =>
    have hmark : ∃ mark, (mark = CodePoint.ofChar 'e' ∨ mark = CodePoint.ofChar 'E') ∧
        t = mark :: tail := by
      rcases he : dropMark? 'e' t with _ | u
      · rw [he] at htail
        exact ⟨_, .inr rfl, dropMark?_eq_some_iff.1 htail⟩
      · rw [he] at htail
        cases htail
        exact ⟨_, .inl rfl, dropMark?_eq_some_iff.1 he⟩
    obtain ⟨mark, hmark, rfl⟩ := hmark
    rcases hsign : Numeral.takeSign tail with ⟨negative, u⟩
    obtain ⟨ds, after, hspan, rfl, hds⟩ := span_isDigit u
    rw [hsign] at h
    dsimp only at h
    rw [hspan] at h
    dsimp only at h
    by_cases hempty : ds.isEmpty = true
    · rw [if_pos hempty] at h
      cases h
    · rw [if_neg hempty] at h
      cases h
      exact .digits hmark (spellsSign_of_take hsign) (isDigits_of_isEmpty hempty hds)

/-- The digits in front of a point pass the test of the reader. -/
theorem IsWholePart.passes {t : Text} (h : IsWholePart t) :
    (t.isEmpty || (decide (t.length > 1) && t.head? == some (CodePoint.ofChar '0'))) = false := by
  have hzero : (decide (t.length > 1) && t.head? == some (CodePoint.ofChar '0')) = false := by
    rw [Bool.and_eq_false_imp, decide_eq_true_eq]
    intro hlength
    rw [beq_eq_false_iff_ne]
    intro hhead
    exact absurd (h.single hhead) (Nat.ne_of_gt hlength)
  rw [h.toIsDigits.isEmpty, hzero, Bool.or_false]

/-- Digits that pass the test of the reader may stand in front of a point. -/
theorem isWholePart_of_passes {t : Text} (hdigits : ∀ c ∈ t, c.isDigit = true)
    (hpasses : ¬ (t.isEmpty ||
      (decide (t.length > 1) && t.head? == some (CodePoint.ofChar '0'))) = true)
    (hlimit : ¬ t.length > integerLimit) : IsWholePart t := by
  rw [Bool.not_eq_true, Bool.or_eq_false_iff, Bool.and_eq_false_imp] at hpasses
  have hdigits : IsDigits t := isDigits_of_isEmpty (Bool.eq_false_iff.1 hpasses.1) hdigits
  refine ⟨hdigits, fun hhead => ?_, Nat.not_lt.1 hlimit⟩
  -- a zero with more digits behind it does not pass
  by_contra hlength
  have hpos : 0 < t.length := List.length_pos_iff.2 hdigits.ne_nil
  have hzero := hpasses.2 (decide_eq_true (by omega))
  rw [hhead, beq_self_eq_true] at hzero
  cases hzero

/-- The value of a number is the one that is read. -/
theorem numberOf_eq (negative : Bool) (whole fraction : Text) (exponent? : Option Int)
    (rest : Text) :
    (if (fraction.isEmpty && exponent?.isNone) = true then
        some (Value.int (if negative then -(digitsValue whole : Int) else digitsValue whole), rest)
      else some (Value.float
        (Numeral.value ⟨negative, whole, fraction, exponent?.getD 0⟩), rest)) =
      some (numberOf negative whole fraction exponent?, rest) := by
  rw [numberOf, signed]
  split_ifs <;> rfl

theorem SpellsUnsigned.read {negative : Bool} {t rest : Text} {v : Value}
    (h : SpellsUnsigned negative t v rest) (hrest : StopsNumber rest) :
    readUnsigned? negative t = some (v, rest) := by
  obtain ⟨hwhole, hfraction, hexponent⟩ := h
  obtain ⟨hdigit, hpoint⟩ := hexponent.stops hrest
  have hspan := span_of_digits hwhole.isDigit (hfraction.stopsDigits hdigit)
  rw [readUnsigned?, hspan]
  dsimp only
  rw [hwhole.passes, if_neg Bool.false_ne_true, if_neg (Nat.not_lt.2 hwhole.length_le),
    hfraction.read hdigit hpoint]
  simp only [bind, Option.bind, hexponent.read hrest]
  exact numberOf_eq negative _ _ _ rest

theorem spellsUnsigned_of_read {negative : Bool} {t rest : Text} {v : Value}
    (h : readUnsigned? negative t = some (v, rest)) : SpellsUnsigned negative t v rest := by
  -- each test on the way to the number is one of the conditions of the grammar
  obtain ⟨whole, after, hspan, rfl, hdigits⟩ := span_isDigit t
  rw [readUnsigned?, hspan] at h
  dsimp only at h
  split at h
  · cases h
  · next hpasses =>
    split at h
    · cases h
    · next hlimit =>
      have hwhole := isWholePart_of_passes hdigits hpasses hlimit
      obtain ⟨⟨fraction, t₁⟩, hfraction, h⟩ := Option.bind_eq_some_iff.1 h
      obtain ⟨⟨exponent?, t₂⟩, hexponent, h⟩ := Option.bind_eq_some_iff.1 h
      have hvalue := (numberOf_eq negative whole fraction exponent? t₂).symm.trans h
      cases hvalue
      exact .mk hwhole (spellsFraction_of_read hfraction) (spellsExponent_of_read hexponent)

/-- A number behind its sign starts with a digit. -/
theorem SpellsUnsigned.exists_cons {negative : Bool} {t rest : Text} {v : Value}
    (h : SpellsUnsigned negative t v rest) : ∃ c tail, t = c :: tail ∧ c.isDigit = true := by
  obtain ⟨hwhole, -, -⟩ := h
  exact hwhole.toIsDigits.exists_cons _

theorem SpellsNumber.read {t rest : Text} {v : Value} (h : SpellsNumber t v rest)
    (hrest : StopsNumber rest) : readNumber? t = some (v, rest) := by
  cases h with
  | unsigned h =>
    obtain ⟨c, tail, rfl, hc⟩ := h.exists_cons
    have hmark : dropMark? '-' (c :: tail) = none := if_neg (ne_ofChar_of_isDigit hc rfl)
    rw [readNumber?, hmark]
    exact h.read hrest
  | minus h =>
    -- behind the sign there is a digit, so it is not that of `-Infinity`
    obtain ⟨c, tail, rfl, hc⟩ := h.exists_cons
    have hletter : c ≠ CodePoint.ofChar 'I' := ne_ofChar_of_isDigit hc rfl
    have hword : dropWord? "Infinity" (c :: tail) = none :=
      dropWord?_of_ne rfl hletter.symm tail
    rw [readNumber?, dropMark?_cons]
    dsimp only
    rw [hword]
    exact h.read hrest

theorem spellsScalar_of_readNumber {t rest : Text} {v : Value}
    (h : readNumber? t = some (v, rest)) : SpellsScalar t v rest := by
  rw [readNumber?] at h
  split at h
  · next tail htail =>
    rw [dropMark?_eq_some_iff.1 htail]
    split at h
    · next after hword =>
      cases h
      rw [dropWord?_eq_some_iff.1 hword]
      exact .negativeInfinity _
    · exact .number (.minus (spellsUnsigned_of_read h))
  · exact .number (.unsigned (spellsUnsigned_of_read h))

/-! ### Strings -/

theorem readUnit?_eq_some_iff {t rest : Text} {n : Nat} :
    readUnit? t = some (n, rest) ↔ SpellsUnit t n rest := by
  constructor
  · intro h
    rw [readUnit?.eq_def] at h
    split at h
    · next a b c d tail =>
      obtain ⟨i, ha, h⟩ := Option.bind_eq_some_iff.1 h
      obtain ⟨j, hb, h⟩ := Option.bind_eq_some_iff.1 h
      obtain ⟨k, hc, h⟩ := Option.bind_eq_some_iff.1 h
      obtain ⟨l, hd, h⟩ := Option.bind_eq_some_iff.1 h
      cases h
      exact .mk ha hb hc hd _
    · cases h
  · rintro ⟨ha, hb, hc, hd, rest⟩
    simp only [readUnit?, ha, hb, hc, hd, bind, Option.bind]

theorem ofNat?_eq_some_iff {n : Nat} {c : CodePoint} : CodePoint.ofNat? n = some c ↔ c.val = n := by
  constructor
  · intro h
    rw [CodePoint.ofNat?] at h
    split_ifs at h
    cases h
    rfl
  · rintro rfl
    exact dif_pos c.val_lt

/-- Four hexadecimal digits. -/
theorem SpellsUnit.exists_append {t rest : Text} {n : Nat} (h : SpellsUnit t n rest) :
    ∃ unit : Text, unit.length = 4 ∧ t = unit ++ rest := by
  obtain ⟨-, -, -, -, rest⟩ := h
  exact ⟨[_, _, _, _], rfl, rfl⟩

theorem SpellsUnit.read {t rest : Text} {n : Nat} (h : SpellsUnit t n rest) :
    readUnit? t = some (n, rest) := readUnit?_eq_some_iff.2 h

/-- The letter of a short escape is read. -/
theorem readEscape?_letter {letter : Char} {c : CodePoint} (h : (letter, c.val) ∈ shortEscapes)
    (rest : Text) : readEscape? (CodePoint.ofChar letter :: rest) = some (c, 1) := by
  have key : ∀ n, CodePoint.ofChar letter ≠ CodePoint.ofChar 'u' →
      shortEscapes.find? (fun e => decide (CodePoint.ofChar e.1 = CodePoint.ofChar letter)) =
        some (letter, n) → c.val = n →
      readEscape? (CodePoint.ofChar letter :: rest) = some (c, 1) := by
    intro n hletter hfind hc
    rw [readEscape?, if_neg hletter, hfind]
    simp only [bind, Option.bind, ofNat?_eq_some_iff.2 hc]
  simp only [shortEscapes, List.mem_cons, Prod.mk.injEq, List.not_mem_nil, or_false] at h
  rcases h with ⟨rfl, hc⟩ | ⟨rfl, hc⟩ | ⟨rfl, hc⟩ | ⟨rfl, hc⟩ | ⟨rfl, hc⟩ | ⟨rfl, hc⟩ | ⟨rfl, hc⟩ |
    ⟨rfl, hc⟩ <;> exact key _ (by decide) (by decide) hc

theorem readNumberEscape?_unit {t rest : Text} {c : CodePoint} (h : SpellsUnit t c.val rest)
    (hsurrogate : c.isSurrogate = false) : readNumberEscape? t = some (c, 4) := by
  rw [CodePoint.isSurrogate, decide_eq_false_iff_not] at hsurrogate
  have hlow : ¬ (0xDC00 ≤ c.val ∧ c.val ≤ 0xDFFF) := by omega
  have hhigh : ¬ (0xD800 ≤ c.val ∧ c.val ≤ 0xDBFF) := by omega
  rw [readNumberEscape?, h.read]
  refine (if_neg hlow).trans ((if_neg hhigh).trans ?_)
  rw [ofNat?_eq_some_iff.2 rfl]
  rfl

theorem readNumberEscape?_pair {t t' rest : Text} {high low : Nat} {c : CodePoint}
    (hhigh : SpellsUnit t high (CodePoint.ofChar '\\' :: CodePoint.ofChar 'u' :: t'))
    (hlow : SpellsUnit t' low rest) (high_range : 0xD800 ≤ high ∧ high ≤ 0xDBFF)
    (low_range : 0xDC00 ≤ low ∧ low ≤ 0xDFFF)
    (hc : c.val = 0x10000 + (high - 0xD800) * 1024 + (low - 0xDC00)) :
    readNumberEscape? t = some (c, 10) := by
  have hlone : ¬ (0xDC00 ≤ high ∧ high ≤ 0xDFFF) := by omega
  rw [readNumberEscape?, hhigh.read]
  refine (if_neg hlone).trans ((if_pos high_range).trans ?_)
  simp only [dropMark?_cons, Option.bind_eq_bind, Option.bind_some, hlow.read]
  rw [if_pos low_range, ofNat?_eq_some_iff.2 hc]
  rfl

/-- An escape is read: its code point, and how long it is. -/
theorem SpellsEscape.read {t rest : Text} {c : CodePoint} (h : SpellsEscape t c rest) :
    ∃ escape, t = escape ++ rest ∧ readEscape? t = some (c, escape.length) := by
  cases h with
  | @letter letter _ hletter =>
    exact ⟨[CodePoint.ofChar letter], rfl, readEscape?_letter hletter rest⟩
  | unit hunit hsurrogate =>
    have hread := readNumberEscape?_unit hunit hsurrogate
    obtain ⟨unit, hlength, rfl⟩ := hunit.exists_append
    refine ⟨CodePoint.ofChar 'u' :: unit, rfl, ?_⟩
    rw [readEscape?, if_pos rfl, hread, List.length_cons, hlength]
    rfl
  | pair hhigh hlow high_range low_range hc =>
    have hread := readNumberEscape?_pair hhigh hlow high_range low_range hc
    obtain ⟨first, hfirst, rfl⟩ := hhigh.exists_append
    obtain ⟨second, hsecond, rfl⟩ := hlow.exists_append
    refine ⟨CodePoint.ofChar 'u' :: (first ++
      CodePoint.ofChar '\\' :: CodePoint.ofChar 'u' :: second), by simp, ?_⟩
    rw [readEscape?, if_pos rfl, hread, List.length_cons, List.length_append, List.length_cons,
      List.length_cons, hfirst, hsecond]
    rfl

/-- What is read as an escape by number is one. -/
theorem spellsEscape_of_readNumber {t : Text} {c : CodePoint} {size : Nat}
    (h : readNumberEscape? t = some (c, size)) :
    ∃ number rest, t = number ++ rest ∧ number.length = size ∧
      SpellsEscape (CodePoint.ofChar 'u' :: t) c rest := by
  obtain ⟨⟨high, rest⟩, hhigh, hpoint⟩ := Option.bind_eq_some_iff.1 h
  have hfirst := readUnit?_eq_some_iff.1 hhigh
  obtain ⟨first, hfour, ht⟩ := hfirst.exists_append
  dsimp only at hpoint
  split_ifs at hpoint with hlone hpair
  · -- the first half of a pair, which the second one has to follow
    obtain ⟨u, hback, htail⟩ := Option.bind_eq_some_iff.1 hpoint
    obtain ⟨u', hu, htail⟩ := Option.bind_eq_some_iff.1 htail
    obtain ⟨⟨low, after⟩, hlow, htail⟩ := Option.bind_eq_some_iff.1 htail
    have hsecond := readUnit?_eq_some_iff.1 hlow
    obtain ⟨second, hfour', hu'⟩ := hsecond.exists_append
    dsimp only at htail
    split_ifs at htail with hrange
    obtain ⟨point, hvalue, hend⟩ := Option.bind_eq_some_iff.1 htail
    cases hend
    rw [dropMark?_eq_some_iff] at hback hu
    subst hback hu
    refine ⟨first ++ CodePoint.ofChar '\\' :: CodePoint.ofChar 'u' :: second, after, ?_, ?_,
      .pair hfirst hsecond hpair hrange (ofNat?_eq_some_iff.1 hvalue)⟩
    · rw [ht, hu', List.append_assoc]
      rfl
    · rw [List.length_append, List.length_cons, List.length_cons, hfour, hfour']
  · obtain ⟨point, hvalue, hend⟩ := Option.bind_eq_some_iff.1 hpoint
    cases hend
    have hval := ofNat?_eq_some_iff.1 hvalue
    rw [← hval] at hfirst hlone hpair
    refine ⟨first, rest, ht, hfour, .unit hfirst (decide_eq_false fun hrange => ?_)⟩
    omega

/-- What is read as an escape is one. -/
theorem spellsEscape_of_read {t : Text} {c : CodePoint} {size : Nat}
    (h : readEscape? t = some (c, size)) :
    ∃ escape rest, t = escape ++ rest ∧ escape.length = size ∧ SpellsEscape t c rest := by
  cases t with
  | nil => cases h
  | cons mark tail =>
    rw [readEscape?] at h
    split_ifs at h with hmark
    · subst hmark
      rw [Option.map_eq_some_iff] at h
      obtain ⟨⟨point, length⟩, hread, hend⟩ := h
      cases hend
      obtain ⟨number, rest, rfl, rfl, hspells⟩ := spellsEscape_of_readNumber hread
      exact ⟨CodePoint.ofChar 'u' :: number, rest, rfl, rfl, hspells⟩
    · obtain ⟨⟨letter, n⟩, hfind, htail⟩ := Option.bind_eq_some_iff.1 h
      obtain ⟨point, hpoint, hend⟩ := Option.bind_eq_some_iff.1 htail
      cases hend
      have hfound := List.find?_some hfind
      have hletter : CodePoint.ofChar letter = mark := of_decide_eq_true hfound
      have hmem := List.mem_of_find?_eq_some hfind
      rw [← ofNat?_eq_some_iff.1 hpoint] at hmem
      refine ⟨[mark], tail, rfl, rfl, ?_⟩
      rw [← hletter]
      exact .letter hmem tail

/-- What belongs to an escape that has been read is passed over. -/
theorem readStringFrom?_pass (done escape rest : Text) :
    readStringFrom? done escape.length (escape ++ rest) = readStringFrom? done 0 rest := by
  induction escape with
  | nil => rfl
  | cons c escape ih =>
    rw [List.length_cons, List.cons_append, readStringFrom?]
    exact ih

/-- By induction on the string: what has been read before is held in reverse. -/
theorem SpellsString.readFrom {t s rest : Text} (h : SpellsString t s rest) (done : Text) :
    readStringFrom? done 0 t = some (done.reverse ++ s, rest) := by
  induction h generalizing done with
  | close rest => rw [readStringFrom?, if_pos rfl, List.append_nil]
  | point hquote hback hcontrol _ ih =>
    rw [readStringFrom?, if_neg hquote, if_neg hback, if_neg (Nat.not_lt.2 hcontrol), ih,
      List.reverse_cons, List.append_assoc]
    rfl
  | escape hescape _ ih =>
    obtain ⟨escape, rfl, hread⟩ := hescape.read
    rw [readStringFrom?, if_neg (by decide), if_pos rfl, hread]
    dsimp only
    rw [readStringFrom?_pass, ih, List.reverse_cons, List.append_assoc]
    rfl

/-- By induction on how much there is to read, since an escape is passed over at once. -/
theorem spellsString_of_readFrom {done t s rest : Text}
    (h : readStringFrom? done 0 t = some (s, rest)) :
    ∃ u, s = done.reverse ++ u ∧ SpellsString t u rest := by
  induction hn : t.length using Nat.strongRecOn generalizing done t with
  | ind n ih =>
    subst hn
    cases t with
    | nil => cases h
    | cons c tail =>
      rw [readStringFrom?] at h
      split_ifs at h with hquote hback hcontrol
      · cases h
        subst hquote
        exact ⟨[], (List.append_nil _).symm, .close _⟩
      · subst hback
        split at h
        · next point size hescape =>
          obtain ⟨escape, more, rfl, rfl, hspells⟩ := spellsEscape_of_read hescape
          rw [readStringFrom?_pass] at h
          have hless : more.length < (CodePoint.ofChar '\\' :: (escape ++ more)).length := by
            rw [List.length_cons, List.length_append]
            omega
          obtain ⟨u, hu, hmore⟩ := ih _ hless h rfl
          refine ⟨point :: u, ?_, .escape hspells hmore⟩
          rw [hu, List.reverse_cons, List.append_assoc]
          rfl
        · cases h
      · obtain ⟨u, hu, hmore⟩ := ih _ (Nat.lt_succ_self _) h rfl
        refine ⟨c :: u, ?_, .point hquote hback (Nat.not_lt.1 hcontrol) hmore⟩
        rw [hu, List.reverse_cons, List.append_assoc]
        rfl

/-- **Strings follow the grammar.** -/
theorem readString?_eq_some_iff {t s rest : Text} :
    readString? t = some (s, rest) ↔ SpellsString t s rest := by
  constructor
  · intro h
    obtain ⟨u, rfl, hspells⟩ := spellsString_of_readFrom h
    exact hspells
  · intro h
    exact h.readFrom []

/-! ### Words -/

theorem readWord?_of_mem {word : String} {v : Value} (h : (word, v) ∈ words) (rest : Text) :
    readWord? (Text.ofString word ++ rest) = some (v, rest) := by
  simp only [words, List.mem_cons, Prod.mk.injEq, List.not_mem_nil, or_false] at h
  -- the words start with five different letters
  rcases h with ⟨rfl, rfl⟩ | ⟨rfl, rfl⟩ | ⟨rfl, rfl⟩ | ⟨rfl, rfl⟩ | ⟨rfl, rfl⟩ <;> rfl

/-- What is read as a word is one. -/
theorem mem_of_readWord? {t rest : Text} {v : Value} (h : readWord? t = some (v, rest)) :
    ∃ word, (word, v) ∈ words ∧ t = Text.ofString word ++ rest := by
  obtain ⟨⟨word, v'⟩, hmem, hword⟩ := List.exists_of_findSome?_eq_some h
  obtain ⟨after, hdrop, hafter⟩ := Option.map_eq_some_iff.1 hword
  cases hafter
  exact ⟨word, hmem, dropWord?_eq_some_iff.1 hdrop⟩

/-- What holds no other value starts with a digit or one of a few marks and letters. -/
theorem SpellsScalar.head {t rest : Text} {v : Value} (h : SpellsScalar t v rest) :
    ∃ c tail, t = c :: tail ∧
      (c.isDigit = true ∨ ∃ d ∈ ['"', '-', 't', 'f', 'n', 'N', 'I'], c = CodePoint.ofChar d) := by
  cases h with
  | word hword =>
    simp only [words, List.mem_cons, Prod.mk.injEq, List.not_mem_nil, or_false] at hword
    rcases hword with ⟨rfl, rfl⟩ | ⟨rfl, rfl⟩ | ⟨rfl, rfl⟩ | ⟨rfl, rfl⟩ | ⟨rfl, rfl⟩ <;>
      exact ⟨_, _, rfl, .inr ⟨_, by decide, rfl⟩⟩
  | negativeInfinity => exact ⟨_, _, rfl, .inr ⟨'-', by decide, rfl⟩⟩
  | number hnumber =>
    cases hnumber with
    | unsigned h =>
      obtain ⟨c, tail, ht, hc⟩ := h.exists_cons
      exact ⟨c, tail, ht, .inl hc⟩
    | minus => exact ⟨_, _, rfl, .inr ⟨'-', by decide, rfl⟩⟩
  | string => exact ⟨_, _, rfl, .inr ⟨'"', by decide, rfl⟩⟩

/-- The text starts with none of the words. -/
theorem readWord?_of_head {c : CodePoint}
    (hc : ∀ d ∈ ['t', 'f', 'n', 'N', 'I'], c ≠ CodePoint.ofChar d)
    (tail : Text) : readWord? (c :: tail) = none := by
  have htrue : dropWord? "true" (c :: tail) = none :=
    dropWord?_of_ne rfl (hc 't' (by decide)).symm tail
  have hfalse : dropWord? "false" (c :: tail) = none :=
    dropWord?_of_ne rfl (hc 'f' (by decide)).symm tail
  have hnameable : dropWord? "null" (c :: tail) = none :=
    dropWord?_of_ne rfl (hc 'n' (by decide)).symm tail
  have hnan : dropWord? "NaN" (c :: tail) = none :=
    dropWord?_of_ne rfl (hc 'N' (by decide)).symm tail
  have hinfinity : dropWord? "Infinity" (c :: tail) = none :=
    dropWord?_of_ne rfl (hc 'I' (by decide)).symm tail
  simp only [readWord?, List.findSome?_cons, htrue, hfalse, hnameable, hnan, hinfinity,
    Option.map_none, List.findSome?_nil]

theorem readScalar?_of_readNumber? {c : CodePoint} {tail : Text} {r : Value × Text}
    (hc : c.isDigit = true ∨ c = CodePoint.ofChar '-') (h : readNumber? (c :: tail) = some r) :
    readScalar? (c :: tail) = some r := by
  have hne : ∀ d : Char, d.isDigit = false → (d == '-') = false → c ≠ CodePoint.ofChar d := by
    rintro d hd hminus rfl
    rcases hc with hc | hc
    · rw [CodePoint.isDigit_ofChar, hd] at hc
      cases hc
    · exact beq_eq_false_iff_ne.1 hminus (CodePoint.ofChar_inj hc)
  have hquote : dropMark? '"' (c :: tail) = none := if_neg (hne '"' rfl rfl)
  have hword : readWord? (c :: tail) = none := by
    refine readWord?_of_head (fun d hd => ?_) tail
    simp only [List.mem_cons, List.not_mem_nil, or_false] at hd
    rcases hd with rfl | rfl | rfl | rfl | rfl <;> exact hne _ rfl rfl
  rw [readScalar?, hquote]
  dsimp only
  rw [hword, h]
  rfl

/-- **What holds no other value is read**, if no more of a number comes behind it. -/
theorem SpellsScalar.read {t rest : Text} {v : Value} (h : SpellsScalar t v rest)
    (hrest : StopsNumber rest) : readScalar? t = some (v, rest) := by
  cases h with
  | @word word _ hword =>
    have hread := readWord?_of_mem hword rest
    have hquote : dropMark? '"' (Text.ofString word ++ rest) = none := by
      simp only [words, List.mem_cons, Prod.mk.injEq, List.not_mem_nil, or_false] at hword
      rcases hword with ⟨rfl, rfl⟩ | ⟨rfl, rfl⟩ | ⟨rfl, rfl⟩ | ⟨rfl, rfl⟩ | ⟨rfl, rfl⟩ <;> rfl
    rw [readScalar?, hquote]
    dsimp only
    rw [hread]
    rfl
  | negativeInfinity =>
    refine readScalar?_of_readNumber? (.inr rfl) ?_
    rw [readNumber?, dropMark?_cons]
    dsimp only
    rw [dropWord?_eq_some_iff.2 rfl]
  | number hnumber =>
    have hread := hnumber.read hrest
    cases hnumber with
    | unsigned h =>
      obtain ⟨c, tail, rfl, hc⟩ := h.exists_cons
      exact readScalar?_of_readNumber? (.inl hc) hread
    | minus h => exact readScalar?_of_readNumber? (.inr rfl) hread
  | string hstring =>
    rw [readScalar?, dropMark?_cons]
    dsimp only
    rw [readString?_eq_some_iff.2 hstring]
    rfl

/-- **What is read as a value that holds no other is one.** -/
theorem spellsScalar_of_read {t rest : Text} {v : Value} (h : readScalar? t = some (v, rest)) :
    SpellsScalar t v rest := by
  rw [readScalar?] at h
  split at h
  · next tail htail =>
    obtain ⟨⟨s, after⟩, hstring, hend⟩ := Option.map_eq_some_iff.1 h
    cases hend
    rw [dropMark?_eq_some_iff.1 htail]
    exact .string (readString?_eq_some_iff.1 hstring)
  · rcases hword : readWord? t with _ | ⟨v', after⟩
    · rw [hword] at h
      exact spellsScalar_of_readNumber h
    · rw [hword] at h
      cases h
      obtain ⟨word, hmem, rfl⟩ := mem_of_readWord? hword
      exact .word hmem _

end Pasteboard.Json
