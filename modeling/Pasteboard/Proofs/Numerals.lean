import Mathlib.Data.List.TakeDrop
import Pasteboard.Binary64.Layout
import Pasteboard.Proofs.Grammar
import Pasteboard.Proofs.Rounding

/-!
# Numbers in documents

A decimal is laid out in one of three ways: behind a zero and a point, in front of a point or around
it, or with an exponent. The grammar of documents takes the three parts of a numeral one after the
other, and there is a lemma for each part (`Json.IsWhole.isWholePart`, `Json.spellsFraction_part`,
`Json.spellsExponent_part`); together they say that the layout writes the digits and the exponent,
shifted against each other (`Json.spellsUnsigned_render`). So the shortest digits of a finite number
write that number (`Json.spellsNumber_document`), both signs and zeros included.
-/

namespace Pasteboard

/-! ### Rows of digits -/

/-- A row of digits. -/
def Digits (ds : List Char) : Prop := ∀ c ∈ ds, c.isDigit = true

namespace Digits

theorem nil : Digits [] := nofun

theorem append {ds es : List Char} (h : Digits ds) (k : Digits es) : Digits (ds ++ es) := by
  intro c hc
  rcases List.mem_append.1 hc with hc | hc
  · exact h c hc
  · exact k c hc

theorem of_subset {ds es : List Char} (h : Digits ds) (hs : ∀ c ∈ es, c ∈ ds) : Digits es :=
  fun c hc => h c (hs c hc)

theorem toDigits (n : Nat) : Digits (Nat.toDigits 10 n) := fun _ hc =>
  Nat.isDigit_of_mem_toDigits (by decide) (by decide) hc

theorem zeros (n : Nat) : Digits (Decimal.zeros n) := by
  intro c hc
  rw [List.eq_of_mem_replicate hc]
  rfl

end Digits

/-- The number that a row of digits writes does not depend on how the digits are held. -/
theorem digitsValue_map (ds : List Char) :
    digitsValue (ds.map CodePoint.ofChar) = Nat.ofDigitChars 10 ds 0 := by
  rw [digitsValue, List.foldl_map, Nat.ofDigitChars_eq_foldl]
  rfl

theorem ofDigitChars_append_zeros (ds : List Char) (n : Nat) :
    Nat.ofDigitChars 10 (ds ++ Decimal.zeros n) 0 = Nat.ofDigitChars 10 ds 0 * 10 ^ n := by
  rw [Nat.ofDigitChars_append, Decimal.zeros, Nat.ofDigitChars_replicate_zero, Nat.mul_comm]

theorem ofDigitChars_zeros_append (ds : List Char) (n : Nat) :
    Nat.ofDigitChars 10 (Decimal.zeros n ++ ds) 0 = Nat.ofDigitChars 10 ds 0 := by
  rw [Nat.ofDigitChars_append, Decimal.zeros, Nat.ofDigitChars_replicate_zero, Nat.mul_zero]

/-! ### Digits without zeros at the end -/

theorem head?_append_of_ne_nil {ds : List Char} (h : ds ≠ []) (es : List Char) :
    (ds ++ es).head? = ds.head? := by
  obtain ⟨c, ds, rfl⟩ := List.exists_cons_of_ne_nil h
  rfl

/-- A numeral of a positive number does not start with a zero. -/
theorem head?_toDigits {n : Nat} (hn : 0 < n) : (Nat.toDigits 10 n).head? ≠ some '0' := by
  induction n using Nat.base_induction 10 (by decide) with
  | single m hm =>
    rw [Nat.toDigits_of_lt_base hm]
    revert m
    decide
  | digit m k hk hm ih =>
    rw [← Nat.toDigits_append_toDigits (by decide) hm hk,
      head?_append_of_ne_nil Nat.toDigits_ne_nil]
    exact ih hm

/-- What `Decimal.normal` gives: digits of which the first one is a zero only for zero, which is a
lone digit, and the same value. -/
structure Decimal.IsNormal (d : Decimal) (ds : List Char) (e : Int) : Prop where
  ne_nil : ds ≠ []
  digits : Digits ds
  single : ds.head? = some '0' → ds = ['0'] ∧ e = 0
  value : ∀ negative, Binary64.ofDecimal negative (Nat.ofDigitChars 10 ds 0) e =
    Binary64.ofDecimal negative d.digits d.exponent

/-- A row is its part without zeros at the end, and these zeros. -/
theorem append_zeros_of_dropWhile (ds : List Char) :
    ds = (ds.reverse.dropWhile (· == '0')).reverse ++
      Decimal.zeros (ds.length - (ds.reverse.dropWhile (· == '0')).reverse.length) := by
  have hsplit : (ds.reverse.takeWhile (· == '0')) ++ ds.reverse.dropWhile (· == '0') = ds.reverse :=
    List.takeWhile_append_dropWhile
  have hzeros : ds.reverse.takeWhile (· == '0') =
      Decimal.zeros (ds.reverse.takeWhile (· == '0')).length := by
    refine List.eq_replicate_iff.2 ⟨rfl, fun c hc => ?_⟩
    have := List.all_takeWhile (p := (· == '0')) (l := ds.reverse)
    exact eq_of_beq (List.all_eq_true.1 this c hc)
  have hlength := congrArg List.length hsplit
  rw [List.length_append, List.length_reverse] at hlength
  have hcount : ds.length - (ds.reverse.dropWhile (· == '0')).reverse.length =
      (ds.reverse.takeWhile (· == '0')).length := by
    rw [List.length_reverse]
    omega
  have hreverse := congrArg List.reverse hsplit
  rw [List.reverse_append, List.reverse_reverse, hzeros, Decimal.zeros, List.reverse_replicate]
    at hreverse
  rw [hcount]
  exact hreverse.symm

theorem Decimal.isNormal_normal (d : Decimal) : d.IsNormal d.normal.1 d.normal.2 := by
  have happend := append_zeros_of_dropWhile (Nat.toDigits 10 d.digits)
  have hvalue : Nat.ofDigitChars 10 (Nat.toDigits 10 d.digits) 0 = d.digits :=
    Nat.ofDigitChars_ten_toDigits
  rw [normal]
  generalize hkept : ((Nat.toDigits 10 d.digits).reverse.dropWhile (· == '0')).reverse = kept at *
  generalize hcount : (Nat.toDigits 10 d.digits).length - kept.length = count at *
  rw [happend, ofDigitChars_append_zeros] at hvalue
  cases hempty : kept.isEmpty with
  | true =>
    -- only zero has no digits but zeros
    rw [if_pos rfl]
    rw [List.isEmpty_iff] at hempty
    rw [hempty, Nat.ofDigitChars_nil, Nat.zero_mul] at hvalue
    refine ⟨by simp, Digits.zeros 1, fun _ => ⟨rfl, rfl⟩, fun negative => ?_⟩
    rw [← hvalue]
    simp [Binary64.ofDecimal, Nat.ofDigitChars]
  | false =>
    rw [if_neg Bool.false_ne_true]
    have hne : kept ≠ [] := fun h => by rw [h] at hempty; cases hempty
    refine ⟨hne, (Digits.toDigits d.digits).of_subset fun c hc => ?_, fun hzero => ?_,
      fun negative => ?_⟩
    · rw [happend]
      exact List.mem_append_left _ hc
    · rcases Nat.eq_zero_or_pos d.digits with hd | hd
      · rw [hd] at hkept
        exact absurd hkept.symm hne
      · have hhead := head?_toDigits hd
        rw [happend, head?_append_of_ne_nil hne] at hhead
        exact absurd hzero hhead
    · rw [← Binary64.ofDecimal_mul_pow, hvalue]

/-! ### Writing the parts of a numeral -/

theorem Digits.isDigits {ds : List Char} (hds : Digits ds) (hne : ds ≠ []) :
    Json.IsDigits (ds.map CodePoint.ofChar) := by
  refine ⟨fun h => hne (List.map_eq_nil_iff.1 h), fun c hc => ?_⟩
  obtain ⟨d, hd, rfl⟩ := List.mem_map.1 hc
  rw [CodePoint.isDigit_ofChar]
  exact hds d hd

namespace Json

/-- Digits behind a point are a fraction, if there are any. -/
theorem spellsFraction_part {fs : List Char} (hfs : Digits fs) (rest : Text) :
    SpellsFraction ((if fs.isEmpty then [] else '.' :: fs).map CodePoint.ofChar ++ rest)
      (fs.map CodePoint.ofChar) rest := by
  cases fs with
  | nil => exact .none rest
  | cons c fs => exact .digits (hfs.isDigits (List.cons_ne_nil c fs)) rest

/-- A sign and digits behind an `e` are an exponent. -/
theorem spellsExponent_sign (negative : Bool) {ds : List Char} (hne : ds ≠ []) (hds : Digits ds)
    (rest : Text) :
    SpellsExponent (('e' :: (if negative then '-' else '+') :: ds).map CodePoint.ofChar ++ rest)
      (some (if negative then -(Nat.ofDigitChars 10 ds 0 : Int)
        else Nat.ofDigitChars 10 ds 0)) rest := by
  have hvalue : signed negative (ds.map CodePoint.ofChar) =
      if negative then -(Nat.ofDigitChars 10 ds 0 : Int) else Nat.ofDigitChars 10 ds 0 := by
    rw [signed, digitsValue_map]
  have hsign : SpellsSign ((if negative then '-' else '+' : Char) ::
      (ds.map CodePoint.ofChar ++ rest)) negative (ds.map CodePoint.ofChar ++ rest) := by
    cases negative
    · exact .plus _
    · exact .minus _
  rw [← hvalue]
  exact .digits (.inl rfl) hsign (hds.isDigits hne)

theorem spellsExponent_part (layout : NumberLayout) (e : Int) (rest : Text) :
    SpellsExponent ((Decimal.exponentPart layout e).map CodePoint.ofChar ++ rest) (some e)
      rest := by
  have hds := (Digits.zeros (layout.exponentDigits - (Nat.toDigits 10 e.natAbs).length)).append
    (Digits.toDigits e.natAbs)
  have hspells := spellsExponent_sign (decide (e < 0))
    (List.append_ne_nil_of_right_ne_nil _ Nat.toDigits_ne_nil) hds rest
  rw [ofDigitChars_zeros_append, Nat.ofDigitChars_ten_toDigits] at hspells
  have hvalue : (if decide (e < 0) = true then -(e.natAbs : Int) else e.natAbs) = e := by
    split
    · next h =>
      have := of_decide_eq_true h
      omega
    · next h =>
      have := of_decide_eq_false (Bool.eq_false_iff.2 h)
      omega
  rw [hvalue] at hspells
  rw [Decimal.exponentPart, List.append_assoc]
  simpa using hspells

/-- Digits that may stand in front of a point: only a lone zero starts with a zero. -/
structure IsWhole (ds : List Char) : Prop where
  ne_nil : ds ≠ []
  digits : Digits ds
  single : ds.head? = some '0' → ds = ['0']
  length_le : ds.length ≤ integerLimit

theorem IsWhole.isWholePart {ds : List Char} (h : IsWhole ds) :
    IsWholePart (ds.map CodePoint.ofChar) := by
  refine ⟨h.digits.isDigits h.ne_nil, fun hhead => ?_, by rw [List.length_map]; exact h.length_le⟩
  rw [List.head?_map, Option.map_eq_some_iff] at hhead
  obtain ⟨c, hc, hz⟩ := hhead
  rw [CodePoint.ofChar_inj hz] at hc
  rw [h.single hc]
  rfl

/-- A numeral with a fraction or an exponent is the number nearest to what it writes. -/
theorem spellsUnsigned_parts (negative : Bool) {ws fs : List Char} {t t' rest : Text}
    {exponent? : Option Int} (hws : IsWhole ws)
    (hfraction : SpellsFraction t (fs.map CodePoint.ofChar) t')
    (hexponent : SpellsExponent t' exponent? rest) (hfloat : fs ≠ [] ∨ exponent? ≠ none) :
    SpellsUnsigned negative (ws.map CodePoint.ofChar ++ t)
      (.float (Binary64.ofDecimal negative (Nat.ofDigitChars 10 (ws ++ fs) 0)
        (exponent?.getD 0 - fs.length))) rest := by
  have hpart : ((fs.map CodePoint.ofChar).isEmpty && exponent?.isNone) = false := by
    rcases hfloat with hf | he
    · cases fs with
      | nil => exact absurd rfl hf
      | cons c fs => rfl
    · cases exponent? with
      | none => exact absurd rfl he
      | some e => exact Bool.and_false _
  have hspells : SpellsUnsigned negative _ _ rest := .mk hws.isWholePart hfraction hexponent
  rw [numberOf, hpart, if_neg Bool.false_ne_true, Numeral.value, ← List.map_append,
    digitsValue_map, List.length_map] at hspells
  exact hspells

/-- A numeral with a point. -/
theorem spellsUnsigned_point (negative : Bool) {ws fs : List Char} (hws : IsWhole ws)
    (hne : fs ≠ []) (hfs : Digits fs) (rest : Text) :
    SpellsUnsigned negative ((ws ++ '.' :: fs).map CodePoint.ofChar ++ rest)
      (.float (Binary64.ofDecimal negative (Nat.ofDigitChars 10 (ws ++ fs) 0) (-fs.length)))
      rest := by
  have hspells := spellsUnsigned_parts negative hws (.digits (hfs.isDigits hne) rest) (.none rest)
    (.inl hne)
  rw [Option.getD_none, Int.zero_sub] at hspells
  rw [List.map_append, List.append_assoc]
  exact hspells

/-- A numeral with an exponent, with a point in it or not. -/
theorem spellsUnsigned_exponent (negative : Bool) {ws fs : List Char} (hws : IsWhole ws)
    (hfs : Digits fs) (layout : NumberLayout) (e : Int) (rest : Text) :
    SpellsUnsigned negative ((ws ++ (if fs.isEmpty then [] else '.' :: fs) ++
        Decimal.exponentPart layout e).map CodePoint.ofChar ++ rest)
      (.float (Binary64.ofDecimal negative (Nat.ofDigitChars 10 (ws ++ fs) 0)
        (e - fs.length))) rest := by
  have hspells := spellsUnsigned_parts negative hws (spellsFraction_part hfs _)
    (spellsExponent_part layout e rest) (.inr (Option.some_ne_none e))
  rw [Option.getD_some] at hspells
  rw [List.map_append, List.map_append, List.append_assoc, List.append_assoc]
  exact hspells

section Layouts

variable {d : Decimal} {ds : List Char} {e : Int} {rest : Text}

/-- Digits behind a zero and a point, with `k` zeros between. -/
theorem spellsUnsigned_behind (h : d.IsNormal ds e) (negative : Bool) {k : Nat}
    (hk : (k : Int) + ds.length = -e) :
    SpellsUnsigned negative ((['0', '.'] ++ Decimal.zeros k ++ ds).map CodePoint.ofChar ++ rest)
      (.float (Binary64.ofDecimal negative d.digits d.exponent)) rest := by
  have hzero : IsWhole ['0'] := ⟨nofun, Digits.zeros 1, fun _ => rfl, by decide⟩
  have hspells := spellsUnsigned_point negative hzero
    (List.append_ne_nil_of_right_ne_nil (Decimal.zeros k) h.ne_nil)
    ((Digits.zeros k).append h.digits) rest
  have hvalue : Nat.ofDigitChars 10 (['0'] ++ (Decimal.zeros k ++ ds)) 0 =
      Nat.ofDigitChars 10 ds 0 := by
    rw [show ['0'] = Decimal.zeros 1 from rfl, ofDigitChars_zeros_append,
      ofDigitChars_zeros_append]
  have hlength : -((Decimal.zeros k ++ ds).length : Int) = e := by
    rw [List.length_append, Decimal.zeros, List.length_replicate]
    omega
  rw [hvalue, hlength, h.value] at hspells
  exact hspells

/-- Digits of which `w` stand in front of the point, zeros being added if there are fewer. -/
theorem spellsUnsigned_around (h : d.IsNormal ds e) (negative : Bool) {layout : NumberLayout}
    (hkeep : layout.keepsFraction = true) {w : Nat} (hw : (w : Int) = e + ds.length) (hpos : 0 < w)
    (hlimit : w ≤ integerLimit) :
    SpellsUnsigned negative ((ds.take w ++ Decimal.zeros (w - ds.length) ++
        Decimal.fractionPart layout (ds.drop w)).map CodePoint.ofChar ++ rest)
      (.float (Binary64.ofDecimal negative d.digits d.exponent)) rest := by
  have htake : ds.take w ≠ [] := by
    rw [Ne, List.take_eq_nil_iff]
    exact fun hor => hor.elim (fun h0 => hpos.ne' h0) h.ne_nil
  have hwhole : IsWhole (ds.take w ++ Decimal.zeros (w - ds.length)) := by
    refine ⟨List.append_ne_nil_of_left_ne_nil htake _,
      (h.digits.of_subset fun c hc => List.mem_of_mem_take hc).append (Digits.zeros _),
      fun hhead => ?_, ?_⟩
    · rw [head?_append_of_ne_nil htake, List.head?_take, if_neg hpos.ne'] at hhead
      obtain ⟨rfl, rfl⟩ := h.single hhead
      obtain rfl : w = 1 := by simpa using hw
      rfl
    · rw [List.length_append, List.length_take, Decimal.zeros, List.length_replicate]
      omega
  rw [Decimal.fractionPart]
  cases hdrop : ds.drop w with
  | nil =>
    have hle : ds.length ≤ w := List.drop_eq_nil_iff.1 hdrop
    have hspells := spellsUnsigned_point negative hwhole (List.cons_ne_nil '0' [])
      (Digits.zeros 1) rest
    have hvalue : Nat.ofDigitChars 10 (ds.take w ++ Decimal.zeros (w - ds.length) ++ ['0']) 0 =
        Nat.ofDigitChars 10 ds 0 * 10 ^ (w - ds.length + 1) := by
      rw [List.take_of_length_le hle, show ['0'] = Decimal.zeros 1 from rfl, List.append_assoc,
        Decimal.zeros, Decimal.zeros, List.replicate_append_replicate]
      exact ofDigitChars_append_zeros ds _
    have hexp : -((['0'] : List Char).length : Int) + (w - ds.length + 1 : Nat) = e := by
      rw [List.length_singleton]
      omega
    rw [hvalue, Binary64.ofDecimal_mul_pow, hexp, h.value] at hspells
    simpa [hkeep] using hspells
  | cons c fs =>
    have hlt : w < ds.length := by
      by_contra hle
      rw [List.drop_eq_nil_iff.2 (Nat.not_lt.1 hle)] at hdrop
      cases hdrop
    have hfs : Digits (c :: fs) :=
      h.digits.of_subset fun c hc => List.mem_of_mem_drop (hdrop ▸ hc)
    have hspells := spellsUnsigned_point negative hwhole (List.cons_ne_nil c fs) hfs rest
    have hvalue : ds.take w ++ Decimal.zeros (w - ds.length) ++ (c :: fs) = ds := by
      rw [Nat.sub_eq_zero_of_le hlt.le, ← hdrop, show Decimal.zeros 0 = [] from rfl,
        List.append_nil, List.take_append_drop]
    have hexp : -((c :: fs).length : Int) = e := by
      rw [← hdrop, List.length_drop]
      omega
    rw [hvalue, hexp, h.value] at hspells
    exact hspells

/-- One digit in front of the point, if there is a point, and an exponent. -/
theorem spellsUnsigned_scientific (h : d.IsNormal ds e) (negative : Bool) (layout : NumberLayout)
    {lead : Int} (hlead : lead = e + ds.length - 1) :
    SpellsUnsigned negative ((ds.take 1 ++
        (if (ds.drop 1).isEmpty then [] else '.' :: ds.drop 1) ++
        Decimal.exponentPart layout lead).map CodePoint.ofChar ++ rest)
      (.float (Binary64.ofDecimal negative d.digits d.exponent)) rest := by
  have hlength : 0 < ds.length := List.length_pos_iff.2 h.ne_nil
  have hwhole : IsWhole (ds.take 1) := by
    refine ⟨?_, h.digits.of_subset fun c hc => List.mem_of_mem_take hc, fun hhead => ?_, ?_⟩
    · rw [Ne, List.take_eq_nil_iff]
      exact fun hor => hor.elim nofun h.ne_nil
    · rw [List.head?_take, if_neg Nat.one_ne_zero] at hhead
      rw [(h.single hhead).1]
      rfl
    · exact (List.length_take_le 1 ds).trans (by decide)
  have hfs : Digits (ds.drop 1) := h.digits.of_subset fun c hc => List.mem_of_mem_drop hc
  have hspells := spellsUnsigned_exponent negative hwhole hfs layout lead rest
  have hexp : lead - ((ds.drop 1).length : Int) = e := by
    rw [List.length_drop]
    omega
  rw [List.take_append_drop, hexp, h.value] at hspells
  exact hspells

/-- **A decimal is read back from its layout**, if the layout keeps the fraction of whole numbers
and writes no more digits in front of a point than may stand there. -/
theorem spellsUnsigned_render (layout : NumberLayout) (hkeep : layout.keepsFraction = true)
    (hbelow : layout.plainBelow ≤ integerLimit) (negative : Bool) (d : Decimal)
    :
    SpellsUnsigned negative ((d.render layout).map CodePoint.ofChar ++ rest)
      (.float (Binary64.ofDecimal negative d.digits d.exponent)) rest := by
  have h := d.isNormal_normal
  rw [Decimal.render]
  generalize d.normal = normal at h ⊢
  obtain ⟨ds, e⟩ := normal
  dsimp only at h ⊢
  split
  · next hplain =>
    split
    · next hsmall =>
      refine spellsUnsigned_behind h negative ?_
      omega
    · next hlarge =>
      exact spellsUnsigned_around h negative hkeep (by omega) (by omega) (by omega)
  · exact spellsUnsigned_scientific h negative layout rfl

/-- **A finite number is written in a document**, whatever comes behind it. -/
theorem spellsNumber_document (negative : Bool) (place : Fin Binary64.placeCount) (rest : Text) :
    SpellsNumber ((Binary64.finite negative place).document ++ rest)
      (.float (.finite negative place)) rest := by
  have hspells : SpellsUnsigned negative _ _ rest :=
    spellsUnsigned_render .document rfl (by decide) negative (Binary64.shortest place)
  rw [Binary64.ofDecimal_shortest] at hspells
  rw [Binary64.document, Binary64.renderWith, List.append_assoc]
  cases negative with
  | true => exact .minus hspells
  | false => exact .unsigned hspells

end Layouts

end Json

end Pasteboard
