import Mathlib.Data.List.DropRight
import Pasteboard.Proofs.Codecs
import Pasteboard.Text.Blank

/-!
# Text of any octets

What a command says about its failure may be any octets at all. A text is made of them in two steps:
they are read as UTF-8, where each part that is no text becomes U+FFFD, and the blanks at both ends
are taken off.

* A text is stripped by a cut in three, of which the middle one stays (`Text.stripped_iff`).
* Octets are mended from the left. Where no code point follows, one part becomes U+FFFD: the longest
  that some code point starts with, or a single octet (`Utf8.IllFormed`). So there is one mended
  text for any octets (`Utf8.mends_iff`). It is the text itself if the octets are those of a text
  (`Utf8.mends_of_encode`), and holds a U+FFFD if they are not (`Utf8.Mends.replacement_mem`).
-/

namespace Pasteboard

/-! ### Stripping -/

namespace Text

/-- The text has no blank and no information separator at its ends. -/
def Bare (t : Text) : Prop :=
  ∀ c, t.head? = some c ∨ t.getLast? = some c → c.isBlankOrSeparator = false

/-- The text holds blanks and information separators only. -/
def Blank (t : Text) : Prop := ∀ c ∈ t, c.isBlankOrSeparator = true

/-- The second text is what stays of the first one without the blanks at its ends. -/
inductive Stripped : Text → Text → Prop
  | cut {before u after : Text} (hbefore : before.Blank) (hafter : after.Blank) (bare : u.Bare) :
      Stripped (before ++ u ++ after) u

variable {t u : Text}

theorem Bare.dropWhile_append (h : u.Bare) (hu : u ≠ []) (after : Text) :
    (u ++ after).dropWhile CodePoint.isBlankOrSeparator = u ++ after := by
  obtain ⟨c, rest, rfl⟩ := List.exists_cons_of_ne_nil hu
  have hc : c.isBlankOrSeparator = false := h c (.inl rfl)
  rw [List.cons_append, List.dropWhile_cons_of_neg (by rw [hc]; exact Bool.false_ne_true)]

theorem Bare.rdropWhile_append (h : u.Bare) {after : Text} (hafter : after.Blank) :
    (u ++ after).rdropWhile CodePoint.isBlankOrSeparator = u := by
  have hblank : ∀ c ∈ after.reverse, c.isBlankOrSeparator = true := fun c hc =>
    hafter c (List.mem_reverse.1 hc)
  rw [List.rdropWhile, List.reverse_append, List.dropWhile_append_of_pos hblank,
    ← List.rdropWhile, List.rdropWhile_eq_self_iff]
  intro hu
  rw [h _ (.inr (List.getLast?_eq_some_getLast hu))]
  exact Bool.false_ne_true

theorem bare_trimmed (t : Text) : t.trimmed.Bare := by
  have htrim : t.trimmed =
      (t.dropWhile CodePoint.isBlankOrSeparator).rdropWhile CodePoint.isBlankOrSeparator := rfl
  rintro c (hc | hc)
  · -- what is taken off at the end leaves the start as it is
    obtain ⟨after, hafter⟩ := List.rdropWhile_prefix CodePoint.isBlankOrSeparator
      (t.dropWhile CodePoint.isBlankOrSeparator)
    have hfirst : (t.dropWhile CodePoint.isBlankOrSeparator).head? = some c := by
      rw [← hafter, ← htrim, List.head?_append, hc, Option.some_or]
    have hnot := List.head?_dropWhile_not CodePoint.isBlankOrSeparator t
    rwa [hfirst] at hnot
  · have hne : t.trimmed ≠ [] := by
      intro hnil
      rw [hnil] at hc
      cases hc
    have hnot := List.rdropWhile_last_not CodePoint.isBlankOrSeparator
      (t.dropWhile CodePoint.isBlankOrSeparator) hne
    rw [List.getLast?_eq_some_getLast hne, Option.some.injEq] at hc
    rw [← hc]
    exact Bool.eq_false_iff.2 hnot

/-- **A text is stripped in one way**, which is how it is trimmed. -/
theorem stripped_iff : t.Stripped u ↔ u = t.trimmed := by
  constructor
  · rintro ⟨hbefore, hafter, hbare⟩
    rw [trimmed, trim, List.append_assoc, List.dropWhile_append_of_pos hbefore]
    by_cases hu : u = []
    · subst hu
      rw [List.nil_append, List.dropWhile_eq_nil_iff.2 hafter]
      rfl
    · rw [hbare.dropWhile_append hu]
      exact (hbare.rdropWhile_append hafter).symm
  · rintro rfl
    have hcut : t = t.takeWhile CodePoint.isBlankOrSeparator ++ t.trimmed ++
        (t.dropWhile CodePoint.isBlankOrSeparator).rtakeWhile CodePoint.isBlankOrSeparator := by
      rw [List.append_assoc]
      exact (List.takeWhile_append_dropWhile.symm).trans
        (congrArg _ List.rdropWhile_append_rtakeWhile.symm)
    have hbefore : Blank (t.takeWhile CodePoint.isBlankOrSeparator) :=
      fun c hc => List.mem_takeWhile_imp hc
    have hafter : Blank ((t.dropWhile CodePoint.isBlankOrSeparator).rtakeWhile
        CodePoint.isBlankOrSeparator) :=
      fun c hc => List.mem_rtakeWhile_imp hc
    have hstripped := Stripped.cut hbefore hafter (bare_trimmed t)
    rwa [← hcut] at hstripped

theorem Stripped.bare (h : t.Stripped u) : u.Bare := by
  cases h with
  | cut hbefore hafter bare => exact bare

/-- What is no blank stays. -/
theorem Stripped.mem (h : t.Stripped u) {c : CodePoint} (hc : c ∈ t)
    (hblank : c.isBlankOrSeparator = false) : c ∈ u := by
  obtain ⟨hbefore, hafter, -⟩ := h
  have hne : ∀ d : CodePoint, d.isBlankOrSeparator = true → c ≠ d := by
    rintro d hd rfl
    rw [hblank] at hd
    cases hd
  rcases List.mem_append.1 hc with hc | hc
  · rcases List.mem_append.1 hc with hc | hc
    · exact absurd rfl (hne c (hbefore c hc))
    · exact hc
  · exact absurd rfl (hne c (hafter c hc))

/-- A text is bare if it starts and ends with something else than a blank. -/
theorem bare_between {c d : CodePoint} (hc : c.isBlankOrSeparator = false)
    (hd : d.isBlankOrSeparator = false) (middle : Text) : Bare (c :: (middle ++ [d])) := by
  rintro x (hx | hx)
  · cases hx
    exact hc
  · rw [← List.cons_append, List.getLast?_concat] at hx
    cases hx
    exact hd

/-- Nothing is left of a text exactly if it is blank. -/
theorem Stripped.eq_nil_iff (h : t.Stripped u) : u = [] ↔ t.Blank := by
  constructor
  · rintro rfl c hc
    by_contra hnot
    exact nomatch h.mem hc (Bool.eq_false_iff.2 hnot)
  · intro hblank
    rcases u with _ | ⟨c, rest⟩
    · rfl
    · have hc : c.isBlankOrSeparator = false := h.bare c (.inl rfl)
      obtain ⟨-, -, -⟩ := h
      rw [hblank c (by simp)] at hc
      cases hc

end Text

/-! ### Parts that are no text -/

namespace Utf8

/-- Some code point starts with these octets. -/
def Begins (part : Bytes) : Prop := ∃ c octets, encodePoint c = some octets ∧ part <+: octets

/-- A part that is no text, with `rest` behind it: no code point stands here, and the part is as
long as it can be if some code point is to start with it, or a single octet. -/
structure IllFormed (part rest : Bytes) : Prop where
  broken : ∀ c octets, encodePoint c = some octets → ¬ octets <+: part ++ rest
  starts : part.length = 1 ∨ part ≠ [] ∧ Begins part
  longest : ∀ next ∈ rest.head?, ¬ Begins (part ++ [next])

theorem Begins.of_prefix {part longer : Bytes} (h : Begins longer) (hpart : part <+: longer) :
    Begins part := by
  obtain ⟨c, octets, hc, hlonger⟩ := h
  exact ⟨c, octets, hc, hpart.trans hlonger⟩

theorem begins_of_first {b : UInt8} (tail : Bytes) {more : Bytes} {c : CodePoint} {size : Nat}
    (h : first b (tail ++ more) = .point c size) (hsize : tail.length + 1 ≤ size) :
    Begins (b :: tail) := by
  obtain ⟨rest, after, hrest, rfl, hc⟩ := encodePoint_of_first h
  refine ⟨c, b :: rest, hc, (List.prefix_cons_inj b).2 ?_⟩
  exact List.prefix_of_prefix_length_le ⟨more, rfl⟩ ⟨after, hrest.symm⟩ (by omega)

/-- Octets that some code point starts with are read as that code point, with some octets behind
them. -/
theorem exists_first_of_begins {b : UInt8} {tail : Bytes} (h : Begins (b :: tail)) :
    ∃ pad c size, first b (tail ++ pad) = .point c size := by
  obtain ⟨c, octets, hc, pad, hpad⟩ := h
  obtain ⟨b', rest, rfl, hfirst⟩ := first_of_encodePoint hc
  rw [List.cons_append, List.cons.injEq] at hpad
  obtain ⟨rfl, rfl⟩ := hpad
  refine ⟨pad, c, (tail ++ pad).length + 1, ?_⟩
  rw [← hfirst [], List.append_nil]

/-- Where a code point stands, it is read. -/
theorem not_prefix_of_first {b : UInt8} {rest : Bytes} (h : ∀ c size, first b rest ≠ .point c size)
    {c : CodePoint} {octets : Bytes} (hc : encodePoint c = some octets) :
    ¬ octets <+: b :: rest := by
  rintro ⟨more, hmore⟩
  obtain ⟨b', tail, rfl, hfirst⟩ := first_of_encodePoint hc
  rw [List.cons_append, List.cons.injEq] at hmore
  obtain ⟨rfl, rfl⟩ := hmore
  exact h _ _ (hfirst more)

section Cuts

variable {b : UInt8} {tail : Bytes}

/-- Octets that end too early are a part that is no text. -/
theorem illFormed_end (h : ∀ c size, first b tail ≠ .point c size)
    (hstarts : tail = [] ∨ Begins (b :: tail)) : IllFormed (b :: tail) [] := by
  refine ⟨fun c octets hc => ?_, ?_, nofun⟩
  · rw [List.append_nil]
    exact not_prefix_of_first h hc
  · exact hstarts.imp (fun htail => by rw [htail]; rfl) fun hbegins => ⟨nofun, hbegins⟩

/-- Octets are a part that is no text if the one behind them does not continue them. -/
theorem illFormed_before {next : UInt8}
    (h : ∀ pad c size, first b (tail ++ next :: pad) ≠ .point c size)
    (hstarts : tail = [] ∨ Begins (b :: tail)) (rest : Bytes) :
    IllFormed (b :: tail) (next :: rest) := by
  refine ⟨fun c octets hc => not_prefix_of_first (h rest) hc, ?_, ?_⟩
  · exact hstarts.imp (fun htail => by rw [htail]; rfl) fun hbegins => ⟨nofun, hbegins⟩
  · rintro _ ⟨⟩ hbegins
    rw [List.cons_append] at hbegins
    obtain ⟨pad, c, size, hpoint⟩ := exists_first_of_begins hbegins
    rw [List.append_assoc] at hpoint
    exact h pad c size hpoint

end Cuts

/-- A number of a code point is read as that code point. -/
theorem exists_pointOf {n : Nat} (h : n < 0x110000) (size : Nat) :
    ∃ c, pointOf n size = .point c size :=
  ⟨⟨n, h⟩, by rw [pointOf, CodePoint.ofNat?, dif_pos h]⟩

section Complete

variable {b b₁ b₂ b₃ : UInt8}

/-- A first octet of two and a continuation octet are a code point. -/
theorem first_of_two (hlow : 0xC2 ≤ b.toNat) (hhigh : b.toNat < 0xE0)
    (hb₁ : isContinuation b₁ = true) (rest : Bytes) : ∃ c, first b (b₁ :: rest) = .point c 2 := by
  obtain ⟨hn₁, hp₁⟩ := isContinuation_iff.1 hb₁
  obtain ⟨c, hc⟩ := exists_pointOf (by omega : (b.toNat - 0xC0) * 64 + payload b₁ < 0x110000) 2
  refine ⟨c, ?_⟩
  rw [first.eq_def, if_neg (by omega), if_neg (by omega), if_pos hhigh, ← hc]
  exact if_pos hb₁

/-- A first octet of three, one that may follow it and a continuation octet are a code point. -/
theorem first_of_three (hlow : 0xE0 ≤ b.toNat) (hhigh : b.toNat < 0xF0)
    (hb₁ : mayFollow b b₁ = true) (hb₂ : isContinuation b₂ = true) (rest : Bytes) :
    ∃ c, first b (b₁ :: b₂ :: rest) = .point c 3 := by
  obtain ⟨hn₁, hp₁, -⟩ := payload_of_mayFollow hb₁
  obtain ⟨hn₂, hp₂⟩ := isContinuation_iff.1 hb₂
  obtain ⟨c, hc⟩ := exists_pointOf
    (by omega : (b.toNat - 0xE0) * 4096 + payload b₁ * 64 + payload b₂ < 0x110000) 3
  refine ⟨c, ?_⟩
  rw [first.eq_def, if_neg (by omega), if_neg (by omega), if_neg (by omega), if_pos hhigh, ← hc]
  simp only [hb₁, hb₂, Bool.not_true, Bool.false_eq_true, if_false, if_true]

/-- A first octet of four, one that may follow it and two continuation octets are a code point. -/
theorem first_of_four (hlow : 0xF0 ≤ b.toNat) (hhigh : b.toNat < 0xF5)
    (hb₁ : mayFollow b b₁ = true) (hb₂ : isContinuation b₂ = true)
    (hb₃ : isContinuation b₃ = true) (rest : Bytes) :
    ∃ c, first b (b₁ :: b₂ :: b₃ :: rest) = .point c 4 := by
  obtain ⟨hn₁, hp₁, -, -, -, hlast⟩ := payload_of_mayFollow hb₁
  obtain ⟨hn₂, hp₂⟩ := isContinuation_iff.1 hb₂
  obtain ⟨hn₃, hp₃⟩ := isContinuation_iff.1 hb₃
  obtain ⟨c, hc⟩ := exists_pointOf (by omega : (b.toNat - 0xF0) * 262144 + payload b₁ * 4096 +
    payload b₂ * 64 + payload b₃ < 0x110000) 4
  refine ⟨c, ?_⟩
  rw [first.eq_def, if_neg (by omega), if_neg (by omega), if_neg (by omega), if_neg (by omega),
    if_pos hhigh, ← hc]
  simp only [hb₁, hb₂, hb₃, Bool.not_true, Bool.false_eq_true, if_false, if_true]

end Complete

/-- An octet that continues any code point. -/
theorem isContinuation_least : isContinuation 0x80 = true := rfl

/-- **What is read as junk is a part that is no text**, by the number of octets that the first one
asks for. -/
theorem illFormed_of_first {b : UInt8} {rest : Bytes} {cause : DecodeCause} {size : Nat}
    (h : first b rest = .junk cause size) :
    ∃ tail more, rest = tail ++ more ∧ size = tail.length + 1 ∧ IllFormed (b :: tail) more := by
  have hnone : ∀ c size, first b rest ≠ .point c size := by
    rw [h]
    nofun
  rw [first.eq_def] at h
  dsimp only at h
  split_ifs at h with h₁ h₂ h₃ h₄ h₅
  · obtain ⟨c, hc⟩ := exists_pointOf (by omega : b.toNat < 0x110000) 1
    rw [hc] at h
    cases h
  · cases h
    rcases rest with _ | ⟨next, rest⟩
    · exact ⟨[], [], rfl, rfl, illFormed_end hnone (.inl rfl)⟩
    · refine ⟨[], next :: rest, rfl, rfl, illFormed_before (fun pad => ?_) (.inl rfl) rest⟩
      simp [first.eq_def, h₁, h₂]
  · rcases rest with _ | ⟨b₁, rest⟩
    · cases h
      exact ⟨[], [], rfl, rfl, illFormed_end hnone (.inl rfl)⟩
    dsimp only at h
    split_ifs at h with hb₁
    · obtain ⟨c, hc⟩ := first_of_two (by omega) h₃ hb₁ rest
      exact absurd hc (hnone c _)
    · cases h
      refine ⟨[], b₁ :: rest, rfl, rfl, illFormed_before (fun pad => ?_) (.inl rfl) rest⟩
      simp [first.eq_def, h₁, h₂, h₃, hb₁]
  · rcases rest with _ | ⟨b₁, rest⟩
    · cases h
      exact ⟨[], [], rfl, rfl, illFormed_end hnone (.inl rfl)⟩
    dsimp only at h
    split_ifs at h with hb₁
    · cases h
      refine ⟨[], b₁ :: rest, rfl, rfl, illFormed_before (fun pad => ?_) (.inl rfl) rest⟩
      simp [first.eq_def, h₁, h₂, h₃, h₄, hb₁]
    rw [Bool.not_eq_true, Bool.not_eq_false'] at hb₁
    -- one more octet makes a code point of these two
    obtain ⟨c, hc⟩ := first_of_three (by omega) h₄ hb₁ isContinuation_least []
    have hbegins : Begins [b, b₁] := begins_of_first [b₁] hc (Nat.le_succ 2)
    rcases rest with _ | ⟨b₂, rest⟩
    · cases h
      exact ⟨[b₁], [], rfl, rfl, illFormed_end hnone (.inr hbegins)⟩
    dsimp only at h
    split_ifs at h with hb₂
    · obtain ⟨c, hc⟩ := first_of_three (by omega) h₄ hb₁ hb₂ rest
      exact absurd hc (hnone c _)
    · cases h
      refine ⟨[b₁], b₂ :: rest, rfl, rfl, illFormed_before (fun pad => ?_) (.inr hbegins) rest⟩
      simp [first.eq_def, h₁, h₂, h₃, h₄, hb₁, hb₂]
  · rcases rest with _ | ⟨b₁, rest⟩
    · cases h
      exact ⟨[], [], rfl, rfl, illFormed_end hnone (.inl rfl)⟩
    dsimp only at h
    split_ifs at h with hb₁
    · cases h
      refine ⟨[], b₁ :: rest, rfl, rfl, illFormed_before (fun pad => ?_) (.inl rfl) rest⟩
      simp [first.eq_def, h₁, h₂, h₃, h₄, h₅, hb₁]
    rw [Bool.not_eq_true, Bool.not_eq_false'] at hb₁
    -- two more octets make a code point of these two
    obtain ⟨c, hc⟩ := first_of_four (by omega) h₅ hb₁ isContinuation_least isContinuation_least []
    have hbegins : Begins [b, b₁] := begins_of_first [b₁] hc (Nat.le_add_right 2 2)
    rcases rest with _ | ⟨b₂, rest⟩
    · cases h
      exact ⟨[b₁], [], rfl, rfl, illFormed_end hnone (.inr hbegins)⟩
    dsimp only at h
    split_ifs at h with hb₂
    · cases h
      rw [Bool.not_eq_true'] at hb₂
      refine ⟨[b₁], b₂ :: rest, rfl, rfl, illFormed_before (fun pad => ?_) (.inr hbegins) rest⟩
      simp [first.eq_def, h₁, h₂, h₃, h₄, h₅, hb₁, hb₂]
    rw [Bool.not_eq_true, Bool.not_eq_false'] at hb₂
    -- and one more makes a code point of these three
    obtain ⟨c, hc⟩ := first_of_four (by omega) h₅ hb₁ hb₂ isContinuation_least []
    have hbegins : Begins [b, b₁, b₂] := begins_of_first [b₁, b₂] hc (Nat.le_succ 3)
    rcases rest with _ | ⟨b₃, rest⟩
    · cases h
      exact ⟨[b₁, b₂], [], rfl, rfl, illFormed_end hnone (.inr hbegins)⟩
    dsimp only at h
    split_ifs at h with hb₃
    · obtain ⟨c, hc⟩ := first_of_four (by omega) h₅ hb₁ hb₂ hb₃ rest
      exact absurd hc (hnone c _)
    · cases h
      refine ⟨[b₁, b₂], b₃ :: rest, rfl, rfl, illFormed_before (fun pad => ?_) (.inr hbegins) rest⟩
      simp [first.eq_def, h₁, h₂, h₃, h₄, h₅, hb₁, hb₂, hb₃]
  · cases h
    rcases rest with _ | ⟨next, rest⟩
    · exact ⟨[], [], rfl, rfl, illFormed_end hnone (.inl rfl)⟩
    · refine ⟨[], next :: rest, rfl, rfl, illFormed_before (fun pad => ?_) (.inl rfl) rest⟩
      simp [first.eq_def, h₁, h₂, h₃, h₄, h₅]

theorem IllFormed.ne_nil {part rest : Bytes} (h : IllFormed part rest) : part ≠ [] := by
  rintro rfl
  exact h.starts.elim nofun fun hne => hne.1 rfl

/-- Of two parts that are no text at one place, neither is shorter. -/
theorem IllFormed.length_le {part part' rest rest' : Bytes} (h : IllFormed part rest)
    (h' : IllFormed part' rest') (heq : part ++ rest = part' ++ rest') :
    part'.length ≤ part.length := by
  by_contra hshort
  rw [Nat.not_le] at hshort
  have hpos : 0 < part.length := List.length_pos_iff.2 h.ne_nil
  obtain ⟨-, hbegins⟩ := h'.starts.resolve_left (by omega)
  obtain ⟨more, rfl⟩ := List.prefix_of_prefix_length_le ⟨rest, heq⟩ ⟨rest', rfl⟩ hshort.le
  rcases more with _ | ⟨next, more⟩
  · rw [List.append_nil] at hshort
    exact Nat.lt_irrefl _ hshort
  · rw [List.append_assoc, List.append_right_inj] at heq
    refine h.longest next (by rw [heq]; rfl) (hbegins.of_prefix ⟨more, ?_⟩)
    rw [List.append_assoc]
    rfl

/-- **There is one part that is no text at a place.** -/
theorem IllFormed.unique {part part' rest rest' : Bytes} (h : IllFormed part rest)
    (h' : IllFormed part' rest') (heq : part ++ rest = part' ++ rest') :
    part = part' ∧ rest = rest' :=
  List.append_inj heq (Nat.le_antisymm (h'.length_le h heq.symm) (h.length_le h' heq))

/-! ### Mending -/

/-- The text that octets are read as if every part of them that is no text becomes U+FFFD. -/
inductive Mends : Bytes → Text → Prop
  | nil : Mends [] []
  | point {c : CodePoint} {octets rest : Bytes} {t : Text} (encode : encodePoint c = some octets)
      (h : Mends rest t) : Mends (octets ++ rest) (c :: t)
  | illFormed {part rest : Bytes} {t : Text} (broken : IllFormed part rest) (h : Mends rest t) :
      Mends (part ++ rest) (CodePoint.replacement :: t)

/-- Octets that belong to the last piece are passed over. -/
theorem decodeReplacingFrom_skip (done : Text) (tail rest : Bytes) :
    Charset.utf8.decodeReplacingFrom done tail.length (tail ++ rest) =
      Charset.utf8.decodeReplacingFrom done 0 rest := by
  induction tail with
  | nil => rfl
  | cons b tail ih => rwa [List.length_cons, List.cons_append, Charset.decodeReplacingFrom]

/-- What is decoded with replacements is what has been decoded before, and what the octets are
mended to, by induction on the number of octets. -/
theorem mends_of_decodeReplacingFrom (done : Text) (bs : Bytes) :
    ∃ t, Charset.utf8.decodeReplacingFrom done 0 bs = done.reverse ++ t ∧ Mends bs t := by
  induction hn : bs.length using Nat.strongRecOn generalizing done bs with
  | ind n ih =>
    cases bs with
    | nil => exact ⟨[], by rw [Charset.decodeReplacingFrom, List.append_nil], .nil⟩
    | cons b rest =>
      rw [Charset.decodeReplacingFrom]
      have hshorter : ∀ tail more, rest = tail ++ more → more.length < n := by
        rintro tail more rfl
        rw [← hn, List.length_cons, List.length_append]
        omega
      split
      · next c size hpoint =>
        obtain ⟨tail, more, rfl, rfl, hc⟩ := encodePoint_of_first hpoint
        obtain ⟨t, ht, hmends⟩ := ih _ (hshorter tail more rfl) (c :: done) more rfl
        refine ⟨c :: t, ?_, .point hc hmends⟩
        rw [Nat.add_sub_cancel, decodeReplacingFrom_skip, ht, List.reverse_cons, List.append_assoc]
        rfl
      · next cause size hjunk =>
        obtain ⟨tail, more, rfl, rfl, hbroken⟩ := illFormed_of_first hjunk
        obtain ⟨t, ht, hmends⟩ :=
          ih _ (hshorter tail more rfl) (CodePoint.replacement :: done) more rfl
        refine ⟨CodePoint.replacement :: t, ?_, .illFormed hbroken hmends⟩
        rw [Nat.add_sub_cancel, decodeReplacingFrom_skip, ht, List.reverse_cons, List.append_assoc]
        rfl

/-- Mended octets are decoded with replacements, whatever has been decoded before, by induction on
how they are mended. -/
theorem Mends.decodeReplacingFrom_eq {bs : Bytes} {t : Text} (h : Mends bs t) (done : Text) :
    Charset.utf8.decodeReplacingFrom done 0 bs = done.reverse ++ t := by
  induction h generalizing done with
  | nil => rw [Charset.decodeReplacingFrom, List.append_nil]
  | @point c octets rest t hc h ih =>
    obtain ⟨b, tail, rfl, hfirst⟩ := first_of_encodePoint hc
    have hpoint : Charset.utf8.first b (tail ++ rest) = .point c (tail.length + 1) := hfirst rest
    rw [List.cons_append, Charset.decodeReplacingFrom, hpoint]
    dsimp only
    rw [Nat.add_sub_cancel, decodeReplacingFrom_skip, ih, List.reverse_cons, List.append_assoc]
    rfl
  | @illFormed part rest t hbroken h ih =>
    obtain ⟨b, tail, rfl⟩ := List.exists_cons_of_ne_nil hbroken.ne_nil
    rw [List.cons_append, Charset.decodeReplacingFrom]
    split
    · next c size hpoint =>
      -- a code point that is read would stand here
      obtain ⟨tail', more, hrest, -, hc⟩ := encodePoint_of_first hpoint
      refine absurd ⟨more, ?_⟩ (hbroken.broken c _ hc)
      rw [List.cons_append, List.cons_append, hrest]
    · next cause size hjunk =>
      obtain ⟨tail', more, hrest, rfl, hbroken'⟩ := illFormed_of_first hjunk
      obtain ⟨heq, rfl⟩ := hbroken.unique hbroken' (congrArg (b :: ·) hrest)
      rw [List.cons.injEq] at heq
      obtain ⟨-, rfl⟩ := heq
      rw [Nat.add_sub_cancel, decodeReplacingFrom_skip, ih, List.reverse_cons, List.append_assoc]
      rfl

/-- **Any octets are mended to one text**, which is what they are decoded to with replacements. -/
theorem mends_iff {bs : Bytes} {t : Text} : Mends bs t ↔ t = Charset.utf8.decodeReplacing bs := by
  constructor
  · intro h
    exact (h.decodeReplacingFrom_eq []).symm
  · rintro rfl
    obtain ⟨t, ht, hmends⟩ := mends_of_decodeReplacingFrom [] bs
    rwa [Charset.decodeReplacing, ht]

/-- Two octets that begin a code point become one U+FFFD, and so does an octet that begins none. -/
example : Mends [0xe2, 0x82, 0x41, 0xff]
    [CodePoint.replacement, CodePoint.ofChar 'A', CodePoint.replacement] :=
  mends_iff.2 (by decide)

/-- **The octets of a text are mended to that text.** -/
theorem mends_of_encode {bs : Bytes} {t : Text} (h : Charset.utf8.encode t = .ok bs) :
    Mends bs t := by
  induction t generalizing bs with
  | nil =>
    cases h
    exact .nil
  | cons c t ih =>
    obtain ⟨head, tail, hc, ht, rfl⟩ := Charset.encode_cons_eq_ok_iff.1 h
    exact .point hc (ih ht)

/-- **Octets that are those of no text are mended with a U+FFFD.** -/
theorem Mends.replacement_mem {bs : Bytes} {t : Text} (h : Mends bs t)
    (hbad : ∀ u, Charset.utf8.encode u ≠ .ok bs) : CodePoint.replacement ∈ t := by
  by_contra hnot
  have hencode : Charset.utf8.encode t = .ok bs := by
    clear hbad
    induction h with
    | nil => rfl
    | point hc h ih =>
      rw [List.mem_cons, not_or] at hnot
      exact Charset.encode_cons_eq_ok_iff.2 ⟨_, _, hc, ih hnot.2, rfl⟩
    | illFormed hbroken h ih => exact absurd List.mem_cons_self hnot
  exact hbad t hencode

end Utf8

end Pasteboard
