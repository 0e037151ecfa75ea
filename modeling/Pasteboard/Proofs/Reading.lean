import Pasteboard.Proofs.Scalars
import Pasteboard.Proofs.Codecs

/-!
# Reading documents

A text is read as the value that it holds by the grammar, and a text that holds no value is not read
(`Json.readText?_eq_some_iff`). One direction is an induction on the writing of the value: whatever
is written is read, as long as there is as much fuel as there is text (`Json.Spells.isRead`). The
other one is an induction on the fuel: whatever is read is written (`Json.Sound`). With the octets
of the text this says which documents are read at all, and as what (`Json.read?_eq_some_iff`).
-/

namespace Pasteboard.Json

variable {room : Nat} {t t₁ rest : Text}

/-! ### Blanks -/

theorem Blanks.refl (t : Text) : Blanks t t := ⟨[], nofun, rfl⟩

theorem Blanks.trans (h₁ : Blanks t t₁) (h₂ : Blanks t₁ rest) : Blanks t rest := by
  obtain ⟨first, hfirst, rfl⟩ := h₁
  obtain ⟨second, hsecond, rfl⟩ := h₂
  refine ⟨first ++ second, fun c hc => ?_, (List.append_assoc _ _ _).symm⟩
  exact (List.mem_append.1 hc).elim (hfirst c) (hsecond c)

theorem Blanks.length_le (h : Blanks t rest) : rest.length ≤ t.length := by
  obtain ⟨blanks, -, rfl⟩ := h
  rw [List.length_append]
  omega

/-- The blanks at the front of a text are skipped. -/
theorem blanks_skipBlanks (t : Text) : Blanks t (skipBlanks t) :=
  ⟨_, fun _ hc => List.mem_takeWhile_imp hc, List.takeWhile_append_dropWhile.symm⟩

/-- All blanks are skipped up to what is none. -/
theorem Blanks.skip (h : Blanks t rest) (hrest : ∀ c ∈ rest.head?, isBlank c = false) :
    skipBlanks t = rest := by
  obtain ⟨blanks, hblanks, rfl⟩ := h
  rw [skipBlanks, List.dropWhile_append_of_pos hblanks]
  cases rest with
  | nil => rfl
  | cons c tail => exact List.dropWhile_cons_of_neg (by rw [hrest c rfl]; nofun)

/-- A mark is found behind blanks. -/
theorem Blanks.skip_mark {mark : Char} (hmark : isBlank (CodePoint.ofChar mark) = false)
    (h : Blanks t (CodePoint.ofChar mark :: rest)) :
    skipBlanks t = CodePoint.ofChar mark :: rest :=
  h.skip fun _ hc => Option.some.inj hc ▸ hmark

/-- A blank is no part of a number. -/
theorem Blanks.stopsNumber (h : Blanks t rest) (hrest : StopsNumber rest) : StopsNumber t := by
  obtain ⟨blanks, hblanks, rfl⟩ := h
  cases blanks with
  | nil => exact hrest
  | cons c blanks =>
    have hblank : c.val = 0x20 ∨ c.val = 0x9 ∨ c.val = 0xA ∨ c.val = 0xD := by
      have hc := hblanks c List.mem_cons_self
      simpa [isBlank, or_assoc] using hc
    have hdigit : c.isDigit = false := by
      rw [CodePoint.isDigit, decide_eq_false_iff_not]
      omega
    refine ⟨stopsDigits_of_isDigit hdigit _, fun d hd hhead => ?_⟩
    rw [Option.some.inj hhead] at hblank
    simp only [List.mem_cons, List.not_mem_nil, or_false] at hd
    rcases hd with rfl | rfl | rfl <;> exact absurd hblank (by decide)

/-! ### The front of a value -/

/-- What holds no other value starts with no blank, and with a mark only if it is a quotation mark
or a minus sign. -/
theorem SpellsScalar.head_ne {v : Value} (h : SpellsScalar t v rest) {mark : Char}
    (hdigit : mark.isDigit = false) (hmark : mark ∉ ['"', '-', 't', 'f', 'n', 'N', 'I']) :
    t.head? ≠ some (CodePoint.ofChar mark) := by
  obtain ⟨c, tail, rfl, hc | ⟨d, hd, rfl⟩⟩ := h.head
  · exact fun hhead => ne_ofChar_of_isDigit hc hdigit (Option.some.inj hhead)
  · intro hhead
    rw [CodePoint.ofChar_inj (Option.some.inj hhead)] at hd
    exact hmark hd

theorem SpellsScalar.isBlank_head {v : Value} (h : SpellsScalar t v rest) :
    ∀ c ∈ t.head?, isBlank c = false := by
  obtain ⟨c, tail, rfl, hc⟩ := h.head
  intro c' hc'
  cases hc'
  rcases hc with hc | ⟨d, hd, rfl⟩
  · rw [CodePoint.isDigit, decide_eq_true_eq] at hc
    simp only [isBlank, Bool.or_eq_false_iff, beq_eq_false_iff_ne]
    omega
  · simp only [List.mem_cons, List.not_mem_nil, or_false] at hd
    rcases hd with rfl | rfl | rfl | rfl | rfl | rfl | rfl <;> rfl

/-- A value starts with no blank and does not start with the bracket that ends a list. -/
theorem Spells.head {v : Value} (h : Spells room t (.value v) rest) :
    (∀ c ∈ t.head?, isBlank c = false) ∧ t.head? ≠ some (CodePoint.ofChar ']') := by
  have hmark : ∀ mark : Char, isBlank (CodePoint.ofChar mark) = false → mark ≠ ']' → ∀ tail : Text,
      (∀ c ∈ (CodePoint.ofChar mark :: tail).head?, isBlank c = false) ∧
        (CodePoint.ofChar mark :: tail).head? ≠ some (CodePoint.ofChar ']') := by
    intro mark hblank hne tail
    refine ⟨fun c hc => Option.some.inj hc ▸ hblank, fun hhead => ?_⟩
    exact hne (CodePoint.ofChar_inj (Option.some.inj hhead))
  cases h with
  | scalar h => exact ⟨h.isBlank_head, h.head_ne rfl (by decide)⟩
  | emptyList | list => exact hmark '[' rfl (by decide) _
  | emptyObject | object => exact hmark '\x7b' rfl (by decide) _

/-! ### How much is written -/

theorem SpellsFraction.length_le {digits : Text} (h : SpellsFraction t digits rest) :
    rest.length ≤ t.length := by
  cases h with
  | none => exact Nat.le_refl _
  | digits =>
    rw [List.length_cons, List.length_append]
    omega

theorem SpellsSign.length_le {negative : Bool} (h : SpellsSign t negative rest) :
    rest.length ≤ t.length := by
  cases h with
  | none => exact Nat.le_refl _
  | plus | minus => exact Nat.le_succ _

theorem SpellsExponent.length_le {exponent? : Option Int} (h : SpellsExponent t exponent? rest) :
    rest.length ≤ t.length := by
  cases h with
  | none => exact Nat.le_refl _
  | digits _ hsign =>
    have hlength := hsign.length_le
    rw [List.length_append] at hlength
    rw [List.length_cons]
    omega

theorem SpellsUnsigned.length_lt {negative : Bool} {v : Value}
    (h : SpellsUnsigned negative t v rest) : rest.length < t.length := by
  obtain ⟨hwhole, hfraction, hexponent⟩ := h
  have hpos := List.length_pos_iff.2 hwhole.ne_nil
  have hle := hfraction.length_le
  have hle' := hexponent.length_le
  rw [List.length_append]
  omega

theorem SpellsString.length_lt {s : Text} (h : SpellsString t s rest) :
    rest.length < t.length := by
  induction h with
  | close rest => exact Nat.lt_succ_self _
  | point _ _ _ _ ih => exact Nat.lt_succ_of_lt ih
  | escape hescape _ ih =>
    obtain ⟨escape, rfl, -⟩ := hescape.read
    rw [List.length_cons, List.length_append]
    omega

theorem SpellsScalar.length_lt {v : Value} (h : SpellsScalar t v rest) :
    rest.length < t.length := by
  cases h with
  | @word word _ hword =>
    have hpos : 0 < (Text.ofString word).length := by
      simp only [words, List.mem_cons, Prod.mk.injEq, List.not_mem_nil, or_false] at hword
      rcases hword with ⟨rfl, rfl⟩ | ⟨rfl, rfl⟩ | ⟨rfl, rfl⟩ | ⟨rfl, rfl⟩ | ⟨rfl, rfl⟩ <;> decide
    rw [List.length_append]
    omega
  | negativeInfinity =>
    rw [List.length_cons, List.length_append]
    omega
  | number h =>
    cases h with
    | unsigned h => exact h.length_lt
    | minus h => exact Nat.lt_succ_of_lt h.length_lt
  | string h => exact Nat.lt_succ_of_lt h.length_lt

theorem SpellsName.length_lt {name : Text} (h : SpellsName t name rest) :
    rest.length < t.length := by
  obtain ⟨hfirst, hname, hsecond, hthird⟩ := h
  have h₁ := hfirst.length_le
  have h₂ := hname.length_lt
  have h₃ := hsecond.length_le
  have h₄ := hthird.length_le
  simp only [List.length_cons] at h₁ h₃
  omega

/-- Something is always written. -/
theorem Spells.length_lt {piece : Piece} (h : Spells room t piece rest) :
    rest.length < t.length := by
  induction h with
  | scalar h => exact h.length_lt
  | emptyList h | emptyObject h =>
    have hle := h.length_le
    rw [List.length_cons] at hle ⊢
    omega
  | list _ ih | object _ ih => exact Nat.lt_succ_of_lt ih
  | lastItem hfirst _ hlast ih =>
    have h₁ := hfirst.length_le
    have h₂ := hlast.length_le
    rw [List.length_cons] at h₂
    omega
  | item hfirst _ hnext _ ih ih' =>
    have h₁ := hfirst.length_le
    have h₂ := hnext.length_le
    rw [List.length_cons] at h₂
    omega
  | lastMember hname _ hlast ih =>
    have h₁ := hname.length_lt
    have h₂ := hlast.length_le
    rw [List.length_cons] at h₂
    omega
  | member hname _ hnext _ ih ih' =>
    have h₁ := hname.length_lt
    have h₂ := hnext.length_le
    rw [List.length_cons] at h₂
    omega

/-! ### What is written is read -/

theorem dropMark?_of_ne {mark d : Char} (h : d ≠ mark) (tail : Text) :
    dropMark? mark (CodePoint.ofChar d :: tail) = none :=
  if_neg fun hd => h (CodePoint.ofChar_inj hd)

/-- A name is read, up to the value behind its colon. -/
theorem SpellsName.read {name : Text} (h : SpellsName t name rest)
    (hrest : ∀ c ∈ rest.head?, isBlank c = false) :
    readName? (skipBlanks t) = some (name, rest) := by
  obtain ⟨hfirst, hname, hsecond, hthird⟩ := h
  rw [hfirst.skip_mark rfl, readName?, dropMark?_cons]
  simp only [Option.bind_eq_bind, Option.bind_some, readString?_eq_some_iff.2 hname,
    hsecond.skip_mark rfl, dropMark?_cons, hthird.skip hrest]

/-- A list that is not empty does not start with its end. -/
theorem Spells.skip_items {items : List Value} (h : Spells room t (.items items) rest) :
    dropMark? ']' (skipBlanks t) = none := by
  cases h with
  | lastItem hfirst hvalue | item hfirst hvalue =>
    rw [hfirst.skip hvalue.head.1]
    exact dropMark?_of_head?_ne hvalue.head.2

/-- An object that is not empty does not start with its end. -/
theorem Spells.skip_members {members : Fields} (h : Spells room t (.members members) rest) :
    dropMark? '\x7d' (skipBlanks t) = none := by
  cases h with
  | lastMember hname | member hname =>
    obtain ⟨hfirst, -, -, -⟩ := hname
    rw [hfirst.skip_mark rfl]
    exact dropMark?_of_ne (by decide) _

/-- How a piece is read whose text and what comes behind it are given: with as much fuel as there is
text, and whatever was read before it. -/
def Piece.IsRead (room : Nat) (t rest : Text) : Piece → Prop
  | value v => StopsNumber rest → ∀ fuel, t.length ≤ fuel + rest.length →
      readValue? fuel room t = some (v, rest)
  | items vs => ∀ fuel done, t.length ≤ fuel + rest.length →
      readItems? fuel room done (skipBlanks t) = some (.list (done.reverse ++ vs), rest)
  | members fields => ∀ fuel done, t.length ≤ fuel + rest.length →
      readMembers? fuel room done (skipBlanks t) = some (.object (done.reverse ++ fields), rest)

/-- There is fuel for one more step. -/
theorem exists_fuel {fuel : Nat} (hless : rest.length < t.length)
    (hfuel : t.length ≤ fuel + rest.length) : ∃ less, fuel = less + 1 :=
  Nat.exists_eq_add_one.2 (by omega)

/-- What comes behind a value is no more of a number, as it is a mark behind blanks. -/
theorem Blanks.stopsNumber_mark {mark : Char} (hdigit : mark.isDigit = false)
    (hpart : mark ∉ ['.', 'e', 'E']) (h : Blanks t (CodePoint.ofChar mark :: rest)) :
    StopsNumber t := h.stopsNumber (stopsNumber_cons hdigit hpart rest)

section steps

variable {t₂ : Text} {fuel : Nat} {v : Value} (hvalue : readValue? fuel room t = some (v, t₁))

include hvalue

/-- Behind the last item a list ends. -/
theorem readItems?_last (done : List Value) (hlast : Blanks t₁ (CodePoint.ofChar ']' :: rest)) :
    readItems? (fuel + 1) room done t = some (.list (done.reverse ++ [v]), rest) := by
  rw [readItems?, hvalue]
  dsimp only
  rw [hlast.skip_mark rfl, dropMark?_of_ne (by decide)]
  dsimp only
  rw [dropMark?_cons, List.reverse_cons]
  rfl

/-- Behind any other item the reading goes on. -/
theorem readItems?_next (done : List Value) (hnext : Blanks t₁ (CodePoint.ofChar ',' :: t₂)) :
    readItems? (fuel + 1) room done t = readItems? fuel room (v :: done) (skipBlanks t₂) := by
  rw [readItems?, hvalue]
  dsimp only
  rw [hnext.skip_mark rfl, dropMark?_cons]

variable {name : Text} {t₀ : Text} (hname : readName? t₀ = some (name, t))

include hname

/-- Behind the last member an object ends. -/
theorem readMembers?_last (done : Fields) (hlast : Blanks t₁ (CodePoint.ofChar '\x7d' :: rest)) :
    readMembers? (fuel + 1) room done t₀ =
      some (.object (done.reverse ++ [(name, v)]), rest) := by
  rw [readMembers?, hname]
  dsimp only
  rw [hvalue]
  dsimp only
  rw [hlast.skip_mark rfl, dropMark?_of_ne (by decide)]
  dsimp only
  rw [dropMark?_cons, List.reverse_cons]
  rfl

/-- Behind any other member the reading goes on. -/
theorem readMembers?_next (done : Fields) (hnext : Blanks t₁ (CodePoint.ofChar ',' :: t₂)) :
    readMembers? (fuel + 1) room done t₀ =
      readMembers? fuel room ((name, v) :: done) (skipBlanks t₂) := by
  rw [readMembers?, hname]
  dsimp only
  rw [hvalue]
  dsimp only
  rw [hnext.skip_mark rfl, dropMark?_cons]

end steps

/-- **What is written is read**, by induction on the writing. Each piece is shorter than what it is
a part of, so there is fuel for it. -/
theorem Spells.isRead {piece : Piece} (h : Spells room t piece rest) :
    piece.IsRead room t rest := by
  induction h with
  | scalar h =>
    intro hrest fuel hfuel
    obtain ⟨fuel, rfl⟩ := exists_fuel h.length_lt hfuel
    have hlist :=
      dropMark?_of_head?_ne (h.head_ne rfl (by decide) : _ ≠ some (CodePoint.ofChar '['))
    have hobject :=
      dropMark?_of_head?_ne (h.head_ne rfl (by decide) : _ ≠ some (CodePoint.ofChar '\x7b'))
    rw [readValue?, hlist, hobject]
    exact h.read hrest
  | emptyList h =>
    intro _ fuel hfuel
    obtain ⟨fuel, rfl⟩ := exists_fuel (Spells.emptyList h : Spells 0 _ _ _).length_lt hfuel
    rw [readValue?, dropMark?_cons]
    dsimp only
    rw [h.skip_mark rfl, dropMark?_cons]
  | list h ih =>
    -- the mark is behind, and so is one step of the fuel
    intro _ fuel hfuel
    obtain ⟨fuel, rfl⟩ := exists_fuel (Spells.list h).length_lt hfuel
    rw [readValue?, dropMark?_cons]
    dsimp only
    rw [h.skip_items]
    rw [List.length_cons] at hfuel
    exact ih fuel [] (by omega)
  | emptyObject h =>
    intro _ fuel hfuel
    obtain ⟨fuel, rfl⟩ := exists_fuel (Spells.emptyObject h : Spells 0 _ _ _).length_lt hfuel
    rw [readValue?, dropMark?_of_ne (by decide), dropMark?_cons]
    dsimp only
    rw [h.skip_mark rfl, dropMark?_cons]
  | object h ih =>
    intro _ fuel hfuel
    obtain ⟨fuel, rfl⟩ := exists_fuel (Spells.object h).length_lt hfuel
    rw [readValue?, dropMark?_of_ne (by decide), dropMark?_cons]
    dsimp only
    rw [h.skip_members]
    rw [List.length_cons] at hfuel
    exact ih fuel [] (by omega)
  | lastItem hfirst hvalue hlast ih =>
    intro fuel done hfuel
    obtain ⟨fuel, rfl⟩ := exists_fuel (Spells.lastItem hfirst hvalue hlast).length_lt hfuel
    have h₁ := hfirst.length_le
    have h₂ := hlast.length_le
    rw [List.length_cons] at h₂
    have hread := ih (hlast.stopsNumber_mark rfl (by decide)) fuel (by omega)
    rw [hfirst.skip hvalue.head.1]
    exact readItems?_last hread done hlast
  | item hfirst hvalue hnext hitems ih ihitems =>
    intro fuel done hfuel
    obtain ⟨fuel, rfl⟩ := exists_fuel (Spells.item hfirst hvalue hnext hitems).length_lt hfuel
    have h₁ := hfirst.length_le
    have h₂ := hnext.length_le
    have h₃ := hitems.length_lt
    have h₄ := hvalue.length_lt
    rw [List.length_cons] at h₂
    have hread := ih (hnext.stopsNumber_mark rfl (by decide)) fuel (by omega)
    rw [hfirst.skip hvalue.head.1, readItems?_next hread done hnext, ihitems fuel _ (by omega),
      List.reverse_cons, List.append_assoc]
    rfl
  | lastMember hname hvalue hlast ih =>
    intro fuel done hfuel
    obtain ⟨fuel, rfl⟩ := exists_fuel (Spells.lastMember hname hvalue hlast).length_lt hfuel
    have h₁ := hname.length_lt
    have h₂ := hlast.length_le
    rw [List.length_cons] at h₂
    have hread := ih (hlast.stopsNumber_mark rfl (by decide)) fuel (by omega)
    exact readMembers?_last hread (hname.read hvalue.head.1) done hlast
  | member hname hvalue hnext hmembers ih ihmembers =>
    intro fuel done hfuel
    obtain ⟨fuel, rfl⟩ := exists_fuel (Spells.member hname hvalue hnext hmembers).length_lt hfuel
    have h₁ := hname.length_lt
    have h₂ := hnext.length_le
    have h₃ := hmembers.length_lt
    have h₄ := hvalue.length_lt
    rw [List.length_cons] at h₂
    have hread := ih (hnext.stopsNumber_mark rfl (by decide)) fuel (by omega)
    rw [readMembers?_next hread (hname.read hvalue.head.1) done hnext, ihmembers fuel _ (by omega),
      List.reverse_cons, List.append_assoc]
    rfl

/-! ### What is read is written -/

theorem spellsName_of_read {name : Text} (h : readName? t = some (name, rest)) :
    SpellsName t name rest := by
  obtain ⟨t₁, hquote, h⟩ := Option.bind_eq_some_iff.1 h
  obtain ⟨⟨s, t₂⟩, hname, h⟩ := Option.bind_eq_some_iff.1 h
  obtain ⟨t₃, hcolon, h⟩ := Option.bind_eq_some_iff.1 h
  cases h
  rw [dropMark?_eq_some_iff] at hquote hcolon
  refine .mk (hquote ▸ .refl _) (readString?_eq_some_iff.1 hname) ?_ (blanks_skipBlanks t₃)
  exact hcolon ▸ blanks_skipBlanks t₂

theorem SpellsName.of_blanks {name : Text} (hblanks : Blanks t t₁) (h : SpellsName t₁ name rest) :
    SpellsName t name rest := by
  obtain ⟨hfirst, hname, hsecond, hthird⟩ := h
  exact .mk (hblanks.trans hfirst) hname hsecond hthird

/-- Blanks may come before the items of a list. -/
theorem Spells.items_of_blanks {items : List Value} (hblanks : Blanks t t₁)
    (h : Spells room t₁ (.items items) rest) : Spells room t (.items items) rest := by
  cases h with
  | lastItem hfirst hvalue hlast => exact .lastItem (hblanks.trans hfirst) hvalue hlast
  | item hfirst hvalue hnext hitems => exact .item (hblanks.trans hfirst) hvalue hnext hitems

/-- Blanks may come before the members of an object. -/
theorem Spells.members_of_blanks {members : Fields} (hblanks : Blanks t t₁)
    (h : Spells room t₁ (.members members) rest) : Spells room t (.members members) rest := by
  cases h with
  | lastMember hname hvalue hlast => exact .lastMember (hname.of_blanks hblanks) hvalue hlast
  | member hname hvalue hnext hmembers =>
    exact .member (hname.of_blanks hblanks) hvalue hnext hmembers

/-- With this much fuel nothing is read but what is written. -/
structure Sound (fuel : Nat) : Prop where
  value : ∀ {room t v rest}, readValue? fuel room t = some (v, rest) →
    Spells room t (.value v) rest
  items : ∀ {room done t v rest}, readItems? fuel room done t = some (v, rest) →
    ∃ items, v = .list (done.reverse ++ items) ∧ Spells room t (.items items) rest
  members : ∀ {room done t v rest}, readMembers? fuel room done t = some (v, rest) →
    ∃ members, v = .object (done.reverse ++ members) ∧ Spells room t (.members members) rest

variable {fuel : Nat} {v : Value}

theorem Sound.value_succ (h : Sound fuel) (hread : readValue? (fuel + 1) room t = some (v, rest)) :
    Spells room t (.value v) rest := by
  rw [readValue?] at hread
  split at hread
  · next t₁ hlist =>
    rw [dropMark?_eq_some_iff.1 hlist]
    dsimp only at hread
    split at hread
    · next after hend =>
      cases hread
      exact .emptyList (dropMark?_eq_some_iff.1 hend ▸ blanks_skipBlanks t₁)
    · cases hread
    · obtain ⟨items, rfl, hitems⟩ := h.items hread
      exact .list (hitems.items_of_blanks (blanks_skipBlanks t₁))
  · split at hread
    · next t₁ hobject =>
      rw [dropMark?_eq_some_iff.1 hobject]
      dsimp only at hread
      split at hread
      · next after hend =>
        cases hread
        exact .emptyObject (dropMark?_eq_some_iff.1 hend ▸ blanks_skipBlanks t₁)
      · cases hread
      · obtain ⟨members, rfl, hmembers⟩ := h.members hread
        exact .object (hmembers.members_of_blanks (blanks_skipBlanks t₁))
    · exact .scalar (spellsScalar_of_read hread)

theorem Sound.items_succ (h : Sound fuel) {done : List Value}
    (hread : readItems? (fuel + 1) room done t = some (v, rest)) :
    ∃ items, v = .list (done.reverse ++ items) ∧ Spells room t (.items items) rest := by
  rw [readItems?] at hread
  split at hread
  · cases hread
  · next item t₁ hitem =>
    have hvalue := h.value hitem
    dsimp only at hread
    split at hread
    · next t₂ hcomma =>
      have hnext := dropMark?_eq_some_iff.1 hcomma ▸ blanks_skipBlanks t₁
      obtain ⟨items, rfl, hitems⟩ := h.items hread
      refine ⟨item :: items, ?_, .item (.refl t) hvalue hnext
        (hitems.items_of_blanks (blanks_skipBlanks t₂))⟩
      rw [List.reverse_cons, List.append_assoc]
      rfl
    · obtain ⟨t₂, hend, hdone⟩ := Option.map_eq_some_iff.1 hread
      have hlast := dropMark?_eq_some_iff.1 hend ▸ blanks_skipBlanks t₁
      cases hdone
      exact ⟨[item], by rw [List.reverse_cons], .lastItem (.refl t) hvalue hlast⟩

theorem Sound.members_succ (h : Sound fuel) {done : Fields}
    (hread : readMembers? (fuel + 1) room done t = some (v, rest)) :
    ∃ members, v = .object (done.reverse ++ members) ∧
      Spells room t (.members members) rest := by
  rw [readMembers?] at hread
  split at hread
  · cases hread
  · next name t₁ hnameread =>
    have hname := spellsName_of_read hnameread
    split at hread
    · cases hread
    · next value t₂ hvalueread =>
      have hvalue := h.value hvalueread
      dsimp only at hread
      split at hread
      · next t₃ hcomma =>
        have hnext := dropMark?_eq_some_iff.1 hcomma ▸ blanks_skipBlanks t₂
        obtain ⟨members, rfl, hmembers⟩ := h.members hread
        refine ⟨(name, value) :: members, ?_, .member hname hvalue hnext
          (hmembers.members_of_blanks (blanks_skipBlanks t₃))⟩
        rw [List.reverse_cons, List.append_assoc]
        rfl
      · obtain ⟨t₃, hend, hdone⟩ := Option.map_eq_some_iff.1 hread
        have hlast := dropMark?_eq_some_iff.1 hend ▸ blanks_skipBlanks t₂
        cases hdone
        exact ⟨[(name, value)], by rw [List.reverse_cons], .lastMember hname hvalue hlast⟩

/-- **What is read is written**, by induction on the fuel. -/
theorem sound (fuel : Nat) : Sound fuel := by
  induction fuel with
  | zero =>
    refine ⟨fun h => ?_, fun h => ?_, fun h => ?_⟩
    · rw [readValue?] at h
      cases h
    · rw [readItems?] at h
      cases h
    · rw [readMembers?] at h
      cases h
  | succ fuel ih => exact ⟨ih.value_succ, ih.items_succ, ih.members_succ⟩

/-! ### Documents -/

/-- **A text is read as the value that it holds**, and if it holds none, it is not read. -/
theorem readText?_eq_some_iff : readText? t = some v ↔ Holds t v := by
  constructor
  · intro h
    rw [readText?] at h
    split at h
    · next value rest hread =>
      split_ifs at h with hempty
      cases h
      have hend := blanks_skipBlanks rest
      rw [List.isEmpty_iff.1 hempty] at hend
      exact ⟨_, rest, blanks_skipBlanks t, (sound _).value hread, hend⟩
    · cases h
  · rintro ⟨t₁, t₂, hfirst, hvalue, hlast⟩
    have hstops : StopsNumber t₂ := hlast.stopsNumber ⟨nofun, nofun⟩
    have hle := hfirst.length_le
    have hread := hvalue.isRead hstops (t.length + 1) (by omega)
    rw [readText?, hfirst.skip hvalue.head.1, hread]
    dsimp only
    rw [hlast.skip nofun]
    rfl

/-- **Which documents are read**: the octets of a text that holds a value. -/
theorem read?_eq_some_iff {document : Bytes} :
    read? document = some v ↔ ∃ t, Charset.utf8.encode t = .ok document ∧ Holds t v := by
  rw [read?]
  constructor
  · intro h
    split at h
    · next t hdecode =>
      exact ⟨t, Charset.decode_eq_ok_iff.1 hdecode, readText?_eq_some_iff.1 h⟩
    · cases h
  · rintro ⟨t, hencode, hholds⟩
    rw [Charset.decode_eq_ok_iff.2 hencode]
    exact readText?_eq_some_iff.2 hholds

end Pasteboard.Json
