import Mathlib.Tactic.IntervalCases
import Pasteboard.Proofs.Numerals
import Pasteboard.Proofs.Reading
import Pasteboard.Settings.Document

/-!
# The settings document is read back

Documents are written by the grammar that they are read by. `Json.writePoint` writes each code point
as itself or as an escape, so a string is written whatever it holds (`Json.spellsString_write`).
With the numbers and the words this gives the members of an object one by one, and so the whole
document (`Settings.holds_render`): valid settings are what their document holds, with the same
timeout bit for bit (`Settings.parse_renderBytes`). Only valid settings ever come out of a document
or a mapping (`Settings.valid_of_validate`).
-/

namespace Pasteboard

namespace Json

variable {room : Nat} {rest : Text}

/-! ### Strings -/

/-- The number of a control character is written with four digits. -/
private theorem spellsUnit_hex {n : Nat} (hn : n < 0x20) (rest : Text) :
    SpellsUnit (Text.hex 4 n ++ rest) n rest := by
  refine readUnit?_eq_some_iff.1 ?_
  interval_cases n <;> rfl

/-- A letter that is written for a control character is read as that character. -/
private theorem mem_shortEscapes {n m : Nat} {letter : Char}
    (h : letters.find? (fun e => e.1 == n) = some (m, letter)) : (letter, n) ∈ shortEscapes := by
  have hfound := List.find?_some h
  have hn : m = n := eq_of_beq hfound
  have hmem := List.mem_of_find?_eq_some h
  subst hn
  simp only [letters, List.mem_cons, Prod.mk.injEq, List.not_mem_nil, or_false] at hmem
  rcases hmem with ⟨rfl, rfl⟩ | ⟨rfl, rfl⟩ | ⟨rfl, rfl⟩ | ⟨rfl, rfl⟩ | ⟨rfl, rfl⟩ <;> decide

/-- A control character is written as an escape. -/
private theorem SpellsString.write_control {c : CodePoint} (hc : c.val < 0x20) {t s : Text}
    (h : SpellsString t s rest) : SpellsString (writePoint c ++ t) (c :: s) rest := by
  have hmark : ¬ (c = CodePoint.ofChar '"' ∨ c = CodePoint.ofChar '\\') := by
    rintro (rfl | rfl) <;> exact absurd hc (by decide)
  have hsurrogate : c.isSurrogate = false := decide_eq_false (by omega)
  rw [writePoint, if_neg hmark, if_neg (Nat.not_le.2 hc)]
  split
  · next m letter hfind => exact .escape (.letter (mem_shortEscapes hfind) t) h
  · exact .escape (.unit (spellsUnit_hex hc t) hsurrogate) h

/-- A code point is written as itself or as an escape. -/
theorem SpellsString.write (c : CodePoint) {t s : Text} (h : SpellsString t s rest) :
    SpellsString (writePoint c ++ t) (c :: s) rest := by
  by_cases hc : c.val < 0x20
  · exact h.write_control hc
  · by_cases hmark : c = CodePoint.ofChar '"' ∨ c = CodePoint.ofChar '\\'
    · rw [writePoint, if_pos hmark]
      refine .escape ?_ h
      rcases hmark with rfl | rfl
      · exact .letter (by decide) t
      · exact .letter (by decide) t
    · rw [writePoint, if_neg hmark, if_pos (Nat.not_lt.1 hc)]
      exact .point (fun hq => hmark (.inl hq)) (fun hb => hmark (.inr hb)) (Nat.not_lt.1 hc) h

/-- **Every string can be written**, by induction on the string. -/
theorem spellsString_write (t rest : Text) :
    SpellsString (t.flatMap writePoint ++ CodePoint.ofChar '"' :: rest) t rest := by
  induction t with
  | nil => exact .close rest
  | cons c t ih =>
    rw [List.flatMap_cons, List.append_assoc]
    exact ih.write c

theorem writeString_append (t rest : Text) :
    writeString t ++ rest =
      CodePoint.ofChar '"' :: (t.flatMap writePoint ++ CodePoint.ofChar '"' :: rest) := by
  rw [writeString, List.cons_append, List.cons_append, List.append_assoc]
  rfl

/-! ### Values -/

/-- The text is that of a value that holds no other, whatever comes behind it. -/
def Writes (text : Text) (value : Value) : Prop := ∀ rest, SpellsScalar (text ++ rest) value rest

theorem writes_writeString (t : Text) : Writes (writeString t) (.text t) := by
  intro rest
  rw [writeString_append]
  exact .string (spellsString_write t rest)

theorem writes_writeBool (b : Bool) : Writes (writeBool b) (.bool b) := by
  intro rest
  cases b with
  | true => exact .word (List.mem_cons_self) rest
  | false => exact .word (List.mem_cons_of_mem _ List.mem_cons_self) rest

theorem writes_null : Writes "null" .null :=
  fun rest => .word (List.mem_cons_of_mem _ (List.mem_cons_of_mem _ List.mem_cons_self)) rest

theorem writes_document (negative : Bool) (place : Fin Binary64.placeCount) :
    Writes (Binary64.finite negative place).document (.float (.finite negative place)) :=
  fun rest => .number (spellsNumber_document negative place rest)

/-- A number is written as itself, or as `null` if it is not finite. -/
theorem exists_writes_document (x : Binary64) :
    ∃ v, Writes x.document v ∧ (v = .float x ∨ v = .null) := by
  rcases x with _ | negative | ⟨negative, place⟩
  · exact ⟨.null, writes_null, .inr rfl⟩
  · cases negative <;> exact ⟨.null, writes_null, .inr rfl⟩
  · exact ⟨_, writes_document negative place, .inl rfl⟩

/-! ### Members

A member may have blanks behind its colon and behind the comma that follows it. -/

section Members

variable {gap lineBreak : Text}

theorem blanks_append {blanks : Text} (h : ∀ c ∈ blanks, isBlank c = true) (rest : Text) :
    Blanks (blanks ++ rest) rest := ⟨blanks, h, rfl⟩

theorem spellsName_write (hgap : ∀ c ∈ gap, isBlank c = true) (name text : Text) :
    SpellsName (writeString name ++ (CodePoint.ofChar ':' :: (gap ++ text))) name text := by
  rw [writeString_append]
  exact .mk (.refl _) (spellsString_write name _) (.refl _) (blanks_append hgap text)

/-- A member may stand before others. -/
theorem Spells.write_before {text more : Text} {value : Value} {members : Fields}
    (hmore : Spells room more (.members members) rest) (h : Writes text value) (name : Text)
    (hgap : ∀ c ∈ gap, isBlank c = true) (hbreak : ∀ c ∈ lineBreak, isBlank c = true) :
    Spells room (writeString name ++ (CodePoint.ofChar ':' ::
      (gap ++ (text ++ (CodePoint.ofChar ',' :: (lineBreak ++ more))))))
      (.members ((name, value) :: members)) rest :=
  .member (spellsName_write hgap name _) (.scalar (h _)) (.refl _)
    (hmore.members_of_blanks (blanks_append hbreak more))

/-- The last member completes the object. -/
theorem Writes.write_last {text : Text} {value : Value} (h : Writes text value) (name : Text)
    (hgap : ∀ c ∈ gap, isBlank c = true) (hbreak : ∀ c ∈ lineBreak, isBlank c = true) :
    Spells room (writeString name ++ (CodePoint.ofChar ':' ::
      (gap ++ (text ++ (lineBreak ++ [CodePoint.ofChar '\x7d'])))))
      (.members [(name, value)]) [] :=
  .lastMember (spellsName_write hgap name _) (.scalar (h _)) (blanks_append hbreak _)

end Members

/-- The text of a member of an object. -/
def memberText (name text : Text) : Text := writeString name ++ ": " ++ text

theorem memberText_append (name text rest : Text) :
    memberText name text ++ rest =
      writeString name ++ (CodePoint.ofChar ':' :: (Text.ofString " " ++ (text ++ rest))) := by
  rw [memberText, List.append_assoc, List.append_assoc]
  rfl

/-- A member may be written before others. -/
theorem Spells.write_member {text more : Text} {value : Value} {members : Fields}
    (hmore : Spells room more (.members members) rest) (h : Writes text value) (name : Text) :
    Spells room (memberText name text ++ (",\n  " ++ more))
      (.members ((name, value) :: members)) rest := by
  have hgap : ∀ c ∈ Text.ofString " ", isBlank c = true := by decide
  have hbreak : ∀ c ∈ Text.ofString "\n  ", isBlank c = true := by decide
  rw [memberText_append]
  exact hmore.write_before h name hgap hbreak

/-- The last member is written, and the object is complete. -/
theorem Writes.last_member {text : Text} {value : Value} (h : Writes text value) (name : Text) :
    Spells room (memberText name text ++ "\n\x7d") (.members [(name, value)]) [] := by
  have hgap : ∀ c ∈ Text.ofString " ", isBlank c = true := by decide
  have hbreak : ∀ c ∈ Text.ofString "\n", isBlank c = true := by decide
  rw [memberText_append]
  exact h.write_last name hgap hbreak

end Json

namespace Settings

/-! ### The document of settings -/

/-- The fields of an object with the backend and the switch of the settings. -/
def fieldsWith (s : Settings) (timeout : Value) : Fields :=
  [(backendField, .text s.backend.name), (timeoutField, timeout),
    (stripField, .bool s.stripTrailingNewline)]

/-- The fields of the object that the document of settings is. -/
def documentFields (s : Settings) : Fields :=
  [(backendField, .text s.backend.name), (timeoutField, .float s.timeout),
    (stripField, .bool s.stripTrailingNewline)]

theorem render_eq (s : Settings) :
    s.render = "\x7b\n  " ++ (Json.memberText backendField (Json.writeString s.backend.name) ++
      (",\n  " ++ (Json.memberText timeoutField s.timeout.document ++
        (",\n  " ++ (Json.memberText stripField (Json.writeBool s.stripTrailingNewline) ++
          "\n\x7d"))))) := by
  have hcomma : Text.ofString ",\n  " = Text.ofString "," ++ ("\n" ++ "  ") := rfl
  have hopen : Text.ofString "\x7b\n  " = Text.ofString "\x7b" ++ ("\n" ++ "  ") := rfl
  have hclose : Text.ofString "\n\x7d" = Text.ofString "\n" ++ "\x7d" := rfl
  simp only [render, page, Text.join, line, Json.memberText, hcomma, hopen, hclose,
    List.append_assoc]

/-- **The document of settings holds the object of their fields**, with what stands for the
timeout. -/
theorem holds_render {s : Settings} {v : Value} (htimeout : Json.Writes s.timeout.document v) :
    Json.Holds s.render (.object (s.fieldsWith v)) := by
  have hbackend := Json.writes_writeString s.backend.name
  have hstrip := Json.writes_writeBool s.stripTrailingNewline
  have hbreak : ∀ c ∈ Text.ofString "\n  ", Json.isBlank c = true := by decide
  -- the object leaves room for all but one of the containers that may stand inside each other
  have hlast : Json.Spells 199 _ _ _ := hstrip.last_member stripField
  have hmembers := (hlast.write_member htimeout timeoutField).write_member hbackend backendField
  rw [render_eq]
  exact ⟨_, [], .refl _,
    .object (hmembers.members_of_blanks (Json.blanks_append hbreak _)), .refl _⟩

theorem readText?_render {s : Settings} {v : Value} (htimeout : Json.Writes s.timeout.document v) :
    Json.readText? s.render = some (.object (s.fieldsWith v)) :=
  Json.readText?_eq_some_iff.2 (holds_render htimeout)

/-! ### Validation -/

theorem readTimeout_valid {v : Value} {x : Binary64} (h : readTimeout v = .ok x) :
    x.isPositive = true ∧ x.atMost longestTimeout = true := by
  simp only [readTimeout, bind, Except.bind] at h
  split at h
  · cases h
  · split_ifs at h with hnan hpositive hmost
    injection h with h
    subst h
    simp only [Bool.not_eq_true', Bool.not_eq_false] at hpositive hmost
    exact ⟨hpositive, hmost⟩

/-- A timeout that is read from a number is that number. -/
theorem readTimeout_eq {x y : Binary64} (h : readTimeout (.float x) = .ok y) : y = x := by
  have hread : (Value.float x).readNumber = .ok x := rfl
  rw [readTimeout, hread] at h
  simp only [bind, Except.bind] at h
  split_ifs at h
  exact (Except.ok.inj h).symm

theorem valid_default : ({} : Settings).Valid := ⟨by decide +kernel, by decide +kernel⟩

/-- **What validation lets through is valid.** -/
theorem valid_of_validate {fields : Fields} {s : Settings} (h : validate fields = .ok s) :
    s.Valid := by
  rw [validate] at h
  dsimp only at h
  split at h
  · next backend timeout strip _ ht _ =>
    injection h with h
    subst h
    rw [Fields.readOr] at ht
    split at ht
    · injection ht with ht
      rw [Valid, ← ht]
      exact valid_default
    · next v _ =>
      rcases hv : readTimeout v with kind | x
      · rw [hv] at ht
        cases ht
      · rw [hv] at ht
        injection ht with ht
        rw [Valid, ← ht]
        exact readTimeout_valid hv
  · cases h

/-- A document that holds settings holds valid ones. -/
theorem valid_of_parse {document : Bytes} {s : Settings} (h : parse document = .ok s) :
    s.Valid := by
  rw [parse] at h
  split at h
  · next fields _ =>
    rcases hv : validate fields with faults | t
    · rw [hv] at h
      cases h
    · rw [hv] at h
      cases h
      exact valid_of_validate hv
  · cases h

theorem Valid.timeout_eq {s : Settings} (h : s.Valid) :
    ∃ place, s.timeout = .finite false place := by
  obtain ⟨hpositive, hmost⟩ := h
  cases hx : s.timeout with
  | nan => rw [hx] at hpositive; cases hpositive
  | infinite negative =>
    rw [hx] at hpositive hmost
    cases negative
    · cases hmost
    · cases hpositive
  | finite negative place =>
    rw [hx] at hpositive
    cases negative
    · exact ⟨place, rfl⟩
    · cases hpositive

theorem readBackend_name (b : Backend) : readBackend (.text b.name) = .ok b := by
  cases b <;> rfl

theorem readTimeout_float {x : Binary64} (hpositive : x.isPositive = true)
    (hmost : x.atMost longestTimeout = true) : readTimeout (.float x) = .ok x := by
  have hnan : x ≠ .nan := by
    rintro rfl
    cases hpositive
  have hread : (Value.float x).readNumber = .ok x := rfl
  rw [readTimeout, hread]
  simp only [bind, Except.bind]
  rw [if_neg hnan, hpositive, hmost]
  rfl

/-- A field that is there is what its reader makes of it. -/
theorem readOr_of_get? {α : Type} {fields : Fields} {name : Text} {v : Value} {x : α}
    {read : Value → Except FaultKind α} (hget : fields.get? name = some v) (hread : read v = .ok x)
    (default : α) : fields.readOr name default read = .ok x := by
  rw [Fields.readOr, hget]
  dsimp only
  rw [hread]
  rfl

theorem validate_documentFields {s : Settings} (h : s.Valid) :
    validate s.documentFields = .ok s := by
  have hbackend : s.documentFields.get? backendField = some (.text s.backend.name) := rfl
  have htimeout : s.documentFields.get? timeoutField = some (.float s.timeout) := rfl
  have hstrip : s.documentFields.get? stripField = some (.bool s.stripTrailingNewline) := rfl
  have hbool : Value.readBool (.bool s.stripTrailingNewline) = .ok s.stripTrailingNewline := rfl
  rw [validate, readOr_of_get? hbackend (readBackend_name _),
    readOr_of_get? htimeout (readTimeout_float h.1 h.2), readOr_of_get? hstrip hbool]

/-- The document holds no surrogates. -/
theorem hasSurrogate_render (s : Settings) : s.render.hasSurrogate = false := by
  have happend : ∀ t u : Text, (t ++ u).hasSurrogate = (t.hasSurrogate || u.hasSurrogate) :=
    fun _ _ => List.any_append
  have hmap : ∀ cs : List Char, Text.hasSurrogate (cs.map CodePoint.ofChar) = false := by
    intro cs
    rw [Text.hasSurrogate, List.any_map, List.any_eq_false]
    exact fun c _ => Bool.eq_false_iff.1 (CodePoint.isSurrogate_ofChar c)
  have hname : (Json.writeString s.backend.name).hasSurrogate = false := by
    cases s.backend <;> decide
  have hbool : (Json.writeBool s.stripTrailingNewline).hasSurrogate = false := by
    cases s.stripTrailingNewline <;> decide
  have htimeout : s.timeout.document.hasSurrogate = false := by
    rw [Binary64.document]
    rcases s.timeout with _ | negative | ⟨negative, place⟩
    · exact Text.hasSurrogate_ofString _
    · cases negative <;> decide
    · rw [Binary64.renderWith, happend, hmap]
      cases negative <;> decide
  have hfields : (Json.writeString backendField).hasSurrogate = false ∧
      (Json.writeString timeoutField).hasSurrogate = false ∧
      (Json.writeString stripField).hasSurrogate = false := by decide
  simp only [render_eq, Json.memberText, happend, Text.hasSurrogate_ofString, hname, hbool,
    htimeout, hfields, Bool.or_false]

/-- What the document of settings holds, with what stands for the timeout. -/
theorem parse_renderBytes_of_writes {s : Settings} {v : Value}
    (htimeout : Json.Writes s.timeout.document v) :
    parse s.renderBytes = (validate (s.fieldsWith v)).mapError .fields := by
  have hdecode : Charset.utf8.decode s.renderBytes = .ok s.render :=
    Charset.decode_utf8 s.hasSurrogate_render
  rw [parse, Json.read?, hdecode]
  dsimp only
  rw [readText?_render htimeout]

/-- **Valid settings are what their document holds.** -/
theorem parse_renderBytes {s : Settings} (h : s.Valid) : parse s.renderBytes = .ok s := by
  obtain ⟨place, ht⟩ := h.timeout_eq
  have htimeout := Json.writes_document false place
  rw [← ht] at htimeout
  rw [parse_renderBytes_of_writes htimeout]
  exact congrArg (Except.mapError DocumentFault.fields) (validate_documentFields h)

/-- A field that is refused is a fault of the whole. -/
theorem validate_of_readTimeout_error {fields : Fields} {v : Value} {kind : FaultKind}
    (hget : fields.get? timeoutField = some v) (h : readTimeout v = .error kind) :
    ∃ faults, validate fields = .error faults := by
  have hrefused : fields.readOr timeoutField (Binary64.ofInt 5) readTimeout =
      .error ⟨timeoutField, kind⟩ := by
    rw [Fields.readOr, hget]
    dsimp only
    rw [h]
    rfl
  rw [validate]
  dsimp only
  rw [hrefused]
  cases fields.readOr backendField Backend.auto readBackend <;> exact ⟨_, rfl⟩

/-- **The document of any settings holds them or no settings at all**: a timeout that validation
refuses is refused when it is read back, and `null` is no timeout. -/
theorem parse_renderBytes_cases (s : Settings) :
    parse s.renderBytes = .ok s ∨ ∃ fault, parse s.renderBytes = .error fault := by
  obtain ⟨v, htimeout, hv⟩ := Json.exists_writes_document s.timeout
  rcases hread : readTimeout v with kind | x
  · have hget : (s.fieldsWith v).get? timeoutField = some v := rfl
    obtain ⟨faults, hfaults⟩ := validate_of_readTimeout_error hget hread
    rw [parse_renderBytes_of_writes htimeout, hfaults]
    exact .inr ⟨_, rfl⟩
  · rcases hv with rfl | rfl
    · have hx : x = s.timeout := readTimeout_eq hread
      have hvalid : s.Valid := by
        rw [Valid, ← hx]
        exact readTimeout_valid hread
      exact .inl (parse_renderBytes hvalid)
    · cases hread

end Settings

end Pasteboard
