import Pasteboard.Proofs.Document
import Pasteboard.Proofs.Runs
import Pasteboard.Reply

/-!
# A reply as a document

A reply is written as an object on one line, without a blank between its members. It can be written
exactly if none of its texts has half of a surrogate pair (`Reply.render_eq_ok_iff`). What is
written is a document of one value, the object of the fields of the reply (`Reply.holds_line`), and
the reply is made again from these (`Reply.make_fields`). So any two replies are told apart by what
is written of them (`Reply.render_faithful`).
-/

namespace Pasteboard

namespace Json

/-- A document holds one value. -/
theorem Holds.unique {t : Text} {v w : Value} (hv : Holds t v) (hw : Holds t w) : v = w :=
  Option.some_inj.1 ((readText?_eq_some_iff.2 hv).symm.trans (readText?_eq_some_iff.2 hw))

/-- The text of a string that may be missing, which is written as `null`. -/
def optionalText : Option Text → Text
  | none => "null"
  | some t => writeString t

theorem writes_optionalText (t? : Option Text) : Writes (optionalText t?) (.ofText? t?) := by
  cases t? with
  | none => exact writes_null
  | some t => exact writes_writeString t

/-- A string is written if it has no half of a surrogate pair; one that is missing always is. -/
theorem writeOptional_eq_ok_iff {t? : Option Text} {text : Text} :
    writeOptional t? = .ok text ↔ (∀ t ∈ t?, t.hasSurrogate = false) ∧ text = optionalText t? := by
  cases t? with
  | none => exact ⟨fun h => by cases h; exact ⟨nofun, rfl⟩, by rintro ⟨-, rfl⟩; rfl⟩
  | some t =>
    rw [writeOptional, optionalText]
    simp only [Option.mem_def, Option.some.injEq, forall_eq']
    constructor
    · intro h
      rcases hencode : Charset.utf8.encode t with fault | octets
      · rw [hencode] at h
        cases h
      · rw [hencode] at h
        cases h
        exact ⟨(Charset.encode_utf8_eq_ok_iff.1 hencode).1, rfl⟩
    · rintro ⟨hplain, rfl⟩
      rw [Charset.encode_utf8_eq_ok_iff.2 ⟨hplain, rfl⟩]
      rfl

end Json

namespace Reply

/-- No text of the reply has half of a surrogate pair. -/
def Plain (r : Reply) : Prop := ∀ t, r.value = some t ∨ r.error = some t → t.hasSurrogate = false

/-- The fields of the object that a reply is written as. -/
def fields (r : Reply) : Fields :=
  [(okField, .bool r.ok), (valueField, .ofText? r.value), (errorField, .ofText? r.error)]

/-- The line that a reply is written as. -/
def line (r : Reply) : Text :=
  let member (name text : Text) := Json.writeString name ++ (CodePoint.ofChar ':' :: text)
  CodePoint.ofChar '\x7b' :: (member okField (Json.writeBool r.ok ++ (CodePoint.ofChar ',' ::
    member valueField (Json.optionalText r.value ++ (CodePoint.ofChar ',' ::
      member errorField (Json.optionalText r.error ++ [CodePoint.ofChar '\x7d']))))))

theorem render_eq_ok_iff {r : Reply} {text : Text} :
    r.render = .ok text ↔ r.Plain ∧ text = r.line := by
  have hplain : r.Plain ↔ (∀ t ∈ r.value, t.hasSurrogate = false) ∧
      ∀ t ∈ r.error, t.hasSurrogate = false := by
    simp only [Plain, or_imp, forall_and, Option.mem_def]
  have hline : Text.ofString "\x7b\"ok\":" ++ Json.writeBool r.ok ++ ",\"value\":" ++
      Json.optionalText r.value ++ ",\"error\":" ++ Json.optionalText r.error ++ "\x7d" =
        r.line := by
    simp only [List.append_assoc]
    rfl
  rw [hplain, render]
  simp only [bind_eq_ok_iff, mapError_eq_ok_iff, Json.writeOptional_eq_ok_iff]
  constructor
  · rintro ⟨_, ⟨hvalue, rfl⟩, _, ⟨herror, rfl⟩, hend⟩
    cases hend
    exact ⟨⟨hvalue, herror⟩, hline⟩
  · rintro ⟨⟨hvalue, herror⟩, rfl⟩
    exact ⟨_, ⟨hvalue, rfl⟩, _, ⟨herror, rfl⟩, congrArg Except.ok hline⟩

/-- **The line of a reply is a document** that holds the object of its fields. -/
theorem holds_line (r : Reply) : Json.Holds r.line (.object r.fields) := by
  have hgap : ∀ c ∈ ([] : Text), Json.isBlank c = true := nofun
  -- the object leaves room for all but one of the containers that may stand inside each other
  have herror := Json.writes_optionalText r.error
  have hlast : Json.Spells 199 _ _ _ := herror.write_last errorField hgap hgap
  have hvalue := hlast.write_before (Json.writes_optionalText r.value) valueField hgap hgap
  have hmembers := hvalue.write_before (Json.writes_writeBool r.ok) okField hgap hgap
  exact ⟨_, [], .refl _, .object hmembers, .refl _⟩

theorem eq_of_fields {r s : Reply} (h : r.fields = s.fields) : r = s := by
  obtain ⟨ok, value, error⟩ := r
  obtain ⟨ok', value', error'⟩ := s
  simp only [fields, List.cons.injEq, Prod.mk.injEq, Value.bool.injEq, true_and, and_true] at h
  obtain ⟨rfl, hvalue, herror⟩ := h
  rw [Value.ofText?_inj hvalue, Value.ofText?_inj herror]

/-- **The reply is made again** from the fields of its object. -/
theorem make_fields (r : Reply) : make .text r.fields = .ok r := by
  obtain ⟨ok, value, error⟩ := r
  cases value <;> cases error <;> rfl

/-- **A reply is told by what is written of it.** No text of the reply has half of a surrogate pair.
Then the reply is written as a document of one value, the object with the three fields of the reply
and no other. So another such reply is written as the same text exactly if it is the same reply. -/
theorem render_faithful {r : Reply} (h : r.Plain) :
    (∃ text, r.render = .ok text ∧ ∀ v, Json.Holds text v ↔ v = .object
        [(okField, .bool r.ok), (valueField, .ofText? r.value), (errorField, .ofText? r.error)]) ∧
      ∀ s : Reply, s.Plain → (r.render = s.render ↔ r = s) := by
  have hrender : ∀ s : Reply, s.Plain → s.render = .ok s.line := fun s hs =>
    render_eq_ok_iff.2 ⟨hs, rfl⟩
  constructor
  · refine ⟨r.line, hrender r h, fun v => ⟨fun hv => hv.unique r.holds_line, ?_⟩⟩
    rintro rfl
    exact r.holds_line
  · intro s hs
    constructor
    · intro heq
      rw [hrender r h, hrender s hs, Except.ok.injEq] at heq
      have hs' := s.holds_line
      rw [← heq] at hs'
      have hobject := r.holds_line.unique hs'
      rw [Value.object.injEq] at hobject
      exact eq_of_fields hobject
    · rintro rfl
      rfl

/-- A reply with a NUL, a line feed, marks, a backslash, a delete and a character beyond the first
plane is read back; one without a value is written as another text than one with the text `null`. -/
theorem render_faithful_of_awkward_text :
    let awkward : Text := "\x00\n\"\\\x7f\u2028😀"
    let r : Reply := ⟨false, some awkward, some "null"⟩
    let s : Reply := ⟨false, some awkward, none⟩
    (r.Plain ∧ s.Plain) ∧
      (∃ text, r.render = .ok text ∧ Json.readText? text = some (.object
        [(okField, .bool false), (valueField, .text awkward), (errorField, .text "null")])) ∧
      r.render ≠ s.render := by
  intro awkward r s
  have hplain : ∀ t ∈ [awkward, Text.ofString "null"], t.hasSurrogate = false := by decide
  have hr : r.Plain := by
    rintro t (⟨⟨⟩⟩ | ⟨⟨⟩⟩)
    · exact hplain _ List.mem_cons_self
    · exact hplain _ (List.mem_cons_of_mem _ List.mem_cons_self)
  have hs : s.Plain := by
    rintro t (⟨⟨⟩⟩ | ⟨⟨⟩⟩)
    exact hplain _ List.mem_cons_self
  obtain ⟨⟨text, htext, hholds⟩, hother⟩ := render_faithful hr
  refine ⟨⟨hr, hs⟩, ⟨text, htext, Json.readText?_eq_some_iff.2 ((hholds _).2 rfl)⟩, ?_⟩
  rw [Ne, hother s hs]
  intro heq
  have herror : r.error = s.error := congrArg Reply.error heq
  cases herror

end Reply

end Pasteboard
