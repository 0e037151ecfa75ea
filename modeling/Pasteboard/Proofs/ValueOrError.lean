import Pasteboard.Proofs.Boundary
import Pasteboard.Proofs.Runs

/-!
# A value or an error

A reply is meant to be either the value of a command or one sentence for the user
(`Reply.Exclusive`). The three fields of a reply are read one by one, and none of the readers looks
at another field, so nothing but the way in which a reply is made sees to it. A reply made as a
success is exclusive whatever it is made of; one made as a failure is exclusive unless it is made of
`null`; one made of fields is exclusive exactly if its fields are (`Reply.Making.Consistent`). This
is `Reply.value_or_error`, with what is handed out of a reply and what setting its attributes does.

The replies of the commands are exclusive on every clipboard (`Command.exclusive_of_verdict`).
-/

namespace Pasteboard

/-! ### Fields that are given -/

/-- The fields hold something other than `null` under a name. -/
def Fields.Gives (fields : Fields) (name : Text) : Prop :=
  ∃ v, fields.get? name = some v ∧ v ≠ .null

/-- A reader that makes nothing of `null` alone makes nothing of the fields that are not given. -/
theorem Fields.eq_none_iff_of_readOr {α : Type} {fields : Fields} {name : Text}
    {read : Value → Except FaultKind (Option α)} {x? : Option α}
    (hread : ∀ v, read v = .ok none ↔ v = .null) (h : fields.readOr name none read = .ok x?) :
    x? = none ↔ ¬ fields.Gives name := by
  rw [readOr] at h
  rcases hget : fields.get? name with _ | v
  · rw [hget, Except.ok.injEq] at h
    exact iff_of_true h.symm (by rintro ⟨v, hv, -⟩; rw [hget] at hv; cases hv)
  · have hgives : fields.Gives name ↔ v ≠ .null := by
      constructor
      · rintro ⟨w, hw, hnull⟩
        rw [hget] at hw
        cases hw
        exact hnull
      · exact fun hnull => ⟨v, hget, hnull⟩
    simp only [hget] at h
    rcases hv : read v with kind | y
    · rw [hv] at h
      cases h
    · rw [hv] at h
      cases h
      rw [hgives, ne_eq, not_not, ← hread v, hv, Except.ok.injEq]

theorem Value.readOptionalText_eq_ok_none_iff (v : Value) :
    v.readOptionalText = .ok none ↔ v = .null := by
  constructor
  · intro h
    cases v with
    | null => rfl
    | bytes b =>
      rw [readOptionalText] at h
      split at h <;> cases h
    | _ => cases h
  · rintro rfl
    rfl

theorem Value.readNothing_eq_ok_none_iff (v : Value) : v.readNothing = .ok none ↔ v = .null := by
  constructor
  · intro h
    cases v with
    | null => rfl
    | _ => cases h
  · rintro rfl
    rfl

namespace Reply

theorem readValue_eq_ok_none_iff (kind : ReplyKind) (v : Value) :
    readValue kind v = .ok none ↔ v = .null := by
  cases kind with
  | text => exact v.readOptionalText_eq_ok_none_iff
  | nothing => exact v.readNothing_eq_ok_none_iff

/-! ### Replies that are a value or an error -/

/-- The reply is a value or an error: one that is fine has no error, and one that is not fine has an
error and no value. -/
structure Exclusive (r : Reply) : Prop where
  error_of_ok : r.ok = true → r.error = none
  value_of_not_ok : r.ok = false → r.value = none
  error_of_not_ok : r.ok = false → r.error ≠ none

/-- A reply is made from fields exactly if each of its three fields is read. -/
theorem make_eq_ok_iff {kind : ReplyKind} {fields : Fields} {r : Reply} :
    make kind fields = .ok r ↔ readOk fields = .ok r.ok ∧
      fields.readOr valueField none (readValue kind) = .ok r.value ∧
      fields.readOr errorField none Value.readOptionalText = .ok r.error := by
  obtain ⟨ok, value, error⟩ := r
  rw [make, mapError_eq_ok_iff]
  simp only [validate]
  constructor
  · intro h
    split at h
    · next hok hvalue herror =>
      cases h
      exact ⟨hok, hvalue, herror⟩
    · cases h
  · rintro ⟨hok, hvalue, herror⟩
    rw [hok, hvalue, herror]

/-- A way to make a reply. -/
inductive Making
  /-- As a success, with a list of arguments. -/
  | success (arguments : List Value)
  /-- As a failure, with a list of arguments. -/
  | failure (arguments : List Value)
  /-- From the fields of an object. -/
  | ofFields (fields : Fields)

/-- The reply of a kind that is made in some way. -/
def Making.reply (kind : ReplyKind) : Making → Except Failure Reply
  | success arguments => successOf kind arguments
  | failure arguments => failureOf kind arguments
  | ofFields fields => make kind fields

/-- What is given makes a value or an error: a success always does, a failure does with anything but
`null`, and fields do if no error is given where the flag says that all is fine, and nothing but an
error where it says that it is not. -/
def Making.Consistent : Making → Prop
  | success _ => True
  | failure arguments => arguments ≠ [.null]
  | ofFields fields => (readOk fields = .ok true → ¬ fields.Gives errorField) ∧
      (readOk fields = .ok false → ¬ fields.Gives valueField ∧ fields.Gives errorField)

section Exclusive

variable {kind : ReplyKind} {r : Reply}

/-- A reply made from fields is a value or an error exactly if the fields are. -/
theorem exclusive_iff_of_make {fields : Fields} (h : make kind fields = .ok r) :
    r.Exclusive ↔ (Making.ofFields fields).Consistent := by
  obtain ⟨hok, hvalue, herror⟩ := make_eq_ok_iff.1 h
  have hvalue := Fields.eq_none_iff_of_readOr (readValue_eq_ok_none_iff kind) hvalue
  have herror := Fields.eq_none_iff_of_readOr Value.readOptionalText_eq_ok_none_iff herror
  have hflag : ∀ b, readOk fields = .ok b ↔ r.ok = b := fun b => by rw [hok, Except.ok.injEq]
  simp only [Making.Consistent, hflag, ← herror, ← hvalue]
  constructor
  · rintro ⟨hfine, hnone, hsome⟩
    exact ⟨hfine, fun hbad => ⟨hnone hbad, not_not.1 (mt herror.2 (hsome hbad))⟩⟩
  · rintro ⟨hfine, hbad⟩
    exact ⟨hfine, fun h => (hbad h).1, fun h hnone => herror.1 hnone (hbad h).2⟩

/-- A reply made as a success is a value, whatever it is made of. -/
theorem exclusive_of_success {v : Value} (h : success kind v = .ok r) : r.Exclusive := by
  refine (exclusive_iff_of_make h).2 ⟨fun _ => ?_, (nomatch ·)⟩
  rintro ⟨w, ⟨⟩, -⟩

/-- A reply made as a failure is an error, unless it is made of `null`. -/
theorem exclusive_iff_of_failure {v : Value} (h : failure kind v = .ok r) :
    r.Exclusive ↔ v ≠ .null := by
  rw [exclusive_iff_of_make h]
  constructor
  · rintro ⟨-, hbad⟩
    obtain ⟨w, hw, hnull⟩ := (hbad rfl).2
    cases hw
    exact hnull
  · intro hnull
    refine ⟨(nomatch ·), fun _ => ⟨?_, v, rfl, hnull⟩⟩
    rintro ⟨w, ⟨⟩, -⟩

theorem Making.exclusive_iff {making : Making} (h : making.reply kind = .ok r) :
    r.Exclusive ↔ making.Consistent := by
  cases making with
  | success arguments =>
    refine iff_of_true ?_ trivial
    match arguments, h with
    | [], h => exact exclusive_of_success h
    | [_], h => exact exclusive_of_success h
  | failure arguments =>
    match arguments, h with
    | [v], h =>
      rw [exclusive_iff_of_failure h, Consistent, ne_eq, ne_eq, List.cons.injEq, and_iff_left rfl]
  | ofFields fields => exact exclusive_iff_of_make h

/-- What can be set on a reply is beside its fields, or the table of all of them. -/
theorem change_cases_of_assign {given : Value} {target : Attribute} {change : Change}
    (h : assign kind given target = .ok change) :
    change = .kept ∨ ∃ name fields,
      target = .table name ∧ given = .object fields ∧ change = .replaced fields := by
  cases target with
  | hidden | compared =>
    cases h
    exact .inl rfl
  | table name =>
    cases given with
    | object fields =>
      cases h
      exact .inr ⟨name, fields, rfl, rfl, rfl⟩
    | _ => cases h
  | _ => cases h

/-- **A value or an error, as far as what is given is one.** However a reply is made, it is a value
or an error exactly if what it is made of is consistent. It hands over its value if it is fine, and
fails with its error as the text if it is not; where it has none the text is the word for nothing.
No visible attribute of it can be set. Where any other one can be set, the reply stays as it is, but
for the table of the fields, in whose place another table can be put. -/
theorem value_or_error {making : Making} (h : making.reply kind = .ok r) :
    (r.Exclusive ↔ making.Consistent) ∧
      (r.ok = true → r.unwrap = .ok r.value) ∧
      (r.ok = false → ∃ f, r.unwrap = .error f ∧ f.kind = "ClipbridgeError" ∧
        f.message = r.error.getD "None") ∧
      (∀ name given, assign kind given (.visible name) =
        .error (.refused kind.recordName [⟨name, .frozen⟩])) ∧
      ∀ given target change, assign kind given target = .ok change →
        change = .kept ∨ ∃ name fields,
          target = .table name ∧ given = .object fields ∧ change = .replaced fields := by
  refine ⟨Making.exclusive_iff h, fun hok => if_pos hok, fun hok => ?_, fun _ _ => rfl,
    fun _ _ _ => change_cases_of_assign⟩
  refine ⟨.general r.error, ?_, rfl, rfl⟩
  rw [unwrap, hok]
  rfl

end Exclusive

/-- A word stands for the flag and octets for the error. -/
theorem value_or_error_of_word_and_octets :
    let making : Making := .ofFields [(okField, .text "off"), (errorField, .bytes [0xc3, 0xa9])]
    ∃ r, making.reply .nothing = .ok r ∧ r.Exclusive ∧
      ∃ f, r.unwrap = .error f ∧ f.kind = "ClipbridgeError" ∧ f.message = "é" := by
  intro making
  have hmade : making.reply .nothing = .ok ⟨false, none, some "é"⟩ := by decide +kernel
  obtain ⟨hexclusive, -, herror, -⟩ := value_or_error hmade
  refine ⟨_, hmade, hexclusive.2 ⟨fun hflag => ?_, fun _ => ⟨?_, _, rfl, nofun⟩⟩, herror rfl⟩
  · have hno : readOk [(okField, .text "off"), (errorField, .bytes [0xc3, 0xa9])] = .ok false := by
      decide +kernel
    rw [hno] at hflag
    cases hflag
  · rintro ⟨v, ⟨⟩, -⟩

/-- A reply that is not fine is made without an error, and fails with the word for nothing; one that
is fine is made with an error. -/
theorem neither_and_both_are_made :
    (∃ r, make .text [(okField, .bool false)] = .ok r ∧ r.ok = false ∧ r.error = none ∧
      ∃ f, r.unwrap = .error f ∧ f.message = "None") ∧
    ∃ r, r.ok = true ∧ r.error ≠ none ∧
      make .text [(okField, .bool true), (valueField, .text "v"), (errorField, .text "e")] =
        .ok r :=
  ⟨⟨⟨false, none, none⟩, by decide +kernel, rfl, rfl, .general none, rfl, rfl⟩,
    ⟨true, some "v", some "e"⟩, rfl, Option.some_ne_none _, by decide +kernel⟩

end Reply

/-! ### The replies of the commands -/

/-- The replies of the commands are a value or an error. -/
theorem Command.exclusive_of_verdict {op : Operation} {outcome : Except Failure Value} {r : Reply}
    (h : Command.verdict op outcome = .ok r) : r.Exclusive := by
  rcases outcome with f | v
  · simp only [verdict] at h
    split at h
    · cases h
      exact ⟨fun hok => absurd hok Bool.false_ne_true, fun _ => rfl, fun _ => Option.some_ne_none _⟩
    · cases h
  · exact Reply.exclusive_of_success h

end Pasteboard
