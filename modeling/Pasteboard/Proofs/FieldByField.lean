import Pasteboard.Proofs.FileAndMapping

/-!
# Settings are validated field by field

A field of settings is read by its own reader (`Settings.readField`), whatever the other fields are
and whatever else a mapping holds (`Settings.fieldIn_of_validate`, `Settings.faultsOf_eq`). So a
mapping is refused for exactly what its fields are refused for when each of them stands in a mapping
of its own (`Settings.faultsOf_eq_alone`), and accepted if there is nothing of that kind
(`Settings.accepted_iff_alone`).

For the containers that are built from mappings this is `Container.field_by_field`, together with
the range of the timeouts that get through and with what happens to settings that are validated
again.
-/

namespace Pasteboard

variable {β : Type}

/-! ### One field -/

section Fields

variable {α : Type} {name other : Text} {v : Value}

theorem Fields.get?_alone : Fields.get? [(name, v)] name = some v := by
  simp [get?]

theorem Fields.get?_alone_of_ne (h : other ≠ name) : Fields.get? [(name, v)] other = none := by
  simp [get?, h.symm]

theorem Fields.readOr_alone (default : α) (read : Value → Except FaultKind α) :
    Fields.readOr [(name, v)] name default read = (read v).mapError fun kind => ⟨name, kind⟩ := by
  rw [readOr, get?_alone]

theorem Fields.readOr_alone_of_ne (h : other ≠ name) (default : α)
    (read : Value → Except FaultKind α) :
    Fields.readOr [(name, v)] other default read = .ok default := by
  rw [readOr, get?_alone_of_ne h]

theorem Fields.readOr_map {γ : Type} (fields : Fields) (name : Text) (default : α) (f : α → γ)
    (read : Value → Except FaultKind α) :
    fields.readOr name (f default) (fun v => (read v).map f) =
      (fields.readOr name default read).map f := by
  rw [readOr, readOr]
  rcases fields.get? name with _ | v
  · rfl
  · dsimp only
    rcases read v with kind | x <;> rfl

/-- A field that is refused has one fault, and it is a fault of this field. -/
theorem Field.faultOf_mapError (r : Except FaultKind α) (name : Text) :
    faultOf (r.mapError fun kind => ⟨name, kind⟩) = [] ∨
      ∃ kind, faultOf (r.mapError fun kind => ⟨name, kind⟩) = [⟨name, kind⟩] := by
  cases r with
  | ok x => exact .inl rfl
  | error kind => exact .inr ⟨kind, rfl⟩

end Fields

theorem Binary64.units_pos {place : Nat} (h : 0 < place) : 0 < units place := by
  have hsignificand : 0 < significand place := by
    rw [significand]
    split_ifs
    · exact h
    · exact Nat.add_pos_left (Nat.pow_pos (by decide)) _
  exact Nat.mul_pos hsignificand (Nat.pow_pos (by decide))

/-- The value that a record has in a field. A backend is the text of its name there. -/
def SettingsRecord.value (r : SettingsRecord) (name : Text) : Value :=
  if name = Settings.backendField then r.backend.value
  else if name = Settings.timeoutField then r.timeout
  else r.stripTrailingNewline

namespace Settings

/-- The names of the fields, in the order in which faults are listed. -/
def fieldNames : List Text := [backendField, timeoutField, stripField]

/-- The value that stands for a field of settings. -/
def value (s : Settings) (name : Text) : Value := s.record.value name

/-- Reads a field, as the value that stands for it. -/
def readField (name : Text) (v : Value) : Except FaultKind Value :=
  if name = backendField then (readBackend v).map fun backend => .text backend.name
  else if name = timeoutField then (readTimeout v).map .float
  else v.readBool.map .bool

/-- A field of a mapping, as the value that stands for it; it keeps its default if it is absent. -/
def fieldIn (fields : Fields) (name : Text) : Except Fault Value :=
  fields.readOr name (({} : Settings).value name) (readField name)

/-- What a mapping is refused for; nothing if it is accepted. -/
def faultsOf (fields : Fields) : List Fault :=
  match validate fields with
  | .ok _ => []
  | .error faults => faults

theorem names_ne : timeoutField ≠ backendField ∧ stripField ≠ backendField ∧
    stripField ≠ timeoutField := by decide

theorem value_backend (s : Settings) : s.value backendField = .text s.backend.name := by
  rw [value, SettingsRecord.value, if_pos rfl]
  rfl

theorem value_timeout (s : Settings) : s.value timeoutField = .float s.timeout := by
  rw [value, SettingsRecord.value, if_neg names_ne.1, if_pos rfl]
  rfl

theorem value_strip (s : Settings) : s.value stripField = .bool s.stripTrailingNewline := by
  rw [value, SettingsRecord.value, if_neg names_ne.2.1, if_neg names_ne.2.2]
  rfl

theorem fieldIn_backend (fields : Fields) : fieldIn fields backendField =
    (fields.readOr backendField ({} : Settings).backend readBackend).map fun b => .text b.name := by
  have hread : readField backendField = fun v => (readBackend v).map fun b => .text b.name :=
    funext fun _ => if_pos rfl
  rw [fieldIn, hread, value_backend, ← Fields.readOr_map]

theorem fieldIn_timeout (fields : Fields) : fieldIn fields timeoutField =
    (fields.readOr timeoutField ({} : Settings).timeout readTimeout).map .float := by
  have hread : readField timeoutField = fun v => (readTimeout v).map .float :=
    funext fun _ => (if_neg names_ne.1).trans (if_pos rfl)
  rw [fieldIn, hread, value_timeout, ← Fields.readOr_map]

theorem fieldIn_strip (fields : Fields) : fieldIn fields stripField =
    (fields.readOr stripField ({} : Settings).stripTrailingNewline Value.readBool).map .bool := by
  have hread : readField stripField = fun v => v.readBool.map .bool :=
    funext fun _ => (if_neg names_ne.2.1).trans (if_neg names_ne.2.2)
  rw [fieldIn, hread, value_strip, ← Fields.readOr_map]

/-! ### All fields -/

/-- **The faults of a mapping are those of its fields**, in the order of the fields, and it is
accepted if there are none. -/
theorem faultsOf_eq (fields : Fields) :
    faultsOf fields = fieldNames.flatMap (fun name => Field.faultOf (fieldIn fields name)) ∧
      ((∃ s, validate fields = .ok s) ↔ faultsOf fields = []) := by
  simp only [fieldNames, List.flatMap_cons, List.flatMap_nil, fieldIn_backend, fieldIn_timeout,
    fieldIn_strip, faultsOf, validate]
  -- each of the three fields is read or refused, whatever the other two are
  rcases fields.readOr backendField ({} : Settings).backend readBackend with _ | _ <;>
    rcases fields.readOr timeoutField ({} : Settings).timeout readTimeout with _ | _ <;>
    rcases fields.readOr stripField ({} : Settings).stripTrailingNewline Value.readBool
      with _ | _ <;>
    simp [Field.faultOf, Except.map]

/-- **What the fields of a mapping are read as are the settings.** -/
theorem fieldIn_of_validate {fields : Fields} {s : Settings} (h : validate fields = .ok s)
    {name : Text} (hname : name ∈ fieldNames) : fieldIn fields name = .ok (s.value name) := by
  rw [validate] at h
  dsimp only at h
  split at h
  · next backend timeout strip hbackend htimeout hstrip =>
    cases h
    simp only [fieldNames, List.mem_cons, List.not_mem_nil, or_false] at hname
    rcases hname with rfl | rfl | rfl
    · rw [fieldIn_backend, hbackend, value_backend]
      rfl
    · rw [fieldIn_timeout, htimeout, value_timeout]
      rfl
    · rw [fieldIn_strip, hstrip, value_strip]
      rfl
  · cases h

/-- Fields of other names do not count. -/
theorem validate_congr {f g : Fields} (h : ∀ name ∈ fieldNames, f.get? name = g.get? name) :
    validate f = validate g := by
  have hbackend := h backendField (by decide)
  have htimeout := h timeoutField (by decide)
  have hstrip := h stripField (by decide)
  simp only [validate, Fields.readOr, hbackend, htimeout, hstrip]

/-! ### Fields in mappings of their own -/

section Alone

variable {fields : Fields} {name : Text} {v : Value} {s d : Settings}

/-- In a mapping of its own a field is refused for what its reader refuses it for. -/
theorem faultsOf_alone (hname : name ∈ fieldNames) (v : Value) :
    faultsOf [(name, v)] =
      Field.faultOf ((readField name v).mapError fun kind => ⟨name, kind⟩) := by
  have hself : fieldIn [(name, v)] name = (readField name v).mapError fun kind => ⟨name, kind⟩ :=
    Fields.readOr_alone _ _
  have hother : ∀ other, other ≠ name → Field.faultOf (fieldIn [(name, v)] other) = [] := by
    intro other hne
    rw [fieldIn, Fields.readOr_alone_of_ne hne]
    rfl
  rw [(faultsOf_eq _).1, ← hself]
  simp only [fieldNames, List.mem_cons, List.not_mem_nil, or_false] at hname
  simp only [fieldNames, List.flatMap_cons, List.flatMap_nil]
  rcases hname with rfl | rfl | rfl
  · rw [hother _ names_ne.1, hother _ names_ne.2.1]
    simp
  · rw [hother _ names_ne.1.symm, hother _ names_ne.2.2]
    simp
  · rw [hother _ names_ne.2.1.symm, hother _ names_ne.2.2.symm]
    simp

/-- **A mapping is refused for what its fields are refused for in mappings of their own.** -/
theorem faultsOf_eq_alone (fields : Fields) :
    faultsOf fields = fieldNames.flatMap fun name =>
      (fields.get? name).toList.flatMap fun v => faultsOf [(name, v)] := by
  have hfield : ∀ name ∈ fieldNames, Field.faultOf (fieldIn fields name) =
      (fields.get? name).toList.flatMap fun v => faultsOf [(name, v)] := by
    intro name hname
    rw [fieldIn, Fields.readOr]
    rcases fields.get? name with _ | v
    · rfl
    · simp [faultsOf_alone hname]
  rw [(faultsOf_eq fields).1, List.flatMap, List.flatMap, List.map_congr_left hfield]

/-- **A mapping is accepted if each of its fields is accepted in a mapping of its own.** -/
theorem accepted_iff_alone :
    (∃ s, validate fields = .ok s) ↔
      ∀ name ∈ fieldNames, ∀ v, fields.get? name = some v → ∃ s, validate [(name, v)] = .ok s := by
  rw [(faultsOf_eq fields).2, faultsOf_eq_alone]
  simp only [List.flatMap_eq_nil_iff, Option.mem_toList]
  exact forall₂_congr fun name _ => forall₂_congr fun v _ => (faultsOf_eq [(name, v)]).2.symm

/-- A field that is accepted is read in a mapping as it is read in one of its own. -/
theorem value_of_alone (h : validate fields = .ok s) (hname : name ∈ fieldNames)
    (hget : fields.get? name = some v) (halone : validate [(name, v)] = .ok d) :
    s.value name = d.value name := by
  have hin := fieldIn_of_validate h hname
  have halone := fieldIn_of_validate halone hname
  rw [fieldIn, Fields.readOr, hget] at hin
  rw [fieldIn, Fields.readOr_alone] at halone
  dsimp only at hin
  rw [hin] at halone
  exact Except.ok.inj halone

/-- A field that is absent has its default. -/
theorem value_of_absent (h : validate fields = .ok s) (hname : name ∈ fieldNames)
    (hget : fields.get? name = none) : s.value name = ({} : Settings).value name := by
  have hin := fieldIn_of_validate h hname
  rw [fieldIn, Fields.readOr, hget] at hin
  exact (Except.ok.inj hin).symm

end Alone

/-! ### What gets through -/

/-- The mapping of the values that stand for the fields of settings. -/
theorem documentFields_eq (s : Settings) :
    s.documentFields = fieldNames.map fun name => (name, s.value name) := by
  simp only [documentFields, fieldNames, List.map_cons, List.map_nil, value_backend, value_timeout,
    value_strip]

/-- The timeout of valid settings in multiples of the least magnitude: above zero, and not more than
the limit. -/
theorem Valid.timeout_range {s : Settings} (h : s.Valid) :
    ∃ place, s.timeout = .finite false place ∧ 0 < Binary64.units place ∧
      Binary64.units place ≤ longestTimeout * Binary64.unitsPerOne := by
  obtain ⟨place, htimeout⟩ := h.timeout_eq
  obtain ⟨hpositive, hmost⟩ := h
  rw [htimeout] at hpositive hmost
  have hplace : 0 < place.val := by simpa [Binary64.isPositive] using hpositive
  have hunits : Binary64.units place ≤ longestTimeout * Binary64.unitsPerOne := by
    simpa [Binary64.atMost] using hmost
  exact ⟨place, htimeout, Binary64.units_pos hplace, hunits⟩

end Settings

namespace Container

variable {directory : Option Path} {injected : Option (Clipboard (Host β))} {host : Host β}

/-- The faults of fields that a container was not built for. -/
def refusals (built : Except Failure (Container β)) : List Fault :=
  match built with
  | .ok _ => []
  | .error f => f.faults

/-- A container is built from a mapping that is accepted, and takes up the settings of that. -/
theorem fst_start_build_eq_ok_iff {given : Fields} {c : Container β} :
    ((build (some (.mapping given)) directory injected).start host).1 = .ok c ↔
      ∃ s, Settings.validate given = .ok s ∧
        c = takingUp (directory.getD host.settingsDirectory) injected s host := by
  rw [start_build_mapping]
  rcases Settings.validate given with faults | s
  · exact iff_of_false (by rintro ⟨⟩) (by rintro ⟨s, ⟨⟩, -⟩)
  · simp [eq_comm]

/-- If none is built, this is for the faults of the mapping. -/
theorem fst_start_build_eq_error {given : Fields} {f : Failure}
    (h : ((build (some (.mapping given)) directory injected).start host).1 = .error f) :
    ∃ text, f = .configuration text (Settings.faultsOf given) := by
  rw [start_build_mapping] at h
  rw [Settings.faultsOf]
  rcases hvalidate : Settings.validate given with faults | s
  · rw [hvalidate] at h
    cases h
    exact ⟨_, rfl⟩
  · rw [hvalidate] at h
    cases h

theorem exists_build_iff {given : Fields} :
    (∃ c, ((build (some (.mapping given)) directory injected).start host).1 = .ok c) ↔
      ∃ s, Settings.validate given = .ok s := by
  simp only [fst_start_build_eq_ok_iff]
  rw [exists_comm]
  exact exists_congr fun s => by simp

theorem refusals_build (given : Fields) :
    refusals ((build (some (.mapping given)) directory injected).start host).1 =
      Settings.faultsOf given := by
  rcases hbuilt : ((build (some (.mapping given)) directory injected).start host).1 with f | c
  · obtain ⟨text, rfl⟩ := fst_start_build_eq_error hbuilt
    rfl
  · obtain ⟨s, hvalidate, -⟩ := fst_start_build_eq_ok_iff.1 hbuilt
    exact ((Settings.faultsOf_eq given).2.1 ⟨s, hvalidate⟩).symm

/-- **Settings are validated field by field.** Containers are built from mappings, with any
directory, any clipboard and on any host.

* A container is built from a mapping exactly if one is built from each of its fields alone.
* If none is built, this is for the faults that the fields have alone, in the order of the fields.
* A field alone has one fault at most, and it is a fault of that field.
* Nothing else in a mapping counts.
* A container that is built has for each field the value that the field has alone, or the default;
  its timeout is finite, above zero and at most the limit; and from the values of its settings the
  same container is built again. -/
theorem field_by_field (given : Fields) (directory : Option Path)
    (injected : Option (Clipboard (Host β))) (host : Host β) :
    let built (m : Fields) := ((build (some (.mapping m)) directory injected).start host).1
    ((∃ c, built given = .ok c) ↔ ∀ name ∈ Settings.fieldNames, ∀ v, given.get? name = some v →
        ∃ c, built [(name, v)] = .ok c) ∧
      (∀ f, built given = .error f → ∃ text, f = .configuration text
        (Settings.fieldNames.flatMap fun name =>
          (given.get? name).toList.flatMap fun v => refusals (built [(name, v)]))) ∧
      (∀ name ∈ Settings.fieldNames, ∀ v f, built [(name, v)] = .error f →
        ∃ text kind, f = .configuration text [⟨name, kind⟩]) ∧
      (∀ other : Fields, (∀ name ∈ Settings.fieldNames, other.get? name = given.get? name) →
        (build (some (.mapping other)) directory injected).start host =
          (build (some (.mapping given)) directory injected).start host) ∧
      ∀ c, built given = .ok c →
        (∀ name ∈ Settings.fieldNames,
          (∀ v d, given.get? name = some v → built [(name, v)] = .ok d →
            c.settings.value name = d.settings.value name) ∧
          (given.get? name = none → c.settings.value name = ({} : Settings).value name)) ∧
        (∃ place, c.settings.timeout = .float (.finite false place) ∧ 0 < Binary64.units place ∧
          Binary64.units place ≤ Settings.longestTimeout * Binary64.unitsPerOne) ∧
        built (Settings.fieldNames.map fun name => (name, c.settings.value name)) = .ok c := by
  intro built
  refine ⟨?_, fun f hf => ?_, fun name hname v f hf => ?_, fun other hother => ?_, fun c hc => ?_⟩
  · simp only [built, exists_build_iff]
    exact Settings.accepted_iff_alone
  · obtain ⟨text, rfl⟩ := fst_start_build_eq_error hf
    simp only [built, refusals_build, ← Settings.faultsOf_eq_alone]
    exact ⟨text, rfl⟩
  · obtain ⟨text, rfl⟩ := fst_start_build_eq_error hf
    have hrefused : Settings.faultsOf [(name, v)] ≠ [] := by
      intro hnone
      obtain ⟨c, hc⟩ : ∃ c, built [(name, v)] = .ok c :=
        exists_build_iff.2 ((Settings.faultsOf_eq [(name, v)]).2.2 hnone)
      rw [hc] at hf
      cases hf
    rw [Settings.faultsOf_alone hname] at hrefused ⊢
    obtain ⟨kind, hkind⟩ := (Field.faultOf_mapError _ name).resolve_left hrefused
    exact ⟨text, kind, by rw [hkind]⟩
  · rw [start_build_mapping, start_build_mapping, Settings.validate_congr hother]
  · obtain ⟨s, hvalidate, rfl⟩ := fst_start_build_eq_ok_iff.1 hc
    have hvalid : s.Valid := Settings.valid_of_validate hvalidate
    refine ⟨fun name hname => ⟨fun v d hget hd => ?_, fun hget => ?_⟩, ?_, ?_⟩
    · obtain ⟨t, halone, rfl⟩ := fst_start_build_eq_ok_iff.1 hd
      exact Settings.value_of_alone hvalidate hname hget halone
    · exact Settings.value_of_absent hvalidate hname hget
    · obtain ⟨place, htimeout, hrange⟩ := hvalid.timeout_range
      exact ⟨place, congrArg Value.float htimeout, hrange⟩
    · have hagain := Settings.validate_documentFields hvalid
      rw [Settings.documentFields_eq] at hagain
      exact fst_start_build_eq_ok_iff.2 ⟨s, hagain, rfl⟩

/-- The timeout is too small for any number above zero, and the switch is no word for yes or no.
Both faults are listed, in the order of the fields and not of the mapping. -/
theorem field_by_field_of_two_faults :
    let given : Fields := [(Settings.stripField, .text "maybe"), ("colour", .null),
      (Settings.timeoutField, .text " 1e-400 "), (Settings.backendField, .text "xclip")]
    let built (m : Fields) := ((build (some (.mapping m)) none none).start (Host.bare ())).1
    ∃ text, built given = .error (.configuration text
      [⟨Settings.timeoutField, .notPositive⟩, ⟨Settings.stripField, .badBool⟩]) := by
  intro given built
  have hvalidate : Settings.validate given = .error
      [⟨Settings.timeoutField, .notPositive⟩, ⟨Settings.stripField, .badBool⟩] := by decide +kernel
  have halone : (Settings.fieldNames.flatMap fun name => (given.get? name).toList.flatMap fun v =>
      refusals (built [(name, v)])) =
      [⟨Settings.timeoutField, .notPositive⟩, ⟨Settings.stripField, .badBool⟩] := by
    simp only [built, refusals_build]
    decide +kernel
  obtain ⟨-, hrefused, -⟩ := field_by_field given none none (Host.bare ())
  rcases hbuilt : built given with f | c
  · obtain ⟨text, rfl⟩ := hrefused f hbuilt
    exact ⟨text, by rw [halone]⟩
  · obtain ⟨s, hs, -⟩ := fst_start_build_eq_ok_iff.1 hbuilt
    rw [hvalidate] at hs
    cases hs

end Container

end Pasteboard
