import Pasteboard.Proofs.Loading
import Pasteboard.Proofs.Reading

/-!
# The settings file and a mapping are read alike

Settings come into a container as a mapping that a caller hands over, or as the document in the
settings file. A document holds an object when the grammar says so (`Json.Holds`), and a mapping is
this object when it has the same members, of which the last one of a name counts (`Value.Same`).
Validation does not tell the two apart (`Settings.validate_of_same`), and reading follows the
grammar. So a document is accepted exactly if its object is accepted as a mapping, with the same
settings, and as many faults are counted in the file as there are in the mapping
(`Container.file_like_mapping`).
-/

namespace Pasteboard

variable {β : Type}

/-! ### The same object -/

/-- The values are the same, but for members of objects in them that do not count since there is
another one of the name behind them. -/
inductive Value.Same : Value → Value → Prop
  | refl (v : Value) : Same v v
  | list {vs ws : List Value} (h : List.Forall₂ Same vs ws) : Same (.list vs) (.list ws)
  | object {f g : Fields} (names : ∀ name, (f.get? name).isSome = (g.get? name).isSome)
    (values : ∀ name v w, f.get? name = some v → g.get? name = some w → Same v w) :
    Same (.object f) (.object g)

variable {f g : Fields}

/-- A field is read alike from the same object, if its reader does not tell the same values
apart. -/
theorem Fields.readOr_of_same {α : Type} (h : (Value.object f).Same (.object g)) (name : Text)
    (default : α) {read : Value → Except FaultKind α}
    (hread : ∀ v w, v.Same w → read v = read w) :
    f.readOr name default read = g.readOr name default read := by
  cases h with
  | refl => rfl
  | object names values =>
    have hname := names name
    rw [readOr, readOr]
    rcases hf : f.get? name with _ | v
    · rw [hf, Option.isSome_none] at hname
      have hg : g.get? name = none :=
        Option.not_isSome_iff_eq_none.1 (Bool.eq_false_iff.1 hname.symm)
      rw [hg]
    · rw [hf, Option.isSome_some] at hname
      obtain ⟨w, hg⟩ := Option.isSome_iff_exists.1 hname.symm
      rw [hg]
      dsimp only
      rw [hread v w (values name v w hf hg)]

namespace Settings

/-- **Validation does not tell the same objects apart**: no field takes a list or an object. -/
theorem validate_of_same (h : (Value.object f).Same (.object g)) : validate f = validate g := by
  have hbackend : ∀ v w : Value, v.Same w → readBackend v = readBackend w := by
    intro v w hsame
    cases hsame <;> rfl
  have htimeout : ∀ v w : Value, v.Same w → readTimeout v = readTimeout w := by
    intro v w hsame
    cases hsame <;> rfl
  have hstrip : ∀ v w : Value, v.Same w → v.readBool = w.readBool := by
    intro v w hsame
    cases hsame <;> rfl
  rw [validate, validate, Fields.readOr_of_same h backendField _ hbackend,
    Fields.readOr_of_same h timeoutField _ htimeout, Fields.readOr_of_same h stripField _ hstrip]

/-- A document is accepted as the object that it holds. -/
theorem parse_of_holds {t : Text} {content : Bytes} {members : Fields}
    (hencode : Charset.utf8.encode t = .ok content) (hholds : Json.Holds t (.object members)) :
    parse content = (validate members).mapError .fields := by
  rw [parse, Json.read?_eq_some_iff.2 ⟨t, hencode, hholds⟩]

/-- What holds no object is no document of settings. -/
theorem parse_of_not_holds {content : Bytes}
    (h : ¬ ∃ t members, Charset.utf8.encode t = .ok content ∧ Json.Holds t (.object members)) :
    parse content = .error .notObject := by
  rw [parse]
  split
  · next members hread =>
    obtain ⟨t, hencode, hholds⟩ := Json.read?_eq_some_iff.1 hread
    exact absurd ⟨t, members, hencode, hholds⟩ h
  · rfl

end Settings

/-! ### The two ways in -/

namespace Container

/-- A container that is built from a mapping takes up what validation makes of it. -/
theorem start_build_mapping (given : Fields) (directory : Option Path)
    (injected : Option (Clipboard (Host β))) (host : Host β) :
    (build (some (.mapping given)) directory injected).start host =
      match Settings.validate given with
      | .ok settings =>
        (.ok (takingUp (directory.getD host.settingsDirectory) injected settings host),
          host.told settings)
      | .error faults => (.error (.configuration ("Invalid clipboard settings: "
          ++ Fault.summary Settings.recordName faults) faults), host) := by
  rw [start_build_eq, beginning, Action.start_ofResult, GivenSettings.accepted]
  rcases Settings.validate given with faults | settings <;> rfl

/-- **The settings file is read like a mapping.** The settings file of a directory is read, and this
is its content; `elsewhere` any container is built from a mapping.

Let the content be the document of an object, and the mapping be this object. If a container is
built from the mapping, then a container that is built from the file takes up the same settings, and
there is no notice but that it is ready. If the mapping is refused, this is for faults of its
fields, and then the defaults are loaded, and the one notice of that counts as many faults.

If the content is anything else, the defaults are loaded, and the one notice of that counts one
fault. -/
theorem file_like_mapping {directory : Option Path} {host : Host β} {content : Bytes}
    (hread : (Disk.read (Settings.fileIn (directory.getD host.settingsDirectory))).start host.disk =
      (.ok content, host.disk)) :
    let dir := directory.getD host.settingsDirectory
    let ignoring (count : Nat) : Except Failure Settings × Host β := (.ok {}, { host with
      notices := host.notices ++ [.settingsIgnored (Settings.fileIn dir).text count] })
    (∀ t members given, Charset.utf8.encode t = .ok content →
      Json.Holds t (.object members) → (Value.object given).Same (.object members) →
      ∀ (place : Option Path) (clipboard injected : Option (Clipboard (Host β)))
        (elsewhere : Host β),
      (∀ c after, (build (some (.mapping given)) place clipboard).start elsewhere = (.ok c, after) →
        ∃ s : Settings, c.settings = s ∧
          (build none directory injected).start host = (.ok (takingUp dir injected s host),
            { host with
              notices := host.notices ++ [.containerReady s.backend (.float s.timeout)] })) ∧
      ∀ f after, (build (some (.mapping given)) place clipboard).start elsewhere =
          (.error f, after) →
        ∃ text faults, f = .configuration text faults ∧
          (SettingsStore.load ⟨dir⟩).start host = ignoring faults.length) ∧
    ((¬ ∃ t members, Charset.utf8.encode t = .ok content ∧ Json.Holds t (.object members)) →
      (SettingsStore.load ⟨dir⟩).start host = ignoring 1) := by
  intro dir ignoring
  have hload := SettingsStore.start_load_of_ok ⟨dir⟩ hread
  rw [SettingsStore.accept] at hload
  refine ⟨fun t members given hencode hholds hsame place clipboard injected elsewhere => ?_,
    fun hnone => ?_⟩
  · rw [Settings.parse_of_holds hencode hholds, ← Settings.validate_of_same hsame] at hload
    rw [start_build_mapping]
    rcases hvalidate : Settings.validate given with faults | settings
    · -- the mapping is refused, and the file for the same faults
      rw [hvalidate] at hload
      constructor
      · intro c after h
        cases h
      · intro f after h
        cases h
        exact ⟨_, faults, rfl, hload⟩
    · rw [hvalidate] at hload
      constructor
      · intro c after h
        cases h
        refine ⟨settings, rfl, ?_⟩
        rw [start_build_loading, hload]
        rfl
      · intro f after h
        cases h
  · rw [Settings.parse_of_not_holds hnone] at hload
    exact hload

/-- The document has two timeouts, of which the first would be refused; the second counts, and it is
the number one. -/
theorem file_like_mapping_of_two_timeouts :
    let timeout := Json.memberText Settings.timeoutField
    let text : Text := "\x7b" ++ (timeout "null" ++ (",\n  " ++ (timeout "true" ++ "\n\x7d")))
    let content : Bytes := text.flatMap fun c => (Charset.utf8.encodePoint c).getD []
    let dir := Path.ofText "/config"
    let file := Settings.fileIn dir
    let disk := (({} : Disk).put dir .directory).put file (.file content false)
    let host : Host Unit := { Host.bare () with disk, settingsDirectory := dir }
    let settings : Settings := { timeout := .ofInt 1 }
    (Disk.read file).start disk = (.ok content, disk) ∧
      (build none none none).start host = (.ok (takingUp dir none settings host),
        { host with notices := [.containerReady settings.backend (.float settings.timeout)] }) := by
  intro timeout text content dir file disk host settings
  have hfind : disk.find file = .ok (some (.file content false)) := by decide +kernel
  have hread : (Disk.read file).start disk = (.ok content, disk) :=
    Disk.start_read_of_find hfind (by decide +kernel) rfl
  have hencode : Charset.utf8.encode text = .ok content :=
    Charset.encode_utf8_eq_ok_iff.2 ⟨by decide +kernel, rfl⟩
  have hholds : Json.Holds text
      (.object [(Settings.timeoutField, .null), (Settings.timeoutField, .bool true)]) := by
    have hlast : Json.Spells 199 _ _ _ :=
      (Json.writes_writeBool true).last_member Settings.timeoutField
    exact ⟨_, [], .refl _, .object (hlast.write_member Json.writes_null Settings.timeoutField),
      .refl _⟩
  have hsame : (Value.object [(Settings.timeoutField, .bool true)]).Same
      (.object [(Settings.timeoutField, .null), (Settings.timeoutField, .bool true)]) := by
    have hget : ∀ name, Fields.get? [(Settings.timeoutField, .bool true)] name =
        Fields.get? [(Settings.timeoutField, .null), (Settings.timeoutField, .bool true)] name := by
      intro name
      by_cases hname : Settings.timeoutField = name <;> simp [Fields.get?, hname]
    refine .object (fun name => by rw [hget]) fun name v w hv hw => ?_
    rw [hget, hw] at hv
    cases hv
    exact .refl _
  obtain ⟨hobject, -⟩ := @file_like_mapping Unit none host content hread
  obtain ⟨hok, -⟩ := hobject text _ _ hencode hholds hsame none none none host
  rw [start_build_mapping] at hok
  have haccepted : Settings.validate [(Settings.timeoutField, .bool true)] = .ok settings := by
    decide +kernel
  rw [haccepted] at hok
  obtain ⟨s, hs, hbuilt⟩ := hok _ _ rfl
  cases Settings.record_inj hs
  exact ⟨hread, hbuilt⟩

end Container

end Pasteboard
