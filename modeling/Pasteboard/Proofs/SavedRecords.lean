import Pasteboard.Proofs.Session

/-!
# What is saved and what is loaded then

A mapping is validated before its settings are saved; a record is saved as it is, and its fields may
have been assigned anything. So what is in force after a saving need not be settings at all, let
alone valid ones. It has been written all the same, and whoever reads the document next takes up
what that is accepted as, or the defaults if it is refused (`SettingsStore.loaded`). The document of
settings that are not valid is refused for its timeout and nothing else
(`Settings.parse_renderBytes_of_not_valid`).

`Application.saved_or_refused` puts this together: a saving is refused and undone, or what was meant
is in force and written. The saving may fail after that, since a record without a backend cannot be
announced. Only a record can make any of these differences.
-/

namespace Pasteboard

variable {β : Type}

/-! ### The document of settings that are not valid -/

namespace Settings

/-- A timeout that is refused is the one fault of what stands in the document. -/
theorem validate_fieldsWith_of_error {v : Value} {kind : FaultKind} (s : Settings)
    (h : readTimeout v = .error kind) :
    validate (s.fieldsWith v) = .error [⟨timeoutField, kind⟩] := by
  have hbackend : (s.fieldsWith v).get? backendField = some (.text s.backend.name) := rfl
  have htimeout : (s.fieldsWith v).get? timeoutField = some v := rfl
  have hstrip : (s.fieldsWith v).get? stripField = some (.bool s.stripTrailingNewline) := rfl
  have hbool : Value.readBool (.bool s.stripTrailingNewline) = .ok s.stripTrailingNewline := rfl
  have hrefused : ∀ default, (s.fieldsWith v).readOr timeoutField default readTimeout =
      .error ⟨timeoutField, kind⟩ := by
    intro default
    rw [Fields.readOr, htimeout]
    dsimp only
    rw [h]
    rfl
  rw [validate, readOr_of_get? hbackend (readBackend_name _), hrefused,
    readOr_of_get? hstrip hbool]
  rfl

/-- **The document of settings that are not valid is refused for its timeout.** What is written for
the timeout is the number itself or `null`, and neither is read as a timeout. -/
theorem parse_renderBytes_of_not_valid {s : Settings} (h : ¬ s.Valid) :
    ∃ kind, parse s.renderBytes = .error (.fields [⟨timeoutField, kind⟩]) := by
  obtain ⟨v, htimeout, hv⟩ := Json.exists_writes_document s.timeout
  rcases hread : readTimeout v with kind | x
  · rw [parse_renderBytes_of_writes htimeout, validate_fieldsWith_of_error s hread]
    exact ⟨kind, rfl⟩
  · rcases hv with rfl | rfl
    · have hx : x = s.timeout := readTimeout_eq hread
      rw [Valid, ← hx] at h
      exact absurd (readTimeout_valid hread) h
    · cases hread

end Settings

/-! ### Loading from the document -/

namespace SettingsStore

/-- The settings that are loaded where the settings file has this content: those that the content is
accepted as, or the defaults if it is refused or must not be read. -/
def loaded (store : SettingsStore) (host : Host β) (content : Bytes) : Settings :=
  if host.disk.refusal (.read store.file) = none then (Settings.parse content).toOption.getD {}
  else {}

/-- The notice of a content that is refused, which counts its faults. -/
def complaints (store : SettingsStore) (content : Bytes) : List Notice :=
  match Settings.parse content with
  | .ok _ => []
  | .error fault => [.settingsIgnored store.file.text fault.count]

/-- What is loaded from a file that may be read, and the notice of it. -/
theorem load_of_content {store : SettingsStore} {content : Bytes} {x : Bool} {host : Host β}
    (hnameable : store.file.isUnnameable = false)
    (hfind : host.disk.find store.file = .ok (some (.file content x))) :
    ∃ sent, store.load.start host =
        (.ok (store.loaded host content), { host with notices := sent }) ∧
      (host.disk.refusal (.read store.file) = none →
        sent = host.notices ++ store.complaints content) := by
  obtain ⟨hallowed, hrefused⟩ := load_of_find hnameable hfind
  by_cases hread : host.disk.refusal (.read store.file) = none
  · rw [loaded, if_pos hread, hallowed hread, complaints]
    rcases hparse : Settings.parse content with fault | s
    · exact ⟨_, start_accept_of_error store hparse host, fun _ => rfl⟩
    · exact ⟨host.notices, start_accept_of_ok store hparse host, fun _ => (List.append_nil _).symm⟩
  · obtain ⟨sent, hload⟩ := hrefused hread
    rw [loaded, if_neg hread]
    exact ⟨sent, hload, fun h => absurd h hread⟩

end SettingsStore

/-! ### Saving, and building from what is saved -/

/-- A mapping that is accepted gives valid settings. -/
theorem GivenSettings.IsMapping.valid_of_accepted {given : GivenSettings} (h : given.IsMapping)
    {r : SettingsRecord} (haccepted : given.accepted = .ok r) :
    ∃ s : Settings, s.Valid ∧ r = s := by
  obtain ⟨fields, rfl⟩ := h
  exact GivenSettings.valid_of_accepted haccepted

/-- The document of settings gives them back if they are valid, and else it is refused for its
timeout. -/
theorem Settings.parse_content {s : Settings} {content : Bytes}
    (h : s.record.content = .ok content) :
    (s.Valid → parse content = .ok s) ∧
      (¬ s.Valid → ∃ kind, parse content = .error (.fields [⟨timeoutField, kind⟩])) := by
  cases h
  exact ⟨parse_renderBytes, parse_renderBytes_of_not_valid⟩

namespace Application

/-- **A saving is refused and undone, or what was meant is in force and written.** For every
container of every application, every state of the disk and whatever is handed over to be saved.

If the saving is refused, all containers are as they were, and the disk is undone. The failure is
one of the settings, unless the path of the directory is none that the system can be asked about, or
a record was handed over that cannot be written.

Otherwise the container has taken up the record that was meant, and the settings file holds its
document. The saving succeeds if the record names a backend, and fails without undoing anything if
it holds something else in place of one. From a mapping the record is that of valid settings. The
next container that is built from the file takes up what the document is accepted as, or the
defaults, and in that case there is a notice that counts the faults. The document of settings is
accepted as these settings if they are valid, and refused for its timeout if they are not. (The
system may refuse to let the file be read; then the defaults are taken up in any case.) -/
theorem saved_or_refused {app : Application β} {number : Nat} {c : Container β}
    (hc : app.containers[number]? = some c) (given : GivenSettings) :
    let store := c.store
    let ended := (saveSettings number given).start app
    (∃ f disk, ended = (.error f, { app with host := { app.host with disk } }) ∧
        (Change.save given).FailsWith store.directory f ∧
        app.host.disk.GrownAt store.directory disk store.file.resolved ∧
        store.Undone app.host.temporaryTokens app.host.disk disk) ∨
      ∃ r content host, given.accepted = .ok r ∧ r.content = .ok content ∧
        host.disk.find store.file = .ok (some (.file content false)) ∧
        ended = (r.named.map fun _ => r, { app with
          host := host.told r, containers := app.containers.set number (c.withSettings r host) }) ∧
        (given.IsMapping → ∃ s : Settings, s.Valid ∧ r = s) ∧
        (∀ s : Settings, r = s → (s.Valid → Settings.parse content = .ok s) ∧
          (¬ s.Valid → ∃ kind, Settings.parse content =
            .error (.fields [⟨Settings.timeoutField, kind⟩]))) ∧
        ∀ injected, ∃ sent asked, asked = { host.told r with notices := sent } ∧
          (Container.build none (some store.directory) injected).start (host.told r) =
            (.ok (.takingUp store.directory injected (store.loaded host content) asked),
              asked.told (store.loaded host content)) ∧
          (host.disk.refusal (.read store.file) = none →
            sent = (host.told r).notices ++ store.complaints content) := by
  intro store ended
  have hstart : ended = _ := start_change hc (.save given)
  rcases c.saveSettings_cases given app.host with
    ⟨f, disk, hf, hkind, hundone⟩ |
      ⟨r, content, disk, haccepted, hcontent, hok, -, hnameable, hfind, -⟩
  · rw [Container.change, hf] at hstart
    exact .inl ⟨f, disk, hstart, hkind, hundone.node_file, hundone⟩
  · rw [Container.change, hok] at hstart
    refine .inr ⟨r, content, _, haccepted, hcontent, hfind, hstart,
      fun h => h.valid_of_accepted haccepted, ?_, fun injected => ?_⟩
    · rintro s rfl
      exact Settings.parse_content hcontent
    · -- announcing leaves the disk, so the next container finds what was written
      have hdisk : ((c.kept app.host disk).told r).disk = disk := by rw [Host.told_eq]; rfl
      have hthere : ((c.kept app.host disk).told r).disk.find store.file =
          .ok (some (.file content false)) := by rw [hdisk]; exact hfind
      obtain ⟨sent, hload, hsent⟩ := SettingsStore.load_of_content hnameable hthere
      have hsame : store.loaded ((c.kept app.host disk).told r) content =
          store.loaded (c.kept app.host disk) content := by
        rw [SettingsStore.loaded, hdisk]
        rfl
      rw [hsame] at hload
      rw [hdisk] at hsent
      refine ⟨sent, _, rfl, ?_, hsent⟩
      rw [Container.start_build_loading, Option.getD_some, hload]

/-- An infinite timeout is in force after it was saved in a record. It is written as `null`, which
no one reads as a timeout, so the next container begins with the defaults. -/
theorem saved_or_refused_of_infinite_timeout :
    let dir := Path.ofText "/config"
    let c : Container Unit := ⟨({} : Settings), .system {}, none, ⟨dir⟩⟩
    let host : Host Unit := { Host.bare () with temporaryTokens := [.ofText "x"] }
    let app : Application Unit := { host, containers := [c] }
    let settings : Settings := { timeout := .infinite false }
    app.containers[0]? = some c ∧ ∃ after : Host Unit,
      (saveSettings 0 (.record settings)).start app = (.ok settings, { app with
        host := after.told settings
        containers := app.containers.set 0 (c.withSettings settings after) }) ∧
      ((Container.build none (some dir) none).start (after.told settings)).1 =
        .ok (.takingUp dir none ({} : Settings) after) := by
  intro dir c host app settings
  have hc : app.containers[0]? = some c := rfl
  have hok : ((saveSettings 0 (.record settings)).start app).1.isOk = true := by decide +kernel
  have hinvalid : ¬ settings.Valid := by decide +kernel
  rcases saved_or_refused hc (.record settings) with
    ⟨f, disk, hf, -⟩ | ⟨r, content, after, haccepted, -, -, hended, -, hdocument, hnext⟩
  · rw [hf] at hok
    cases hok
  · cases haccepted
    obtain ⟨kind, hparse⟩ := (hdocument settings rfl).2 hinvalid
    obtain ⟨sent, asked, -, hbuilt, -⟩ := hnext none
    have hdefault : c.store.loaded after content = {} := by
      rw [SettingsStore.loaded, hparse]
      exact ite_self _
    rw [hdefault] at hbuilt
    exact ⟨hc, after, hended, congrArg Prod.fst hbuilt⟩

/-- A timeout below zero is saved and in force, as the integer that it is, and the next container
does not take it up. -/
theorem negative_timeout_in_force :
    let dir := Path.ofText "/config"
    let c : Container Unit := ⟨({} : Settings), .system {}, none, ⟨dir⟩⟩
    let host : Host Unit := { Host.bare () with temporaryTokens := [.ofText "x"] }
    let record : SettingsRecord := { ({} : Settings).record with timeout := .int (-1) }
    let ended := (saveSettings 0 (.record record)).start { host, containers := [c] }
    ended.1 = .ok record ∧
      record.timeout.number? = some (.ofInt (-1)) ∧ (Binary64.ofInt (-1)).isPositive = false ∧
      ended.2.containers.map Container.settings = [record] ∧
      ((Container.build none (some dir) none).start ended.2.host).1.map Container.settings =
        .ok ({} : Settings).record := by
  decide +kernel

end Application

end Pasteboard
