import Pasteboard.Proofs.Document
import Pasteboard.Proofs.Saving

/-!
# Loading what is kept

`Disk.Keeps` says which settings the settings file holds: the file is their document, or there is no
file. What is loaded is then exactly what is kept (`SettingsStore.load_of_keeps`), and so is what a
container takes up that is built without settings (`Container.build_of_keeps`). This is where
writing and reading a document meet. Loading never changes the disk, whatever the file holds, and it
gives valid settings (`SettingsStore.valid_of_load`). Right after a saving it gives what was saved
(`SettingsStore.load_of_save`).

As in `Application.undone_of_failed`, the path of the directory may lead through the settings file.
Then the file may be a directory while no settings are kept.
-/

namespace Pasteboard

variable {β : Type}

theorem Settings.record_inj {s t : Settings} (h : s.record = t.record) : s = t := by
  obtain ⟨backend, timeout, strip⟩ := s
  cases h
  rfl

/-- The settings file of a directory is the document of the valid settings that are kept; if none
are, there is no file. -/
inductive Disk.Keeps (dir : Path) (d : Disk) : Option SettingsRecord → Prop
  | settings {s : Settings} (valid : s.Valid) (nameable : dir.isUnnameable = false)
      (find : d.find (Settings.fileIn dir) = .ok (some (.file s.renderBytes false))) :
      Keeps dir d (some s)
  | absent (node : d.node? (Settings.fileIn dir).resolved = none) : Keeps dir d none
  | directory (leads : dir.LeadsThrough (Settings.fileIn dir).resolved)
      (node : d.node? (Settings.fileIn dir).resolved = some .directory) : Keeps dir d none

/-- Where nothing is kept, there is no file to be found. -/
theorem Disk.Keeps.find_ne {dir : Path} {d : Disk} (h : d.Keeps dir none) (content : Bytes)
    (x : Bool) : d.find (Settings.fileIn dir) ≠ .ok (some (.file content x)) := by
  intro hfind
  have hnode := Disk.node?_of_find hfind
  cases h with
  | absent hnone =>
    rw [hnone] at hnode
    cases hnode
  | directory _ hdirectory =>
    rw [hdirectory] at hnode
    cases hnode

/-- The settings that are loaded where some are kept: the defaults stand in for a file that is
missing or that must not be read. -/
def Disk.loaded (dir : Path) (kept : Option SettingsRecord) (d : Disk) : SettingsRecord :=
  let default : Settings := {}
  if (d.refusal (.read (Settings.fileIn dir))).isSome then default else kept.getD default

/-- Reading a file gives its content, or it fails and the disk stays as it is. -/
theorem Disk.read_cases (p : Path) (d : Disk) :
    (∃ f, (read p).start d = (.error f, d) ∧ f.FromCall p.isUnnameable ∧
        ((d.refusal (.read p)).isSome = true ∨ p.isUnnameable = true ∨
          ∀ content x, d.find p ≠ .ok (some (.file content x)))) ∨
      ∃ content x, d.find p = .ok (some (.file content x)) ∧ d.refusal (.read p) = none ∧
        (read p).start d = (.ok content, d) := by
  rw [read]
  rcases start_call_cases (.read p) _ d with ⟨hn, h⟩ | ⟨-, e, hr, h⟩ | ⟨-, hr, h⟩
  · exact .inl ⟨_, h, .inr ⟨DiskCall.blamesPath_pathFailure _, hn⟩, .inr (.inl hn)⟩
  · exact .inl ⟨_, h, .inl rfl, .inl (by rw [hr]; rfl)⟩
  · rw [h, Action.start_bind, start_look, hr]
    rcases hfind : d.find p with o | _ | ⟨content, x⟩ | _
    · exact .inl ⟨_, rfl, .inl rfl, .inr (.inr nofun)⟩
    · exact .inl ⟨_, rfl, .inl rfl, .inr (.inr nofun)⟩
    · exact .inr ⟨content, x, rfl, rfl, rfl⟩
    · exact .inl ⟨_, rfl, .inl rfl, .inr (.inr nofun)⟩

/-- A file that is there is read, unless that is refused. -/
theorem Disk.start_read_of_find {p : Path} {d : Disk} {content : Bytes} {x : Bool}
    (hfind : d.find p = .ok (some (.file content x))) (hnameable : p.isUnnameable = false)
    (hallowed : d.refusal (.read p) = none) : (read p).start d = (.ok content, d) := by
  rcases read_cases p d with ⟨f, -, -, hr | hn | hnone⟩ | ⟨content', x', hthere, -, hread⟩
  · rw [hallowed] at hr
    cases hr
  · rw [hnameable] at hn
    cases hn
  · exact absurd hfind (hnone _ _)
  · rw [hfind] at hthere
    cases hthere
    exact hread

namespace SettingsStore

/-- Where the file is read, what is loaded is what its content is accepted as. -/
theorem start_load_of_ok (store : SettingsStore) {host : Host β} {content : Bytes}
    (h : (Disk.read store.file).start host.disk = (.ok content, host.disk)) :
    store.load.start host = (store.accept content).start host := by
  simp only [load, Action.start_bind, Action.start_tryCatch, Action.start_map, Host.onDisk,
    Action.start_within, h]
  rfl

/-- Where the file is not read, the defaults are loaded, with a notice unless the file is just
missing. Only a failure that is none of the system goes on. -/
theorem start_load_eq_of_error (store : SettingsStore) {host : Host β} {f : Failure}
    (h : (Disk.read store.file).start host.disk = (.error f, host.disk)) :
    store.load.start host =
      if f.isMissing then (.ok {}, host)
      else if f.isSystem then (.ok {}, { host with
        notices := host.notices ++ [.settingsUnreadable store.file.text f.message] })
      else (.error f, host) := by
  simp only [load, Action.start_bind, Action.start_tryCatch, Action.start_map, Host.onDisk,
    Action.start_within, h]
  simp only [Except.map]
  cases hm : f.isMissing with
  | true => rfl
  | false => cases hs : f.isSystem <;> rfl

/-- Where the file is not read, the defaults are loaded, unless the path is to blame. -/
theorem start_load_of_error (store : SettingsStore) {host : Host β} {f : Failure}
    (h : (Disk.read store.file).start host.disk = (.error f, host.disk)) :
    ∃ notices, store.load.start host =
      (if f.isMissing || f.isSystem then .ok {} else .error f, { host with notices }) := by
  rw [start_load_eq_of_error store h]
  cases hm : f.isMissing with
  | true => exact ⟨host.notices, rfl⟩
  | false => cases hs : f.isSystem <;> exact ⟨_, rfl⟩

theorem start_accept_of_ok (store : SettingsStore) {content : Bytes} {s : Settings}
    (h : Settings.parse content = .ok s) (host : Host β) :
    (store.accept content).start host = (.ok s, host) := by
  rw [accept, h]
  rfl

theorem start_accept_of_error (store : SettingsStore) {content : Bytes}
    {fault : Settings.DocumentFault} (h : Settings.parse content = .error fault) (host : Host β) :
    (store.accept content).start host = (.ok {}, { host with
      notices := host.notices ++ [.settingsIgnored store.file.text fault.count] }) := by
  rw [accept, h]
  rfl

theorem start_accept (store : SettingsStore) (content : Bytes) (host : Host β) :
    ∃ notices, (store.accept content).start host =
      (.ok ((Settings.parse content).toOption.getD {}), { host with notices }) := by
  rcases hparse : Settings.parse content with fault | settings
  · exact ⟨_, start_accept_of_error store hparse host⟩
  · exact ⟨_, start_accept_of_ok store hparse host⟩

/-- Loading does nothing to a host but send notices. -/
theorem start_load (store : SettingsStore) (host : Host β) :
    ∃ result notices, store.load.start host = (result, { host with notices }) := by
  rcases Disk.read_cases store.file host.disk with ⟨f, hf, -⟩ | ⟨content, -, -, -, hok⟩
  · exact ⟨_, start_load_of_error store hf⟩
  · rw [start_load_of_ok store hok]
    exact ⟨_, start_accept store content host⟩

/-- **Whatever the file holds, what is loaded is valid.** -/
theorem valid_of_load (store : SettingsStore) {host : Host β} {s : Settings}
    (h : (store.load.start host).1 = .ok s) : s.Valid := by
  rcases Disk.read_cases store.file host.disk with ⟨f, hf, -⟩ | ⟨content, -, -, -, hok⟩
  · obtain ⟨notices, hload⟩ := start_load_of_error store hf
    rw [hload] at h
    dsimp only at h
    split_ifs at h
    cases h
    exact Settings.valid_default
  · obtain ⟨notices, haccept⟩ := start_accept store content host
    rw [start_load_of_ok store hok, haccept] at h
    cases h
    rcases hparse : Settings.parse content with fault | s
    · exact Settings.valid_default
    · exact Settings.valid_of_parse hparse

/-- **What is loaded from a file that is there.** Its content is accepted as what it is, unless the
system refuses to let it be read; then the defaults are loaded. -/
theorem load_of_find {store : SettingsStore} {content : Bytes} {x : Bool} {host : Host β}
    (hnameable : store.file.isUnnameable = false)
    (hfind : host.disk.find store.file = .ok (some (.file content x))) :
    (host.disk.refusal (.read store.file) = none →
        store.load.start host = (store.accept content).start host) ∧
      (host.disk.refusal (.read store.file) ≠ none →
        ∃ notices, store.load.start host = (.ok {}, { host with notices })) := by
  constructor
  · intro hallowed
    exact start_load_of_ok store (Disk.start_read_of_find hfind hnameable hallowed)
  · intro hrefused
    obtain ⟨e, he⟩ := Option.ne_none_iff_exists'.1 hrefused
    have hcall : (DiskCall.read store.file).isUnnameable = false := hnameable
    have hread : (Disk.read store.file).start host.disk = (.error (.system e), host.disk) := by
      rw [Disk.read]
      exact Disk.start_call_of_refused hcall he _
    obtain ⟨notices, hload⟩ := start_load_of_error store hread
    have hsystem : (Failure.system e).isSystem = true := rfl
    rw [hsystem, Bool.or_true, if_pos rfl] at hload
    exact ⟨notices, hload⟩

/-- **What is loaded is what is kept**, unless reading is refused. -/
theorem load_of_keeps {dir : Path} {kept : Option SettingsRecord} {host : Host β}
    (hnameable : dir.isUnnameable = false) (h : host.disk.Keeps dir kept) :
    ∃ s : Settings, s = host.disk.loaded dir kept ∧ ∃ notices,
      (load ⟨dir⟩ : Action (Host β) Settings).start host = (.ok s, { host with notices }) := by
  have hfile : (Settings.fileIn dir).isUnnameable = false :=
    (isUnnameable_file ⟨dir⟩).trans hnameable
  rcases Disk.read_cases (Settings.fileIn dir) host.disk with
    ⟨f, hf, hfrom, hwhy⟩ | ⟨content, x, hfind, hr, hok⟩
  · obtain ⟨notices, hload⟩ := start_load_of_error ⟨dir⟩ hf
    have hsystem : f.isSystem = true := by
      rcases hfrom with hs | ⟨-, hn⟩
      · exact hs
      · rw [hfile] at hn
        cases hn
    have hdefault : host.disk.loaded dir kept = ({} : Settings) := by
      rw [Disk.loaded]
      rcases hwhy with hr | hn | hnone
      · rw [if_pos hr]
      · rw [hfile] at hn
        cases hn
      · cases h with
        | settings _ _ hkept => exact absurd hkept (hnone _ _)
        | absent => exact ite_self _
        | directory => exact ite_self _
    rw [hsystem, Bool.or_true, if_pos rfl] at hload
    exact ⟨{}, hdefault.symm, notices, hload⟩
  · rw [start_load_of_ok ⟨dir⟩ hok]
    obtain ⟨notices, haccept⟩ := start_accept ⟨dir⟩ content host
    refine ⟨_, ?_, notices, haccept⟩
    cases h with
    | settings hvalid _ hkept =>
      rw [hkept] at hfind
      cases hfind
      rw [Settings.parse_renderBytes hvalid, Disk.loaded, hr]
      rfl
    | absent h => exact absurd hfind ((Disk.Keeps.absent h).find_ne content x)
    | directory hl h => exact absurd hfind ((Disk.Keeps.directory hl h).find_ne content x)

/-- **Settings that were saved are what is loaded**, bit for bit, and loading sends no notice. Only
if the system refuses to let the file be read that it has just let be written, the defaults are
loaded, as they are wherever a file must not be read (`Disk.loaded`). -/
theorem load_of_save {store : SettingsStore} {settings : Settings} (hvalid : settings.Valid)
    {host after : Host β} (hsave : (store.save settings).start host = (.ok (), after)) :
    after.notices = host.notices ++ [.settingsSaved store.file.text] ∧
      (after.disk.refusal (.read store.file) = none →
        store.load.start after = (.ok settings, after)) ∧
      (after.disk.refusal (.read store.file) ≠ none →
        ∃ notices, store.load.start after = (.ok {}, { after with notices })) := by
  rw [start_save, saveOnDisk, SettingsRecord.content_record] at hsave
  rcases store.writeOnDisk_cases host.temporaryTokens (.ok settings.renderBytes) host.disk with
    ⟨f, disk, hf, -⟩ | ⟨content, disk, hw, hok, -, hnameable, hfind, -⟩
  · rw [hf] at hsave
    cases hsave
  cases hw
  rw [hok] at hsave
  cases hsave
  obtain ⟨hallowed, hrefused⟩ := @load_of_find β store settings.renderBytes false
    { host with disk, notices := host.notices ++ [.settingsSaved store.file.text] } hnameable hfind
  refine ⟨rfl, fun hr => ?_, hrefused⟩
  rw [hallowed hr]
  exact start_accept_of_ok store (Settings.parse_renderBytes hvalid) _

/-- The least timeout above zero is loaded as it was saved. -/
theorem load_of_save_of_least_timeout :
    let store : SettingsStore := ⟨.ofText "/config/clipbridge"⟩
    let settings : Settings := ⟨.xclip, .ofPlace false 1, true⟩
    let host : Host Unit := { Host.bare () with temporaryTokens := [.ofText "x"] }
    let after := ((store.save settings).start host).2
    (settings.Valid ∧ (store.save settings).start host = (.ok (), after)) ∧
      store.load.start after = (.ok settings, after) := by
  intro store settings host after
  have hvalid : settings.Valid := by decide +kernel
  have hok : ((store.save settings).start host).1 = .ok () := by decide +kernel
  have hsave : (store.save settings).start host = (.ok (), after) := Prod.fst_eq_iff.1 hok
  have hread : after.disk.refusal (.read store.file) = none := by decide +kernel
  exact ⟨⟨hvalid, hsave⟩, (load_of_save hvalid hsave).2.1 hread⟩

end SettingsStore

/-! ### Building containers -/

namespace Container

/-- The container that takes up a record on a host, with a directory and maybe a clipboard that was
brought along. -/
def takingUp (dir : Path) (injected : Option (Clipboard (Host β))) (r : SettingsRecord)
    (host : Host β) : Container β := ⟨r, adapterFor injected r host, injected, ⟨dir⟩⟩

/-- The record that a container begins with: what is given, or what is loaded. -/
def beginning (store : SettingsStore) : Option GivenSettings → Action (Host β) SettingsRecord
  | some given => Action.ofResult given.accepted
  | none => Settings.record <$> store.load

/-- A container that is built takes up the record that it begins with, and announces it. -/
theorem start_build_eq (given : Option GivenSettings) (directory : Option Path)
    (injected : Option (Clipboard (Host β))) (host : Host β) :
    (build given directory injected).start host =
      match (beginning ⟨directory.getD host.settingsDirectory⟩ given).start host with
      | (.ok r, host') =>
        (r.named.map fun _ => takingUp (directory.getD host.settingsDirectory) injected r host',
          host'.told r)
      | (.error f, host') => (.error f, host') := by
  have htakeUp : ∀ (store : SettingsStore) (r : SettingsRecord) (host' : Host β),
      (do
        let adapter ← Action.ask (adapterFor injected r)
        announce r
        pure ⟨r, adapter, injected, store⟩ : Action (Host β) (Container β)).start host' =
        (r.named.map fun _ => takingUp store.directory injected r host', host'.told r) := by
    intro store r host'
    rw [Action.start_bind, Action.start_ask]
    dsimp only
    rw [Action.start_bind, Host.told, start_announce]
    rcases r.named with f | b <;> rfl
  rw [build, Action.start_bind, Action.start_ask]
  cases given with
  | some given =>
    dsimp only [beginning]
    rw [Action.start_bind, Action.start_ofResult]
    rcases given.accepted with f | r
    · rfl
    · exact htakeUp _ r host
  | none =>
    dsimp only [beginning]
    rw [Action.start_bind]
    rcases
      (Settings.record <$> SettingsStore.load ⟨directory.getD host.settingsDirectory⟩).start host
      with ⟨f | r, host'⟩
    · rfl
    · exact htakeUp _ r host'

/-- A container that is built without settings takes up what is loaded. -/
theorem start_build_loading (directory : Option Path) (injected : Option (Clipboard (Host β)))
    (host : Host β) :
    (build none directory injected).start host =
      match (SettingsStore.load ⟨directory.getD host.settingsDirectory⟩).start host with
      | (.ok settings, host') =>
        (.ok (takingUp (directory.getD host.settingsDirectory) injected settings host'),
          host'.told settings)
      | (.error f, host') => (.error f, host') := by
  rw [start_build_eq, beginning, Action.start_map]
  rcases (SettingsStore.load ⟨directory.getD host.settingsDirectory⟩).start host with
    ⟨f | settings, host'⟩ <;> rfl

/-- Building does nothing to a host but send notices. A container that is built has the directory
and the clipboard that were asked for. -/
theorem build_cases (given : Option GivenSettings) (directory : Option Path)
    (injected : Option (Clipboard (Host β))) (host : Host β) :
    ∃ notices, (∃ f, (build given directory injected).start host =
        (.error f, { host with notices })) ∨
      ∃ r sent, (build given directory injected).start host =
        (.ok (takingUp (directory.getD host.settingsDirectory) injected r
          { host with notices := sent }), { host with notices }) := by
  have hbeginning : ∃ result notices,
      (beginning ⟨directory.getD host.settingsDirectory⟩ given).start host =
        (result, { host with notices }) := by
    cases given with
    | some given => exact ⟨given.accepted, host.notices, rfl⟩
    | none =>
      obtain ⟨result, notices, hload⟩ :=
        SettingsStore.start_load ⟨directory.getD host.settingsDirectory⟩ host
      exact ⟨_, notices, by rw [beginning, Action.start_map, hload]⟩
  obtain ⟨f | r, notices, hstart⟩ := hbeginning <;> rw [start_build_eq, hstart]
  · exact ⟨notices, .inl ⟨f, rfl⟩⟩
  · dsimp only
    rw [Host.told, start_announce]
    rcases r.named with f | b
    · exact ⟨_, .inl ⟨f, rfl⟩⟩
    · exact ⟨_, .inr ⟨r, notices, rfl⟩⟩

/-- A container that is built without settings takes up those that are kept. -/
theorem build_of_keeps {dir : Path} {kept : Option SettingsRecord} {host : Host β}
    (hnameable : dir.isUnnameable = false) (h : host.disk.Keeps dir kept) (directory : Option Path)
    (hdir : directory.getD host.settingsDirectory = dir)
    (injected : Option (Clipboard (Host β))) :
    ∃ sent notices, (build none directory injected).start host =
      (.ok (takingUp dir injected (host.disk.loaded dir kept) { host with notices := sent }),
        { host with notices }) := by
  obtain ⟨s, hs, notices, hload⟩ := SettingsStore.load_of_keeps hnameable h
  rw [start_build_loading, hdir, hload, ← hs]
  exact ⟨notices, _, rfl⟩

/-- The clipboard of a container is one that was brought along or one of the host. -/
theorem clipboard_of_adapterFor {P : Clipboard (Host β) → Prop}
    {injected : Option (Clipboard (Host β))} (hinjected : ∀ p ∈ injected, P p)
    (hsystem : ∀ s : SystemClipboard, P s.asClipboard) {c : Container β} {r : SettingsRecord}
    {host : Host β} (h : c.adapter = adapterFor injected r host) : P c.clipboard := by
  rw [clipboard, h, adapterFor]
  rcases hfilter : injected.filter fun p => p.counts host with _ | p
  · rw [hfilter]
    exact hsystem _
  · rw [hfilter]
    exact hinjected p (Option.filter_eq_some_iff.1 hfilter).1

end Container

end Pasteboard
