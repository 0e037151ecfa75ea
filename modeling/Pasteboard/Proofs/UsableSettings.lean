import Pasteboard.Proofs.FieldByField

/-!
# Loading always gives settings that can be used

What there is to be seen at a path (`Sight`) is told by the disk (`Disk.Shows`): nothing, an
obstacle, or the content of a file. Every path shows one of these (`Disk.exists_shows`), and if the
system can name the path, reading answers accordingly (`Disk.Shows.readAs`). A path that it cannot
name is never asked about, and loading passes that on (`SettingsStore.load_of_unnameable`).

Settings are in a content if it is the document of an object each of whose fields is accepted by
itself (`Settings.Usable`, `Settings.exists_parse_iff`). So loading gives all that the file says or
nothing of it, and `SettingsStore.load_usable` says which of the two, with the notices that are sent
and for every state of the settings file.
-/

namespace Pasteboard

variable {β : Type}

/-! ### What is at a path -/

/-- What there is to be seen at a path. -/
inductive Sight
  | nothing
  /-- There is something, and the reason why it cannot be read. -/
  | obstacle (reason : Text)
  | content (octets : Bytes)

/-- What a disk shows at a path. The system may refuse the reading, and for want of a file is then
one reason among others; otherwise this is decided by what is on the way and at its end. -/
inductive Disk.Shows (d : Disk) (p : Path) : Sight → Prop
  | refusedAsMissing {e : SystemError} (refused : d.refusal (.read p) = some e)
      (missing : (Failure.system e).isMissing = true) : Shows d p .nothing
  | refused {e : SystemError} (refused : d.refusal (.read p) = some e)
      (missing : (Failure.system e).isMissing = false) : Shows d p (.obstacle e.message)
  | absent (allowed : d.refusal (.read p) = none) (find : d.find p = .ok none) : Shows d p .nothing
  | cutOff (allowed : d.refusal (.read p) = none) (find : d.find p = .error .missing) :
      Shows d p .nothing
  | blocked {o : Obstacle} (allowed : d.refusal (.read p) = none) (find : d.find p = .error o)
      (other : o ≠ .missing) : Shows d p (.obstacle (o.failureAt p).message)
  | directory (allowed : d.refusal (.read p) = none) (find : d.find p = .ok (some .directory)) :
      Shows d p (.obstacle (Obstacle.isDirectory.failureAt p).message)
  | file {octets : Bytes} {x : Bool} (allowed : d.refusal (.read p) = none)
      (find : d.find p = .ok (some (.file octets x))) : Shows d p (.content octets)

/-- What comes of reading what is to be seen. -/
inductive Sight.ReadAs : Sight → Except Failure Bytes → Prop
  | nothing {f : Failure} (missing : f.isMissing = true) : ReadAs .nothing (.error f)
  | obstacle {f : Failure} (missing : f.isMissing = false) (system : f.isSystem = true) :
      ReadAs (.obstacle f.message) (.error f)
  | content (octets : Bytes) : ReadAs (.content octets) (.ok octets)

/-- Only what is missing is reported as missing. -/
theorem Obstacle.isMissing_failureAt {o : Obstacle} (h : o ≠ .missing) (p : Path) :
    (o.failureAt p).isMissing = false := by
  cases o with
  | missing => exact absurd rfl h
  | _ => rfl

namespace Disk

variable {d : Disk} {p : Path} {sight : Sight}

/-- **Every path shows something**: the states of a path that are told apart are all there are. -/
theorem exists_shows (d : Disk) (p : Path) : ∃ sight, d.Shows p sight := by
  rcases hrefusal : d.refusal (.read p) with _ | e
  · rcases hfind : d.find p with o | _ | ⟨octets, x⟩ | _
    · by_cases ho : o = .missing
      · exact ⟨_, .cutOff hrefusal (ho ▸ hfind)⟩
      · exact ⟨_, .blocked hrefusal hfind ho⟩
    · exact ⟨_, .absent hrefusal hfind⟩
    · exact ⟨_, .file hrefusal hfind⟩
    · exact ⟨_, .directory hrefusal hfind⟩
  · cases hmissing : (Failure.system e).isMissing with
    | true => exact ⟨_, .refusedAsMissing hrefusal hmissing⟩
    | false => exact ⟨_, .refused hrefusal hmissing⟩

/-- Reading answers according to what is to be seen, and leaves the disk as it is. -/
theorem Shows.readAs (h : d.Shows p sight) (hnameable : p.isUnnameable = false) :
    ∃ result, (read p).start d = (result, d) ∧ sight.ReadAs result := by
  have hcall : (DiskCall.read p).isUnnameable = false := hnameable
  rw [read]
  cases h with
  | refusedAsMissing he hmissing =>
    rw [start_call_of_refused hcall he]
    exact ⟨_, rfl, .nothing hmissing⟩
  | refused he hmissing =>
    rw [start_call_of_refused hcall he]
    exact ⟨_, rfl, .obstacle hmissing rfl⟩
  | absent hnone hfind =>
    rw [start_call_of_allowed hcall hnone, Action.start_bind, start_look, hfind]
    exact ⟨_, rfl, .nothing rfl⟩
  | cutOff hnone hfind =>
    rw [start_call_of_allowed hcall hnone, Action.start_bind, start_look, hfind]
    exact ⟨_, rfl, .nothing rfl⟩
  | blocked hnone hfind hother =>
    rw [start_call_of_allowed hcall hnone, Action.start_bind, start_look, hfind]
    exact ⟨_, rfl, .obstacle (Obstacle.isMissing_failureAt hother p) rfl⟩
  | directory hnone hfind =>
    rw [start_call_of_allowed hcall hnone, Action.start_bind, start_look, hfind]
    exact ⟨_, rfl, .obstacle rfl rfl⟩
  | file hnone hfind =>
    rw [start_call_of_allowed hcall hnone, Action.start_bind, start_look, hfind]
    exact ⟨_, rfl, .content _⟩

end Disk

/-! ### Contents that settings are in -/

namespace Settings

variable {octets : Bytes} {members : Fields} {s : Settings}

/-- The octets are the document of an object, and each field of settings that the object has is
accepted in a mapping of its own. -/
def Usable (octets : Bytes) (members : Fields) : Prop :=
  (∃ t, Charset.utf8.encode t = .ok octets ∧ Json.Holds t (.object members)) ∧
    ∀ name ∈ fieldNames, ∀ v, members.get? name = some v → ∃ s, validate [(name, v)] = .ok s

/-- What can be used is accepted, with the settings of its object. -/
theorem Usable.parse_eq (h : Usable octets members) :
    ∃ s, validate members = .ok s ∧ parse octets = .ok s := by
  obtain ⟨⟨t, hencode, hholds⟩, hfields⟩ := h
  obtain ⟨s, hvalidate⟩ := accepted_iff_alone.2 hfields
  refine ⟨s, hvalidate, ?_⟩
  rw [parse_of_holds hencode hholds, hvalidate]
  rfl

/-- **A content is accepted exactly if it can be used.** -/
theorem exists_parse_iff :
    (∃ s, parse octets = .ok s) ↔ ∃ members, Usable octets members := by
  constructor
  · rintro ⟨s, hparse⟩
    -- without an object nothing is accepted, and with one its fields decide
    by_cases hobject :
        ∃ t members, Charset.utf8.encode t = .ok octets ∧ Json.Holds t (.object members)
    · obtain ⟨t, members, hencode, hholds⟩ := hobject
      rw [parse_of_holds hencode hholds] at hparse
      rcases hvalidate : validate members with faults | accepted
      · rw [hvalidate] at hparse
        cases hparse
      · exact ⟨members, ⟨t, hencode, hholds⟩, accepted_iff_alone.1 ⟨accepted, hvalidate⟩⟩
    · rw [parse_of_not_holds hobject] at hparse
      cases hparse
  · rintro ⟨members, husable⟩
    obtain ⟨s, -, hparse⟩ := husable.parse_eq
    exact ⟨s, hparse⟩

end Settings

/-! ### Loading -/

namespace SettingsStore

variable {store : SettingsStore} {host : Host β} {octets : Bytes}

/-- Where a content is shown, it is accepted or ignored. -/
theorem start_load_of_content
    (hread : (Disk.read store.file).start host.disk = (.ok octets, host.disk)) :
    ∃ s sent, store.load.start host = (.ok s, { host with notices := host.notices ++ sent }) ∧
      (∀ members, Settings.Usable octets members →
        Settings.validate members = .ok s ∧ sent = []) ∧
      ((¬ ∃ members, Settings.Usable octets members) →
        s = {} ∧ ∃ errors, sent = [.settingsIgnored store.file.text errors]) := by
  rw [start_load_of_ok store hread]
  -- what is accepted can be used and what is ignored cannot, by `Settings.exists_parse_iff`
  rcases hparse : Settings.parse octets with fault | s
  · refine ⟨{}, _, start_accept_of_error store hparse host, fun members husable => ?_,
      fun _ => ⟨rfl, _, rfl⟩⟩
    obtain ⟨s, -, haccepted⟩ := husable.parse_eq
    rw [hparse] at haccepted
    cases haccepted
  · refine ⟨s, [], ?_, fun members husable => ?_, fun hunusable => ?_⟩
    · rw [start_accept_of_ok store hparse, List.append_nil]
    · obtain ⟨accepted, hvalidate, haccepted⟩ := husable.parse_eq
      rw [hparse] at haccepted
      cases haccepted
      exact ⟨hvalidate, rfl⟩
    · exact absurd (Settings.exists_parse_iff.1 ⟨s, hparse⟩) hunusable

/-- Where the system cannot name the path of the directory, it is not asked for the settings file,
and loading fails for that. -/
theorem load_of_unnameable (hdirectory : store.directory.isUnnameable = true) (host : Host β) :
    ∃ f, store.load.start host = (.error f, host) ∧ f.blamesPath = true := by
  have hfile : (DiskCall.read store.file).isUnnameable = true :=
    (isUnnameable_file store).trans hdirectory
  have hblames := (DiskCall.read store.file).blamesPath_pathFailure
  have hread : (Disk.read store.file).start host.disk =
      (.error (DiskCall.read store.file).pathFailure, host.disk) := by
    rw [Disk.read, Disk.call, Action.start_ofFunction, if_pos hfile]
  refine ⟨_, ?_, hblames⟩
  rw [start_load_eq_of_error store hread, Failure.isMissing_of_blamesPath hblames,
    Failure.isSystem_of_blamesPath hblames, if_neg Bool.false_ne_true, if_neg Bool.false_ne_true]

/-- **Loading always gives settings that can be used, and never half of a file.** The system can
name the path of the directory of the settings; nothing can be at any other path. Whatever is to be
seen at the settings file, loading gives settings, does nothing to the host but send notices, and
all notices are warnings; the timeout of the settings is finite, above zero and at most the limit,
and their backend is always one of those there are.

* If there is nothing, the defaults are loaded without a notice.
* If there is an obstacle, the defaults are loaded, and there is one notice that says which.
* If there is a document of an object each of whose fields can be used, its settings are loaded
  without a notice.
* If there is any other content, the defaults are loaded, whatever good fields there are, and there
  is one notice of it. -/
theorem load_usable (hnameable : store.directory.isUnnameable = false) (host : Host β) :
    (∃ sight, host.disk.Shows store.file sight) ∧
      ∀ sight, host.disk.Shows store.file sight → ∃ s sent,
        store.load.start host = (.ok s, { host with notices := host.notices ++ sent }) ∧
        (∀ notice ∈ sent, notice.level = .warning) ∧
        (∃ place, s.timeout = .finite false place ∧ 0 < Binary64.units place ∧
          Binary64.units place ≤ Settings.longestTimeout * Binary64.unitsPerOne) ∧
        (sight = .nothing → s = {} ∧ sent = []) ∧
        (∀ reason, sight = .obstacle reason →
          s = {} ∧ sent = [.settingsUnreadable store.file.text reason]) ∧
        ∀ octets, sight = .content octets →
          (∀ members, Settings.Usable octets members →
            Settings.validate members = .ok s ∧ sent = []) ∧
          ((¬ ∃ members, Settings.Usable octets members) →
            s = {} ∧ ∃ errors, sent = [.settingsIgnored store.file.text errors]) := by
  have hfile : store.file.isUnnameable = false := (isUnnameable_file store).trans hnameable
  refine ⟨Disk.exists_shows _ _, fun sight hshows => ?_⟩
  obtain ⟨result, hread, hsight⟩ := hshows.readAs hfile
  have hdefault := Settings.valid_default.timeout_range
  cases hsight with
  | @nothing f hmissing =>
    refine ⟨{}, [], ?_, nofun, hdefault, fun _ => ⟨rfl, rfl⟩, nofun, nofun⟩
    rw [start_load_eq_of_error store hread, if_pos hmissing, List.append_nil]
  | @obstacle f hmissing hsystem =>
    refine ⟨{}, [.settingsUnreadable store.file.text f.message], ?_, ?_, hdefault, nofun, ?_, nofun⟩
    · rw [start_load_eq_of_error store hread, hmissing, if_neg nofun, if_pos hsystem]
    · exact List.forall_mem_singleton.2 rfl
    · rintro _ ⟨⟩
      exact ⟨rfl, rfl⟩
  | content octets =>
    obtain ⟨s, sent, hload, husable, hunusable⟩ := start_load_of_content hread
    have hvalid : s.Valid := valid_of_load store (congrArg Prod.fst hload)
    refine ⟨s, sent, hload, fun notice hnotice => ?_, hvalid.timeout_range, nofun, nofun, ?_⟩
    · by_cases h : ∃ members, Settings.Usable octets members
      · obtain ⟨members, hmembers⟩ := h
        rw [(husable members hmembers).2] at hnotice
        cases hnotice
      · obtain ⟨-, errors, rfl⟩ := hunusable h
        rw [List.mem_singleton.1 hnotice]
        rfl
    · rintro _ ⟨⟩
      exact ⟨husable, hunusable⟩

/-- The document has a good timeout and an unknown backend, and so the timeout does not count. -/
theorem load_usable_of_unknown_backend :
    let store : SettingsStore := ⟨.ofText "/config"⟩
    let text : Text := "\x7b\"timeout\": 7, \"backend\": \"xerox\"\x7d"
    let octets : Bytes := text.flatMap fun c => (Charset.utf8.encodePoint c).getD []
    let disk := (({} : Disk).put store.directory .directory).put store.file (.file octets false)
    let host : Host Unit := { Host.bare () with disk }
    store.directory.isUnnameable = false ∧
      ∃ errors, store.load.start host =
        (.ok {}, { host with notices := [.settingsIgnored store.file.text errors] }) := by
  intro store text octets disk host
  have hnameable : store.directory.isUnnameable = false := by decide +kernel
  have hfind : disk.find store.file = .ok (some (.file octets false)) := by decide +kernel
  have hunusable : ¬ ∃ members, Settings.Usable octets members := by
    have hnone : (Settings.parse octets).toOption = none := by decide +kernel
    rw [← Settings.exists_parse_iff]
    rintro ⟨s, hparse⟩
    rw [hparse] at hnone
    cases hnone
  obtain ⟨-, hshown⟩ := load_usable hnameable host
  obtain ⟨s, sent, hload, -, -, -, -, hcontent⟩ := hshown _ (.file rfl hfind)
  obtain ⟨rfl, errors, rfl⟩ := (hcontent octets rfl).2 hunusable
  exact ⟨hnameable, errors, hload⟩

end SettingsStore

end Pasteboard
