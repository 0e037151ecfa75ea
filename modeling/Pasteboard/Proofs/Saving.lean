import Mathlib.Data.Prod.Basic
import Pasteboard.Application
import Pasteboard.Proofs.DiskLaws
import Pasteboard.Proofs.Results

/-!
# What saving and resetting do to the disk

Saving goes through states in which the directory has been made, the temporary file is there, and
the temporary file is written. `SettingsStore.writeOnDisk_cases` follows it through all of them: it
ends with the new file in place and nothing else changed, or it fails and is undone. What is not
undone by design are the directories made on the way to the directory of the settings. They matter
where the path of that directory leads through the settings file itself and back: there the file may
become a directory.

`Application.undone_of_failed` is the same for a container of an application, with the failures that
a caller sees.
-/

namespace Pasteboard

variable {β : Type}

/-- At `q` the disk is as before, or a directory on the way along `p` was made there. -/
def Disk.GrownAt (p : Path) (d e : Disk) (q : Path) : Prop :=
  e.node? q = d.node? q ∨ (p.LeadsThrough q ∧ d.node? q = none ∧ e.node? q = some .directory)

namespace SettingsStore

/-- The paths that the temporary file may get. -/
def temporaries (store : SettingsStore) (tokens : List Token) : List Path :=
  tokens.map fun token => store.directory.resolved.child (Settings.temporaryName token)

/-- What is left of a saving that failed: directories on the way, and a temporary file only where
nothing was and if removing it is refused. -/
structure Undone (store : SettingsStore) (tokens : List Token) (d e : Disk) : Prop where
  refusal : e.refusal = d.refusal
  node : ∀ q, d.GrownAt store.directory e q ∨
    (q ∈ store.temporaries tokens ∧ d.node? q = none ∧ d.refusal (.remove q) ≠ none)

theorem Undone.refl (store : SettingsStore) (tokens : List Token) (d : Disk) :
    store.Undone tokens d d := ⟨rfl, fun _ => .inl (.inl rfl)⟩

theorem Undone.of_grown {store : SettingsStore} {tokens : List Token} {d e : Disk}
    (h : Disk.Grown store.directory d e) : store.Undone tokens d e :=
  ⟨h.refusal, fun q => .inl (h.node q)⟩

/-! ### Names -/

theorem temporaryName_ne_back (token : Token) : Settings.temporaryName token ≠ Path.back := by
  intro h
  have hlead : (Settings.temporaryName token)[1]? = some (CodePoint.ofChar 's') := rfl
  rw [h] at hlead
  exact absurd hlead (by decide)

theorem temporaryName_ne_fileName (token : Token) :
    Settings.temporaryName token ≠ Settings.fileName := by
  intro h
  have hlead : (Settings.temporaryName token).head? = some (CodePoint.ofChar '.') := rfl
  rw [h] at hlead
  exact absurd hlead (by decide)

theorem not_any_unnameable_temporaryName (token : Token) :
    (Settings.temporaryName token).any CodePoint.isUnnameable = false := by
  have hstart : (Text.ofString ".settings-").any CodePoint.isUnnameable = false := by decide
  have hend : (Text.ofString ".tmp").any CodePoint.isUnnameable = false := by decide
  have htoken : token.letters.any CodePoint.isUnnameable = false := by
    rw [List.any_eq_false]
    exact fun c hc => Bool.eq_false_iff.1 (token.isPlain c hc).2
  rw [Settings.temporaryName, List.any_append, List.any_append, hstart, htoken, hend]
  rfl

theorem resolved_file (store : SettingsStore) :
    store.file.resolved = store.directory.resolved.child Settings.fileName :=
  Path.resolved_child_of_ne (by decide)

theorem isUnnameable_file (store : SettingsStore) :
    store.file.isUnnameable = store.directory.isUnnameable := by
  have hname : Settings.fileName.any CodePoint.isUnnameable = false := by decide
  rw [file, Settings.fileIn, Path.isUnnameable_child, hname, Bool.or_false]

/-- The settings file is none of the temporary files. -/
theorem file_not_mem_temporaries (store : SettingsStore) (tokens : List Token) :
    store.file.resolved ∉ store.temporaries tokens := by
  intro h
  obtain ⟨token, -, ht⟩ := List.mem_map.1 h
  rw [resolved_file] at ht
  exact temporaryName_ne_fileName token (Path.child_inj ht)

/-- The settings file is left as it was, but for a directory that was made there. -/
theorem Undone.node_file {store : SettingsStore} {tokens : List Token} {d e : Disk}
    (h : store.Undone tokens d e) : d.GrownAt store.directory e store.file.resolved :=
  (h.node _).resolve_right fun ⟨hm, _⟩ => store.file_not_mem_temporaries tokens hm

/-- What has failed takes no directory away. -/
theorem Undone.keepsWay {store : SettingsStore} {tokens : List Token} {d e : Disk}
    (h : store.Undone tokens d e) (p : Path) : Disk.KeepsWay p d e := by
  intro q _ hq
  rcases h.node q with (he | ⟨-, hn, -⟩) | ⟨-, hn, -⟩
  · rw [he, hq]
  · rw [hq] at hn
    cases hn
  · rw [hq] at hn
    cases hn

theorem resolved_of_mem_temporaries {store : SettingsStore} {tokens : List Token} {temporary : Path}
    (h : temporary ∈ store.temporaries tokens) : temporary.resolved = temporary := by
  obtain ⟨token, -, rfl⟩ := List.mem_map.1 h
  rw [Path.resolved_child_of_ne (temporaryName_ne_back token), Path.resolved_resolved]

/-- The path of a temporary file is none only if that of the directory is none. -/
theorem isUnnameable_of_mem_temporaries {store : SettingsStore} {tokens : List Token}
    {temporary : Path} (h : temporary ∈ store.temporaries tokens)
    (hn : temporary.isUnnameable = true) : store.directory.isUnnameable = true := by
  obtain ⟨token, -, rfl⟩ := List.mem_map.1 h
  rw [Path.isUnnameable_child, not_any_unnameable_temporaryName, Bool.or_false] at hn
  exact Path.isUnnameable_of_resolved hn

/-! ### The temporary file -/

/-- `t` is `d` with a temporary file that holds `content`. -/
private structure Staged (temporary : Path) (content : Bytes) (d t : Disk) : Prop where
  refusal : t.refusal = d.refusal
  find : t.find temporary = .ok (some (.file content false))
  node : ∀ q, q ≠ temporary → t.node? q = d.node? q

/-- Putting a file where there is none, or another one, stages it. -/
private theorem find_put_of_find {temporary : Path} {d : Disk} {n : Option Node} (m : Node)
    (hfind : d.find temporary = .ok n) (hn : n ≠ some .directory) :
    (d.put temporary m).find temporary = .ok (some m) ∧
      ∀ q, q ≠ temporary.resolved → (d.put temporary m).node? q = d.node? q := by
  have hnode : d.node? temporary.resolved ≠ some .directory := by
    rw [Disk.node?_of_find hfind]
    exact hn
  have hput := Disk.node?_put d (Disk.names_ne_nil hnode) m
  refine ⟨?_, fun q hq => by rw [hput, if_neg hq]⟩
  rw [Disk.find_of_keepsWay (Disk.keepsWay_put hnode m temporary) hfind, hput, if_pos rfl]

private theorem staged_of_create {temporary : Path} {d : Disk}
    (ht : temporary.resolved = temporary) (hfind : d.find temporary = .ok none) :
    Staged temporary [] d (d.put temporary (.file [] false)) := by
  obtain ⟨h, hnode⟩ := find_put_of_find (.file [] false) hfind nofun
  rw [ht] at hnode
  exact ⟨rfl, h, hnode⟩

private theorem Staged.append {temporary : Path} {old content : Bytes} {d t : Disk}
    (h : Staged temporary old d t) (ht : temporary.resolved = temporary) :
    Staged temporary content d (t.put temporary (.file content false)) := by
  obtain ⟨hfind, hnode⟩ := find_put_of_find (.file content false) h.find nofun
  rw [ht] at hnode
  exact ⟨h.refusal, hfind, fun q hq => (hnode q hq).trans (h.node q hq)⟩

/-- Removing the temporary file goes back to the disk without it, unless removing is refused. -/
private theorem Staged.cleanUp {temporary : Path} {content : Bytes} {d t : Disk}
    (h : Staged temporary content d t) (ht : temporary.resolved = temporary)
    (hn : temporary.isUnnameable = false) (hd : d.node? temporary = none) :
    ∃ result e, (Disk.removeIfPresent temporary).start t = (result, e) ∧
      (∀ f, result = .error f → f.isSystem = true) ∧ e.refusal = d.refusal ∧
      (∀ q, q ≠ temporary → e.node? q = d.node? q) ∧
      (d.refusal (.remove temporary) = none → ∀ q, e.node? q = d.node? q) := by
  have hnode : t.node? temporary.resolved ≠ some .directory := by
    rw [Disk.node?_of_find h.find]
    nofun
  have herase : ∀ q, (t.erase temporary).node? q = d.node? q := by
    intro q
    rw [Disk.node?_erase t (Disk.names_ne_nil hnode), ht]
    split
    · next hq => rw [hq, hd]
    · next hq => exact h.node q hq
  rcases hr : d.refusal (.remove temporary) with _ | reason
  · have honest : t.HonestAt temporary := Disk.honestAt_of_refusal (by rw [h.refusal, hr])
    rcases Disk.removeIfPresent_of_file honest h.find with ⟨f, hf, -, hrefused⟩ | hok
    · exact absurd (h.refusal ▸ hr) (hrefused hn)
    · exact ⟨_, _, hok, nofun, h.refusal, fun q _ => herase q, fun _ => herase⟩
  · rcases Disk.removeIfPresent_cases temporary t with ⟨f, hf, hfrom⟩ | ⟨_, _, -, hok⟩ | hok
    · refine ⟨_, _, hf, fun g hg => ?_, h.refusal, h.node, nofun⟩
      cases hg
      rcases hfrom with hs | ⟨-, hnameable⟩
      · exact hs
      · rw [hn] at hnameable
        cases hnameable
    · exact ⟨_, _, hok, nofun, h.refusal, fun q _ => herase q, nofun⟩
    · exact ⟨_, _, hok, nofun, h.refusal, h.node, nofun⟩

/-- Writing the staged file and moving it into place succeeds, or fails with the file staged. -/
private theorem Staged.replace {store : SettingsStore} {temporary : Path} (content : Bytes)
    {d t : Disk} (h : Staged temporary [] d t) (ht : temporary.resolved = temporary)
    (hd : d.node? temporary = none) (hne : store.file.resolved ≠ temporary) :
    (∃ f t' content', (store.replace temporary content).start t = (.error f, t') ∧
        f.FromCall (temporary.isUnnameable || store.file.isUnnameable) ∧
        Staged temporary content' d t') ∨
      ∃ e, (store.replace temporary content).start t = (.ok (), e) ∧
        e.refusal = d.refusal ∧ store.file.isUnnameable = false ∧
        e.find store.file = .ok (some (.file content false)) ∧
        ∀ q, q ≠ store.file.resolved → e.node? q = d.node? q := by
  rw [SettingsStore.replace, Action.start_bind]
  rcases Disk.append_cases temporary content t with ⟨f, hf, hfrom⟩ | ⟨old, x, hfind, hok⟩
  · refine .inl ⟨f, t, [], by rw [hf], hfrom.mono fun hn => ?_, h⟩
    rw [hn, Bool.true_or]
  · rw [h.find] at hfind
    cases hfind
    rw [hok]
    have hw : Staged temporary content d (t.put temporary (.file content false)) := h.append ht
    rcases Disk.rename_cases temporary store.file (t.put temporary (.file content false)) with
      ⟨f, hf, hfrom⟩ | ⟨node, n, hnameable, hsource, htarget, hn, hok⟩
    · exact .inl ⟨f, _, content, hf, hfrom, hw⟩
    · rw [hw.find] at hsource
      cases hsource
      -- the temporary file is no directory on the way to the settings file
      have hnode : (t.put temporary (.file content false)).node? temporary.resolved ≠
          some .directory := by
        rw [Disk.node?_of_find hw.find]
        nofun
      have herase := Disk.node?_erase (t.put temporary (.file content false))
        (Disk.names_ne_nil hnode)
      have hthere := Disk.find_of_keepsWay (Disk.keepsWay_erase hnode store.file) htarget
      have hfile : ((t.put temporary (.file content false)).erase temporary).node?
          store.file.resolved = n := by
        rw [herase, ht, if_neg hne]
        exact Disk.node?_of_find htarget
      rw [hfile] at hthere
      obtain ⟨hput, hother⟩ := find_put_of_find (.file content false) hthere hn
      refine .inr ⟨_, hok, h.refusal, hnameable, hput, fun q hq => ?_⟩
      rw [hother q hq, herase, ht]
      split
      · next heq => rw [heq, hd]
      · next heq => exact hw.node q heq

/-- The clean-up after a failure undoes what was staged on grown directories. The failure is the one
that was to be cleaned up after, or one of the clean-up. -/
private theorem Staged.undo {store : SettingsStore} {tokens : List Token} {temporary : Path}
    {content : Bytes} {d e t : Disk} (h : Staged temporary content e t)
    (hgrown : Disk.Grown store.directory d e) (hmem : temporary ∈ store.temporaries tokens)
    (hn : temporary.isUnnameable = false) (he : e.node? temporary = none) (f : Failure) :
    ∃ g e', (do Disk.removeIfPresent temporary; throw f : Action Disk Unit).start t =
        (.error g, e') ∧ (g.isSystem = true ∨ g = f) ∧ store.Undone tokens d e' := by
  obtain ⟨result, e', hstart, hsystem, hrefusal, hother, hall⟩ :=
    h.cleanUp (resolved_of_mem_temporaries hmem) hn he
  have hundone : store.Undone tokens d e' := by
    refine ⟨hrefusal.trans hgrown.refusal, fun q => ?_⟩
    have hq := hgrown.node q
    by_cases heq : q = temporary
    · -- the temporary file stays only if removing it is refused
      by_cases hfree : d.refusal (.remove q) = none
      · rw [heq, ← hgrown.refusal] at hfree
        rw [← hall hfree q] at hq
        exact .inl hq
      · exact .inr ⟨heq ▸ hmem, heq ▸ hgrown.node?_eq_none he, hfree⟩
    · rw [← hother q heq] at hq
      exact .inl hq
  rw [Action.start_bind, hstart]
  rcases result with g | _
  · exact ⟨g, e', rfl, .inl (hsystem g rfl), hundone⟩
  · exact ⟨f, e', rfl, .inr rfl, hundone⟩

/-! ### The whole of saving -/

/-- How an attempt to save ends: it is undone, or the settings file holds what was to be written and
nothing else has changed but for directories on the way. -/
def Settled (store : SettingsStore) (tokens : List Token) (written : Except Failure Bytes)
    (d : Disk) (ended : Except Failure Unit × Disk) : Prop :=
  (∃ f e, ended = (.error f, e) ∧ (f.FromCall store.directory.isUnnameable ∨ written = .error f) ∧
      store.Undone tokens d e) ∨
    ∃ content e, written = .ok content ∧ ended = (.ok (), e) ∧
      e.refusal = d.refusal ∧ store.file.isUnnameable = false ∧
      e.find store.file = .ok (some (.file content false)) ∧
      ∀ q, q ≠ store.file.resolved → d.GrownAt store.directory e q

/-- With the temporary file staged, using it up settles the attempt. -/
private theorem Staged.settled {store : SettingsStore} {tokens : List Token} {temporary : Path}
    {d e t : Disk} (h : Staged temporary [] e t) (hgrown : Disk.Grown store.directory d e)
    (hmem : temporary ∈ store.temporaries tokens) (hn : temporary.isUnnameable = false)
    (he : e.node? temporary = none) (written : Except Failure Bytes) :
    store.Settled tokens written d ((cleaningUp temporary do
      store.replace temporary (← Action.ofResult written)).start t) := by
  rw [cleaningUp, Action.start_tryCatch, Action.start_bind, Action.start_ofResult]
  rcases written with f | content
  · -- there is nothing to write, which is found out with the temporary file in place
    obtain ⟨g, e', hg, hwhy, hundone⟩ := h.undo hgrown hmem hn he f
    exact .inl ⟨g, e', hg, hwhy.imp .inl fun hf => by rw [hf], hundone⟩
  · dsimp only
    have hne : store.file.resolved ≠ temporary := by
      rintro rfl
      exact file_not_mem_temporaries store tokens hmem
    rcases h.replace content (resolved_of_mem_temporaries hmem) he hne with
      ⟨f, t', content', hf, hfrom, hs⟩ | ⟨e', hok, hrefusal, hfile, hthere, hother⟩
    · rw [hf]
      rw [hn, Bool.false_or, isUnnameable_file] at hfrom
      obtain ⟨g, e', hg, hwhy, hundone⟩ := hs.undo hgrown hmem hn he f
      refine .inl ⟨g, e', hg, .inl ?_, hundone⟩
      rcases hwhy with hs | rfl
      · exact .inl hs
      · exact hfrom
    · refine .inr ⟨content, e', rfl, by rw [hok], hrefusal.trans hgrown.refusal, hfile, hthere,
        fun q hq => ?_⟩
      have hat := hgrown.node q
      rwa [← hother q hq] at hat

/-- **Saving is done or undone.** Directories are made, the temporary file is created and then used
up; each of these steps may be the one that fails. -/
theorem writeOnDisk_cases (store : SettingsStore) (tokens : List Token)
    (written : Except Failure Bytes) (d : Disk) :
    store.Settled tokens written d ((store.writeOnDisk tokens written).start d) := by
  rw [writeOnDisk, Action.start_bind]
  obtain ⟨e, hgrown, ⟨f, hf, hfrom⟩ | hmade⟩ := Disk.makeDirectories_cases store.directory d
  · exact .inl ⟨f, e, by rw [hf], .inl hfrom, .of_grown hgrown⟩
  rw [hmade]
  dsimp only
  rw [Action.start_bind]
  rcases Disk.createUnder_cases store.directory.resolved (tokens.map Settings.temporaryName) e with
    ⟨f, hf, hfrom⟩ | ⟨name, hname, hnameable, hfind, hcreated⟩
  · refine .inl ⟨f, e, by rw [hf], .inl (hfrom.mono fun hn => ?_), .of_grown hgrown⟩
    obtain ⟨name, hname, hn⟩ := List.any_eq_true.1 hn
    obtain ⟨token, htoken, rfl⟩ := List.mem_map.1 hname
    exact isUnnameable_of_mem_temporaries (List.mem_map.2 ⟨token, htoken, rfl⟩) hn
  · rw [hcreated]
    dsimp only
    obtain ⟨token, htoken, rfl⟩ := List.mem_map.1 hname
    have hmem : store.directory.resolved.child (Settings.temporaryName token) ∈
        store.temporaries tokens := List.mem_map.2 ⟨token, htoken, rfl⟩
    have ht := resolved_of_mem_temporaries hmem
    have hnone := Disk.node?_of_find hfind
    rw [ht] at hnone
    exact (staged_of_create ht hfind).settled hgrown hmem hnameable hnone written

theorem start_save (store : SettingsStore) (record : SettingsRecord) (host : Host β) :
    (store.save record).start host =
      match (store.saveOnDisk host.temporaryTokens record).start host.disk with
      | (.ok (), disk) => (.ok (), { host with
          disk, notices := host.notices ++ [.settingsSaved store.file.text] })
      | (.error f, disk) => (.error f, { host with disk }) := by
  simp only [save, Action.start_bind, Action.start_ask, Host.onDisk, Action.start_within]
  rcases (store.saveOnDisk host.temporaryTokens record).start host.disk with ⟨_ | _, _⟩ <;> rfl

theorem start_reset (store : SettingsStore) (host : Host β) :
    (store.reset : Action (Host β) Settings).start host =
      match (Disk.removeIfPresent store.file).start host.disk with
      | (.ok (), disk) => (.ok {}, { host with disk })
      | (.error f, disk) => (.error f, { host with disk }) := by
  simp only [reset, Action.start_bind, Host.onDisk, Action.start_within]
  rcases (Disk.removeIfPresent store.file).start host.disk with ⟨_ | _, _⟩ <;> rfl

end SettingsStore

/-! ### What cannot be written -/

/-- The failure is that a value has no form in a document. -/
inductive Failure.OfWriting : Failure → Prop
  | unwritable (fault : EncodeFault) : OfWriting (.unwritable fault)
  | unserializable (text : Text) : OfWriting (.unserializable text)

namespace Json

theorem ofWriting_of_writeText {t : Text} {f : Failure} (h : writeText t = .error f) :
    f.OfWriting := by
  obtain ⟨fault, -, rfl⟩ := mapError_eq_error_iff.1 h
  exact .unwritable fault

mutual

/-- A value that cannot be written holds text or octets that cannot, or what no document has; by
recursion on the value. -/
theorem ofWriting_of_writeValue (depth : Nat) :
    ∀ (v : Value) {f : Failure}, writeValue depth v = .error f → f.OfWriting
  | .null, _, h | .bool _, _, h | .int _, _, h | .float _, _, h => by cases h
  | .text _, _, h => ofWriting_of_writeText h
  | .bytes b, _, h => by
    rw [writeValue] at h
    split at h
    · exact ofWriting_of_writeText h
    · cases h
      exact .unserializable _
  | .list vs, _, h => by
    obtain hitems | ⟨lines, -, hlines⟩ := bind_eq_error_iff.1 h
    · exact ofWriting_of_writeItems (depth + 1) vs hitems
    · cases hlines
  | .object fs, _, h => by
    obtain hfields | ⟨lines, -, hlines⟩ := bind_eq_error_iff.1 h
    · exact ofWriting_of_writeFields (depth + 1) fs hfields
    · cases hlines
  | .foreign _ _, _, h => by
    cases h
    exact .unserializable _

theorem ofWriting_of_writeItems (depth : Nat) :
    ∀ (vs : List Value) {f : Failure}, writeItems depth vs = .error f → f.OfWriting
  | [], _, h => by cases h
  | v :: vs, _, h => by
    obtain hv | ⟨line, -, hrest⟩ := bind_eq_error_iff.1 h
    · exact ofWriting_of_writeValue depth v hv
    · obtain hvs | ⟨lines, -, hlines⟩ := bind_eq_error_iff.1 hrest
      · exact ofWriting_of_writeItems depth vs hvs
      · cases hlines

theorem ofWriting_of_writeFields (depth : Nat) :
    ∀ (fs : Fields) {f : Failure}, writeFields depth fs = .error f → f.OfWriting
  | [], _, h => by cases h
  | (n, v) :: fs, _, h => by
    obtain hn | ⟨name, -, hvalue⟩ := bind_eq_error_iff.1 h
    · exact ofWriting_of_writeText hn
    · obtain hv | ⟨line, -, hrest⟩ := bind_eq_error_iff.1 hvalue
      · exact ofWriting_of_writeValue depth v hv
      · obtain hfs | ⟨lines, -, hlines⟩ := bind_eq_error_iff.1 hrest
        · exact ofWriting_of_writeFields depth fs hfs
        · cases hlines

end

end Json

/-- A record without a document has a field that cannot be written. -/
theorem SettingsRecord.ofWriting_of_content {r : SettingsRecord} {f : Failure}
    (h : r.content = .error f) : f.OfWriting := by
  obtain hbackend | ⟨_, -, hrest⟩ := bind_eq_error_iff.1 (map_eq_error_iff.1 h)
  · rcases hfield : r.backend with b | v
    · rw [hfield] at hbackend
      cases hbackend
    · rw [hfield] at hbackend
      exact Json.ofWriting_of_writeValue 1 v hbackend
  · obtain htimeout | ⟨_, -, hrest⟩ := bind_eq_error_iff.1 hrest
    · rw [writeTimeout] at htimeout
      split at htimeout
      · cases htimeout
      · exact Json.ofWriting_of_writeValue 1 _ htimeout
    · obtain hstrip | ⟨_, -, hdone⟩ := bind_eq_error_iff.1 hrest
      · exact Json.ofWriting_of_writeValue 1 _ hstrip
      · cases hdone

/-! ### Changes of settings -/

/-- Field values that are to be validated, not a record. -/
def GivenSettings.IsMapping (given : GivenSettings) : Prop := ∃ fields, given = .mapping fields

/-- What is asked of a container about its settings. -/
inductive Change
  | save (given : GivenSettings)
  | reset

namespace Change

/-- The record that a change is to put in force, if there is any. -/
def meant : Change → Option SettingsRecord
  | save given => given.accepted.toOption
  | reset => some ({} : Settings)

/-- The change takes no record as it is. -/
def Validates : Change → Prop
  | save given => given.IsMapping
  | reset => True

end Change

/-- The container that a change leads to. -/
def Container.change (c : Container β) : Change → Action (Host β) (Container β)
  | .save given => c.saveSettings given
  | .reset => c.resetSettings

/-- Makes a change in the container with a number. -/
def Application.change (number : Nat) : Change → Action (Application β) SettingsRecord
  | .save given => saveSettings number given
  | .reset => resetSettings number

/-- The settings that are accepted are those of a mapping that was validated, or the record that was
handed over; what is refused is a mapping. -/
theorem GivenSettings.accepted_cases (given : GivenSettings) :
    (∃ text faults, given.accepted = .error (.configuration text faults)) ∨
      ∃ r, given.accepted = .ok r ∧ (given = .record r ∨ ∃ s : Settings, r = s) := by
  cases given with
  | record r => exact .inr ⟨r, rfl, .inl rfl⟩
  | mapping fields =>
    rw [accepted]
    rcases Settings.validate fields with faults | settings
    · exact .inl ⟨_, _, rfl⟩
    · exact .inr ⟨settings, rfl, .inr ⟨settings, rfl⟩⟩

/-- How the failure of a change looks to a caller: it is one of the settings, or a path is to blame
that is none, or a record was handed over that cannot be written. -/
inductive Change.FailsWith (what : Change) (dir : Path) : Failure → Prop
  | configuration (text : Text) (faults : List Fault) :
    FailsWith what dir (.configuration text faults)
  | path {f : Failure} (blames : f.blamesPath = true) (unnameable : dir.isUnnameable = true) :
    FailsWith what dir f
  | writing {f : Failure} {r : SettingsRecord} (record : what = .save (.record r))
      (refused : r.content = .error f) (kind : f.OfWriting) : FailsWith what dir f

/-- A failure that a call on the disk had, as a caller of the container sees it. -/
theorem Change.FailsWith.of_fromCall (what : Change) {dir : Path} {f : Failure} (text : Text)
    (h : f.FromCall dir.isUnnameable) :
    what.FailsWith dir (Container.configurationFailure text f) := by
  rcases h with hs | ⟨hblames, hn⟩
  · rw [Container.configurationFailure, hs, if_pos rfl]
    exact .configuration _ _
  · rw [Container.configurationFailure, Failure.isSystem_of_blamesPath hblames,
      if_neg Bool.false_ne_true]
    exact .path hblames hn

/-- A change never fails as announcing does. -/
theorem Change.FailsWith.ne_badAttribute {what : Change} {dir : Path} {f : Failure}
    (h : what.FailsWith dir f) (text : Text) : f ≠ .badAttribute text := by
  rintro rfl
  cases h with
  | path blames => cases blames
  | writing _ _ kind => cases kind

/-- The host after the settings of a container have been kept. -/
def Container.kept (c : Container β) (host : Host β) (disk : Disk) : Host β :=
  { host with disk, notices := host.notices ++ [.settingsSaved c.store.file.text] }

/-- How keeping settings ends: it has failed and is undone, or the settings file is the document of
what was given and nothing else has changed but for directories on the way. -/
theorem Container.saveSettings_cases (c : Container β) (given : GivenSettings) (host : Host β) :
    (∃ f disk, (c.saveSettings given).start host = (.error f, { host with disk }) ∧
        (Change.save given).FailsWith c.store.directory f ∧
        c.store.Undone host.temporaryTokens host.disk disk) ∨
      ∃ r content disk, given.accepted = .ok r ∧ r.content = .ok content ∧
        (c.saveSettings given).start host =
          (.ok (c.withSettings r (c.kept host disk)), c.kept host disk) ∧
        disk.refusal = host.disk.refusal ∧ c.store.file.isUnnameable = false ∧
        disk.find c.store.file = .ok (some (.file content false)) ∧
        ∀ q, q ≠ c.store.file.resolved → host.disk.GrownAt c.store.directory disk q := by
  simp only [saveSettings, Action.start_bind, Action.start_ofResult]
  rcases given.accepted_cases with ⟨text, faults, hg⟩ | ⟨r, hg, hfrom⟩
  · rw [hg]
    exact .inl ⟨_, host.disk, rfl, .configuration _ _, .refl _ _ _⟩
  · rw [hg]
    dsimp only
    rw [Action.start_mapFailure, SettingsStore.start_save, SettingsStore.saveOnDisk]
    rcases c.store.writeOnDisk_cases host.temporaryTokens r.content host.disk with
      ⟨f, disk, hf, hwhy, hundone⟩ | ⟨content, disk, hw, hok, hdisk⟩
    · rw [hf]
      refine .inl ⟨_, disk, rfl, ?_, hundone⟩
      rcases hwhy with hcall | hw
      · exact .of_fromCall _ _ hcall
      · -- what cannot be written is no failure of the system, so it goes through as it is
        have hkind := SettingsRecord.ofWriting_of_content hw
        have hplain : configurationFailure "Cannot save clipboard settings: " f = f := by
          cases hkind <;> rfl
        rw [hplain]
        rcases hfrom with rfl | ⟨s, rfl⟩
        · exact .writing rfl hw hkind
        · cases hw
    · rw [hok]
      exact .inr ⟨r, content, disk, rfl, hw, rfl, hdisk⟩

/-- How forgetting settings ends: it has failed and nothing has changed, or the settings file is
erased, or it was not there. -/
theorem Container.resetSettings_cases (c : Container β) (host : Host β) :
    (∃ f, c.resetSettings.start host = (.error f, host) ∧
        Change.reset.FailsWith c.store.directory f) ∨
      ∃ disk, c.resetSettings.start host =
          (.ok (c.withSettings ({} : Settings) { host with disk }), { host with disk }) ∧
        (Disk.removeIfPresent c.store.file).start host.disk = (.ok (), disk) := by
  simp only [resetSettings, Action.start_bind, Action.start_mapFailure, SettingsStore.start_reset]
  rcases Disk.removeIfPresent_cases c.store.file host.disk with
    ⟨f, hf, hfrom⟩ | ⟨_, _, -, hok⟩ | hok
  · rw [hf]
    rw [SettingsStore.isUnnameable_file] at hfrom
    exact .inl ⟨_, rfl, .of_fromCall _ _ hfrom⟩
  · rw [hok]
    exact .inr ⟨_, rfl, rfl⟩
  · rw [hok]
    exact .inr ⟨_, rfl, rfl⟩

/-- A change either fails and is undone, or it leads to a container that has taken up the record
that is meant. -/
theorem Container.change_cases (c : Container β) (what : Change) (host : Host β) :
    (∃ f disk, (c.change what).start host = (.error f, { host with disk }) ∧
        what.FailsWith c.store.directory f ∧
        c.store.Undone host.temporaryTokens host.disk disk) ∨
      ∃ r disk notices, what.meant = some r ∧ (c.change what).start host =
        (.ok (c.withSettings r { host with disk, notices }), { host with disk, notices }) := by
  cases what with
  | save given =>
    rcases c.saveSettings_cases given host with h | ⟨r, _, disk, haccepted, -, hok, -⟩
    · exact .inl h
    · exact .inr ⟨r, disk, _, by rw [Change.meant, haccepted]; rfl, hok⟩
  | reset =>
    rcases c.resetSettings_cases host with ⟨f, hf, hkind⟩ | ⟨disk, hok, -⟩
    · exact .inl ⟨f, host.disk, hf, hkind, .refl _ _ _⟩
    · exact .inr ⟨_, disk, host.notices, rfl, hok⟩

/-- The container with a number is one of the containers. -/
theorem Application.container_cases (number : Nat) (app : Application β) :
    (container number).start app = (.error (.noEntry (Text.ofNat number)), app) ∨
      ∃ c, app.containers[number]? = some c ∧ (container number).start app = (.ok c, app) := by
  rw [container, Action.start_bind, Action.start_ask]
  dsimp only
  rcases app.containers[number]? with _ | c
  · exact .inl rfl
  · exact .inr ⟨c, rfl, rfl⟩

/-- The host after a record was announced, which is not done for one whose backend has no name. -/
def Host.told (host : Host β) (r : SettingsRecord) : Host β :=
  ((Container.announce r).start host).2

/-- Announcing a record sends one notice, or it fails and sends none. -/
theorem Container.start_announce (r : SettingsRecord) (host : Host β) :
    (announce r).start host = (r.named.map fun _ => (), { host with notices :=
      host.notices ++ (r.named.toOption.map (.containerReady · r.timeout)).toList }) := by
  rw [announce, Action.start_bind, Action.start_ofResult]
  rcases r.named with f | b
  · exact congrArg (Prod.mk _) (by rw [Except.toOption, Option.map_none, Option.toList_none,
      List.append_nil])
  · rfl

/-- Announcing does nothing to a host but send notices. -/
theorem Host.told_eq (host : Host β) (r : SettingsRecord) : host.told r = { host with
    notices := host.notices ++ (r.named.toOption.map (.containerReady · r.timeout)).toList } :=
  congrArg Prod.snd (Container.start_announce r host)

/-- What has taken up a record is put in its place, and the record is announced. -/
theorem Application.start_takeUp (number : Nat) (c : Container β) (app : Application β) :
    (takeUp number c).start app = (c.settings.named.map fun _ => c.settings, { app with
      host := app.host.told c.settings, containers := app.containers.set number c }) := by
  simp only [takeUp, replace, onHost, Action.start_bind, Action.start_update, Action.start_within,
    Host.told, Container.start_announce]
  rcases c.settings.named with f | b <;> rfl

/-- A change in an application is the change of its container, which is put in its place if the
change succeeds. -/
theorem Application.start_change {app : Application β} {number : Nat} {c : Container β}
    (hc : app.containers[number]? = some c) (what : Change) :
    (Application.change number what).start app =
      match (c.change what).start app.host with
      | (.ok c', host) => (c'.settings.named.map fun _ => c'.settings, { app with
          host := host.told c'.settings, containers := app.containers.set number c' })
      | (.error f, host) => (.error f, { app with host }) := by
  cases what with
  | save given =>
    simp only [Application.change, saveSettings, container, Action.start_bind, Action.start_ask, hc,
      Action.start_pure, onHost, Action.start_within, Container.change]
    rcases (c.saveSettings given).start app.host with ⟨_ | c', host⟩
    · rfl
    · exact start_takeUp number c' { app with host }
  | reset =>
    simp only [Application.change, resetSettings, container, Action.start_bind, Action.start_ask,
      hc, Action.start_pure, onHost, Action.start_within, Container.change]
    rcases c.resetSettings.start app.host with ⟨_ | c', host⟩
    · rfl
    · exact start_takeUp number c' { app with host }

/-- Where there is no container with a number, nothing is changed in it. -/
theorem Application.start_change_of_missing {app : Application β} {number : Nat} {f : Failure}
    (hmissing : (container number).start app = (.error f, app)) (what : Change) :
    (Application.change number what).start app = (.error f, app) := by
  cases what with
  | save given => rw [change, saveSettings, Action.start_bind, hmissing]
  | reset => rw [change, resetSettings, Action.start_bind, hmissing]

/-- A record is announced unless its backend has no name, not even as an attribute. -/
theorem SettingsRecord.named_cases (r : SettingsRecord) :
    (∃ b, r.backend = .known b ∧ r.named = .ok b) ∨
      ∃ v text, r.backend = .other v ∧ r.named = .error (.badAttribute text) := by
  rw [named]
  rcases r.backend with b | v
  · exact .inl ⟨b, rfl, rfl⟩
  · exact .inr ⟨v, _, rfl, rfl⟩

/-- A change in an application fails and leaves the containers as they are, or its container takes
up the record that is meant. Then it ends well if the backend of the record has a name, and the
other failures are of another kind than this one. -/
theorem Application.change_cases (number : Nat) (what : Change) (app : Application β) :
    (∃ f host, (change number what).start app = (.error f, { app with host }) ∧
        ∀ text, f ≠ .badAttribute text) ∨
      ∃ c r host, app.containers[number]? = some c ∧ what.meant = some r ∧
        (change number what).start app = (r.named.map fun _ => r, { app with
          host := host.told r
          containers := app.containers.set number (c.withSettings r host) }) := by
  rcases container_cases number app with hmissing | ⟨c, hc, -⟩
  · exact .inl
      ⟨.noEntry (Text.ofNat number), app.host, start_change_of_missing hmissing what, nofun⟩
  · rw [start_change hc]
    rcases c.change_cases what app.host with
      ⟨f, disk, hf, hkind, -⟩ | ⟨r, disk, notices, hmeant, hok⟩
    · rw [hf]
      exact .inl ⟨f, _, rfl, hkind.ne_badAttribute⟩
    · rw [hok]
      exact .inr ⟨c, r, _, hc, hmeant, rfl⟩

end Pasteboard
