import Pasteboard.Proofs.Loading
import Pasteboard.Proofs.SavingSteps
import Pasteboard.Proofs.Turns

/-!
# Readers never see half a document

Any number of errands on one directory of settings go on at the same time: savings with all their
stages, resets and loads. Between two turns the system may change its mind about which calls it
refuses, and an errand that gets no more turns has stopped halfway.

What a turn does is said once, in `Activity.Stepped`: it leaves the files of the others alone, and
of the settings file it leaves one of four things behind. The invariant (`SettingsStore.Sound`) ties
every temporary file to the one saving that made it and to what that saving has written so far. So
what a saving moves into place is its whole document (`SettingsStore.whole_documents`).

As elsewhere, the path of the directory may lead through the settings file itself and back, and then
making the directory makes a directory of the settings file.
-/

namespace Pasteboard

/-- Something to be done with the settings that are kept. -/
inductive Errand
  | save (settings : Settings) (tokens : List Token)
  | reset
  | load

/-- An errand that has been begun; what resetting and loading end with is there after one turn. -/
inductive Activity
  | saving (settings : Settings) (stage : SettingsStore.Stage)
  | resetting (ended : Option (Except Failure Settings))
  | loading (ended : Option (Except Failure Settings))

/-- A turn of an errand. -/
structure Slice where
  who : Nat
  /-- The calls that the system refuses during the turn. -/
  refusal : DiskCall → Option SystemError := fun _ => none
  /-- How much of a document is written at most. -/
  portion : Nat := 1

/-- The disk with another choice of what is refused. -/
def Disk.refusing (d : Disk) (refusal : DiskCall → Option SystemError) : Disk := { d with refusal }

@[simp] theorem Disk.node?_refusing (d : Disk) (refusal : DiskCall → Option SystemError)
    (p : Path) : (d.refusing refusal).node? p = d.node? p := rfl

/-- An action on a host with the disk. -/
def Disk.hosting (a : Action (Host Unit) Settings) (d : Disk) : Except Failure Settings × Disk :=
  ((a.start { Host.bare () with disk := d }).1, (a.start { Host.bare () with disk := d }).2.disk)

/-- An errand of which nothing has been done. -/
def Errand.begin : Errand → Activity
  | save settings tokens => .saving settings (.directory tokens)
  | reset => .resetting none
  | load => .loading none

namespace Activity

/-- Does the next step. -/
def advance (store : SettingsStore) (portion : Nat) : Activity → Disk → Activity × Disk
  | saving s stage, d =>
    (saving s (stage.advance store s.renderBytes portion d).1,
      (stage.advance store s.renderBytes portion d).2)
  | resetting none, d =>
    (resetting (some (d.hosting store.reset).1), (d.hosting store.reset).2)
  | loading none, d => (loading (some (d.hosting store.load).1), (d.hosting store.load).2)
  | ended, d => (ended, d)

end Activity

/-- The errands on a directory of settings take turns. -/
def SettingsStore.turns (store : SettingsStore) : Turns Slice Disk Activity where
  who := Slice.who
  advance turn a d := a.advance store turn.portion (d.refusing turn.refusal)

/-! ### Temporary files -/

namespace SettingsStore

/-- The path is one that a temporary file may get. -/
def IsTemporary (store : SettingsStore) (p : Path) : Prop :=
  ∃ token, p = store.directory.resolved.child (Settings.temporaryName token)

theorem names_resolved_file (store : SettingsStore) : store.file.resolved.names ≠ [] := by
  rw [resolved_file]
  simp [Path.child]

variable {store : SettingsStore} {p : Path}

theorem IsTemporary.mem_temporaries (h : store.IsTemporary p) :
    ∃ tokens, p ∈ store.temporaries tokens := by
  obtain ⟨token, rfl⟩ := h
  exact ⟨[token], List.mem_singleton.2 rfl⟩

theorem IsTemporary.resolved (h : store.IsTemporary p) : p.resolved = p := by
  obtain ⟨tokens, hmem⟩ := h.mem_temporaries
  exact resolved_of_mem_temporaries hmem

theorem IsTemporary.ne_file (h : store.IsTemporary p) : store.file.resolved ≠ p := by
  obtain ⟨tokens, hmem⟩ := h.mem_temporaries
  rintro rfl
  exact store.file_not_mem_temporaries tokens hmem

theorem IsTemporary.names_ne_nil (h : store.IsTemporary p) : p.resolved.names ≠ [] := by
  rw [h.resolved]
  obtain ⟨token, rfl⟩ := h
  simp [Path.child]

theorem IsTemporary.node?_put (h : store.IsTemporary p) (d : Disk) (n : Node) (q : Path) :
    (d.put p n).node? q = if q = p then some n else d.node? q := by
  rw [Disk.node?_put d h.names_ne_nil, h.resolved]

theorem IsTemporary.node?_erase (h : store.IsTemporary p) (d : Disk) (q : Path) :
    (d.erase p).node? q = if q = p then none else d.node? q := by
  rw [Disk.node?_erase d h.names_ne_nil, h.resolved]

theorem IsTemporary.node?_of_find (h : store.IsTemporary p) {d : Disk} {n : Option Node}
    (hfind : d.find p = .ok n) : d.node? p = n := by
  rw [← Disk.node?_of_find hfind, h.resolved]

/-- The temporary file that there is at a stage. -/
def Stage.temporary? : Stage → Option Path
  | writing temporary _ => some temporary
  | moving temporary => some temporary
  | cleaning temporary _ => some temporary
  | failed left _ => left
  | _ => none

/-- What the temporary file holds while it is written: all but the rest. -/
def Stage.Holds (content : Bytes) : Stage → Bytes → Prop
  | writing _ rest, held => held ++ rest = content
  | moving _, held => held = content
  | _, _ => True

end SettingsStore

namespace Activity

open SettingsStore (Stage)

/-- The settings that an activity is to save. -/
def settings? : Activity → Option Settings
  | saving s _ => some s
  | _ => none

/-- The temporary file that belongs to an activity. -/
def temporary? : Activity → Option Path
  | saving _ stage => stage.temporary?
  | _ => none

/-- The temporary file of the activity is there and holds what has been written. -/
def Owns (store : SettingsStore) (d : Disk) : Activity → Prop
  | saving s stage => ∀ p, stage.temporary? = some p → store.IsTemporary p ∧
      ∃ held, d.node? p = some (.file held false) ∧ stage.Holds s.renderBytes held
  | _ => True

/-- A file is at the temporary path of the activity. -/
theorem Owns.node? {store : SettingsStore} {d : Disk} {a : Activity} {p : Path}
    (h : a.Owns store d) (hp : a.temporary? = some p) :
    store.IsTemporary p ∧ ∃ held, d.node? p = some (.file held false) := by
  cases a with
  | saving s stage =>
    obtain ⟨hplace, held, hnode, -⟩ := h p hp
    exact ⟨hplace, held, hnode⟩
  | resetting ended => cases hp
  | loading ended => cases hp

/-- The activity keeps its file if nothing happens to that. -/
theorem Owns.congr {store : SettingsStore} {d e : Disk} {a : Activity} (h : a.Owns store d)
    (hnode : ∀ p, a.temporary? = some p → e.node? p = d.node? p) : a.Owns store e := by
  cases a with
  | saving s stage =>
    intro p hp
    rw [hnode p hp]
    exact h p hp
  | resetting ended => trivial
  | loading ended => trivial

/-! ### One turn -/

/-- What loading may end with, given what is at the place of the settings file. -/
def LoadedFrom (store : SettingsStore) (node : Option Node) (r : Except Failure Settings) : Prop :=
  r = .ok {} ∨
    (∃ content x s, node = some (.file content x) ∧ Settings.parse content = .ok s ∧ r = .ok s) ∨
    (∃ f, r = .error f ∧ f.blamesPath = true ∧ store.directory.isUnnameable = true)

/-- A turn takes the activity `a` on the disk `d` to `b` on `e`. -/
structure Stepped (store : SettingsStore) (a : Activity) (d : Disk) (b : Activity) (e : Disk) :
    Prop where
  /-- What is there stays, but for the settings file and the temporary file of the activity. -/
  others : ∀ q, q ≠ store.file.resolved → a.temporary? ≠ some q → d.node? q ≠ none →
    e.node? q = d.node? q
  /-- The settings file stays, or it is gone, or a directory, or what has been saved. -/
  file : e.node? store.file.resolved = d.node? store.file.resolved ∨
    e.node? store.file.resolved = none ∨
    (store.directory.LeadsThrough store.file.resolved ∧
      e.node? store.file.resolved = some .directory) ∨
    ∃ s, b = saving s .moved ∧ e.node? store.file.resolved = some (.file s.renderBytes false)
  owns : b.Owns store e
  /-- A temporary file is made only where nothing is. -/
  fresh : ∀ p, b.temporary? = some p → a.temporary? = some p ∨ d.node? p = none
  saving : ∀ s stage, b = saving s stage → ∃ stage, a = saving s stage
  moved : ∀ s, a = .saving s .moved → b = .saving s .moved
  loaded : ∀ r, b = loading (some r) →
    a = loading (some r) ∨ LoadedFrom store (d.node? store.file.resolved) r

variable {store : SettingsStore} {s : Settings} {stage stage' : Stage} {d e : Disk}

/-- A saving that has no temporary file owns none. -/
private theorem owns_of_none (h : stage.temporary? = none) :
    (Activity.saving s stage).Owns store d := by
  intro p hp
  rw [h] at hp
  cases hp

/-- An activity that has ended does nothing. -/
private theorem Stepped.refl {a : Activity} (howns : a.Owns store d) : Stepped store a d a d where
  others _ _ _ _ := rfl
  file := .inl rfl
  owns := howns
  fresh _ hp := .inl hp
  saving _ stage h := ⟨stage, h⟩
  moved _ h := h
  loaded _ h := .inl h

/-- What has to be shown of a step of a saving. -/
private theorem Stepped.of_stage
    (others : ∀ q, q ≠ store.file.resolved → stage.temporary? ≠ some q → d.node? q ≠ none →
      e.node? q = d.node? q)
    (file : e.node? store.file.resolved = d.node? store.file.resolved ∨
      (store.directory.LeadsThrough store.file.resolved ∧
        e.node? store.file.resolved = some .directory) ∨
      (stage' = .moved ∧ e.node? store.file.resolved = some (.file s.renderBytes false)))
    (owns : (Activity.saving s stage').Owns store e)
    (fresh : ∀ p, stage'.temporary? = some p → stage.temporary? = some p ∨ d.node? p = none)
    (moved : stage ≠ .moved) :
    Stepped store (.saving s stage) d (.saving s stage') e where
  others := others
  file := by
    rcases file with hsame | hdirectory | ⟨rfl, hmoved⟩
    · exact .inl hsame
    · exact .inr (.inr (.inl hdirectory))
    · exact .inr (.inr (.inr ⟨s, rfl, hmoved⟩))
  owns := owns
  fresh := fresh
  saving := by
    rintro _ _ ⟨⟩
    exact ⟨stage, rfl⟩
  moved := by
    rintro _ ⟨⟩
    exact absurd rfl moved
  loaded := nofun

/-- A step of a saving that does nothing to the disk. -/
private theorem Stepped.of_stage_of_same
    (owns : (Activity.saving s stage').Owns store d)
    (fresh : ∀ p, stage'.temporary? = some p → stage.temporary? = some p)
    (moved : stage ≠ .moved) :
    Stepped store (.saving s stage) d (.saving s stage') d :=
  .of_stage (fun _ _ _ _ => rfl) (.inl rfl) owns (fun p hp => .inl (fresh p hp)) moved

/-- A failure on the way leaves the temporary file to be removed. -/
private theorem Stepped.of_failure {temporary : Path} {f : Failure}
    (howns : (Activity.saving s stage).Owns store d) (ht : stage.temporary? = some temporary)
    (hmoved : stage ≠ .moved) :
    Stepped store (.saving s stage) d (.saving s (.cleaning temporary f)) d := by
  refine .of_stage_of_same (fun p hp => ?_) (fun p hp => ?_) hmoved
  · cases hp
    obtain ⟨hplace, held, hnode, -⟩ := howns _ ht
    exact ⟨hplace, held, hnode, trivial⟩
  · cases hp
    exact ht

/-- Making the directory adds directories on the way, and nothing else. -/
private theorem stepped_directory (portion : Nat) (tokens : List Token) :
    Stepped store (.saving s (.directory tokens)) d
      (.saving s (Stage.advance store s.renderBytes portion (.directory tokens) d).1)
      (Stage.advance store s.renderBytes portion (.directory tokens) d).2 := by
  rw [Stage.advance]
  obtain ⟨e, hgrown, ⟨f, h, -⟩ | h⟩ := Disk.makeDirectories_cases store.directory d <;>
  · rw [h]
    refine .of_stage (fun q _ _ hq => ?_) ?_ (owns_of_none rfl) (by rintro _ ⟨⟩) (by rintro ⟨⟩)
    · rcases hgrown.node q with hsame | ⟨-, hnone, -⟩
      · exact hsame
      · exact absurd hnone hq
    · rcases hgrown.node store.file.resolved with hsame | ⟨hleads, -, hmade⟩
      · exact .inl hsame
      · exact .inr (.inl ⟨hleads, hmade⟩)

/-- A temporary file is created where nothing is, or nothing happens. -/
private theorem stepped_creating (portion : Nat) (token : Token) (rest : List Token) :
    Stepped store (.saving s (.creating (token :: rest))) d
      (.saving s (Stage.advance store s.renderBytes portion (.creating (token :: rest)) d).1)
      (Stage.advance store s.renderBytes portion (.creating (token :: rest)) d).2 := by
  rw [Stage.advance]
  generalize htemporary :
    store.directory.resolved.child (Settings.temporaryName token) = temporary
  have hplace : store.IsTemporary temporary := ⟨token, htemporary.symm⟩
  rcases Disk.create_cases temporary d with ⟨f, h, -⟩ | ⟨-, hfind, h⟩
  · -- the name is taken or the call fails, and the saving has no file yet
    rw [h]
    dsimp only
    split <;> exact .of_stage_of_same (owns_of_none rfl) (by rintro _ ⟨⟩) (by rintro ⟨⟩)
  · have hnone := hplace.node?_of_find hfind
    have hput := hplace.node?_put d (.file [] false)
    rw [h]
    refine .of_stage (fun q _ _ hq => ?_) (.inl ?_) (fun p hp => ?_) (fun p hp => ?_)
      (by rintro ⟨⟩)
    · rw [hput, if_neg (by rintro rfl; exact hq hnone)]
    · rw [hput, if_neg hplace.ne_file]
    · cases hp
      exact ⟨hplace, [], by rw [hput, if_pos rfl], rfl⟩
    · cases hp
      exact .inr hnone

/-- Some more of the document is written to the saving's own file. -/
private theorem stepped_writing (portion : Nat) {temporary : Path} {rest : Bytes}
    (howns : (Activity.saving s (.writing temporary rest)).Owns store d) :
    Stepped store (.saving s (.writing temporary rest)) d
      (.saving s (Stage.advance store s.renderBytes portion (.writing temporary rest) d).1)
      (Stage.advance store s.renderBytes portion (.writing temporary rest) d).2 := by
  obtain ⟨hplace, held, hnode, hheld⟩ := howns _ rfl
  rw [Stage.advance]
  rcases Disk.append_cases temporary (rest.take portion) d with ⟨f, h, -⟩ | ⟨old, x, hfind, h⟩
  · rw [h]
    exact .of_failure howns rfl (by rintro ⟨⟩)
  · -- what is added to is what this saving has written so far
    have hthere := hplace.node?_of_find hfind
    rw [hnode] at hthere
    cases hthere
    have hput := hplace.node?_put d (.file (held ++ rest.take portion) false)
    have hall : held ++ rest.take portion ++ rest.drop portion = s.renderBytes := by
      rw [List.append_assoc, List.take_append_drop]
      exact hheld
    rw [h]
    dsimp only
    refine .of_stage (fun q _ hq _ => ?_) (.inl ?_) (fun p hp => ?_) (fun p hp => ?_)
      (by rintro ⟨⟩)
    · rw [hput, if_neg (by rintro rfl; exact hq rfl)]
    · rw [hput, if_neg hplace.ne_file]
    · split at hp
      · next hlast =>
        cases hp
        rw [List.isEmpty_iff.1 hlast, List.append_nil] at hall
        refine ⟨hplace, _, by rw [hput, if_pos rfl], ?_⟩
        rw [if_pos hlast]
        exact hall
      · next hmore =>
        cases hp
        refine ⟨hplace, _, by rw [hput, if_pos rfl], ?_⟩
        rw [if_neg hmore]
        exact hall
    · split at hp <;> exact .inl hp

/-- The whole document takes the place of the settings file. -/
private theorem stepped_moving (portion : Nat) {temporary : Path}
    (howns : (Activity.saving s (.moving temporary)).Owns store d) :
    Stepped store (.saving s (.moving temporary)) d
      (.saving s (Stage.advance store s.renderBytes portion (.moving temporary) d).1)
      (Stage.advance store s.renderBytes portion (.moving temporary) d).2 := by
  obtain ⟨hplace, held, hnode, rfl⟩ := howns _ rfl
  rw [Stage.advance]
  rcases Disk.rename_cases temporary store.file d with
    ⟨f, h, -⟩ | ⟨node, n, -, hsource, -, -, h⟩
  · rw [h]
    exact .of_failure howns rfl (by rintro ⟨⟩)
  · -- what is moved is what this saving has written, its whole document
    have hthere := hplace.node?_of_find hsource
    rw [hnode] at hthere
    cases hthere
    have hput := Disk.node?_put (d.erase temporary) store.names_resolved_file
      (.file s.renderBytes false)
    rw [h]
    refine .of_stage (fun q hq hown _ => ?_) (.inr (.inr ⟨rfl, ?_⟩)) (owns_of_none rfl)
      (by rintro _ ⟨⟩) (by rintro ⟨⟩)
    · rw [hput, if_neg hq, hplace.node?_erase, if_neg (by rintro rfl; exact hown rfl)]
    · rw [hput, if_pos rfl]

/-- After a failure the saving's own file is removed, or left. -/
private theorem stepped_cleaning (portion : Nat) {temporary : Path} {f : Failure}
    (howns : (Activity.saving s (.cleaning temporary f)).Owns store d) :
    Stepped store (.saving s (.cleaning temporary f)) d
      (.saving s (Stage.advance store s.renderBytes portion (.cleaning temporary f) d).1)
      (Stage.advance store s.renderBytes portion (.cleaning temporary f) d).2 := by
  obtain ⟨hplace, held, hnode, -⟩ := howns _ rfl
  rw [Stage.advance]
  rcases Disk.removeIfPresent_cases temporary d with ⟨g, h, -⟩ | ⟨content, x, -, h⟩ | h
  · rw [h]
    refine .of_stage_of_same (fun p hp => ?_) (fun _ hp => hp) (by rintro ⟨⟩)
    cases hp
    exact ⟨hplace, held, hnode, trivial⟩
  · rw [h]
    refine .of_stage (fun q _ hown _ => ?_) (.inl ?_) (owns_of_none rfl) (by rintro _ ⟨⟩)
      (by rintro ⟨⟩)
    · rw [hplace.node?_erase, if_neg (by rintro rfl; exact hown rfl)]
    · rw [hplace.node?_erase, if_neg hplace.ne_file]
  · rw [h]
    exact .of_stage_of_same (owns_of_none rfl) (by rintro _ ⟨⟩) (by rintro ⟨⟩)

/-- A turn of a saving, one case for each stage. -/
theorem stepped_saving (portion : Nat) (howns : (Activity.saving s stage).Owns store d) :
    Stepped store (.saving s stage) d (.saving s (stage.advance store s.renderBytes portion d).1)
      (stage.advance store s.renderBytes portion d).2 := by
  cases stage with
  | directory tokens => exact stepped_directory portion tokens
  | creating tokens =>
    cases tokens with
    | nil => exact .of_stage_of_same (owns_of_none rfl) (by rintro _ ⟨⟩) (by rintro ⟨⟩)
    | cons token rest => exact stepped_creating portion token rest
  | writing temporary rest => exact stepped_writing portion howns
  | moving temporary => exact stepped_moving portion howns
  | cleaning temporary f => exact stepped_cleaning portion howns
  | moved => exact .refl howns
  | failed left f => exact .refl howns

/-- A turn of an activity that saves nothing: all that it may do to the disk is to remove the
settings file. -/
private theorem Stepped.of_disk {a b : Activity} {d e : Disk}
    (hnode : ∀ q, e.node? q = d.node? q ∨ (q = store.file.resolved ∧ e.node? q = none))
    (ha : a.settings? = none) (hb : b.settings? = none)
    (loaded : ∀ r, b = loading (some r) →
      a = loading (some r) ∨ LoadedFrom store (d.node? store.file.resolved) r) :
    Stepped store a d b e where
  others q hq _ _ := (hnode q).resolve_right fun h => hq h.1
  file := by
    rcases hnode store.file.resolved with h | ⟨-, h⟩
    · exact .inl h
    · exact .inr (.inl h)
  owns := by
    cases b with
    | saving s stage => cases hb
    | resetting ended => trivial
    | loading ended => trivial
  fresh p hp := by
    cases b with
    | saving s stage => cases hb
    | resetting ended => cases hp
    | loading ended => cases hp
  saving s stage h := by
    subst h
    cases hb
  moved s h := by
    subst h
    cases ha
  loaded := loaded

/-- Resetting removes the settings file, or does nothing. -/
private theorem node?_hosting_reset (store : SettingsStore) (d : Disk) (q : Path) :
    (d.hosting store.reset).2.node? q = d.node? q ∨
      (q = store.file.resolved ∧ (d.hosting store.reset).2.node? q = none) := by
  rw [Disk.hosting, SettingsStore.start_reset]
  rcases Disk.removeIfPresent_cases store.file d with ⟨f, h, -⟩ | ⟨content, x, -, h⟩ | h
  · rw [h]
    exact .inl rfl
  · rw [h]
    dsimp only
    rw [Disk.node?_erase d store.names_resolved_file]
    split
    · next hq => exact .inr ⟨hq, rfl⟩
    · exact .inl rfl
  · rw [h]
    exact .inl rfl

/-- Loading does nothing to the disk, and it ends with what is in the settings file, or the
defaults. -/
private theorem hosting_load (store : SettingsStore) (d : Disk) :
    (d.hosting store.load).2 = d ∧
      LoadedFrom store (d.node? store.file.resolved) (d.hosting store.load).1 := by
  rw [Disk.hosting]
  generalize hhost : ({ Host.bare () with disk := d } : Host Unit) = host
  have hdisk : host.disk = d := by rw [← hhost]
  rcases Disk.read_cases store.file host.disk with ⟨f, hf, hfrom, -⟩ | ⟨content, x, hfind, -, hok⟩
  · obtain ⟨notices, hload⟩ := store.start_load_of_error hf
    rw [hload]
    refine ⟨hdisk, ?_⟩
    rcases hfrom with hs | ⟨hblames, hnameable⟩
    · rw [hs, Bool.or_true, if_pos rfl]
      exact .inl rfl
    · rw [SettingsStore.isUnnameable_file] at hnameable
      rw [Failure.isMissing_of_blamesPath hblames, Failure.isSystem_of_blamesPath hblames]
      exact .inr (.inr ⟨f, rfl, hblames, hnameable⟩)
  · obtain ⟨notices, haccept⟩ := store.start_accept content host
    rw [store.start_load_of_ok hok, haccept]
    refine ⟨hdisk, ?_⟩
    have hnode := Disk.node?_of_find hfind
    rw [hdisk] at hnode
    rcases hparse : Settings.parse content with fault | s
    · exact .inl rfl
    · exact .inr (.inl ⟨content, x, s, hnode, hparse, rfl⟩)

/-- **What a turn of an activity does**, whatever it is. -/
theorem stepped_advance (store : SettingsStore) (portion : Nat) {a : Activity} {d : Disk}
    (howns : a.Owns store d) :
    Stepped store a d (a.advance store portion d).1 (a.advance store portion d).2 := by
  cases a with
  | saving s stage => exact stepped_saving portion howns
  | resetting ended =>
    cases ended with
    | none =>
      have hnode := node?_hosting_reset store d
      rw [advance]
      generalize d.hosting store.reset = ended at *
      dsimp only
      refine .of_disk hnode rfl rfl fun r h => ?_
      cases h
    | some r => exact .refl howns
  | loading ended =>
    cases ended with
    | none =>
      obtain ⟨hdisk, hloaded⟩ := hosting_load store d
      rw [advance]
      generalize d.hosting store.load = ended at *
      dsimp only
      refine .of_disk (fun _ => .inl (by rw [hdisk])) rfl rfl fun r h => ?_
      cases h
      exact .inr hloaded
    | some r => exact .refl howns

/-- What is refused does not matter for what a turn does. -/
theorem Stepped.of_refusing {a b : Activity} {refusal : DiskCall → Option SystemError}
    (h : Stepped store a (d.refusing refusal) b e) : Stepped store a d b e :=
  ⟨h.others, h.file, h.owns, h.fresh, h.saving, h.moved, h.loaded⟩

end Activity

/-! ### Any number of turns -/

namespace SettingsStore

variable (store : SettingsStore) (errands : List Errand) (disk : Disk)

/-- One of the errands has been to save `s`, and its file has been moved into place. -/
def Saved (parts : List Activity) (s : Settings) : Prop :=
  ∃ (i : Nat) (tokens : List Token),
    errands[i]? = some (.save s tokens) ∧ parts[i]? = some (.saving s .moved)

/-- What there may be in place of the settings file, given what was there at first. -/
inductive Shown (parts : List Activity) : Option Node → Prop
  | absent : Shown parts none
  | initial : Shown parts (disk.node? store.file.resolved)
  /-- The whole document of settings that have been saved. -/
  | saved {s : Settings} (h : Saved errands parts s) :
    Shown parts (some (.file s.renderBytes false))
  /-- A directory that was made on the way to the directory of the settings. -/
  | directory (leads : store.directory.LeadsThrough store.file.resolved) :
      Shown parts (some .directory)

/-- What a load may end with. -/
inductive Loaded (parts : List Activity) : Except Failure Settings → Prop
  | default : Loaded parts (.ok {})
  | saved {s : Settings} (h : Saved errands parts s) : Loaded parts (.ok s)
  /-- The settings that were kept at first. -/
  | initial {content : Bytes} {x : Bool} {s : Settings}
      (node : disk.node? store.file.resolved = some (.file content x))
      (parse : Settings.parse content = .ok s) : Loaded parts (.ok s)
  /-- The path of the directory is one that the system cannot be asked about. -/
  | unnameable {f : Failure} (path : store.directory.isUnnameable = true)
      (blames : f.blamesPath = true) : Loaded parts (.error f)

/-- What holds at every point, whoever had a turn. -/
structure Sound (c : Concurrent Disk Activity) : Prop where
  begun : ∀ (i : Nat) (s : Settings) (stage : Stage), c.parts[i]? = some (.saving s stage) →
    ∃ tokens, errands[i]? = some (.save s tokens)
  shown : store.Shown errands disk c.parts (c.shared.node? store.file.resolved)
  owns : ∀ (i : Nat) (a : Activity), c.parts[i]? = some a → a.Owns store c.shared
  /-- No two savings have the same temporary file. -/
  apart : ∀ (i j : Nat) (a b : Activity) (p : Path),
    i ≠ j → c.parts[i]? = some a → c.parts[j]? = some b →
    a.temporary? = some p → b.temporary? ≠ some p
  loaded : ∀ (i : Nat) (r : Except Failure Settings), c.parts[i]? = some (.loading (some r)) →
    store.Loaded errands disk c.parts r

variable {store errands disk}

theorem Shown.mono {parts parts' : List Activity} {node : Option Node}
    (h : store.Shown errands disk parts node)
    (hsaved : ∀ s, Saved errands parts s → Saved errands parts' s) :
    store.Shown errands disk parts' node := by
  cases h with
  | absent => exact .absent
  | initial => exact .initial
  | saved h => exact .saved (hsaved _ h)
  | directory leads => exact .directory leads

theorem Loaded.mono {parts parts' : List Activity} {r : Except Failure Settings}
    (h : store.Loaded errands disk parts r)
    (hsaved : ∀ s, Saved errands parts s → Saved errands parts' s) :
    store.Loaded errands disk parts' r := by
  cases h with
  | default => exact .default
  | saved h => exact .saved (hsaved _ h)
  | initial node parse => exact .initial node parse
  | unnameable path blames => exact .unnameable path blames

/-- What has been saved stays saved. -/
theorem Saved.set {parts : List Activity} {i : Nat} {a b : Activity} {s : Settings}
    (h : Saved errands parts s) (ha : parts[i]? = some a)
    (hmoved : ∀ s, a = .saving s .moved → b = .saving s .moved) :
    Saved errands (parts.set i b) s := by
  obtain ⟨j, tokens, herrand, hpart⟩ := h
  refine ⟨j, tokens, herrand, ?_⟩
  by_cases hj : i = j
  · subst hj
    rw [ha] at hpart
    rw [List.getElem?_set_self (List.getElem?_eq_some_iff.1 ha).1,
      hmoved s (Option.some.inj hpart)]
  · rw [List.getElem?_set_ne hj]
    exact hpart

/-- What is read from what is shown. The document of what has been saved holds just that, or
nothing that validation lets through. -/
theorem Shown.loaded {parts : List Activity} {node : Option Node} {r : Except Failure Settings}
    (hshown : store.Shown errands disk parts node) (h : Activity.LoadedFrom store node r) :
    store.Loaded errands disk parts r := by
  rcases h with rfl | ⟨content, x, s, hnode, hparse, rfl⟩ | ⟨f, rfl, hblames, hpath⟩
  · exact .default
  · cases hshown with
    | absent => cases hnode
    | initial => exact .initial hnode hparse
    | saved hsaved =>
      cases hnode
      rcases Settings.parse_renderBytes_cases _ with hwhole | ⟨fault, hfault⟩
      · rw [hwhole] at hparse
        cases hparse
        exact .saved hsaved
      · rw [hfault] at hparse
        cases hparse
    | directory leads => cases hnode
  · exact .unnameable hpath hblames

theorem sound_begin (store : SettingsStore) (errands : List Errand) (disk : Disk) :
    store.Sound errands disk ⟨disk, errands.map Errand.begin⟩ := by
  have hfresh : ∀ (i : Nat) (a : Activity), (errands.map Errand.begin)[i]? = some a →
      ∃ errand : Errand, errands[i]? = some errand ∧ errand.begin = a := by
    intro i a h
    rwa [List.getElem?_map, Option.map_eq_some_iff] at h
  have htemporary : ∀ errand : Errand, errand.begin.temporary? = none := by
    intro errand
    cases errand <;> rfl
  constructor
  case begun =>
    intro i s stage h
    obtain ⟨errand, herrand, hbegin⟩ := hfresh i _ h
    cases errand <;> cases hbegin
    exact ⟨_, herrand⟩
  case shown => exact .initial
  case owns =>
    intro i a h
    obtain ⟨errand, -, rfl⟩ := hfresh i a h
    cases errand
    · nofun
    · trivial
    · trivial
  case apart =>
    intro i j a b p _ h _ hp
    obtain ⟨errand, -, rfl⟩ := hfresh i a h
    rw [htemporary] at hp
    cases hp
  case loaded =>
    intro i r h
    obtain ⟨errand, -, hbegin⟩ := hfresh i _ h
    cases errand <;> cases hbegin

/-- A turn of another activity leaves the temporary file of this one alone. -/
theorem Sound.node?_of_ne {c : Concurrent Disk Activity} (h : store.Sound errands disk c)
    {i j : Nat} {a b own : Activity} {e : Disk} (ha : c.parts[i]? = some a)
    (hstep : Activity.Stepped store a c.shared b e) (hij : i ≠ j)
    (hown : c.parts[j]? = some own) {p : Path} (hp : own.temporary? = some p) :
    e.node? p = c.shared.node? p := by
  obtain ⟨hplace, held, hnode⟩ := (h.owns j own hown).node? hp
  refine hstep.others p hplace.ne_file.symm (fun hsame => ?_) (by rw [hnode]; nofun)
  exact h.apart i j a own p hij ha hown hsame hp

/-- **The invariant is kept by every turn.** -/
theorem Sound.step {c : Concurrent Disk Activity} (h : store.Sound errands disk c) {i : Nat}
    {a b : Activity} {e : Disk} (ha : c.parts[i]? = some a)
    (hstep : Activity.Stepped store a c.shared b e) :
    store.Sound errands disk ⟨e, c.parts.set i b⟩ := by
  have hsaved : ∀ s, Saved errands c.parts s → Saved errands (c.parts.set i b) s :=
    fun _ hs => hs.set ha hstep.moved
  have hmine : (c.parts.set i b)[i]? = some b :=
    List.getElem?_set_self (List.getElem?_eq_some_iff.1 ha).1
  constructor
  case begun =>
    intro j s stage hj
    rcases getElem?_set_cases ha hj with ⟨rfl, rfl⟩ | ⟨-, hj⟩
    · obtain ⟨stage', rfl⟩ := hstep.saving s stage rfl
      exact h.begun j s stage' ha
    · exact h.begun j s stage hj
  case shown =>
    dsimp only
    rcases hstep.file with hsame | hnone | ⟨hleads, hdirectory⟩ | ⟨s, rfl, hmoved⟩
    · rw [hsame]
      exact h.shown.mono hsaved
    · rw [hnone]
      exact .absent
    · rw [hdirectory]
      exact .directory hleads
    · -- the activity was a saving before, so it has been begun as one
      rw [hmoved]
      obtain ⟨stage, rfl⟩ := hstep.saving s .moved rfl
      obtain ⟨tokens, herrand⟩ := h.begun i s stage ha
      exact .saved ⟨i, tokens, herrand, hmine⟩
  case owns =>
    intro j own hj
    rcases getElem?_set_cases ha hj with ⟨rfl, rfl⟩ | ⟨hne, hj⟩
    · exact hstep.owns
    · exact (h.owns j own hj).congr fun p hp => h.node?_of_ne ha hstep hne.symm hj hp
  case apart =>
    -- a temporary file that is made now is made where no other one is
    have hnew : ∀ (j : Nat) (own : Activity) (p : Path), j ≠ i → c.parts[j]? = some own →
        own.temporary? = some p → b.temporary? ≠ some p := by
      intro j own p hne hj hp hb
      rcases hstep.fresh p hb with hold | hnone
      · exact h.apart i j a own p hne.symm ha hj hold hp
      · obtain ⟨-, held, hnode⟩ := (h.owns j own hj).node? hp
        rw [hnone] at hnode
        cases hnode
    intro j k own other p hjk hafter hafter' hp
    rcases getElem?_set_cases ha hafter with ⟨rfl, rfl⟩ | ⟨hji, hj⟩
    · rcases getElem?_set_cases ha hafter' with ⟨rfl, -⟩ | ⟨hki, hk⟩
      · exact absurd rfl hjk
      · exact fun hq => hnew k other p hki hk hq hp
    · rcases getElem?_set_cases ha hafter' with ⟨rfl, rfl⟩ | ⟨hki, hk⟩
      · exact hnew j own p hji hj hp
      · exact h.apart j k own other p hjk hj hk hp
  case loaded =>
    intro j r hj
    rcases getElem?_set_cases ha hj with ⟨rfl, rfl⟩ | ⟨-, hj⟩
    · -- the load has ended before, or in this turn
      rcases hstep.loaded r rfl with rfl | hfrom
      · exact (h.loaded j r ha).mono hsaved
      · exact (h.shown.loaded hfrom).mono hsaved
    · exact (h.loaded j r hj).mono hsaved

theorem Sound.stepped {c : Concurrent Disk Activity} (h : store.Sound errands disk c)
    (turn : Slice) {a : Activity} (ha : c.parts[turn.who]? = some a) :
    Activity.Stepped store a c.shared (store.turns.advance turn a c.shared).1
      (store.turns.advance turn a c.shared).2 :=
  (Activity.stepped_advance store turn.portion
    ((h.owns _ a ha).congr (e := c.shared.refusing turn.refusal) fun _ _ => rfl)).of_refusing

theorem Sound.take {c : Concurrent Disk Activity} (h : store.Sound errands disk c)
    (turn : Slice) : store.Sound errands disk (store.turns.take c turn) :=
  Turns.take_induction h fun _ ha => h.step ha (h.stepped turn ha)

/-- **Readers never see half a document.** Savings, resets and loads on one directory take turns in
any order, with any calls refused at any time, and any of them may stop for good. At every point the
settings file is absent, as it was at first, or the whole document of what one of the savings has
moved into place; or it is a directory on its own way. A load ends with the defaults, with settings
that have been saved or with those that were kept at first; or it fails, if the path of the
directory is none that the system can be asked about. No turn of another activity touches the
temporary file of a saving. -/
theorem whole_documents (store : SettingsStore) (errands : List Errand) (disk : Disk)
    (schedule : List Slice) :
    let now := store.turns.run schedule ⟨disk, errands.map Errand.begin⟩
    store.Shown errands disk now.parts (now.shared.node? store.file.resolved) ∧
      (∀ (i : Nat) (r : Except Failure Settings), now.parts[i]? = some (.loading (some r)) →
        store.Loaded errands disk now.parts r) ∧
      ∀ (i : Nat) (a : Activity) (p : Path) (turn : Slice),
        now.parts[i]? = some a → a.temporary? = some p → store.turns.who turn ≠ i →
        (∃ held, now.shared.node? p = some (.file held false)) ∧
          (store.turns.take now turn).shared.node? p = now.shared.node? p := by
  intro now
  have hsound : store.Sound errands disk now :=
    Turns.run_induction (P := fun _ c => store.Sound errands disk c) schedule
      (sound_begin store errands disk) fun _ _ turn h => h.take turn
  refine ⟨hsound.shown, hsound.loaded, fun i a p turn ha hp hne => ⟨?_, ?_⟩⟩
  · exact ((hsound.owns i a ha).node? hp).2
  · exact Turns.take_induction (P := fun c => c.shared.node? p = now.shared.node? p) rfl
      fun own hown => hsound.node?_of_ne hown (hsound.stepped turn hown) hne ha hp

/-- Where the path of the directory leads through the settings file and back, the first step of a
saving makes a directory of it; and where the path holds a NUL, or half of a surrogate pair, a load
fails. -/
theorem directory_made_on_the_way :
    let back : SettingsStore := ⟨.ofText "/a/settings.json/.."⟩
    let null : SettingsStore := ⟨.ofText "/\x00"⟩
    let half : SettingsStore := ⟨.ofText [CodePoint.ofChar '/', ⟨0xd800, by decide⟩]⟩
    let saving := back.turns.run [{ who := 0 }] ⟨{}, [Errand.begin (.save {} [.ofText "x"])]⟩
    let load (store : SettingsStore) := store.turns.run [{ who := 0 }] ⟨{}, [Errand.begin .load]⟩
    (({} : Disk).node? back.file.resolved = none ∧
        saving.shared.node? back.file.resolved = some .directory) ∧
      (load null).parts = [.loading (some (.error .embeddedNull))] ∧
      ∃ fault, (load half).parts = [.loading (some (.error (.unencodable fault)))] :=
  ⟨by decide +kernel, rfl, _, rfl⟩

end SettingsStore

end Pasteboard
