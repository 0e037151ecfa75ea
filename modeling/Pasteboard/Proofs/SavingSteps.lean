import Pasteboard.Proofs.DiskLaws
import Pasteboard.Settings.Store

/-!
# Saving step by step

Saving goes through stages, and something else may happen to the disk between any two of them.
`Stage.advance` does the next step: it makes the directory, tries one name for the temporary file,
writes some more of the document, moves the temporary file into place, or removes it after a
failure.

The stages are those of `SettingsStore.writeOnDisk`: what a stage still has to do is an action
(`Stage.remaining`), and doing one step of it and then the rest comes to the same
(`Stage.start_remaining`), however much is written at a time. Each step brings the end nearer
(`Stage.stepsLeft_advance`). So a saving that nothing comes in between of ends, and it ends as
`SettingsStore.saveOnDisk` does (`Stage.advanceAll_eq_saveOnDisk`).
-/

namespace Pasteboard

namespace SettingsStore

/-- How far a saving has got. -/
inductive Stage
  /-- The directory is to be made. -/
  | directory (tokens : List Token)
  /-- The temporary file is to be created, with the first of these tokens that is free. -/
  | creating (tokens : List Token)
  /-- The temporary file holds all but the rest. -/
  | writing (temporary : Path) (rest : Bytes)
  /-- The temporary file is complete. -/
  | moving (temporary : Path)
  /-- Something has failed, and the temporary file is to be removed. -/
  | cleaning (temporary : Path) (f : Failure)
  /-- The temporary file has become the settings file. -/
  | moved
  /-- The saving has failed; a temporary file that could not be removed is left. -/
  | failed (left : Option Path) (f : Failure)

namespace Stage

/-- Does the next step of writing `content`, at most `portion` octets at a time. -/
def advance (store : SettingsStore) (content : Bytes) (portion : Nat) :
    Stage → Disk → Stage × Disk
  | directory tokens, d =>
    match (Disk.makeDirectories store.directory).start d with
    | (.ok (), d) => (creating tokens, d)
    | (.error f, d) => (failed none f, d)
  | creating [], d =>
    match (Disk.createUnder store.directory.resolved []).start d with
    | (.ok temporary, d) => (writing temporary content, d)
    | (.error f, d) => (failed none f, d)
  | creating (token :: rest), d =>
    let temporary := store.directory.resolved.child (Settings.temporaryName token)
    match (Disk.create temporary).start d with
    | (.ok (), d) => (writing temporary content, d)
    | (.error f, d) => (if f.isPresent then creating rest else failed none f, d)
  | writing temporary rest, d =>
    match (Disk.append temporary (rest.take portion)).start d with
    | (.ok (), d) =>
      (if (rest.drop portion).isEmpty then moving temporary
        else writing temporary (rest.drop portion), d)
    | (.error f, d) => (cleaning temporary f, d)
  | moving temporary, d =>
    match (Disk.rename temporary store.file).start d with
    | (.ok (), d) => (moved, d)
    | (.error f, d) => (cleaning temporary f, d)
  | cleaning temporary f, d =>
    match (Disk.removeIfPresent temporary).start d with
    | (.ok (), d) => (failed none f, d)
    | (.error g, d) => (failed (some temporary) g, d)
  | moved, d => (moved, d)
  | failed left f, d => (failed left f, d)

/-- What a saving of `content` still has to do. -/
def remaining (store : SettingsStore) (content : Bytes) : Stage → Action Disk Unit
  | directory tokens => store.writeOnDisk tokens (.ok content)
  | creating tokens => do
    let temporary ← Disk.createUnder store.directory.resolved (tokens.map Settings.temporaryName)
    cleaningUp temporary (store.replace temporary content)
  | writing temporary rest => cleaningUp temporary (store.replace temporary rest)
  | moving temporary => cleaningUp temporary (Disk.rename temporary store.file)
  | cleaning temporary f => do
    Disk.removeIfPresent temporary
    throw f
  | moved => pure ()
  | failed _ f => throw f

/-- How a saving has ended. -/
def outcome? : Stage → Option (Except Failure Unit)
  | moved => some (.ok ())
  | failed _ f => some (.error f)
  | _ => none

/-- The steps of a saving that nothing comes in between of, each with the portion that it writes at
most. -/
def advanceAll (store : SettingsStore) (content : Bytes) (portions : List Nat) (c : Stage × Disk) :
    Stage × Disk :=
  portions.foldl (fun c portion => c.1.advance store content portion c.2) c

/-! ### One step and the rest -/

/-- What comes after a step that may fail and is cleaned up after. -/
private theorem start_cleaningUp_bind (store : SettingsStore) (content : Bytes) (temporary : Path)
    (a b : Action Disk Unit) (d : Disk) :
    (cleaningUp temporary (do a; b)).start d =
      match a.start d with
      | (.ok (), e) => (cleaningUp temporary b).start e
      | (.error f, e) => (remaining store content (cleaning temporary f)).start e := by
  simp only [cleaningUp, Action.start_tryCatch, Action.start_bind, remaining]
  rcases a.start d with ⟨_ | _, _⟩ <;> rfl

/-- Writing in two portions comes to the same as writing at once. -/
private theorem start_replace_append (store : SettingsStore) (temporary : Path)
    (front back : Bytes) (d : Disk) :
    (cleaningUp temporary (store.replace temporary (front ++ back))).start d =
      (cleaningUp temporary (do
        Disk.append temporary front
        store.replace temporary back)).start d := by
  simp only [cleaningUp, Action.start_tryCatch, replace, Action.start_bind,
    Disk.start_append_append]
  rcases (Disk.append temporary front).start d with ⟨_ | _, _⟩ <;> rfl

/-- **One step, and then the rest**, is all that a stage still has to do. -/
theorem start_remaining (store : SettingsStore) (content : Bytes) (portion : Nat) (stage : Stage)
    (d : Disk) :
    (stage.remaining store content).start d =
      ((stage.advance store content portion d).1.remaining store content).start
        (stage.advance store content portion d).2 := by
  cases stage with
  | directory tokens =>
    simp only [remaining, writeOnDisk, advance, Action.start_bind]
    rcases (Disk.makeDirectories store.directory).start d with ⟨_ | _, e⟩
    · rfl
    · simp only [Action.start_bind]
      rcases (Disk.createUnder _ _).start e with ⟨_ | temporary, e'⟩
      · rfl
      · simp only [cleaningUp, Action.start_tryCatch, Action.start_bind, Action.start_ofResult]
  | creating tokens =>
    cases tokens with
    | nil => rfl
    | cons token rest =>
      simp only [remaining, advance, List.map_cons, Disk.createUnder, Action.start_bind,
        Action.start_tryCatch]
      rcases (Disk.create _).start d with ⟨f | _, e⟩
      · dsimp only
        cases f.isPresent <;> simp only [Action.start_bind, Action.start_throw, if_true,
          Bool.false_eq_true, if_false]
      · rfl
  | writing temporary rest =>
    rw [advance, remaining]
    by_cases hlast : (rest.drop portion).isEmpty = true
    · -- the whole rest is written
      have hwhole : rest.take portion = rest :=
        List.take_of_length_le (List.drop_eq_nil_iff.1 (List.isEmpty_iff.1 hlast))
      rw [hwhole, replace, start_cleaningUp_bind store content]
      rcases (Disk.append temporary rest).start d with ⟨_ | _, e⟩
      · rfl
      · dsimp only
        rw [if_pos hlast]
        rfl
    · -- a portion is written, and the rest is still to be written
      have hparts := start_replace_append store temporary (rest.take portion)
        (rest.drop portion) d
      rw [List.take_append_drop] at hparts
      rw [hparts, start_cleaningUp_bind store content]
      rcases (Disk.append temporary (rest.take portion)).start d with ⟨_ | _, e⟩
      · rfl
      · dsimp only
        rw [if_neg hlast]
        rfl
  | moving temporary =>
    simp only [remaining, cleaningUp, advance, Action.start_tryCatch]
    rcases (Disk.rename temporary store.file).start d with ⟨_ | _, e⟩ <;> rfl
  | cleaning temporary f =>
    simp only [remaining, advance, Action.start_bind]
    rcases (Disk.removeIfPresent temporary).start d with ⟨_ | _, e⟩ <;> rfl
  | moved => rfl
  | failed left f => rfl

/-! ### To the end -/

variable {store : SettingsStore} {content : Bytes}

theorem start_remaining_advanceAll (portions : List Nat) (c : Stage × Disk) :
    (c.1.remaining store content).start c.2 =
      ((advanceAll store content portions c).1.remaining store content).start
        (advanceAll store content portions c).2 := by
  induction portions generalizing c with
  | nil => rfl
  | cons portion rest ih => exact (start_remaining store content portion c.1 c.2).trans (ih _)

/-- Nothing is left to do at the end. -/
theorem start_remaining_of_outcome? {stage : Stage} {r : Except Failure Unit}
    (h : stage.outcome? = some r) (d : Disk) :
    (stage.remaining store content).start d = (r, d) := by
  cases stage <;> cases h <;> rfl

/-- How many steps there are to the end at most. -/
def stepsLeft (content : Bytes) : Stage → Nat
  | directory tokens => tokens.length + content.length + 5
  | creating tokens => tokens.length + content.length + 4
  | writing _ rest => rest.length + 3
  | moving _ => 2
  | cleaning _ _ => 1
  | moved | failed _ _ => 0

theorem exists_outcome?_of_stepsLeft {stage : Stage} (h : stage.stepsLeft content = 0) :
    ∃ r, stage.outcome? = some r := by
  cases stage with
  | moved => exact ⟨_, rfl⟩
  | failed left f => exact ⟨_, rfl⟩
  | _ => cases h

/-- Before the end, a step that may write something brings the end nearer. -/
theorem stepsLeft_advance (store : SettingsStore) (content : Bytes) {portion : Nat}
    (hportion : 0 < portion) (stage : Stage) (d : Disk) :
    (stage.advance store content portion d).1.stepsLeft content ≤ stage.stepsLeft content - 1 := by
  cases stage with
  | directory tokens =>
    rw [advance]
    rcases (Disk.makeDirectories store.directory).start d with ⟨_ | _, e⟩ <;>
      simp only [stepsLeft] <;> omega
  | creating tokens =>
    cases tokens with
    | nil =>
      rw [advance]
      rcases (Disk.createUnder _ _).start d with ⟨_ | _, e⟩ <;>
        simp only [stepsLeft, List.length_nil] <;> omega
    | cons token rest =>
      rw [advance]
      rcases (Disk.create _).start d with ⟨f | _, e⟩
      · dsimp only
        split <;> simp only [stepsLeft, List.length_cons] <;> omega
      · simp only [stepsLeft, List.length_cons]
        omega
  | writing temporary rest =>
    rw [advance]
    rcases (Disk.append temporary _).start d with ⟨_ | _, e⟩
    · simp only [stepsLeft]
      omega
    · dsimp only
      split
      · simp only [stepsLeft]
        omega
      · next hmore =>
        -- there is more than one portion, so the rest gets shorter
        rw [List.isEmpty_iff, List.drop_eq_nil_iff] at hmore
        simp only [stepsLeft, List.length_drop]
        omega
  | moving temporary =>
    rw [advance]
    rcases (Disk.rename temporary store.file).start d with ⟨_ | _, e⟩ <;> simp only [stepsLeft] <;>
      omega
  | cleaning temporary f =>
    rw [advance]
    rcases (Disk.removeIfPresent temporary).start d with ⟨_ | _, e⟩ <;> simp only [stepsLeft] <;>
      omega
  | moved => exact Nat.le_refl 0
  | failed left f => exact Nat.le_refl 0

/-- With enough steps a saving ends, by induction on the steps. -/
theorem exists_outcome?_advanceAll {portions : List Nat} (hportions : ∀ k ∈ portions, 0 < k)
    (c : Stage × Disk) (hlength : c.1.stepsLeft content ≤ portions.length) :
    ∃ r, (advanceAll store content portions c).1.outcome? = some r := by
  induction portions generalizing c with
  | nil => exact exists_outcome?_of_stepsLeft (Nat.le_zero.1 hlength)
  | cons portion rest ih =>
    have hstep := stepsLeft_advance store content (hportions portion List.mem_cons_self) c.1 c.2
    have hrest : (c.1.advance store content portion c.2).1.stepsLeft content ≤ rest.length :=
      Nat.le_trans hstep (Nat.sub_le_of_le_add hlength)
    exact ih (fun k hk => hportions k (List.mem_cons_of_mem _ hk)) _ hrest

/-- **A saving that nothing comes in between of ends as saving on the disk does**, in however many
portions its document is written. -/
theorem advanceAll_eq_saveOnDisk (store : SettingsStore) (tokens : List Token) (settings : Settings)
    (d : Disk) {portions : List Nat} (hportions : ∀ k ∈ portions, 0 < k)
    (hlength : tokens.length + settings.renderBytes.length + 5 ≤ portions.length) :
    let ended := advanceAll store settings.renderBytes portions (directory tokens, d)
    ended.1.outcome? = some ((store.saveOnDisk tokens settings).start d).1 ∧
      ended.2 = ((store.saveOnDisk tokens settings).start d).2 := by
  intro ended
  obtain ⟨r, hr⟩ : ∃ r, ended.1.outcome? = some r :=
    exists_outcome?_advanceAll hportions (directory tokens, d) hlength
  have hend : (store.saveOnDisk tokens settings).start d = (r, ended.2) :=
    (start_remaining_advanceAll portions (directory tokens, d)).trans
      (start_remaining_of_outcome? hr ended.2)
  rw [hend]
  exact ⟨hr, rfl⟩

end Stage

end SettingsStore

end Pasteboard
