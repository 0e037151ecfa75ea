import Pasteboard.Command
import Pasteboard.Proofs.DiskLaws

/-!
# What spares a file

A command runs hooks and programs that are not part of this library, and these may do anything to
the host. This module says what it takes that they spare a file: the file and the directories on the
way to it stay as they are (`Disk.SparedAt`). Sparing is kept by every way to put actions together,
so a clipboard whose hooks spare a file gives commands that spare it (`Command.spares_copy`,
`Command.spares_read`), and so does the clipboard of a host whose programs spare it
(`SystemClipboard.spares`).
-/

namespace Pasteboard

variable {α β γ σ : Type}

/-! ### Actions that respect a relation -/

namespace Action

/-- However it ends, the action leads from each state to one that `R` relates it to. -/
def Respects (R : σ → σ → Prop) (a : Action σ α) : Prop := ∀ s, R s (a.start s).2

variable {R : σ → σ → Prop} [IsPreorder σ R]

theorem respects_ofResult (r : Except Failure α) : (ofResult r : Action σ α).Respects R :=
  fun s => refl_of R s

theorem respects_pure (x : α) : (pure x : Action σ α).Respects R := fun s => refl_of R s

theorem respects_throw (f : Failure) : (throw f : Action σ α).Respects R := fun s => refl_of R s

theorem respects_ask (f : σ → α) : (ask f).Respects R := fun s => refl_of R s

/-- An action may go on with what respects the relation where the action can lead. -/
theorem Respects.bind_of {a : Action σ α} {k : α → Action σ γ} (ha : a.Respects R)
    (hk : ∀ s x t, a.start s = (.ok x, t) → R t ((k x).start t).2) : (a >>= k).Respects R := by
  intro s
  have hstep := ha s
  rw [start_bind]
  rcases hstart : a.start s with ⟨f | x, t⟩
  · rw [hstart] at hstep
    exact hstep
  · rw [hstart] at hstep
    exact trans_of R hstep (hk s x t hstart)

theorem Respects.bind {a : Action σ α} {k : α → Action σ γ} (ha : a.Respects R)
    (hk : ∀ x, (k x).Respects R) : (a >>= k).Respects R := ha.bind_of fun _ x t _ => hk x t

theorem Respects.tryCatch {a : Action σ α} {k : Failure → Action σ α} (ha : a.Respects R)
    (hk : ∀ f, (k f).Respects R) : (MonadExcept.tryCatch a k).Respects R := by
  intro s
  have hstep := ha s
  rw [start_tryCatch]
  rcases hstart : a.start s with ⟨f | x, t⟩
  · rw [hstart] at hstep
    exact trans_of R hstep (hk f t)
  · rw [hstart] at hstep
    exact hstep

theorem Respects.guarded {a : Action σ α} {last : Action σ Unit} (ha : a.Respects R)
    (hlast : last.Respects R) : (a.guarded last).Respects R := by
  intro s
  have hstep := trans_of R (ha s) (hlast (a.start s).2)
  rw [start_guarded]
  rcases hstart : last.start (a.start s).2 with ⟨f | _, t⟩ <;>
    · rw [hstart] at hstep
      exact hstep

omit [IsPreorder σ R]

theorem Respects.map {a : Action σ α} (ha : a.Respects R) (f : α → γ) :
    (f <$> a).Respects R := by
  intro s
  rw [start_map]
  exact ha s

theorem Respects.mapFailure {a : Action σ α} (ha : a.Respects R) (f : Failure → Failure) :
    (a.mapFailure f).Respects R := ha

end Action

/-! ### Files that are spared -/

/-- From `d` to `e` the node at a path and the directories on the way to it have stayed, and
refusals to remove it are honest if they were. -/
structure Disk.SparedAt (p : Path) (d e : Disk) : Prop where
  node : e.node? p.resolved = d.node? p.resolved
  way : Disk.KeepsWay p d e
  honest : d.HonestAt p → e.HonestAt p

namespace Disk.SparedAt

variable {p : Path} {d e f : Disk}

theorem refl (p : Path) (d : Disk) : SparedAt p d d := ⟨rfl, .refl p d, id⟩

theorem trans (h₁ : SparedAt p d e) (h₂ : SparedAt p e f) : SparedAt p d f :=
  ⟨h₂.node.trans h₁.node, h₁.way.trans h₂.way, h₂.honest ∘ h₁.honest⟩

/-- What was found at the path is found there again. -/
theorem find (h : SparedAt p d e) {n : Option Node} (hfind : d.find p = .ok n) :
    e.find p = .ok n := by
  rw [find_of_keepsWay h.way hfind, h.node, node?_of_find hfind]

end Disk.SparedAt

/-- No run of a program touches the file at a path. -/
def Programs.Spare (p : Path) (programs : Programs) : Prop :=
  ∀ environment run disk, Disk.SparedAt p disk (programs.run environment run disk).2

/-- From `host` to `after` the file at a path is spared, and programs go on to spare it. -/
structure Host.SparedAt (p : Path) (host after : Host β) : Prop where
  settingsDirectory : after.settingsDirectory = host.settingsDirectory
  programs : host.programs.Spare p → after.programs.Spare p
  disk : host.programs.Spare p → Disk.SparedAt p host.disk after.disk

namespace Host.SparedAt

variable {p : Path} {host after last : Host β}

theorem trans (h₁ : SparedAt p host after) (h₂ : SparedAt p after last) : SparedAt p host last :=
  ⟨h₂.settingsDirectory.trans h₁.settingsDirectory, h₂.programs ∘ h₁.programs,
    fun h => (h₁.disk h).trans (h₂.disk (h₁.programs h))⟩

/-- Notices and the record of runs say nothing about files. -/
theorem of_eq (hdirectory : after.settingsDirectory = host.settingsDirectory)
    (hprograms : after.programs = host.programs) (hdisk : after.disk = host.disk) :
    SparedAt p host after :=
  ⟨hdirectory, fun h => hprograms ▸ h, fun _ => hdisk ▸ .refl p host.disk⟩

instance (p : Path) : IsPreorder (Host β) (SparedAt p) where
  refl _ := of_eq rfl rfl rfl
  trans _ _ _ := trans

end Host.SparedAt

/-- The action spares the file at a path on every host, however it ends. -/
abbrev Action.Spares (p : Path) (a : Action (Host β) α) : Prop := a.Respects (Host.SparedAt p)

theorem Action.spares_notify (p : Path) (n : Notice) :
    (Host.notify n : Action (Host β) Unit).Spares p := fun _ => .of_eq rfl rfl rfl

/-- A run does to the disk what the program does. -/
theorem Action.spares_run (p : Path) (r : Run) : (Host.run r : Action (Host β) Ending).Spares p :=
  fun host => ⟨rfl, id, fun h => h host.environment r host.disk⟩

/-! ### Clipboards and commands -/

/-- Getting a handle, and each hook of a handle that is got, spares the file at a path. -/
structure Clipboard.Spares (p : Path) (c : Clipboard (Host β)) : Prop where
  acquire : c.acquire.Spares p
  hooks : ∀ host h after, c.acquire.start host = (.ok h, after) →
    h.hooks.get.Spares p ∧ (∀ v, (h.hooks.set v).Spares p) ∧ h.hooks.release.Spares p

section

variable {p : Path}

theorem Handle.spares_ifOpen (h : Handle (Host β)) {a : Action (Host β) α} (ha : a.Spares p) :
    (h.ifOpen a).Spares p := by
  rw [ifOpen]
  split
  · exact Action.respects_throw _
  · exact ha

theorem Handle.spares_use (h : Handle (Host β)) (hrelease : h.hooks.release.Spares p)
    {a : Action (Host β) α} (ha : a.Spares p) : (h.use a).Spares p := by
  refine ha.guarded ?_
  rw [close]
  split
  · exact Action.respects_pure ()
  · exact hrelease

namespace Clipboard

variable {c : Clipboard (Host β)}

/-- A handle that is reached is one that the clipboard has handed out. -/
theorem Spares.reach (h : c.Spares p) {k : Handle (Host β) → Action (Host β) α}
    (hk : ∀ handle : Handle (Host β), handle.hooks.get.Spares p →
      (∀ v, (handle.hooks.set v).Spares p) → handle.hooks.release.Spares p → (k handle).Spares p) :
    (c.reach >>= k).Spares p := by
  refine (h.acquire.mapFailure _).bind_of fun host handle after hstart => ?_
  rw [Action.start_mapFailure] at hstart
  have hacquire : c.acquire.start host = (.ok handle, after) := by
    rcases hs : c.acquire.start host with ⟨f | x, s⟩
    · rw [hs] at hstart
      cases hstart
    · rw [hs] at hstart
      exact hstart
  obtain ⟨hget, hset, hrelease⟩ := h.hooks host handle after hacquire
  exact hk handle hget hset hrelease after

theorem Spares.copy (h : c.Spares p) (v : Value) : (c.copy v).Spares p := by
  cases v with
  | text t => exact h.reach fun handle _ hset hrelease =>
      handle.spares_use hrelease ((handle.spares_ifOpen (hset (.text t))).mapFailure _)
  | _ => exact Action.respects_throw _

theorem Spares.read (h : c.Spares p) : c.read.Spares p :=
  h.reach fun handle hget _ hrelease =>
    handle.spares_use hrelease ((handle.spares_ifOpen hget).mapFailure _)

end Clipboard

theorem Command.spares_replying (op : Operation) {a : Action (Host β) Value} (ha : a.Spares p) :
    (Command.replying op a).Spares p := by
  refine Action.Respects.bind ((ha.map _).tryCatch fun f => ?_) fun outcome => ?_
  · split
    · exact Action.respects_pure _
    · exact Action.respects_throw f
  · cases outcome with
    | ok value => exact Action.respects_ofResult _
    | error f =>
      exact (Action.respects_ofResult _).bind fun message =>
        (Action.spares_notify p _).bind fun _ => Action.respects_ofResult _

theorem Command.spares_copy {c : Container β} (h : c.clipboard.Spares p) (text : Value) :
    (Command.copy c text).Spares p :=
  spares_replying .copy ((h.copy text).bind fun _ => Action.respects_pure _)

theorem Command.spares_read {c : Container β} (h : c.clipboard.Spares p) :
    (Command.read c).Spares p := spares_replying .read h.read

/-! ### The clipboard of the host -/

theorem Tool.spares_runCommand (tool : Tool) (op : Operation) (timeout : Value)
    (input : Option Bytes) :
    (tool.runCommand op timeout input : Action (Host β) (Text × Bytes)).Spares p :=
  (Action.respects_ofResult _).bind fun _ => (Action.spares_notify p _).bind fun _ =>
    (Action.respects_ask _).bind fun _ => (Action.spares_run p _).bind fun _ =>
      (Action.respects_ofResult _).bind fun _ => Action.respects_pure _

/-- The hooks for a tool run its commands and send notices. What is no text is refused. -/
theorem Tool.spares_hooks (tool : Tool) (timeout : Value) (stripLineEnd : Bool) :
    let hooks : Hooks (Host β) := tool.hooks timeout stripLineEnd
    hooks.get.Spares p ∧ (∀ v, (hooks.set v).Spares p) ∧ hooks.release.Spares p := by
  refine ⟨?_, fun v => ?_, Action.spares_notify p _⟩
  · exact (tool.spares_runCommand _ _ _).bind fun _ => (Action.respects_ofResult _).bind fun _ =>
      Action.respects_pure _
  · cases v with
    | text t =>
      exact (Action.respects_ofResult _).bind fun _ => (tool.spares_runCommand _ _ _).bind fun _ =>
        Action.respects_pure _
    | _ => exact Action.respects_throw _

/-- **The clipboard of a host spares every file that the programs of the host spare.** -/
theorem SystemClipboard.spares (clipboard : SystemClipboard) :
    (clipboard.asClipboard : Clipboard (Host β)).Spares p := by
  have hresolve : (resolve clipboard.backend : Action (Host β) Tool).Spares p :=
    (Action.respects_ask _).bind fun _ => (Action.respects_ofResult _).bind fun _ =>
      (Action.respects_ofResult _).bind fun _ =>
        (Action.spares_notify p _).bind fun _ => Action.respects_pure _
  have hacquire : (clipboard.acquire : Action (Host β) (Tool × Handle (Host β))).Spares p :=
    hresolve.bind fun _ => (Action.spares_notify p _).bind fun _ => Action.respects_pure _
  refine ⟨hacquire.map _, fun host h after hstart => ?_⟩
  -- whichever tool is chosen, its hooks only run programs and send notices
  have htool : ∃ tool : Tool,
      h.hooks = tool.hooks clipboard.timeout clipboard.stripLineEnd.counts := by
    rw [asClipboard, Action.start_map, acquire, Action.start_bind] at hstart
    rcases hr : (resolve clipboard.backend : Action (Host β) Tool).start host with ⟨f | tool, s⟩
    · rw [hr] at hstart
      cases hstart
    · rw [hr] at hstart
      cases hstart
      exact ⟨tool, rfl⟩
  obtain ⟨tool, hhooks⟩ := htool
  rw [hhooks]
  exact tool.spares_hooks _ _

end

end Pasteboard
