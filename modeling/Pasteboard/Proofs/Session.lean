import Pasteboard.Proofs.Loading
import Pasteboard.Proofs.Sparing

/-!
# The last saving wins

Any number of containers share one directory for their settings. A session is any series of steps
that build containers, save and reset settings through any of them, run commands, and change what is
around the application; each step may succeed or fail, and whether it does may change from step to
step. `Session.latest` reads off what a session has kept: the settings that were saved last, unless
they were reset since then.

`Application.Keeps` is what holds between the steps: the settings file is the document of what is
kept. One step preserves it (`Step.follows_perform`), so a session does (`Session.keeps_run`), and
what is loaded at any time follows from it (`Session.last_saving_wins`). What is not part of this
library and may run in a step, which are the programs of the host, the hooks of clipboards that a
caller brings along and what else goes on around the application, is taken to spare the settings
file.
-/

namespace Pasteboard

variable {β α : Type}

/-! ### Steps -/

/-- What an application is asked to do, and what goes on around it. -/
inductive Step (β : Type)
  | build (given : Option GivenSettings) (directory : Option Path)
      (injected : Option (Clipboard (Host β)))
  | share
  | forget
  | save (number : Nat) (fields : Fields)
  | reset (number : Nat)
  | copy (number : Option Nat) (text : Value)
  | read (number : Option Nat)
  /-- The host is changed by something else. -/
  | surroundings (change : Host β → Host β)

/-- What a step does to the settings that are kept. -/
inductive Event
  | saved (record : SettingsRecord)
  | cleared
  | other

/-- The settings that are kept after an event. -/
def Event.after (kept : Option SettingsRecord) : Event → Option SettingsRecord
  | saved record => some record
  | cleared => none
  | other => kept

/-- Does a step. Only a saving or a reset that succeeds counts as one. -/
def Step.perform : Step β → Application β → Event × Application β
  | build given directory injected, app =>
    (.other, ((Application.build given directory injected).start app).2)
  | share, app => (.other, (Application.sharedContainer.start app).2)
  | forget, app => (.other, (Application.forgetShared.start app).2)
  | save number fields, app =>
    match (Application.saveSettings number (.mapping fields)).start app with
    | (.ok record, app) => (.saved record, app)
    | (.error _, app) => (.other, app)
  | reset number, app =>
    match (Application.resetSettings number).start app with
    | (.ok _, app) => (.cleared, app)
    | (.error _, app) => (.other, app)
  | copy number text, app => (.other, ((Application.copy number text).start app).2)
  | read number, app => (.other, ((Application.read number).start app).2)
  | surroundings change, app => (.other, { app with host := change app.host })

/-- The step uses no other directory for settings, given the one that is used if none is named, and
what is brought along for it spares the settings file. -/
def Step.Allowed (dir standard : Path) : Step β → Prop
  | build _ directory injected => directory.getD standard = dir ∧
      ∀ clipboard ∈ injected, clipboard.Spares (Settings.fileIn dir)
  | share => standard = dir
  | copy number _ => number = none → standard = dir
  | read number => number = none → standard = dir
  | surroundings change => ∀ host, Host.SparedAt (Settings.fileIn dir) host (change host)
  | _ => True

namespace Session

/-- Does steps one after the other. -/
def run : List (Step β) → Application β → List Event × Application β
  | [], app => ([], app)
  | step :: rest, app =>
    let (event, app) := step.perform app
    let (events, app) := run rest app
    (event :: events, app)

/-- The settings that are kept after a series of events that began with none. -/
def latest (events : List Event) : Option SettingsRecord := events.foldl Event.after none

/-- By induction on the events: what was kept before them is kept after them only if they are all
of another kind. -/
private theorem foldl_after_eq_some_iff {record : SettingsRecord} (events : List Event)
    (kept : Option SettingsRecord) :
    events.foldl Event.after kept = some record ↔
      (∃ before after, events = before ++ .saved record :: after ∧
        ∀ event ∈ after, event = .other) ∨
      (kept = some record ∧ ∀ event ∈ events, event = .other) := by
  induction events generalizing kept with
  | nil => simp
  | cons first rest ih =>
    rw [List.foldl_cons, ih, List.forall_mem_cons]
    constructor
    · rintro (⟨before, after, rfl, h⟩ | ⟨hkept, h⟩)
      · exact .inl ⟨first :: before, after, rfl, h⟩
      · cases first with
        | saved s =>
          injection hkept with hkept
          subst hkept
          exact .inl ⟨[], rest, rfl, h⟩
        | cleared => cases hkept
        | other => exact .inr ⟨hkept, rfl, h⟩
    · rintro (⟨before, after, heq, h⟩ | ⟨hkept, rfl, h⟩)
      · cases before with
        | nil =>
          injection heq with hfirst hrest
          subst hfirst hrest
          exact .inr ⟨rfl, h⟩
        | cons _ before =>
          injection heq with _ hrest
          exact .inl ⟨before, after, hrest, h⟩
      · exact .inr ⟨hkept, h⟩

/-- Settings are kept if they were saved and neither saved again nor cleared since then. -/
theorem latest_eq_some_iff {events : List Event} {record : SettingsRecord} :
    latest events = some record ↔ ∃ before after,
      events = before ++ .saved record :: after ∧ ∀ event ∈ after, event = .other := by
  rw [latest, foldl_after_eq_some_iff]
  simp

end Session

/-! ### Applications with one directory -/

/-- The container keeps its settings in the directory, and its clipboard spares the settings file,
as one does that was brought along for it. -/
structure Container.Uses (dir : Path) (c : Container β) : Prop where
  directory : c.store.directory = dir
  clipboard : c.clipboard.Spares (Settings.fileIn dir)
  injected : ∀ p ∈ c.injected, p.Spares (Settings.fileIn dir)

/-- A clipboard that is made for settings spares all files that programs spare. -/
theorem Container.uses_takingUp {dir : Path} {injected : Option (Clipboard (Host β))}
    (h : ∀ p ∈ injected, p.Spares (Settings.fileIn dir)) (r : SettingsRecord) (host : Host β) :
    (takingUp dir injected r host).Uses dir :=
  ⟨rfl, clipboard_of_adapterFor h (fun s => s.spares) rfl, h⟩

theorem Container.Uses.withSettings {dir : Path} {c : Container β} (h : c.Uses dir)
    (r : SettingsRecord) (host : Host β) : (c.withSettings r host).Uses dir :=
  ⟨h.directory, clipboard_of_adapterFor h.injected (fun s => s.spares) rfl, h.injected⟩

namespace Application

variable {dir standard : Path}

/-- All containers of the application use the directory, and programs spare the settings file. -/
structure Uses (dir standard : Path) (app : Application β) : Prop where
  standard : app.host.settingsDirectory = standard
  programs : app.host.programs.Spare (Settings.fileIn dir)
  containers : ∀ c ∈ app.containers, c.Uses dir

/-- From an application of this kind to another one the settings file is spared. -/
def Spared (dir standard : Path) (app after : Application β) : Prop :=
  app.Uses dir standard → after.Uses dir standard ∧
    Disk.SparedAt (Settings.fileIn dir) app.host.disk after.host.disk

instance (dir standard : Path) : IsPreorder (Application β) (Spared dir standard) where
  refl _ h := ⟨h, .refl _ _⟩
  trans _ _ _ h₁ h₂ h := ⟨(h₂ (h₁ h).1).1, (h₁ h).2.trans (h₂ (h₁ h).1).2⟩

theorem spared_of_host {app : Application β} {host : Host β}
    (h : Host.SparedAt (Settings.fileIn dir) app.host host) :
    Spared dir standard app { app with host } :=
  fun huses => ⟨⟨h.settingsDirectory.trans huses.standard, h.programs huses.programs,
    huses.containers⟩, h.disk huses.programs⟩

theorem start_build (given : Option GivenSettings) (directory : Option Path)
    (injected : Option (Clipboard (Host β))) (app : Application β) :
    (build given directory injected).start app =
      match (Container.build given directory injected).start app.host with
      | (.ok c, host) => (.ok app.containers.length,
          { app with host, containers := app.containers ++ [c] })
      | (.error f, host) => (.error f, { app with host }) := by
  simp only [build, onHost, Action.start_bind, Action.start_within]
  rcases (Container.build given directory injected).start app.host with ⟨_ | _, _⟩ <;> rfl

/-- Building adds a container to an application that uses the same directory. -/
theorem spared_build {directory : Option Path} {injected : Option (Clipboard (Host β))}
    (hdir : directory.getD standard = dir)
    (hinjected : ∀ clipboard ∈ injected, clipboard.Spares (Settings.fileIn dir))
    (given : Option GivenSettings) :
    (build given directory injected).Respects (Spared dir standard) := by
  intro app huses
  have hstore : directory.getD app.host.settingsDirectory = dir := by rw [huses.standard, hdir]
  rw [start_build]
  obtain ⟨notices, ⟨f, h⟩ | ⟨r, sent, h⟩⟩ :=
    Container.build_cases given directory injected app.host
  · rw [h]
    exact ⟨⟨huses.standard, huses.programs, huses.containers⟩, .refl _ _⟩
  · rw [hstore] at h
    rw [h]
    refine ⟨⟨huses.standard, huses.programs, fun c hc => ?_⟩, .refl _ _⟩
    rcases List.mem_append.1 hc with hc | hc
    · exact huses.containers c hc
    · rw [List.mem_singleton.1 hc]
      exact Container.uses_takingUp hinjected r _

theorem spared_update {app : Application β} (shared : Option Nat) :
    Spared dir standard app { app with shared } :=
  fun huses => ⟨⟨huses.standard, huses.programs, huses.containers⟩, .refl _ _⟩

/-- Whatever building respects, asking for the shared container respects, if that does not depend on
which container is shared. -/
theorem respects_sharedContainer {R : Application β → Application β → Prop}
    [IsPreorder (Application β) R]
    (hbuild : (build none none none : Action (Application β) Nat).Respects R)
    (hshared : ∀ (app : Application β) shared, R app { app with shared }) :
    (sharedContainer : Action (Application β) Nat).Respects R := by
  refine (Action.respects_ask _).bind fun shared => ?_
  cases shared with
  | some number => exact Action.respects_pure number
  | none =>
    refine hbuild.bind fun number => ?_
    exact Action.Respects.bind (fun app => hshared app _) fun _ => Action.respects_pure number

theorem respects_containerOrShared {R : Application β → Application β → Prop}
    [IsPreorder (Application β) R] {number : Option Nat}
    (h : number = none → (sharedContainer : Action (Application β) Nat).Respects R) :
    (containerOrShared number : Action (Application β) (Container β)).Respects R := by
  have hcontainer : ∀ n : Nat, (container n : Action (Application β) (Container β)).Respects R := by
    intro n app
    rcases container_cases n app with hf | ⟨c, -, hok⟩
    · rw [hf]
      exact refl_of R app
    · rw [hok]
      exact refl_of R app
  cases number with
  | some number => exact hcontainer number
  | none => exact (h rfl).bind hcontainer

theorem spared_sharedContainer (hdir : standard = dir) :
    (sharedContainer : Action (Application β) Nat).Respects (Spared dir standard) :=
  respects_sharedContainer (spared_build (by exact hdir) (by rintro _ ⟨⟩) none)
    fun _ => spared_update

theorem mem_of_container {number : Nat} {app app' : Application β} {c : Container β}
    (h : (container number).start app = (.ok c, app')) : c ∈ app'.containers := by
  rcases container_cases number app with hf | ⟨c', hc, hok⟩
  · rw [hf] at h
    cases h
  · rw [hok] at h
    cases h
    exact List.mem_of_getElem? hc

theorem mem_of_containerOrShared {number : Option Nat} {app app' : Application β}
    {c : Container β} (h : (containerOrShared number).start app = (.ok c, app')) :
    c ∈ app'.containers := by
  cases number with
  | some number => exact mem_of_container h
  | none =>
    rw [containerOrShared, Action.start_bind] at h
    rcases hs : sharedContainer.start app with ⟨f | number, t⟩
    · rw [hs] at h
      cases h
    · rw [hs] at h
      exact mem_of_container h

/-- A command spares what the clipboards of all containers spare. -/
theorem spared_onClipboard {number : Option Nat} (hdir : number = none → standard = dir)
    {command : Container β → Action (Host β) α}
    (hcommand : ∀ c : Container β, c.clipboard.Spares (Settings.fileIn dir) →
      (command c).Spares (Settings.fileIn dir)) :
    (containerOrShared number >>= fun c => onHost (command c)).Respects
      (Spared dir standard) := by
  have hshared := respects_containerOrShared fun h => spared_sharedContainer (β := β) (hdir h)
  refine hshared.bind_of fun app c app' h huses => ?_
  have hc := huses.containers c (mem_of_containerOrShared h)
  exact spared_of_host (hcommand c hc.clipboard app'.host) huses

/-! ### What holds between the steps -/

/-- The settings file of the directory that all containers use holds what is kept, and refusals to
remove it are honest. -/
structure Keeps (dir standard : Path) (kept : Option SettingsRecord) (app : Application β) :
    Prop where
  uses : app.Uses dir standard
  honest : app.host.disk.HonestAt (Settings.fileIn dir)
  disk : app.host.disk.Keeps dir kept

end Application

/-- A file that is spared goes on to hold what is kept. -/
theorem Disk.Keeps.of_sparedAt {dir : Path} {kept : Option SettingsRecord} {d e : Disk}
    (h : d.Keeps dir kept) (hspared : Disk.SparedAt (Settings.fileIn dir) d e) :
    e.Keeps dir kept := by
  cases h with
  | settings valid nameable hfind => exact .settings valid nameable (hspared.find hfind)
  | absent hn => exact .absent (hspared.node.trans hn)
  | directory hl hn => exact .directory hl (hspared.node.trans hn)

/-- What is undone leaves what is kept. -/
theorem Disk.Keeps.of_undone {dir : Path} {tokens : List Token} {kept : Option SettingsRecord}
    {d e : Disk} (h : d.Keeps dir kept) (hundone : SettingsStore.Undone ⟨dir⟩ tokens d e) :
    e.Keeps dir kept := by
  have hfile : d.GrownAt dir e (Settings.fileIn dir).resolved := hundone.node_file
  cases h with
  | settings valid nameable hfind =>
    have hnode := Disk.node?_of_find hfind
    refine .settings valid nameable ?_
    rw [Disk.find_of_keepsWay (hundone.keepsWay _) hfind]
    rcases hfile with he | ⟨-, hn, -⟩
    · rw [he, hnode]
    · rw [hnode] at hn
      cases hn
  | absent hn =>
    rcases hfile with he | ⟨hleads, -, he⟩
    · exact .absent (he.trans hn)
    · exact .directory hleads he
  | directory hleads hn =>
    rcases hfile with he | ⟨-, -, he⟩
    · exact .directory hleads (he.trans hn)
    · exact .directory hleads he

/-- Once the settings file has been removed, nothing is kept. -/
theorem Disk.Keeps.of_removed {dir : Path} {kept : Option SettingsRecord} {d e : Disk}
    (h : d.Keeps dir kept) (honest : d.HonestAt (Settings.fileIn dir))
    (hremoved : (Disk.removeIfPresent (Settings.fileIn dir)).start d = (.ok (), e)) :
    e.Keeps dir none ∧ e.refusal = d.refusal := by
  cases kept with
  | none =>
    rcases Disk.removeIfPresent_cases (Settings.fileIn dir) d with
      ⟨f, hf, -⟩ | ⟨content, x, hfind, -⟩ | hok
    · rw [hf] at hremoved
      cases hremoved
    · exact absurd hfind (h.find_ne content x)
    · rw [hok] at hremoved
      cases hremoved
      exact ⟨h, rfl⟩
  | some s =>
    obtain ⟨-, -, hfind⟩ | _ | _ := h
    rcases Disk.removeIfPresent_of_file honest hfind with ⟨f, hf, -⟩ | hok
    · rw [hf] at hremoved
      cases hremoved
    · rw [hok] at hremoved
      cases hremoved
      have hnode : d.node? (Settings.fileIn dir).resolved ≠ some .directory := by
        rw [Disk.node?_of_find hfind]
        nofun
      refine ⟨.absent ?_, rfl⟩
      rw [Disk.node?_erase d (Disk.names_ne_nil hnode), if_pos rfl]

namespace Application

variable {dir standard : Path} {kept : Option SettingsRecord} {app : Application β}

theorem Keeps.of_spared {after : Application β} (h : app.Keeps dir standard kept)
    (hspared : Spared dir standard app after) :
    after.Keeps dir standard kept ∧
      after.host.disk.node? (Settings.fileIn dir).resolved =
        app.host.disk.node? (Settings.fileIn dir).resolved := by
  obtain ⟨huses, hdisk⟩ := hspared h.uses
  exact ⟨⟨huses, hdisk.honest h.honest, h.disk.of_sparedAt hdisk⟩, hdisk.node⟩

/-- A container that takes the place of another one uses the directory as well. -/
theorem Uses.set {app : Application β} (h : app.Uses dir standard) {number : Nat}
    {c : Container β} (hc : app.containers[number]? = some c) (r : SettingsRecord) (host : Host β)
    (disk : Disk) (notices : List Notice) :
    Uses dir standard { app with
      host := { app.host with disk, notices }
      containers := app.containers.set number (c.withSettings r host) } := by
  refine ⟨h.standard, h.programs, fun c' hmem => ?_⟩
  rcases List.mem_or_eq_of_mem_set hmem with hmem | rfl
  · exact h.containers c' hmem
  · exact (h.containers c (List.mem_of_getElem? hc)).withSettings r host

end Application

/-- Settings that come as a mapping are valid if they are accepted. -/
theorem GivenSettings.valid_of_accepted {fields : Fields} {r : SettingsRecord}
    (h : (mapping fields).accepted = .ok r) : ∃ s : Settings, s.Valid ∧ r = s := by
  rw [accepted] at h
  rcases hv : Settings.validate fields with faults | s
  · rw [hv] at h
    cases h
  · rw [hv] at h
    cases h
    exact ⟨s, Settings.valid_of_validate hv, rfl⟩

namespace Step

variable {dir standard : Path} {kept : Option SettingsRecord} {app : Application β}

/-- What a step that has neither saved nor cleared leaves of the settings file: all of it, but that
a saving may have made a directory there. -/
def Leaves (dir : Path) (step : Step β) (d e : Disk) : Prop :=
  e.node? (Settings.fileIn dir).resolved = d.node? (Settings.fileIn dir).resolved ∨
    ((∃ number fields, step = .save number fields) ∧
      d.GrownAt dir e (Settings.fileIn dir).resolved)

/-- How a step ends where `kept` was kept. -/
structure Follows (dir standard : Path) (kept : Option SettingsRecord) (step : Step β)
    (app : Application β) (ended : Event × Application β) : Prop where
  keeps : ended.2.Keeps dir standard (ended.1.after kept)
  leaves : ended.1 = .other → step.Leaves dir app.host.disk ended.2.host.disk

/-- A step that has failed to do anything leaves what is kept. -/
theorem Follows.refl (h : app.Keeps dir standard kept) (step : Step β) :
    step.Follows dir standard kept app (.other, app) := ⟨h, fun _ => .inl rfl⟩

theorem follows_of_spared (h : app.Keeps dir standard kept) (step : Step β)
    {after : Application β} (hspared : Application.Spared dir standard app after) :
    step.Follows dir standard kept app (.other, after) := by
  obtain ⟨hkeeps, hnode⟩ := h.of_spared hspared
  exact ⟨hkeeps, fun _ => .inl hnode⟩

/-- A saving that succeeds is what is kept from then on; one that fails leaves what is kept. -/
theorem follows_save (h : app.Keeps dir standard kept) (number : Nat) (fields : Fields) :
    (save number fields).Follows dir standard kept app ((save number fields).perform app) := by
  rw [perform]
  rcases Application.container_cases number app with hf | ⟨c, hc, -⟩
  · -- there is no container with this number
    rw [Application.saveSettings, Action.start_bind, hf]
    exact .refl h _
  · have hstart := Application.start_change hc (.save (.mapping fields))
    rw [Application.change, Container.change] at hstart
    rw [hstart]
    obtain ⟨hdir, -, -⟩ := h.uses.containers c (List.mem_of_getElem? hc)
    rcases c.saveSettings_cases (.mapping fields) app.host with
      ⟨f, disk, hf, -, hundone⟩ |
      ⟨r, content, disk, haccepted, hcontent, hok, hrefusal, hnameable, hfind, -⟩
    · rw [hf]
      rw [show c.store = ⟨dir⟩ from congrArg SettingsStore.mk hdir] at hundone
      exact ⟨⟨⟨h.uses.standard, h.uses.programs, h.uses.containers⟩,
        h.honest.congr hundone.refusal, h.disk.of_undone hundone⟩,
        fun _ => .inr ⟨⟨number, fields, rfl⟩, hundone.node_file⟩⟩
    · -- only settings that passed validation are read back from their document
      obtain ⟨settings, hvalid, rfl⟩ := GivenSettings.valid_of_accepted haccepted
      cases hcontent
      rw [hok]
      rw [c.store.isUnnameable_file, hdir] at hnameable
      rw [SettingsStore.file, hdir] at hfind
      exact ⟨⟨h.uses.set hc settings _ disk _, h.honest.congr hrefusal,
        .settings hvalid hnameable hfind⟩, fun h => by cases h⟩

/-- A reset that succeeds leaves nothing that is kept; one that fails does nothing. -/
theorem follows_reset (h : app.Keeps dir standard kept) (number : Nat) :
    (reset number).Follows dir standard kept app ((reset number).perform app) := by
  rw [perform]
  rcases Application.container_cases number app with hf | ⟨c, hc, -⟩
  · rw [Application.resetSettings, Action.start_bind, hf]
    exact .refl h _
  · have hstart := Application.start_change hc .reset
    rw [Application.change, Container.change] at hstart
    rw [hstart]
    obtain ⟨hdir, -, -⟩ := h.uses.containers c (List.mem_of_getElem? hc)
    rcases c.resetSettings_cases app.host with ⟨f, hf, -⟩ | ⟨disk, hok, hremoved⟩
    · rw [hf]
      exact .refl h _
    · rw [hok]
      rw [SettingsStore.file, hdir] at hremoved
      obtain ⟨hdisk, hrefusal⟩ := h.disk.of_removed h.honest hremoved
      exact ⟨⟨h.uses.set hc ({} : Settings) _ disk _, h.honest.congr hrefusal, hdisk⟩,
        fun h => by cases h⟩

/-- **One step.** After any step the settings file holds what is kept then. -/
theorem follows_perform {step : Step β} (h : app.Keeps dir standard kept)
    (hstep : step.Allowed dir standard) :
    step.Follows dir standard kept app (step.perform app) := by
  cases step with
  | build given directory injected =>
    exact follows_of_spared h _ (Application.spared_build hstep.1 hstep.2 given app)
  | share => exact follows_of_spared h _ (Application.spared_sharedContainer hstep app)
  | forget => exact follows_of_spared h _ (Application.spared_update none)
  | save number fields => exact follows_save h number fields
  | reset number => exact follows_reset h number
  | copy number text =>
    exact follows_of_spared h _
      (Application.spared_onClipboard hstep (fun _ hc => Command.spares_copy hc text) app)
  | read number =>
    exact follows_of_spared h _
      (Application.spared_onClipboard hstep (fun _ hc => Command.spares_read hc) app)
  | surroundings change =>
    exact follows_of_spared h _ (Application.spared_of_host (hstep app.host))

end Step

/-! ### Sessions -/

namespace Session

variable {dir standard : Path}

/-- **A whole session.** By induction on its steps, each of which starts where the settings file
holds what is kept. -/
theorem keeps_run (steps : List (Step β)) {kept : Option SettingsRecord} {app : Application β}
    (hsteps : ∀ step ∈ steps, step.Allowed dir standard) (h : app.Keeps dir standard kept) :
    (run steps app).2.Keeps dir standard ((run steps app).1.foldl Event.after kept) := by
  induction steps generalizing kept app with
  | nil => exact h
  | cons step rest ih =>
    obtain ⟨hstep, hrest⟩ := List.forall_mem_cons.1 hsteps
    exact ih hrest (Step.follows_perform h hstep).keeps

/-- An application that asks for its shared container for the first time gets one that takes up what
is kept. -/
theorem sharedContainer_of_keeps {kept : Option SettingsRecord} {app : Application β}
    (hnameable : dir.isUnnameable = false) (h : app.Keeps dir dir kept)
    (hshared : app.shared = none) :
    ∃ after, Application.sharedContainer.start app = (.ok app.containers.length, after) ∧
      after.shared = some app.containers.length ∧
      after.containers =
        app.containers ++
          [Container.takingUp dir none (app.host.disk.loaded dir kept) app.host] := by
  obtain ⟨sent, notices, hbuild⟩ :=
    Container.build_of_keeps hnameable h.disk none h.uses.standard none
  rw [Application.sharedContainer, Action.start_bind, Action.start_ask, hshared]
  dsimp only
  rw [Action.start_bind, Application.start_build, hbuild]
  exact ⟨_, rfl, rfl, rfl⟩

/-- **The last saving wins.** A session begins where there is no settings file, in an application
without containers; programs, clipboards that are brought along and the surroundings spare the file.
After any steps the settings file is the document of the settings that were saved last, or there is
none if they were reset since then or never saved. A container that is built then, and the shared
one if it is built then, takes up these settings. A step that neither saves nor resets leaves the
file as it is. -/
theorem last_saving_wins {dir : Path} {host : Host β} {steps : List (Step β)}
    {events : List Event} {app : Application β}
    (habsent : host.disk.node? (Settings.fileIn dir).resolved = none)
    (hprograms : host.programs.Spare (Settings.fileIn dir))
    (honest : host.disk.HonestAt (Settings.fileIn dir))
    (hsteps : ∀ step ∈ steps, step.Allowed dir host.settingsDirectory)
    (hrun : run steps { host } = (events, app)) :
    app.host.disk.Keeps dir (latest events) ∧
      (dir.isUnnameable = false → ∀ injected, ∃ sent notices,
        (Container.build none (some dir) injected).start app.host =
          (.ok (.takingUp dir injected (app.host.disk.loaded dir (latest events))
            { app.host with notices := sent }), { app.host with notices })) ∧
      (dir.isUnnameable = false → host.settingsDirectory = dir → app.shared = none → ∃ after,
        Application.sharedContainer.start app = (.ok app.containers.length, after) ∧
          after.shared = some app.containers.length ∧
          after.containers = app.containers ++
            [.takingUp dir none (app.host.disk.loaded dir (latest events)) app.host]) ∧
      ∀ step : Step β, step.Allowed dir host.settingsDirectory →
        (step.perform app).1 = .other →
        step.Leaves dir app.host.disk (step.perform app).2.host.disk := by
  have hstart : Application.Keeps dir host.settingsDirectory none { host } :=
    ⟨⟨rfl, hprograms, fun _ hc => absurd hc List.not_mem_nil⟩, honest, .absent habsent⟩
  have h := keeps_run steps hsteps hstart
  rw [hrun] at h
  refine ⟨h.disk, fun hnameable => Container.build_of_keeps hnameable h.disk (some dir) rfl,
    fun hnameable hdir => ?_, fun step hstep => (Step.follows_perform h hstep).leaves⟩
  rw [hdir] at h
  exact sharedContainer_of_keeps hnameable h

/-- One container saves, another one resets and then saves: its settings are kept. -/
theorem last_saving_wins_of_two_containers :
    let dir := Path.ofText "/config/clipbridge"
    let host : Host Unit := { Host.bare () with
      temporaryTokens := [.ofText "x"], settingsDirectory := dir }
    let file := Settings.fileIn dir
    let steps : List (Step Unit) := [.build (some (.mapping [])) (some dir) none, .share,
      .save 0 [(Settings.backendField, .text "xclip")], .reset 1, .read none,
      .save 1 [(Settings.stripField, .bool true)]]
    let settings : Settings := { stripTrailingNewline := true }
    (host.disk.node? file.resolved = none ∧ host.programs.Spare file ∧ host.disk.HonestAt file ∧
        ∀ step ∈ steps, step.Allowed dir host.settingsDirectory) ∧
      latest (run steps { host }).1 = some settings.record ∧
      (run steps { host }).2.host.disk.Keeps dir (some settings) := by
  intro dir host file steps settings
  have habsent : host.disk.node? file.resolved = none := by decide +kernel
  have hprograms : host.programs.Spare file := fun _ _ disk => .refl file disk
  have honest : host.disk.HonestAt file := Disk.honestAt_of_refusal rfl
  have hsteps : ∀ step ∈ steps, step.Allowed dir host.settingsDirectory := by
    simp [steps, Step.Allowed, host]
  have hlatest : latest (run steps { host }).1 = some settings.record := by decide +kernel
  have h := (@last_saving_wins Unit dir host steps (run steps { host }).1 (run steps { host }).2
    habsent hprograms honest hsteps (Prod.eta _).symm).1
  rw [hlatest] at h
  exact ⟨⟨habsent, hprograms, honest, hsteps⟩, hlatest, h⟩

/-- Where the path of the directory leads through the settings file and back, there is a directory
in its place though nothing was saved; and a file that must not be read is passed over though it
holds the settings that were saved. -/
theorem directory_and_unreadable_file :
    let back := Path.ofText "/a/settings.json/.."
    let dir := Path.ofText "/config/clipbridge"
    let unreadable : Disk := { refusal := fun
      | .read _ => some (.numbered 13 "Permission denied" none none)
      | _ => none }
    let host (disk : Disk) : Host Unit := { Host.bare () with
      disk, temporaryTokens := [.ofText "x"] }
    let session (dir : Path) (disk : Disk) := run [.build (some (.mapping [])) (some dir) none,
      .save 0 [(Settings.stripField, .bool true)]] { host := host disk }
    (latest (session back {}).1 = none ∧
        (session back {}).2.host.disk.node? (Settings.fileIn back).resolved = some .directory) ∧
      latest (session dir unreadable).1 = some ({ stripTrailingNewline := true } : Settings) ∧
      ((Container.build none (some dir) none).start (session dir unreadable).2.host).1.map
        Container.settings = .ok ({} : Settings) := by
  decide +kernel

end Session

end Pasteboard
