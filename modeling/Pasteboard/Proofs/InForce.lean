import Mathlib.Data.List.Induction
import Pasteboard.Proofs.HostClipboard
import Pasteboard.Proofs.Session

/-!
# The settings in force

A container shows its settings, and its clipboard works with a copy of them. `Container.InForce`
says that the two go together and that the settings are valid. Building gives a container of this
kind, whatever the settings file holds (`Container.inForce_of_build`), and new settings are taken up
by both (`Container.InForce.withSettings`).

What a step does to the containers of an application is said once, in `Step.containers_perform`: it
adds some at the end, or one of them takes up valid settings. A container that was built in any step
is therefore of this kind after any further steps, whichever of them fail, and what its commands run
on the clipboard of the host is bounded by the settings that it shows (`Session.in_force`).

A clipboard that was brought along is asked whether it counts as true each time that settings are
taken up. `Container.HasTakenUp` says what follows from its answer, and `Session.in_force` that the
last answer counts. A clipboard that denies it is put aside without a word, though nobody has taken
it back (`Session.put_aside`).
-/

namespace Pasteboard

variable {β : Type}

/-! ### Containers -/

namespace Container

variable {brought : Option (Clipboard (Host β))} {c : Container β}

/-- The container shows valid settings, and its clipboard is one for them: that which was brought
along, if there is one, or that of the host with these settings. -/
structure InForce (brought : Option (Clipboard (Host β))) (c : Container β) : Prop where
  valid : ∃ s : Settings, s.Valid ∧ c.settings = s
  injected : c.injected = brought
  adapter : ∃ asked, c.adapter = adapterFor brought c.settings asked

/-- On the host the container has just taken up settings: its clipboard is the one that was brought
along, if that has said that it counts as true, and else that of the host. All that has happened
since then is that the settings were announced. -/
def HasTakenUp (c : Container β) (p : Clipboard (Host β)) (host : Host β) : Prop :=
  ∃ asked : Host β, host = asked.told c.settings ∧
    c.adapter = if p.counts asked then .injected p else .system (.ofSettings c.settings)

theorem adapterFor_some (p : Clipboard (Host β)) (r : SettingsRecord) (host : Host β) :
    adapterFor (some p) r host =
      if p.counts host then .injected p else .system (.ofSettings r) := by
  rw [adapterFor, Option.filter]
  cases p.counts host <;> rfl

/-- Valid settings are taken up. -/
theorem InForce.withSettings (h : c.InForce brought) {settings : Settings}
    (hvalid : settings.Valid) (host : Host β) : (c.withSettings settings host).InForce brought :=
  ⟨⟨settings, hvalid, rfl⟩, h.injected, host, congrArg (adapterFor · _ host) h.injected⟩

theorem InForce.hasTakenUp {p : Clipboard (Host β)} (h : c.InForce (some p)) (r : SettingsRecord)
    (host : Host β) : (c.withSettings r host).HasTakenUp p (host.told r) := by
  refine ⟨host, rfl, ?_⟩
  rw [← adapterFor_some, ← h.injected]
  rfl

/-- Settings that a container begins with are valid: they are loaded or validated. -/
theorem valid_of_beginning {store : SettingsStore} {given : Option GivenSettings}
    (hgiven : ∀ g ∈ given, g.IsMapping) {host after : Host β} {r : SettingsRecord}
    (h : (beginning store given).start host = (.ok r, after)) :
    ∃ s : Settings, s.Valid ∧ r = s := by
  cases given with
  | none =>
    rw [beginning, Action.start_map] at h
    obtain ⟨s, hload, rfl⟩ := map_eq_ok_iff.1 (congrArg Prod.fst h)
    exact ⟨s, SettingsStore.valid_of_load _ hload, rfl⟩
  | some given =>
    obtain ⟨fields, rfl⟩ := hgiven given rfl
    exact GivenSettings.valid_of_accepted (congrArg Prod.fst h)

/-- **What is built has its settings in force**, and has just taken them up. -/
theorem inForce_of_build {given : Option GivenSettings} (hgiven : ∀ g ∈ given, g.IsMapping)
    {directory : Option Path} {host after : Host β}
    (h : (build given directory brought).start host = (.ok c, after)) :
    c.InForce brought ∧ ∀ p, brought = some p → c.HasTakenUp p after := by
  rw [start_build_eq] at h
  rcases hstart : (beginning ⟨directory.getD host.settingsDirectory⟩ given).start host with
    ⟨f | r, asked⟩
  · rw [hstart] at h
    cases h
  · obtain ⟨s, hvalid, rfl⟩ := valid_of_beginning hgiven hstart
    rw [hstart] at h
    cases h
    refine ⟨⟨⟨s, hvalid, rfl⟩, rfl, asked, rfl⟩, ?_⟩
    rintro p rfl
    exact ⟨asked, rfl, adapterFor_some p s asked⟩

end Container

/-! ### What a step does to containers -/

namespace Application

/-- From `app` to `after` containers were added at the end, and all of them have a property. -/
def Adds (P : Container β → Prop) (app after : Application β) : Prop :=
  ∃ more, after.containers = app.containers ++ more ∧ ∀ c ∈ more, P c

variable {P : Container β → Prop}

theorem adds_of_eq {app after : Application β} (h : after.containers = app.containers) :
    Adds P app after :=
  ⟨[], by rw [h, List.append_nil], fun _ hc => absurd hc List.not_mem_nil⟩

theorem Adds.trans {app middle after : Application β} (h₁ : Adds P app middle)
    (h₂ : Adds P middle after) : Adds P app after := by
  obtain ⟨first, hfirst, hP⟩ := h₁
  obtain ⟨second, hsecond, hQ⟩ := h₂
  refine ⟨first ++ second, by rw [hsecond, hfirst, List.append_assoc], fun c hc => ?_⟩
  exact (List.mem_append.1 hc).elim (hP c) (hQ c)

instance (P : Container β → Prop) : IsPreorder (Application β) (Adds P) where
  refl _ := adds_of_eq rfl
  trans _ _ _ := Adds.trans

/-- Building adds the container that is built. -/
theorem adds_build {given : Option GivenSettings} {directory : Option Path}
    {injected : Option (Clipboard (Host β))}
    (hP : ∀ {host c after}, (Container.build given directory injected).start host = (.ok c, after) →
      P c) :
    (build given directory injected).Respects (Adds P) := by
  intro app
  rw [start_build]
  rcases hbuild : (Container.build given directory injected).start app.host with ⟨f | c, host⟩
  · exact adds_of_eq rfl
  · refine ⟨[c], rfl, fun c' hc' => ?_⟩
    rw [List.mem_singleton.1 hc']
    exact hP hbuild

/-- Asking for the shared container adds it if it is not there. -/
theorem adds_sharedContainer
    (hP : ∀ {host after : Host β} {c},
      (Container.build none none none).start host = (.ok c, after) → P c) :
    (sharedContainer : Action (Application β) Nat).Respects (Adds P) :=
  respects_sharedContainer (adds_build hP) fun _ _ => adds_of_eq rfl

/-- A command adds no container but the shared one. -/
theorem adds_command
    (hP : ∀ {host after : Host β} {c},
      (Container.build none none none).start host = (.ok c, after) → P c)
    (target : Option Nat) (command : Container β → Action (Host β) Reply) :
    (containerOrShared target >>= fun c => onHost (command c)).Respects (Adds P) :=
  (respects_containerOrShared fun _ => adds_sharedContainer hP).bind fun _ _ => adds_of_eq rfl

/-- From `app` to `after` one of the containers has taken up valid settings, which were announced.
-/
def TakesUp (app after : Application β) : Prop :=
  ∃ number c asked, ∃ settings : Settings, app.containers[number]? = some c ∧ settings.Valid ∧
    after.host = asked.told settings ∧
    after.containers = app.containers.set number (c.withSettings settings asked)

end Application

/-- Settings that are not taken as they are and that a change is to put in force are valid. -/
theorem Change.Validates.valid_of_meant {what : Change} (h : what.Validates) {r : SettingsRecord}
    (hmeant : what.meant = some r) : ∃ s : Settings, s.Valid ∧ r = s := by
  cases what with
  | save given =>
    obtain ⟨fields, rfl⟩ := h
    rcases haccepted : (GivenSettings.mapping fields).accepted with f | accepted
    · rw [Change.meant, haccepted] at hmeant
      cases hmeant
    · rw [Change.meant, haccepted] at hmeant
      cases hmeant
      exact GivenSettings.valid_of_accepted haccepted
  | reset =>
    cases hmeant
    exact ⟨{}, Settings.valid_default, rfl⟩

/-- After a change in an application its container has taken up valid settings, or nothing has
happened to the containers. -/
theorem Application.containers_change {P : Container β → Prop} (number : Nat) {what : Change}
    (hwhat : what.Validates) (app : Application β) :
    Adds P app ((Application.change number what).start app).2 ∨
      TakesUp app ((Application.change number what).start app).2 := by
  rcases Application.change_cases number what app with
    ⟨f, host, h, -⟩ | ⟨c, r, host, hc, hmeant, h⟩
  · rw [h]
    exact .inl (adds_of_eq rfl)
  · obtain ⟨s, hvalid, rfl⟩ := hwhat.valid_of_meant hmeant
    rw [h]
    exact .inr ⟨number, c, host, s, hc, hvalid, rfl, rfl⟩

namespace Step

/-- The clipboard that is brought along for the container that a step builds. -/
def brought : Step β → Option (Clipboard (Host β))
  | build _ _ injected => injected
  | _ => none

/-- The step builds no container from settings that are taken as they are. -/
def Validates : Step β → Prop
  | build given _ _ => ∀ g ∈ given, g.IsMapping
  | _ => True

/-- Saving and resetting in a step are changes, whether they count as done or not. -/
theorem snd_perform_save (number : Nat) (fields : Fields) (app : Application β) :
    ((save number fields).perform app).2 =
      ((Application.change number (.save (.mapping fields))).start app).2 := by
  rw [perform, Application.change]
  rcases (Application.saveSettings number (.mapping fields)).start app with ⟨_ | _, _⟩ <;> rfl

@[inherit_doc snd_perform_save]
theorem snd_perform_reset (number : Nat) (app : Application β) :
    ((reset number).perform app).2 = ((Application.change number .reset).start app).2 := by
  rw [perform, Application.change]
  rcases (Application.resetSettings number).start app with ⟨_ | _, _⟩ <;> rfl

/-- The container was built in the step: if its settings are validated they are in force, and it has
just taken them up. -/
def Built (step : Step β) (app : Application β) (c : Container β) : Prop :=
  step.Validates → c.InForce step.brought ∧
    ∀ p, step.brought = some p → c.HasTakenUp p (step.perform app).2.host

/-- **What a step does to the containers.** It adds containers with their settings in force, or one
that is there takes up valid settings. -/
theorem containers_perform (step : Step β) (app : Application β) :
    Application.Adds (step.Built app) app (step.perform app).2 ∨
      Application.TakesUp app (step.perform app).2 := by
  have hshared : ∀ {host after : Host β} {c}, (Container.build none none none).start host =
      (.ok c, after) → True → c.InForce none ∧ ∀ p, none = some p → c.HasTakenUp p after :=
    fun h _ => Container.inForce_of_build (by rintro _ ⟨⟩) h
  -- nobody brings a clipboard along for the shared container
  have hbare : ∀ {host after last : Host β} {c}, (Container.build none none none).start host =
      (.ok c, after) → True → c.InForce none ∧ ∀ p, none = some p → c.HasTakenUp p last :=
    fun h hvalidates => ⟨(hshared h hvalidates).1, by rintro _ ⟨⟩⟩
  cases step with
  | build given directory injected =>
    have hperform := Application.start_build given directory injected app
    rcases hbuild : (Container.build given directory injected).start app.host with ⟨f | c, host⟩
    · rw [hbuild] at hperform
      rw [perform, hperform]
      exact .inl (Application.adds_of_eq rfl)
    · rw [hbuild] at hperform
      refine .inl ⟨[c], by rw [perform, hperform], fun c' hc' hgiven => ?_⟩
      rw [List.mem_singleton.1 hc', perform, hperform]
      exact Container.inForce_of_build hgiven hbuild
  | share => exact .inl (Application.adds_sharedContainer hbare app)
  | forget => exact .inl (Application.adds_of_eq rfl)
  | save number fields =>
    have hchange : (Change.save (.mapping fields)).Validates := ⟨fields, rfl⟩
    rw [snd_perform_save]
    exact Application.containers_change number hchange app
  | reset number =>
    have hchange : Change.reset.Validates := trivial
    rw [snd_perform_reset]
    exact Application.containers_change number hchange app
  | copy target text => exact .inl (Application.adds_command hbare target _ app)
  | read target => exact .inl (Application.adds_command hbare target _ app)
  | surroundings change => exact .inl (Application.adds_of_eq rfl)

/-- What is in force stays in force, with the same settings and the same clipboard, or with others
that the container has just taken up. -/
theorem inForce_perform (step : Step β) {app : Application β} {number : Nat} {c : Container β}
    {brought : Option (Clipboard (Host β))} (hc : app.containers[number]? = some c)
    (h : c.InForce brought) :
    ∃ c', (step.perform app).2.containers[number]? = some c' ∧ c'.InForce brought ∧
      (c' = c ∨ ∀ p, brought = some p → c'.HasTakenUp p (step.perform app).2.host) := by
  rcases step.containers_perform app with
    ⟨more, hmore, -⟩ | ⟨other, c₁, asked, settings, hc₁, hvalid, hhost, hset⟩
  · exact ⟨c, by rw [hmore, List.getElem?_append_left (List.getElem?_eq_some_iff.1 hc).1, hc], h,
      .inl rfl⟩
  · rw [hset, hhost]
    -- the settings may have been given to this container or to another one
    by_cases hother : other = number
    · subst hother
      rw [hc] at hc₁
      cases hc₁
      refine ⟨_, List.getElem?_set_self (List.getElem?_eq_some_iff.1 hc).1,
        h.withSettings hvalid asked, .inr ?_⟩
      rintro p rfl
      exact h.hasTakenUp settings asked
    · exact ⟨c, by rw [List.getElem?_set_ne hother, hc], h, .inl rfl⟩

/-- A step that builds a container puts its settings in force. -/
theorem built_of_length_lt {step : Step β} {app : Application β}
    (hbuilt : app.containers.length < (step.perform app).2.containers.length) :
    ∃ c, (step.perform app).2.containers[app.containers.length]? = some c ∧ step.Built app c := by
  rcases step.containers_perform app with ⟨more, hmore, hP⟩ | ⟨_, _, _, _, -, -, -, hset⟩
  · cases more with
    | nil =>
      rw [hmore, List.append_nil] at hbuilt
      exact absurd hbuilt (Nat.lt_irrefl _)
    | cons c rest =>
      refine ⟨c, ?_, hP c List.mem_cons_self⟩
      rw [hmore, List.getElem?_append_right (Nat.le_refl _), Nat.sub_self, List.getElem?_cons_zero]
  · rw [hset, List.length_set] at hbuilt
    exact absurd hbuilt (Nat.lt_irrefl _)

end Step

/-! ### What commands run -/

/-- The number of the container that a command goes to, if that is there before the command: the one
that is named, or the shared one. -/
def Application.target? (app : Application β) : Option Nat → Option Nat
  | some number => some number
  | none => app.shared

/-- A step is a command that goes to the container with a number. -/
inductive Step.Commands (app : Application β) (number : Nat) : Operation → Step β → Prop
  | copy {target : Option Nat} (h : app.target? target = some number) (text : Value) :
    Commands app number .copy (.copy target text)
  | read {target : Option Nat} (h : app.target? target = some number) :
    Commands app number .read (.read target)

/-- A command does to the host what it does for the container that it goes to. -/
theorem Application.start_command {app : Application β} {number : Nat} {c : Container β}
    (hc : app.containers[number]? = some c) {target : Option Nat}
    (htarget : app.target? target = some number) (command : Container β → Action (Host β) Reply) :
    ((containerOrShared target >>= fun c => onHost (command c)).start app).2.host =
      ((command c).start app.host).2 := by
  have hthere : (container number).start app = (.ok c, app) := by
    rw [container, Action.start_bind, Action.start_ask]
    dsimp only
    rw [hc]
    rfl
  have hfound : (containerOrShared target).start app = (.ok c, app) := by
    cases target with
    | some n =>
      cases htarget
      exact hthere
    | none =>
      rw [containerOrShared, sharedContainer, Action.start_bind, Action.start_bind,
        Action.start_ask, show app.shared = some number from htarget]
      exact hthere
  rw [Action.start_bind, hfound]
  rfl

/-- A run is of the kind that the clipboard is configured for: it has the time of the clipboard, and
it is a command of the tool that is chosen on the host. -/
def SystemClipboard.Orders (clipboard : SystemClipboard) (host : Host β) (op : Operation)
    (run : Run) : Prop :=
  run.timeout = clipboard.timeout ∧
    ∃ backend tool, clipboard.choice host.surroundings = .ok (backend, tool) ∧
      run.command = tool.command op

theorem SystemClipboard.orders_of_mem_runsOf {clipboard : SystemClipboard} {r : Request}
    {host : Host β} {run : Run} (h : run ∈ clipboard.runsOf r host) :
    clipboard.Orders host r.operation run := by
  rw [runsOf] at h
  rcases hchoice : clipboard.choice host.surroundings with f | ⟨backend, tool⟩
  · rw [hchoice] at h
    cases h
  · rw [hchoice] at h
    dsimp only at h
    rcases hinput : r.input tool with f | input
    · rw [hinput] at h
      cases h
    · rw [hinput] at h
      dsimp only [Host.started] at h
      split_ifs at h
      · rw [List.mem_singleton.1 h]
        exact ⟨rfl, backend, tool, hchoice, rfl⟩
      · cases h

/-- **What a command runs** is what the clipboard of its container is configured for. A value that
is no text is not copied, and nothing is run for it. -/
theorem Step.orders_of_commands {app : Application β} {number : Nat} {c : Container β}
    (hc : app.containers[number]? = some c) {clipboard : SystemClipboard}
    (hclipboard : c.adapter = .system clipboard) {op : Operation} {command : Step β}
    (hcommand : command.Commands app number op) :
    ∃ runs, (command.perform app).2.host.runs = app.host.runs ++ runs ∧
      ∀ run ∈ runs, clipboard.Orders app.host op run := by
  have hanswer : ∀ r : Request, ∃ runs,
      ((Command.answer c r).start app.host).2.runs = app.host.runs ++ runs ∧
        ∀ run ∈ runs, clipboard.Orders app.host r.operation run := fun r =>
    ⟨_, Command.runs_answer hclipboard r app.host,
      fun _ => SystemClipboard.orders_of_mem_runsOf⟩
  cases hcommand with
  | copy htarget v =>
    have hhost := Application.start_command hc htarget fun c => Command.copy c v
    rw [perform, Application.copy, hhost]
    cases v with
    | text t => exact hanswer (.copy t)
    | _ => exact ⟨[], (List.append_nil _).symm, fun _ h => absurd h List.not_mem_nil⟩
  | read htarget =>
    rw [perform, Application.read, Application.start_command hc htarget Command.read]
    exact hanswer .read

namespace Session

/-- Steps that are done after others begin where these have ended. -/
theorem snd_run_append (before after : List (Step β)) (app : Application β) :
    (run (before ++ after) app).2 = (run after (run before app).2).2 := by
  induction before generalizing app with
  | nil => rfl
  | cons step rest ih => exact ih _

/-- What is in force stays in force through any steps. The container is as it was at the beginning
or as it was after some of the steps, when it had just taken up settings. By induction on the steps,
from the last one. -/
theorem inForce_run (steps : List (Step β)) {app : Application β} {number : Nat} {c : Container β}
    {brought : Option (Clipboard (Host β))} (hc : app.containers[number]? = some c)
    (h : c.InForce brought) (hfirst : ∀ p, brought = some p → c.HasTakenUp p app.host) :
    ∃ c', (run steps app).2.containers[number]? = some c' ∧ c'.InForce brought ∧
      ∃ before after, steps = before ++ after ∧
        (run before app).2.containers[number]? = some c' ∧
        ∀ p, brought = some p → c'.HasTakenUp p (run before app).2.host := by
  induction steps using List.reverseRecOn with
  | nil => exact ⟨c, hc, h, [], [], rfl, hc, hfirst⟩
  | append_singleton rest last ih =>
    obtain ⟨c', hc', hforce, before, after, hsteps, hbefore, htook⟩ := ih
    obtain ⟨c'', hc'', hforce', hkept⟩ := last.inForce_perform hc' hforce
    have hlast : (run (rest ++ [last]) app).2 = (last.perform (run rest app).2).2 :=
      snd_run_append rest [last] app
    rw [hlast]
    refine ⟨c'', hc'', hforce', ?_⟩
    -- unless the last step has changed the container, it is still as some earlier step has left it
    rcases hkept with rfl | htaken
    · exact ⟨before, after ++ [last], by rw [hsteps, List.append_assoc], hbefore, htook⟩
    · exact ⟨rest ++ [last], [], (List.append_nil _).symm, by rw [hlast, hc''],
        by rwa [hlast]⟩

/-- **A container works with the settings that it shows.** A step has built a container, from fields
that were validated or from the settings file, whatever it held; any other steps follow, on this
container and others, and some of them may fail. Then the settings that the container shows are
valid.

If no clipboard was brought along for the container, its clipboard is that of the host with these
settings. If one was brought along, it is the clipboard of the container if it has said that it
counts as true when the container took up settings for the last time, and else that of the host is.
One that always counts as true is therefore always the clipboard of the container.

Whatever a command of a container with a clipboard of the host runs has the timeout of its settings
and is a command of the tool that is chosen for their backend at that time. -/
theorem in_force {step : Step β} (hstep : step.Validates) {app : Application β}
    (hbuilt : app.containers.length < (step.perform app).2.containers.length)
    {steps : List (Step β)} {events : List Event} {reached : Application β}
    (hrun : run steps (step.perform app).2 = (events, reached)) :
    ∃ c, ∃ s : Settings, reached.containers[app.containers.length]? = some c ∧ c.settings = s ∧
      (s.Valid ∧ s.timeout.isFinite = true) ∧
      (step.brought = none → c.adapter = .system (.ofSettings s)) ∧
      (∀ p, step.brought = some p →
        (∃ before after, steps = before ++ after ∧
          (run before (step.perform app).2).2.containers[app.containers.length]? = some c ∧
          c.HasTakenUp p (run before (step.perform app).2).2.host) ∧
        ((∀ host, p.counts host = true) → c.adapter = .injected p ∧ c.clipboard = p)) ∧
      ∀ clipboard, c.adapter = .system clipboard →
        clipboard = .ofSettings s ∧
        ∀ op (command : Step β), command.Commands reached app.containers.length op →
          ∃ runs, (command.perform reached).2.host.runs = reached.host.runs ++ runs ∧
            ∀ run ∈ runs, run.timeout = .float s.timeout ∧ ∃ tool,
              Tool.resolve reached.host.surroundings s.backend = .ok tool ∧
                run.command = tool.command op := by
  obtain ⟨first, hfirst, hnew⟩ := Step.built_of_length_lt hbuilt
  obtain ⟨hforce, htaken⟩ := hnew hstep
  obtain ⟨c, hc, ⟨⟨s, hvalid, hs⟩, -, asked, hadapter⟩, before, after, hsteps, hbefore, htook⟩ :=
    inForce_run steps hfirst hforce htaken
  rw [hrun] at hc
  rw [hs] at hadapter
  have hfinite : s.timeout.isFinite = true := by
    obtain ⟨place, htimeout⟩ := hvalid.timeout_eq
    rw [htimeout]
    rfl
  have hsystem : ∀ clipboard, c.adapter = .system clipboard → clipboard = .ofSettings s := by
    intro clipboard hclipboard
    rw [hadapter, Container.adapterFor] at hclipboard
    split at hclipboard <;> cases hclipboard
    rfl
  refine ⟨c, s, hc, hs, ⟨hvalid, hfinite⟩, fun hnone => ?_, fun p hp => ?_,
    fun clipboard hclipboard => ⟨hsystem clipboard hclipboard, fun op command hcommand => ?_⟩⟩
  · rw [hadapter, hnone]
    rfl
  · refine ⟨⟨before, after, hsteps, hbefore, htook p hp⟩, fun hcounts => ?_⟩
    have hinjected : c.adapter = .injected p := by
      rw [hadapter, hp, Container.adapterFor_some, if_pos (hcounts asked)]
    exact ⟨hinjected, by rw [Container.clipboard, hinjected]⟩
  · obtain ⟨runs, hruns, horders⟩ := Step.orders_of_commands hc hclipboard hcommand
    refine ⟨runs, hruns, fun run hrun => ?_⟩
    obtain ⟨htimeout, backend, tool, hchoice, hcommand⟩ := horders run hrun
    rw [hsystem clipboard hclipboard] at htimeout hchoice
    obtain ⟨hbackend, hresolve⟩ := SystemClipboard.choice_eq_ok_iff.1 hchoice
    cases hbackend
    exact ⟨htimeout, tool, hresolve, hcommand⟩

/-- The settings file is no document, so the container begins with the defaults; a timeout that is
too long is refused, and a shorter one is in force in the next command. -/
theorem in_force_of_refused_timeout :
    let dir := Path.ofText "/config"
    let file := Settings.fileIn dir
    let disk := (({} : Disk).put dir .directory).put file (.file [0xff] false)
    let host : Host Unit := { Host.bare () with
      disk, temporaryTokens := [.ofText "x"], platform := "darwin"
      programs := .scripted ["pbcopy", "osascript"] (.exited 0 [10] []) }
    let save (seconds : Int) : Step Unit := .save 0 [(Settings.timeoutField, .int seconds)]
    let step : Step Unit := .build none (some dir) none
    let app : Application Unit := { host }
    let reached := (run [save 61, save 2, save 0] (step.perform app).2).2
    (step.Validates ∧ app.containers.length < (step.perform app).2.containers.length) ∧
      ∃ c, ∃ s : Settings, reached.containers[app.containers.length]? = some c ∧ c.settings = s ∧
        s.Valid ∧ s.timeout = Binary64.ofInt 2 ∧
        ∃ r, ((Step.read (some 0)).perform reached).2.host.runs = [r] ∧
          r.timeout = .float s.timeout := by
  intro dir file disk host save step app reached
  have hstep : step.Validates := by rintro _ ⟨⟩
  have hbuilt : app.containers.length < (step.perform app).2.containers.length := by
    decide +kernel
  obtain ⟨c, s, hc, hs, ⟨hvalid, -⟩, hadapter, -, hsystem⟩ :=
    @in_force Unit step hstep app hbuilt [save 61, save 2, save 0] _ reached (Prod.eta _).symm
  obtain ⟨runs, hruns, horders⟩ := (hsystem _ (hadapter rfl)).2 .read (.read (some 0)) (.read rfl)
  have htwo : ∀ c ∈ reached.containers[app.containers.length]?,
      c.settings.timeout = .float (Binary64.ofInt 2) := by decide +kernel
  have hseconds : Value.float s.timeout = .float (Binary64.ofInt 2) := by
    rw [← htwo c hc, hs]
    rfl
  -- nothing was run before the command, and one run is made for it
  have hbefore : reached.host.runs = [] := by decide +kernel
  have hone : ((Step.read (some 0)).perform reached).2.host.runs.length = 1 := by decide +kernel
  obtain ⟨r, hr⟩ := List.length_eq_one_iff.1 hone
  rw [hr, hbefore, List.nil_append] at hruns
  obtain ⟨htimeout, -⟩ := horders r (hruns ▸ List.mem_singleton_self r)
  exact ⟨⟨hstep, hbuilt⟩, c, s, hc, hs, hvalid, Value.float.inj hseconds, r, hr, htimeout⟩

/-- A clipboard that is there, was brought along and would hand out handles, but that counts as true
only as long as it holds something, is put aside as soon as settings are saved while it is empty. -/
theorem put_aside :
    let shelf : Clipboard (Host Bool) :=
      { acquire := pure { hooks := ⟨pure .null, fun _ => pure (), pure ()⟩ }
        counts := Host.memory }
    let host : Host Bool := { Host.bare true with temporaryTokens := [.ofText "x"] }
    let step : Step Bool := .build (some (.mapping [])) none (some shelf)
    let emptied : Step Bool := .surroundings fun host => { host with memory := false }
    let app : Application Bool := { host }
    let usesShelf (app : Application Bool) : Bool := app.containers.all fun c =>
      match c.adapter with
      | .injected _ => true
      | .system _ => false
    step.brought.isSome = true ∧ (step.perform app).2.containers.length = 1 ∧
      usesShelf (step.perform app).2 = true ∧
      usesShelf (run [emptied, .save 0 []] (step.perform app).2).2 = false := by
  decide +kernel

end Session

end Pasteboard
