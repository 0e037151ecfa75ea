import Mathlib.Data.List.Basic
import Pasteboard.Proofs.Notices
import Pasteboard.Proofs.SharedContainer
import Pasteboard.Proofs.ValueOrError
import Pasteboard.Proofs.Visits

/-!
# The log tells what happened

The calls of an application are served one after the other; a `Turn` is one of them together with
the application that it finds. What is known of a turn from outside is how it ends, which containers
it leaves and which settings these have. What is known from the log is what was sent in the turn.
`Turn.Truthful` says that the two agree: the warnings of the commands are the errors of the replies,
what is announced are the settings that were taken up, and a handle of the host's clipboard is
opened and released in the turn that needs it.

Every call makes a turn of this kind (`Call.truthful`), so the log of a whole run is the log that it
began with and the outcomes of its turns (`Application.truthful_log`). Clipboards that a caller
brings along are taken not to speak for the library (`Clipboard.Orderly`); what else they do, and
what programs do, is left open.
-/

namespace Pasteboard

variable {β : Type}

/-! ### Clipboards that do not speak for the library -/

/-- The clipboard sends nothing that the library would send, or it is a clipboard of the host. -/
def Clipboard.Orderly (p : Clipboard (Host β)) : Prop :=
  p.Discreet ∨ ∃ clipboard : SystemClipboard, p = clipboard.asClipboard

/-- The clipboard of the container is orderly, and so is the one that was brought along, which is in
use again when it counts as true. -/
structure Container.Orderly (c : Container β) : Prop where
  clipboard : c.clipboard.Orderly
  injected : ∀ p ∈ c.injected, p.Orderly

/-- A container that takes up a record goes over to an orderly clipboard. -/
theorem Container.orderly_of_adapterFor {c : Container β} {r : SettingsRecord} {host : Host β}
    (hinjected : ∀ p ∈ c.injected, p.Orderly) (h : c.adapter = adapterFor c.injected r host) :
    c.Orderly := by
  refine ⟨?_, hinjected⟩
  rw [Container.clipboard, h, adapterFor]
  rcases hcounts : c.injected.filter fun p => p.counts host with _ | p <;> rw [hcounts]
  · exact .inr ⟨_, rfl⟩
  · exact hinjected p (Option.filter_eq_some_iff.1 hcounts).1

theorem Container.Orderly.withSettings {c : Container β} (h : c.Orderly) (r : SettingsRecord)
    (host : Host β) : (c.withSettings r host).Orderly :=
  orderly_of_adapterFor h.injected rfl

/-- A command on an orderly clipboard warns of its error and announces nothing, and its handles are
balanced. On the clipboard of the host it has one handle if a tool can be chosen. -/
theorem Command.sends_answer {c : Container β} (hc : c.Orderly) (r : Request) (host : Host β) :
    ∃ handling, host.Sends ((answer c r).start host).2
        (complaints r.operation ((answer c r).start host).1) [] handling ∧
      Notice.Balanced handling ∧
      ∀ clipboard : SystemClipboard, c.clipboard = clipboard.asClipboard →
        clipboard.Handles r.operation host.surroundings handling := by
  rw [answer_eq]
  have hsystem : ∀ clipboard : SystemClipboard, c.clipboard = clipboard.asClipboard →
      ∃ handling, host.Sends ((c.clipboard.transfer r).start host).2 [] [] handling ∧
        clipboard.Handles r.operation host.surroundings handling := fun clipboard h => by
    rw [h]
    exact clipboard.sends_transfer r host
  have htransfer : ∃ handling,
      host.Sends ((c.clipboard.transfer r).start host).2 [] [] handling ∧
        Notice.Balanced handling := by
    rcases hc.clipboard with hdiscreet | ⟨clipboard, h⟩
    · exact ⟨[], hdiscreet.transfer r host, Notice.balanced_nil⟩
    · obtain ⟨handling, hsends, hhandles⟩ := hsystem clipboard h
      exact ⟨handling, hsends, hhandles.balanced⟩
  obtain ⟨handling, hsends, hbalanced⟩ := htransfer
  refine ⟨handling, sends_replying hsends, hbalanced, fun clipboard h => ?_⟩
  -- there is one account of the transfer, whichever of its clipboards it is told from
  obtain ⟨said, hsaid, hhandles⟩ := hsystem clipboard h
  rwa [hsends.handling_unique hsaid]

namespace Application

/-! ### Turns -/

/-- A call, and the application that it finds. -/
structure Turn (β : Type) where
  call : Call β
  before : Application β

/-- The turns of a series of calls. -/
def transcript : List (Call β) → Application β → List (Turn β)
  | [], _ => []
  | call :: rest, app => ⟨call, app⟩ :: transcript rest (call.after app)

/-- What a command asks of a clipboard; nothing if what is to be copied is no text. -/
def Call.request? : Call β → Option Request
  | copy _ (.text t) => some (.copy t)
  | read _ => some .read
  | _ => none

/-- The number of the container that a command names. -/
def Call.target? : Call β → Option Nat
  | copy target _ => target
  | read target => target
  | _ => none

namespace Turn

/-- How the call ends. -/
def outcome (t : Turn β) : Except Failure Answer := (t.call.perform.start t.before).1

/-- The application that the call leaves. -/
def after (t : Turn β) : Application β := t.call.after t.before

/-- What was sent in the turn. -/
def sent (t : Turn β) : List Notice := t.after.host.notices.drop t.before.host.notices.length

/-- The containers that were built in the turn. -/
def built (t : Turn β) : List (Container β) :=
  t.after.containers.drop t.before.containers.length

/-- The records that were taken up in the turn: those of the containers that were built, and that of
a container whose settings were saved or reset. -/
def takenUp (t : Turn β) : List SettingsRecord :=
  t.built.map Container.settings ++
    match t.outcome with
    | .ok (.settings r) => [r]
    | _ => []

/-- What is to be warned of: the error of a reply that is not fine, with the command of it. -/
def complaints (t : Turn β) : List Notice :=
  match t.call.request?, t.outcome with
  | some r, .ok (.reply reply) => reply.complaints r.operation
  | _, _ => []

/-- The container serves the command of the turn: it is the one that is named, or the one that is
shared by then. -/
def ServedBy (t : Turn β) (c : Container β) : Prop :=
  ∃ number, t.call.target?.or t.after.shared = some number ∧
    t.after.containers[number]? = some c

/-- If a container was to be built, it is the one new container, or that has failed and there is no
new one. -/
def BuildsOrFails (t : Turn β) : Prop :=
  ∀ given directory injected, t.call = .build given directory injected →
    (∃ f, t.outcome = .error f ∧ t.built = []) ∨
      ∃ c, t.outcome = .ok (.number t.before.containers.length) ∧ t.built = [c]

/-- A record that was saved, or that of the defaults, is in force in its container. -/
def PutsInForce (t : Turn β) : Prop :=
  ∀ number what r, t.call = .change number what → t.outcome = .ok (.settings r) →
    t.after.containers[number]?.map Container.settings = some r

/-- **What is sent in a turn agrees with what happens in it.** -/
structure Truthful (t : Turn β) : Prop where
  /-- Nothing that was sent before is taken back. -/
  grows : t.before.host.notices <+: t.after.host.notices
  /-- A command replies with a value or an error. -/
  replies : ∀ reply, t.outcome = .ok (.reply reply) →
    reply.Exclusive ∧ ∃ r, t.call.request? = some r
  builds : t.BuildsOrFails
  changes : t.PutsInForce
  /-- The warnings of the commands are the errors of the replies. -/
  warns : Notice.complaints t.sent = t.complaints
  /-- What is announced are the records that were taken up, each with a notice of its own. -/
  announces : (Notice.announcements t.sent).map some = t.takenUp.map Notice.ready?
  /-- No handle is left. -/
  balanced : Notice.Balanced t.sent
  /-- On the clipboard of the host a request has one handle if a tool can be chosen. -/
  handles : ∀ r c, t.call.request? = some r → t.ServedBy c →
    ∀ clipboard : SystemClipboard, c.clipboard = clipboard.asClipboard →
      clipboard.Handles r.operation t.before.host.surroundings (Notice.handling t.sent)
  /-- Without a request and a container that serves it there is no handle. -/
  idle : (∀ r c, t.call.request? = some r → ¬ t.ServedBy c) → Notice.handling t.sent = []

variable {t : Turn β}

/-- What was sent is looked at in three accounts. -/
theorem truthful_of_sends {handling : List Notice}
    (hsends : t.before.host.Sends t.after.host t.complaints t.takenUp handling)
    (hbalanced : Notice.Balanced handling)
    (replies : ∀ reply, t.outcome = .ok (.reply reply) →
      reply.Exclusive ∧ ∃ r, t.call.request? = some r)
    (builds : t.BuildsOrFails) (changes : t.PutsInForce)
    (handles : ∀ r c, t.call.request? = some r → t.ServedBy c →
      ∀ clipboard : SystemClipboard, c.clipboard = clipboard.asClipboard →
        clipboard.Handles r.operation t.before.host.surroundings handling)
    (idle : (∀ r c, t.call.request? = some r → ¬ t.ServedBy c) → handling = []) :
    t.Truthful := by
  obtain ⟨grows, warns, announces, rfl⟩ := hsends.drop
  exact ⟨grows, replies, builds, changes, warns, announces,
    Notice.balanced_handling_iff.1 hbalanced, handles, idle⟩

/-- A turn without a request and a reply has nothing to warn of, and no handle. -/
theorem truthful_of_no_request (hrequest : t.call.request? = none)
    (hreply : ∀ reply, t.outcome ≠ .ok (.reply reply))
    (hsends : t.before.host.Sends t.after.host [] t.takenUp [])
    (builds : t.BuildsOrFails) (changes : t.PutsInForce) : t.Truthful := by
  have hwarned : t.before.host.Sends t.after.host t.complaints t.takenUp [] := by
    rw [complaints, hrequest]
    exact hsends
  refine truthful_of_sends hwarned Notice.balanced_nil (fun reply h => absurd h (hreply reply))
    builds changes (fun r c hr => ?_) fun _ => rfl
  rw [hrequest] at hr
  cases hr

end Turn

/-! ### Containers that are built on the way -/

/-- All containers of the application are orderly. -/
def Orderly (app : Application β) : Prop := ∀ c ∈ app.containers, c.Orderly

/-- From `app` to `there` containers were built and announced. The other ones and what tools are
chosen by are as they were. -/
structure Grown (app there : Application β) (built : List (Container β)) : Prop where
  containers : there.containers = app.containers ++ built
  sends : app.host.Sends there.host [] (built.map Container.settings) []
  surroundings : there.host.surroundings = app.host.surroundings
  orderly : app.Orderly → there.Orderly

theorem Grown.refl (app : Application β) : Grown app app [] :=
  ⟨(List.append_nil _).symm, Host.Discreet.of_eq rfl, rfl, id⟩

/-- Which container is shared does not matter. -/
theorem Grown.share {app there : Application β} {built : List (Container β)}
    (h : Grown app there built) (shared : Option Nat) : Grown app { there with shared } built :=
  ⟨h.containers, h.sends, h.surroundings, h.orderly⟩

/-- Building fails and builds nothing, or it builds one container. -/
theorem grown_build (given : Option GivenSettings) (directory : Option Path)
    {injected : Option (Clipboard (Host β))} (h : ∀ p ∈ injected, p.Orderly)
    (app : Application β) :
    ∃ there, there.shared = app.shared ∧
      ((∃ f, (build given directory injected).start app = (.error f, there) ∧
          Grown app there []) ∨
        ∃ c, (build given directory injected).start app = (.ok app.containers.length, there) ∧
          Grown app there [c]) := by
  have hannounces := Container.announces_build given directory injected app.host
  rw [start_build]
  obtain ⟨notices, ⟨f, hbuild⟩ | ⟨r, sent, hbuild⟩⟩ :=
    Container.build_cases given directory injected app.host
  · rw [hbuild] at hannounces ⊢
    exact ⟨{ app with host := { app.host with notices } }, rfl,
      .inl ⟨f, rfl, (List.append_nil _).symm, hannounces, rfl, id⟩⟩
  · rw [hbuild] at hannounces ⊢
    refine ⟨{ app with host := { app.host with notices }, containers := app.containers ++ [_] },
      rfl, .inr ⟨_, rfl, rfl, hannounces, rfl, fun horderly c hc => ?_⟩⟩
    rcases List.mem_append.1 hc with hc | hc
    · exact horderly c hc
    · rw [List.mem_singleton.1 hc]
      exact Container.orderly_of_adapterFor h rfl

/-- Whoever asks for the shared container gets its number, unless there is none and none can be
built. -/
theorem grown_sharedContainer (app : Application β) :
    ∃ result there built, sharedContainer.start app = (result, there) ∧
      Grown app there built ∧ result.toOption = there.shared := by
  rcases hshared : app.shared with _ | number
  · rw [sharedContainer, Action.start_bind, Action.start_ask, hshared]
    dsimp only
    rw [Action.start_bind]
    obtain ⟨there, hthere, ⟨f, hbuild, hgrown⟩ | ⟨c, hbuild, hgrown⟩⟩ :=
      @grown_build β none none none (by rintro _ ⟨⟩) app
    · rw [hbuild]
      exact ⟨_, there, [], rfl, hgrown, (hthere.trans hshared).symm⟩
    · rw [hbuild]
      exact ⟨_, _, [c], rfl, hgrown.share _, rfl⟩
  · exact ⟨_, app, [], start_sharedContainer hshared, .refl app, hshared.symm⟩

/-- Asking for a container by its number changes nothing. -/
theorem start_container_iff (number : Nat) (app : Application β) :
    ∃ result, (container number).start app = (result, app) ∧
      ∀ c, result = .ok c ↔ app.containers[number]? = some c := by
  rcases container_cases number app with hf | ⟨c, hc, hok⟩
  · refine ⟨.error _, hf, fun c => iff_of_false nofun fun hc => ?_⟩
    rw [start_container hc] at hf
    cases hf
  · exact ⟨.ok c, hok, fun d => by rw [hc, Except.ok.injEq, Option.some.injEq]⟩

/-- A command gets the container that it names or the one that is shared by then, if there is such a
container. -/
theorem grown_containerOrShared (target : Option Nat) (app : Application β) :
    ∃ result there built, (containerOrShared target).start app = (result, there) ∧
      Grown app there built ∧ ∀ c, result = .ok c ↔
        ∃ number, target.or there.shared = some number ∧ there.containers[number]? = some c := by
  cases target with
  | some number =>
    obtain ⟨result, hstart, hresult⟩ := start_container_iff number app
    refine ⟨result, app, [], hstart, .refl app, fun c => ?_⟩
    rw [hresult, Option.some_or]
    simp
  | none =>
    rw [containerOrShared, Action.start_bind]
    obtain ⟨result, there, built, hstart, hgrown, hshared⟩ := grown_sharedContainer app
    rw [hstart]
    rcases result with f | number
    · exact ⟨_, there, built, rfl, hgrown, fun c => by simp [← hshared, Except.toOption]⟩
    · obtain ⟨result, hcontainer, hresult⟩ := start_container_iff number there
      refine ⟨result, there, built, hcontainer, hgrown, fun c => ?_⟩
      rw [hresult, ← hshared]
      simp [Except.toOption]

/-! ### One call -/

/-- Clipboards that are brought along are orderly, and what goes on around the application does not
speak for the library. -/
def Call.Discreet : Call β → Prop
  | build _ _ injected => ∀ p ∈ injected, p.Orderly
  | surroundings turn => ∀ host : Host β, host.Discreet (turn host)
  | _ => True

section OneCall

variable {call : Call β} {app there : Application β} {outcome : Except Failure Answer}
  {built : List (Container β)}

/-- Where no settings are saved or reset, those of the containers that are built are taken up. -/
theorem Turn.takenUp_eq (hperform : call.perform.start app = (outcome, there))
    (hcontainers : there.containers = app.containers ++ built)
    (houtcome : ∀ settings, outcome ≠ .ok (.settings settings)) :
    (⟨call, app⟩ : Turn β).built = built ∧
      (⟨call, app⟩ : Turn β).takenUp = built.map Container.settings := by
  have hbuilt : (⟨call, app⟩ : Turn β).built = built := by
    rw [Turn.built, Turn.after, Call.after, hperform, hcontainers, List.drop_left]
  refine ⟨hbuilt, ?_⟩
  rw [Turn.takenUp, hbuilt, Turn.outcome, hperform]
  dsimp only
  split
  · next settings => exact absurd rfl (houtcome settings)
  · exact List.append_nil _

/-- A call that neither asks anything of a clipboard nor changes settings may build containers. -/
theorem truthful_of_built (hperform : call.perform.start app = (outcome, there))
    (hcontainers : there.containers = app.containers ++ built)
    (hsends : app.host.Sends there.host [] (built.map Container.settings) [])
    (hrequest : call.request? = none)
    (houtcome : ∀ answer, outcome = .ok answer → answer = .done ∨ ∃ number, answer = .number number)
    (builds : ∀ given directory injected, call = .build given directory injected →
      (∃ f, outcome = .error f ∧ built = []) ∨
        ∃ c, outcome = .ok (.number app.containers.length) ∧ built = [c]) :
    (⟨call, app⟩ : Turn β).Truthful := by
  have hreply : ∀ reply, outcome ≠ .ok (.reply reply) := fun reply h => by
    rcases houtcome _ h with h | ⟨_, h⟩ <;> cases h
  have hsettings : ∀ settings, outcome ≠ .ok (.settings settings) := fun settings h => by
    rcases houtcome _ h with h | ⟨_, h⟩ <;> cases h
  obtain ⟨hbuilt, htaken⟩ := Turn.takenUp_eq hperform hcontainers hsettings
  have houtcome : (⟨call, app⟩ : Turn β).outcome = outcome := congrArg Prod.fst hperform
  have hafter : (⟨call, app⟩ : Turn β).after = there := congrArg Prod.snd hperform
  refine Turn.truthful_of_no_request hrequest ?_ ?_ ?_ ?_
  · rwa [houtcome]
  · rwa [hafter, htaken]
  · rwa [Turn.BuildsOrFails, houtcome, hbuilt]
  · intro number what settings _ h
    rw [houtcome] at h
    exact absurd h (hsettings settings)

theorem start_perform_change (number : Nat) (what : Change) (app : Application β) :
    (Call.change number what : Call β).perform.start app =
      (((change number what).start app).1.map .settings, ((change number what).start app).2) :=
  Action.start_map _ _ app

/-- A change builds no container. If it succeeds, its record is taken up. -/
theorem takenUp_change (number : Nat) (what : Change) (app : Application β) :
    (⟨.change number what, app⟩ : Turn β).takenUp =
      ((change number what).start app).1.toOption.toList := by
  -- one container is replaced at most, so none is new
  have hbuilt : (⟨.change number what, app⟩ : Turn β).built = [] := by
    rw [Turn.built, Turn.after, Call.after, start_perform_change]
    refine List.drop_eq_nil_of_le (Nat.le_of_eq ?_)
    rcases change_cases number what app with ⟨f, host, hf, -⟩ | ⟨c, r, host, -, -, hok⟩
    · rw [hf]
    · rw [hok]
      exact List.length_set
  rw [Turn.takenUp, hbuilt, Turn.outcome, start_perform_change]
  rcases ((change number what).start app).1 with f | r <;> rfl

/-- The record of a change that succeeds is in force. -/
theorem putsInForce_change (number : Nat) (what : Change) (app : Application β) :
    (⟨.change number what, app⟩ : Turn β).PutsInForce := by
  rintro _ _ taken ⟨⟩ htaken
  rw [Turn.outcome, start_perform_change] at htaken
  rw [Turn.after, Call.after, start_perform_change]
  rcases change_cases number what app with ⟨f, host, hf, -⟩ | ⟨c, r, host, hc, -, hok⟩
  · rw [hf] at htaken
    cases htaken
  · rw [hok] at htaken ⊢
    rw [List.getElem?_set_self (List.getElem?_eq_some_iff.1 hc).1]
    -- a record whose backend has no name is in force as well, but the change has failed
    rcases hnamed : r.named with f | b <;> rw [hnamed] at htaken <;> cases htaken
    rfl

theorem orderly_change (number : Nat) (what : Change) (horderly : app.Orderly) :
    ((Call.change number what).after app).Orderly := by
  intro d hd
  rw [Call.after, start_perform_change] at hd
  rcases change_cases number what app with ⟨f, host, hf, -⟩ | ⟨c, r, host, hc, -, hok⟩
  · rw [hf] at hd
    exact horderly d hd
  · rw [hok] at hd
    rcases List.mem_or_eq_of_mem_set hd with hd | rfl
    · exact horderly d hd
    · exact (horderly c (List.mem_of_getElem? hc)).withSettings r host

/-- A change of settings that succeeds is announced, and its record is in force. -/
theorem truthful_change (number : Nat) (what : Change) (app : Application β) :
    (⟨.change number what, app⟩ : Turn β).Truthful := by
  have hsends := announces_change number what app
  refine Turn.truthful_of_no_request rfl ?_ ?_ (by rintro _ _ _ ⟨⟩)
    (putsInForce_change number what app)
  · rw [Turn.outcome, start_perform_change]
    rcases ((change number what).start app).1 with f | r <;> rintro _ ⟨⟩
  · rw [takenUp_change, Turn.after, Call.after, start_perform_change]
    exact hsends

/-- What the request of a command does in the application. -/
theorem Call.perform_of_request {r : Request} (hr : call.request? = some r) :
    call.perform = .reply <$> (containerOrShared call.target? >>= fun c =>
      onHost (Command.answer c r)) := by
  cases call with
  | copy target text =>
    cases text with
    | text t =>
      cases hr
      rfl
    | _ => cases hr
  | read target =>
    cases hr
    rfl
  | _ => cases hr

/-- A request goes to the container that serves it, if there is one; a container that is shared may
be built for it first. -/
theorem start_perform_of_request {r : Request} (hr : call.request? = some r)
    (horderly : app.Orderly) :
    ∃ outcome there host built handling,
      call.perform.start app = (outcome.map .reply, { there with host }) ∧
      Grown app there built ∧
      there.host.Sends host (Command.complaints r.operation outcome) [] handling ∧
      Notice.Balanced handling ∧ (∀ reply, outcome = .ok reply → reply.Exclusive) ∧
      let serves (c : Container β) := ∃ number,
        call.target?.or there.shared = some number ∧ there.containers[number]? = some c
      (∀ c, serves c → ∀ clipboard : SystemClipboard, c.clipboard = clipboard.asClipboard →
        clipboard.Handles r.operation app.host.surroundings handling) ∧
      ((∀ c, ¬ serves c) → handling = []) := by
  obtain ⟨result, there, built, hfound, hgrown, hserved⟩ :=
    grown_containerOrShared call.target? app
  rw [Call.perform_of_request hr, Action.start_map, Action.start_bind, hfound]
  rcases result with f | c
  · -- no container serves the request, and nothing more is done
    refine ⟨.error f, there, there.host, built, [], rfl, hgrown, Host.Discreet.of_eq rfl,
      Notice.balanced_nil, by rintro _ ⟨⟩, fun c hc => ?_, fun _ => rfl⟩
    cases (hserved c).2 hc
  · have hserves := (hserved c).1 rfl
    obtain ⟨number, -, hc⟩ := hserves
    obtain ⟨handling, hsends, hbalanced, hhandles⟩ :=
      Command.sends_answer (hgrown.orderly horderly c (List.mem_of_getElem? hc)) r there.host
    refine ⟨((Command.answer c r).start there.host).1, there, _, built, handling, rfl, hgrown,
      hsends, hbalanced, fun reply h => ?_,
      fun d hd => ?_, fun hnone => absurd ((hserved c).1 rfl) (hnone c)⟩
    · rw [Command.fst_start_answer_eq] at h
      exact Command.exclusive_of_verdict h
    · cases (hserved d).2 hd
      rw [← hgrown.surroundings]
      exact hhandles

/-- A command with a request warns of its error, and has one handle on the clipboard of the host. -/
theorem truthful_of_request {r : Request} (hr : call.request? = some r) (horderly : app.Orderly) :
    (⟨call, app⟩ : Turn β).Truthful ∧ (call.after app).Orderly := by
  obtain ⟨outcome, there, host, built, handling, hperform, hgrown, hsends, hbalanced, hexclusive,
    hhandles, hidle⟩ := start_perform_of_request hr horderly
  have houtcome : (⟨call, app⟩ : Turn β).outcome = outcome.map .reply :=
    congrArg Prod.fst hperform
  have hafter : (⟨call, app⟩ : Turn β).after = { there with host } := congrArg Prod.snd hperform
  obtain ⟨-, htaken⟩ :=
    Turn.takenUp_eq hperform hgrown.containers (by cases outcome <;> rintro _ ⟨⟩)
  have hcomplaints :
      (⟨call, app⟩ : Turn β).complaints = Command.complaints r.operation outcome := by
    rw [Turn.complaints, hr, houtcome]
    cases outcome <;> rfl
  refine ⟨Turn.truthful_of_sends ?_ hbalanced ?_ ?_ ?_ ?_ ?_, ?_⟩
  · -- first a container may be built, and then the command goes on; the accounts of both add up
    rw [hafter, hcomplaints, htaken]
    have hboth := hgrown.sends.trans hsends
    rwa [List.nil_append, List.nil_append, List.append_nil] at hboth
  · intro reply h
    rw [houtcome] at h
    rcases outcome with f | made
    · cases h
    · cases h
      exact ⟨hexclusive _ rfl, r, hr⟩
  · rintro _ _ _ rfl
    cases hr
  · rintro _ _ _ rfl
    cases hr
  · rintro _ c hr' hc
    cases hr.symm.trans hr'
    rw [Turn.ServedBy, hafter] at hc
    exact hhandles c hc
  · intro hnone
    refine hidle fun c hc => hnone r c hr ?_
    rw [Turn.ServedBy, hafter]
    exact hc
  · rw [Call.after, hperform]
    exact hgrown.orderly horderly

/-- What is no text is not copied, whichever container it goes to. -/
theorem truthful_copy_of_ne_text (target : Option Nat) {v : Value} (hv : ∀ t, v ≠ .text t)
    (app : Application β) :
    (⟨.copy target v, app⟩ : Turn β).Truthful ∧
      (app.Orderly → ((Call.copy target v).after app).Orderly) := by
  obtain ⟨result, there, built, hfound, hgrown, -⟩ := grown_containerOrShared target app
  have hperform : ∃ f, (Call.copy target v : Call β).perform.start app = (.error f, there) := by
    rw [Call.perform, Action.start_map, copy, Action.start_bind, hfound]
    rcases result with f | c
    · exact ⟨f, rfl⟩
    · -- it is refused before a handle is asked for
      refine ⟨.notText v.kindName, ?_⟩
      dsimp only
      rw [onHost, Action.start_within, Command.copy, Clipboard.copy_of_ne_text _ hv]
      rfl
  have hrequest : (Call.copy target v : Call β).request? = none := by
    cases v with
    | text t => exact absurd rfl (hv t)
    | _ => rfl
  obtain ⟨f, hperform⟩ := hperform
  refine ⟨truthful_of_built hperform hgrown.containers hgrown.sends hrequest (by rintro _ ⟨⟩)
    (by rintro _ _ _ ⟨⟩), ?_⟩
  rw [Call.after, hperform]
  exact hgrown.orderly

/-- **Every turn is truthful.** -/
theorem Call.truthful (hcall : call.Discreet) (horderly : app.Orderly) :
    (⟨call, app⟩ : Turn β).Truthful ∧ (call.after app).Orderly := by
  cases call with
  | build given directory injected =>
    have hperform : (Call.build given directory injected).perform.start app =
        (((Application.build given directory injected).start app).1.map .number,
          ((Application.build given directory injected).start app).2) := Action.start_map _ _ app
    rw [Call.after, hperform]
    obtain ⟨there, -, ⟨f, hbuild, hgrown⟩ | ⟨c, hbuild, hgrown⟩⟩ :=
      grown_build given directory hcall app
    · rw [hbuild] at hperform ⊢
      refine ⟨truthful_of_built hperform hgrown.containers hgrown.sends rfl (by rintro _ ⟨⟩) ?_,
        hgrown.orderly horderly⟩
      exact fun _ _ _ _ => .inl ⟨f, rfl, rfl⟩
    · rw [hbuild] at hperform ⊢
      refine ⟨truthful_of_built hperform hgrown.containers hgrown.sends rfl ?_ ?_,
        hgrown.orderly horderly⟩
      · rintro _ ⟨⟩
        exact .inr ⟨_, rfl⟩
      · exact fun _ _ _ _ => .inr ⟨c, rfl, rfl⟩
  | share =>
    obtain ⟨result, there, built, hshare, hgrown, -⟩ := grown_sharedContainer app
    have hperform : Call.share.perform.start app = (result.map .number, there) := by
      rw [Call.perform, Action.start_map, hshare]
    refine ⟨truthful_of_built hperform hgrown.containers hgrown.sends rfl ?_ (by rintro _ _ _ ⟨⟩),
      ?_⟩
    · rintro answer h
      rcases result with f | number
      · cases h
      · cases h
        exact .inr ⟨number, rfl⟩
    · rw [Call.after, hperform]
      exact hgrown.orderly horderly
  | forget =>
    refine ⟨truthful_of_built (perform_forget app) (List.append_nil _).symm
      (Host.Discreet.of_eq rfl) rfl ?_ (by rintro _ _ _ ⟨⟩), horderly⟩
    rintro _ ⟨⟩
    exact .inl rfl
  | surroundings turn =>
    refine ⟨truthful_of_built rfl (List.append_nil _).symm (hcall app.host) rfl ?_
      (by rintro _ _ _ ⟨⟩), horderly⟩
    rintro _ ⟨⟩
    exact .inl rfl
  | change number what =>
    exact ⟨truthful_change number what app, orderly_change number what horderly⟩
  | read target => exact truthful_of_request rfl horderly
  | copy target text =>
    by_cases htext : ∃ t, text = .text t
    · obtain ⟨t, rfl⟩ := htext
      exact truthful_of_request rfl horderly
    · obtain ⟨htruthful, hafter⟩ :=
        truthful_copy_of_ne_text target (fun t h => htext ⟨t, h⟩) app
      exact ⟨htruthful, hafter horderly⟩

end OneCall

/-! ### A whole run -/

variable {app : Application β} {calls : List (Call β)}

/-- By induction on the calls: all turns of a run are truthful. -/
theorem truthful_transcript (horderly : app.Orderly) (hcalls : ∀ call ∈ calls, call.Discreet) :
    ∀ t ∈ transcript calls app, t.Truthful := by
  induction calls generalizing app with
  | nil => exact fun t ht => absurd ht List.not_mem_nil
  | cons call rest ih =>
    obtain ⟨hcall, hrest⟩ := List.forall_mem_cons.1 hcalls
    obtain ⟨htruthful, hafter⟩ := Call.truthful hcall horderly
    exact List.forall_mem_cons.2 ⟨htruthful, ih hafter hrest⟩

/-- By induction on the calls: behind the log that there was comes what is sent in each turn. -/
theorem notices_run (horderly : app.Orderly) (hcalls : ∀ call ∈ calls, call.Discreet) :
    (run calls app).host.notices =
      app.host.notices ++ (transcript calls app).flatMap Turn.sent := by
  induction calls generalizing app with
  | nil => exact (List.append_nil _).symm
  | cons call rest ih =>
    obtain ⟨hcall, hrest⟩ := List.forall_mem_cons.1 hcalls
    obtain ⟨htruthful, hafter⟩ := Call.truthful hcall horderly
    have hgrows : app.host.notices ++ (⟨call, app⟩ : Turn β).sent =
      (call.after app).host.notices := List.prefix_iff_eq_append.1 htruthful.grows
    rw [run, List.foldl_cons, ← run, ih hafter hrest, transcript, List.flatMap_cons, ← hgrows,
      List.append_assoc]

/-- Handles that are balanced in each turn are balanced in all turns. -/
theorem balanced_flatMap_sent {turns : List (Turn β)} (h : ∀ t ∈ turns, t.Truthful) :
    Notice.Balanced (turns.flatMap Turn.sent) := by
  induction turns with
  | nil => exact Notice.balanced_nil
  | cons t rest ih =>
    obtain ⟨ht, hrest⟩ := List.forall_mem_cons.1 h
    rw [List.flatMap_cons]
    exact ht.balanced.append (ih hrest)

/-- **The log tells what happened.** Calls of any kind are served one after the other, by containers
on the clipboard of the host or on clipboards that do not speak for the library. Each turn is
truthful, and so is the whole log.

* The warnings of the commands are, in the order of the calls, the errors of the replies that are
  not fine, each with its command and its words.
* What is announced are, in that order, the records that were taken up: one notice for each
  container that is built, and one for each time that settings are saved or reset.
* After each call as many handles have been released as were opened for each tool, if that was so in
  the beginning. -/
theorem truthful_log (horderly : app.Orderly) (hcalls : ∀ call ∈ calls, call.Discreet) :
    let turns := transcript calls app
    let log := (run calls app).host.notices
    (∀ t ∈ turns, t.Truthful) ∧
      Notice.complaints log =
        Notice.complaints app.host.notices ++ turns.flatMap Turn.complaints ∧
      (∃ announced, Notice.announcements log =
          Notice.announcements app.host.notices ++ announced ∧
        announced.map some = (turns.flatMap Turn.takenUp).map Notice.ready?) ∧
      (Notice.Balanced app.host.notices → ∀ earlier, earlier <+: calls →
        Notice.Balanced (run earlier app).host.notices) := by
  intro turns log
  have hturns : ∀ t ∈ turns, t.Truthful := truthful_transcript horderly hcalls
  have hlog : log = app.host.notices ++ turns.flatMap Turn.sent := notices_run horderly hcalls
  refine ⟨hturns, ?_, ?_, fun hbalanced earlier hearlier => ?_⟩
  · rw [hlog, Notice.complaints, Notice.complaints, List.filter_append, List.filter_flatMap]
    exact congrArg _ (List.flatMap_congr fun t ht => (hturns t ht).warns)
  · refine ⟨Notice.announcements (turns.flatMap Turn.sent), ?_, ?_⟩
    · rw [hlog]
      exact List.filter_append ..
    · rw [Notice.announcements, List.filter_flatMap, List.map_flatMap, List.map_flatMap]
      exact List.flatMap_congr fun t ht => (hturns t ht).announces
  · have hprefix : ∀ call ∈ earlier, call.Discreet := fun call h => hcalls call (hearlier.subset h)
    rw [notices_run horderly hprefix]
    exact hbalanced.append (balanced_flatMap_sent (truthful_transcript horderly hprefix))

/-- A container on the clipboard of the host, whose only tool fails when it is run, and one on a
clipboard that refuses what is copied. Settings are reset, a record is saved whose backend is a text
and has no name to be announced, there is no container with the number seven, and for the last
command the shared container is built from the file of that record. -/
theorem truthful_log_of_failing_commands :
    let refusing : Clipboard (Host Unit) :=
      .ofHooks ⟨pure (.text "v"), fun _ => throw (.clipboard "full"), pure ()⟩
    let host : Host Unit := { Host.bare () with
      environment := [("DISPLAY", ":0")], programs := .scripted ["xclip"] (.exited 1 [] [])
      temporaryTokens := [.ofText "x"] }
    let app : Application Unit := { host }
    let pbcopy : Settings := { backend := .pbcopy }
    let calls : List (Call Unit) :=
      [.build (some (.mapping [])) none none, .read (some 0),
        .build (some (.record pbcopy)) none (some refusing), .copy (some 1) (.text "x"),
        .change 1 .reset, .change 1 (.save (.record ⟨.other (.text "xclip"), .int 7, .bool false⟩)),
        .read (some 7), .copy none (.text "x")]
    let log := (run calls app).host.notices
    (app.Orderly ∧ ∀ call ∈ calls, call.Discreet) ∧
      Notice.complaints log =
        [.commandFailed .read "Failed to read from clipboard: xclip exited with status 1",
          .commandFailed .copy "Failed to copy to clipboard: full",
          .commandFailed .copy "Failed to copy to clipboard: xclip exited with status 1"] ∧
      Notice.announcements log =
        [.containerReady .auto (.float (.ofInt 5)), .containerReady .pbcopy (.float (.ofInt 5)),
          .containerReady .auto (.float (.ofInt 5)), .containerReady .xclip (.float (.ofInt 7))] ∧
      Notice.Balanced log ∧ log.count (.handleOpened .xclip) = 2 := by
  intro refusing host app pbcopy calls log
  have horderly : app.Orderly := fun c hc => absurd hc List.not_mem_nil
  have hrefusing : refusing.Orderly := by
    refine .inl ⟨Action.respects_pure _, ?_⟩
    rintro host _ _ ⟨⟩
    exact ⟨Action.respects_pure _, fun _ => Action.respects_throw _, Action.respects_pure _⟩
  have hcalls : ∀ call ∈ calls, call.Discreet := by
    simp only [calls, List.forall_mem_cons, Call.Discreet, List.not_mem_nil, IsEmpty.forall_iff,
      implies_true, Option.mem_def, reduceCtorEq, Option.some.injEq, forall_eq', hrefusing,
      and_self]
  obtain ⟨-, hcomplaints, ⟨announced, hannouncements, hrecords⟩, hbalanced⟩ :=
    truthful_log horderly hcalls
  refine ⟨⟨horderly, hcalls⟩, hcomplaints.trans ?_, hannouncements.trans ?_,
    hbalanced Notice.balanced_nil calls (List.prefix_refl _), ?_⟩
  · decide +kernel
  · refine List.map_injective_iff.2 (Option.some_injective _) (hrecords.trans ?_)
    decide +kernel
  · decide +kernel

end Application

end Pasteboard
