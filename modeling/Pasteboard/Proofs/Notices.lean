import Pasteboard.Proofs.Boundary
import Pasteboard.Proofs.Runs
import Pasteboard.Proofs.Session

/-!
# What is sent

A log is looked at in three ways: for the warnings of the commands, for the records of settings that
are announced, and for what becomes of handles. `Host.Sends` keeps the three accounts of what is
sent between two states of a host, and what is sent one after the other adds up
(`Host.Sends.trans`).

* Loading and keeping settings is in none of the accounts. What takes up a record of settings
  announces it once, and only if it succeeds (`Container.announces_build`,
  `Application.announces_change`).
* A transfer on the clipboard of the host opens one handle if a tool can be chosen, runs at most one
  program then, and releases the handle (`SystemClipboard.sends_transfer`).
* A command warns of a failure exactly if it replies with it, and with the same words
  (`Command.sends_replying`).
-/

namespace Pasteboard

variable {α β : Type}

/-! ### Three accounts of a log -/

namespace Notice

/-- The warnings of the commands. -/
def complaints (log : List Notice) : List Notice :=
  log.filter fun n => decide (n.level = .warning ∧ n.channel = "clipbridge.commands")

/-- What is sent for information. -/
def announcements (log : List Notice) : List Notice := log.filter fun n => decide (n.level = .info)

/-- What the clipboard of the host says of its handles. -/
def handling (log : List Notice) : List Notice :=
  log.filter fun n =>
    decide (n.channel = "clipbridge.infrastructure.clipboard.system_clipboard")

/-- The notice that a record is in force. There is none for a record whose backend has no name. -/
def ready? (r : SettingsRecord) : Option Notice :=
  r.named.toOption.map (.containerReady · r.timeout)

@[simp] theorem complaints_nil : complaints [] = [] := rfl

@[simp] theorem announcements_nil : announcements [] = [] := rfl

@[simp] theorem handling_nil : handling [] = [] := rfl

/-- The commands warn of what they failed with. -/
@[simp] theorem complaints_cons (n : Notice) (log : List Notice) :
    complaints (n :: log) = (match n with
      | commandFailed _ _ => [n]
      | _ => []) ++ complaints log := by
  have hother : Text.ofString "clipbridge.infrastructure.config.settings_manager" ≠
      Text.ofString "clipbridge.commands" := by decide +kernel
  cases n <;> simp [complaints, level, channel, hother]

/-- What is announced is that settings are in force. -/
@[simp] theorem announcements_cons (n : Notice) (log : List Notice) :
    announcements (n :: log) = (match n with
      | containerReady _ _ => [n]
      | _ => []) ++ announcements log := by
  cases n <;> rfl

/-- A handle is opened, used and released. -/
@[simp] theorem handling_cons (n : Notice) (log : List Notice) :
    handling (n :: log) = (match n with
      | handleOpened _ => [n]
      | handleReleased _ => [n]
      | running _ _ => [n]
      | _ => []) ++ handling log := by
  have hother : ∀ channel ∈ ["clipbridge.bootstrap", "clipbridge.commands",
      "clipbridge.infrastructure.clipboard.tools",
      "clipbridge.infrastructure.config.settings_manager"],
      Text.ofString channel ≠
        Text.ofString "clipbridge.infrastructure.clipboard.system_clipboard" := by decide +kernel
  simp only [List.forall_mem_cons, List.not_mem_nil, IsEmpty.forall_iff, implies_true,
    and_true] at hother
  cases n <;> simp [handling, channel, hother]

/-- For each tool, as many handles were released as were opened. -/
def Balanced (log : List Notice) : Prop :=
  ∀ name, log.count (.handleOpened name) = log.count (.handleReleased name)

theorem balanced_nil : Balanced [] := fun _ => rfl

theorem Balanced.append {log more : List Notice} (h : Balanced log) (hmore : Balanced more) :
    Balanced (log ++ more) := fun name => by
  rw [List.count_append, List.count_append, h name, hmore name]

/-- Handles are opened and released in the account of handles. -/
theorem balanced_handling_iff {log : List Notice} : Balanced (handling log) ↔ Balanced log := by
  refine forall_congr' fun name => ?_
  rw [handling, List.count_filter (by simp [channel]), List.count_filter (by simp [channel])]

/-- What is said of one handle: it is opened for a tool, a program may be run for an operation, and
it is released. -/
inductive OneHandle (name : Backend) (op : Operation) : List Notice → Prop
  | idle : OneHandle name op [.handleOpened name, .handleReleased name]
  | used (program : Text) :
      OneHandle name op [.handleOpened name, .running program op, .handleReleased name]

theorem OneHandle.balanced {name : Backend} {op : Operation} {log : List Notice}
    (h : OneHandle name op log) : Balanced log := by
  intro other
  cases h <;> by_cases hname : name = other <;> simp [hname]

end Notice

namespace Host

/-- What was sent from `host` to `after`, as complaints, the records that were announced, each with
a notice of its own, and what is said of handles. -/
def Sends (host after : Host β) (complaints : List Notice) (announced : List SettingsRecord)
    (handling : List Notice) : Prop :=
  ∃ sent, after.notices = host.notices ++ sent ∧ Notice.complaints sent = complaints ∧
    (Notice.announcements sent).map some = announced.map Notice.ready? ∧
    Notice.handling sent = handling

/-- Nothing was sent that is in one of the three accounts. -/
def Discreet (host after : Host β) : Prop := host.Sends after [] [] []

variable {host after last : Host β} {c c' h h' : List Notice} {a a' : List SettingsRecord}

theorem Sends.trans (h₁ : host.Sends after c a h) (h₂ : after.Sends last c' a' h') :
    host.Sends last (c ++ c') (a ++ a') (h ++ h') := by
  obtain ⟨sent, hsent, rfl, ha, rfl⟩ := h₁
  obtain ⟨more, hmore, rfl, ha', rfl⟩ := h₂
  refine ⟨sent ++ more, ?_, List.filter_append .., ?_, List.filter_append ..⟩
  · rw [hmore, hsent, List.append_assoc]
  · rw [List.map_append, ← ha, ← ha', ← List.map_append]
    exact congrArg _ (List.filter_append ..)

theorem Discreet.of_eq (heq : after.notices = host.notices) : host.Discreet after :=
  ⟨[], by rw [heq, List.append_nil], rfl, rfl, rfl⟩

instance : IsPreorder (Host β) Discreet where
  refl _ := .of_eq rfl
  trans _ _ _ h₁ h₂ := Sends.trans h₁ h₂

/-- What is sent before does not matter if it is in no account. -/
theorem Discreet.sends (h₁ : host.Discreet after) (h₂ : after.Sends last c a h) :
    host.Sends last c a h := Sends.trans h₁ h₂

/-- The accounts are those of the notices that there were not before. -/
theorem Sends.drop (hsends : host.Sends after c a h) :
    host.notices <+: after.notices ∧
      Notice.complaints (after.notices.drop host.notices.length) = c ∧
      (Notice.announcements (after.notices.drop host.notices.length)).map some =
        a.map Notice.ready? ∧
      Notice.handling (after.notices.drop host.notices.length) = h := by
  obtain ⟨sent, hsent, hc, ha, hh⟩ := hsends
  rw [hsent, List.drop_left]
  exact ⟨List.prefix_append _ _, hc, ha, hh⟩

/-- Between two states there is one account of handles. -/
theorem Sends.handling_unique (hsends : host.Sends after c a h)
    (hagain : host.Sends after c' a' h') : h = h' := by
  obtain ⟨-, -, -, hhandling⟩ := hsends.drop
  obtain ⟨-, -, -, hhandling'⟩ := hagain.drop
  exact hhandling.symm.trans hhandling'

end Host

/-! ### Actions that are discreet -/

/-- However it ends, the action sends nothing that is in one of the accounts. -/
abbrev Action.Discreet (a : Action (Host β) α) : Prop := a.Respects Host.Discreet

theorem Host.discreet_onDisk (a : Action Disk α) : (onDisk a : Action (Host β) α).Discreet :=
  fun _ => .of_eq rfl

theorem SettingsStore.discreet_load (store : SettingsStore) :
    (store.load : Action (Host β) Settings).Discreet := by
  refine .bind (.tryCatch ((Host.discreet_onDisk _).map _) fun f => ?_) fun content => ?_
  · split
    · exact Action.respects_pure _
    · split
      · exact .bind (fun _ => ⟨_, rfl, by simp⟩) fun _ => Action.respects_pure _
      · exact Action.respects_throw f
  · cases content with
    | none => exact Action.respects_pure _
    | some content =>
      dsimp only [accept]
      split
      · exact Action.respects_pure _
      · exact .bind (fun _ => ⟨_, rfl, by simp⟩) fun _ => Action.respects_pure _

theorem SettingsStore.discreet_save (store : SettingsStore) (r : SettingsRecord) :
    (store.save r : Action (Host β) Unit).Discreet :=
  .bind (Action.respects_ask _) fun _ => .bind (Host.discreet_onDisk _) fun _ _ =>
    ⟨_, rfl, by simp⟩

theorem SettingsStore.discreet_reset (store : SettingsStore) :
    (store.reset : Action (Host β) Settings).Discreet :=
  .bind (Host.discreet_onDisk _) fun _ => Action.respects_pure _

/-! ### Taking settings up -/

/-- A record whose backend has a name is announced once, and no other one is. -/
theorem Host.sends_told (host : Host β) (r : SettingsRecord) :
    host.Sends (host.told r) [] (r.named.map fun _ => r).toOption.toList [] := by
  rw [told_eq]
  have hready : Notice.ready? r = r.named.toOption.map (.containerReady · r.timeout) := rfl
  rcases hnamed : r.named with f | b
  · -- no notice is sent without a name
    exact Discreet.of_eq (List.append_nil _)
  · rw [hnamed] at hready
    exact ⟨[.containerReady b r.timeout], rfl, by simp, congrArg (fun n => [n]) hready.symm,
      by simp⟩

namespace Container

/-- Until a container takes them up, settings are in none of the accounts. -/
theorem discreet_beginning (store : SettingsStore) (given : Option GivenSettings) :
    (beginning store given : Action (Host β) SettingsRecord).Discreet := by
  cases given with
  | none => exact store.discreet_load.map _
  | some given => exact Action.respects_ofResult _

/-- **A container that is built announces its settings once**; where none is built, nothing is
announced. -/
theorem announces_build (given : Option GivenSettings) (directory : Option Path)
    (injected : Option (Clipboard (Host β))) (host : Host β) :
    let ended := (build given directory injected).start host
    host.Sends ended.2 [] (ended.1.map Container.settings).toOption.toList [] := by
  intro ended
  have hbegun := discreet_beginning ⟨directory.getD host.settingsDirectory⟩ given host
  have hended : ended = _ := start_build_eq given directory injected host
  rw [hended]
  rcases hstart : (beginning ⟨directory.getD host.settingsDirectory⟩ given).start host with
    ⟨f | r, after⟩
  · rw [hstart] at hbegun
    exact hbegun
  · rw [hstart] at hbegun
    have hboth := hbegun.sends (after.sends_told r)
    dsimp only
    rcases hnamed : r.named with f | b
    · rw [hnamed] at hboth
      exact hboth
    · rw [hnamed] at hboth
      exact hboth

theorem discreet_change (c : Container β) (what : Change) : (c.change what).Discreet := by
  cases what with
  | save given =>
    exact .bind (Action.respects_ofResult _) fun r =>
      .bind ((c.store.discreet_save r).mapFailure _) fun _ => Action.respects_ask _
  | reset => exact .bind (c.store.discreet_reset.mapFailure _) fun _ => Action.respects_ask _

end Container

/-- **A change that succeeds announces its settings once**; one that fails announces nothing. -/
theorem Application.announces_change (number : Nat) (what : Change) (app : Application β) :
    let ended := (change number what).start app
    app.host.Sends ended.2.host [] ended.1.toOption.toList [] := by
  intro ended
  rcases container_cases number app with hmissing | ⟨c, hc, -⟩
  · have hended : ended = _ := start_change_of_missing hmissing what
    rw [hended]
    exact Host.Discreet.of_eq rfl
  · have hchanged := c.discreet_change what app.host
    have hended : ended = _ := start_change hc what
    rw [hended]
    rcases hstart : (c.change what).start app.host with ⟨f | c', host⟩
    · rw [hstart] at hchanged
      exact hchanged
    · rw [hstart] at hchanged
      exact hchanged.sends (host.sends_told c'.settings)

/-! ### Transfers -/

/-- Getting a handle, and each hook of a handle that is got, is discreet. -/
structure Clipboard.Discreet (p : Clipboard (Host β)) : Prop where
  acquire : p.acquire.Discreet
  hooks : ∀ host h after, p.acquire.start host = (.ok h, after) →
    h.hooks.get.Discreet ∧ (∀ t : Text, (h.hooks.set (.text t)).Discreet) ∧
      h.hooks.release.Discreet

/-- A transfer on a discreet clipboard is discreet. -/
theorem Clipboard.Discreet.transfer {p : Clipboard (Host β)} (h : p.Discreet) (r : Request) :
    (p.transfer r).Discreet := by
  intro host
  have hreach := h.acquire host
  rw [start_transfer, course]
  rcases hacquire : p.acquire.start host with ⟨f | handle, after⟩
  · rw [hacquire] at hreach
    exact hreach
  · rw [hacquire] at hreach
    obtain ⟨hget, hset, hrelease⟩ := h.hooks host handle after hacquire
    have hhook : (r.hook handle.hooks).Discreet := by
      cases r with
      | copy t => exact (hset t).bind fun _ => Action.respects_pure _
      | read => exact hget
    dsimp only
    split
    · exact hreach
    · exact trans_of _ hreach (trans_of _ (hhook after) (hrelease _))

namespace SystemClipboard

/-- What is said of the handle of a transfer: nothing if no tool can be chosen, and else that it is
opened, that at most one program is run, and that it is released. -/
def Handles (clipboard : SystemClipboard) (op : Operation) (around : Surroundings)
    (handling : List Notice) : Prop :=
  match clipboard.choice around with
  | .error _ => handling = []
  | .ok (_, tool) => Notice.OneHandle tool.name op handling

theorem Handles.balanced {clipboard : SystemClipboard} {op : Operation} {around : Surroundings}
    {handling : List Notice} (h : clipboard.Handles op around handling) :
    Notice.Balanced handling := by
  rw [Handles] at h
  split at h
  · rw [h]
    exact Notice.balanced_nil
  · exact h.balanced

/-- That a tool was chosen is in none of the accounts. -/
theorem sends_opened (backend : Backend) (tool : Tool) (host : Host β) :
    host.Sends (opened backend tool host) [] [] [.handleOpened tool.name] := by
  refine ⟨[chosen backend tool] ++ [.handleOpened tool.name], ?_, ?_⟩
  · rw [opened, List.append_assoc]
  · rw [chosen]
    split <;> simp

/-- **One handle for each transfer**, if a tool can be chosen. -/
theorem sends_transfer (clipboard : SystemClipboard) (r : Request) (host : Host β) :
    ∃ handling, host.Sends ((clipboard.asClipboard.transfer r).start host).2 [] [] handling ∧
      clipboard.Handles r.operation host.surroundings handling := by
  rw [Clipboard.start_transfer, course_asClipboard]
  simp only [Handles]
  rcases hchoice : clipboard.choice host.surroundings with f | ⟨backend, tool⟩
  · exact ⟨[], Host.Discreet.of_eq rfl, rfl⟩
  · obtain ⟨program, words, hcommand⟩ := (listed_of_choice hchoice).exists_program r.operation
    have hopened := sends_opened backend tool host
    have hreleased : ∀ host : Host β, host.Sends
        { host with notices := host.notices ++ [.handleReleased tool.name] } [] []
        [.handleReleased tool.name] := fun host => ⟨_, rfl, by simp⟩
    dsimp only
    rw [hooks, Tool.start_hook hcommand]
    rcases r.input tool with f | input
    · -- there is nothing to hand over to a program
      exact ⟨_, hopened.trans (hreleased _), .idle⟩
    · have hran : ∀ (host : Host β) (run : Run), host.Sends (host.ran program r.operation run) [] []
          [.running program r.operation] := fun host run => ⟨_, rfl, by simp⟩
      exact ⟨_, hopened.trans ((hran _ _).trans (hreleased _)), .used program⟩

end SystemClipboard

/-! ### Commands -/

/-- What a command warns of, given its reply: the error of a reply that is not fine. -/
def Reply.complaints (op : Operation) (r : Reply) : List Notice :=
  if r.ok then [] else (r.error.map (Notice.commandFailed op)).toList

/-- What a command warns of, given how it ends. -/
def Command.complaints (op : Operation) : Except Failure Reply → List Notice
  | .ok r => r.complaints op
  | .error _ => []

namespace Command

/-- A command has the notices of its transfer, and behind them what it warns of. -/
theorem notices_replying (op : Operation) (a : Action (Host β) Value) (host : Host β) :
    ((replying op a).start host).2.notices =
      (a.start host).2.notices ++ complaints op ((replying op a).start host).1 := by
  rw [fst_start_replying]
  simp only [replying, Action.start_bind, Action.start_tryCatch, Action.start_map]
  rcases a.start host with ⟨f | v, after⟩
  · cases f with
    | init details => simp [Except.map, Failure.isClipboard, failed, Action.start_bind,
        Failure.display, Failure.headline, verdict, Host.notify, complaints, Reply.complaints]
    | operation op' details => cases op' <;> simp [Except.map, Failure.isClipboard, failed,
        Action.start_bind, Failure.display, Failure.headline, verdict, Host.notify, complaints,
        Reply.complaints]
    | clipboard details => simp [Except.map, Failure.isClipboard, failed, Action.start_bind,
        Failure.display, Failure.headline, verdict, complaints]
    | _ => exact (List.append_nil _).symm
  · -- a reply with a value is fine
    have hnone : complaints op (verdict op (.ok v)) = [] := by
      rw [verdict]
      rcases hreply : Reply.success (Reply.kindOf op) v with f | r
      · rfl
      · rw [complaints, Reply.complaints, if_pos (Reply.ok_of_success hreply)]
    rw [hnone, List.append_nil]
    rfl

/-- **What a command sends** is what its transfer sends, and a warning if it replies with an error;
the warning has the words of the error. -/
theorem sends_replying {op : Operation} {a : Action (Host β) Value} {host : Host β}
    {handling : List Notice} (h : host.Sends (a.start host).2 [] [] handling) :
    host.Sends ((replying op a).start host).2 (complaints op ((replying op a).start host).1) []
      handling := by
  have hown : ∀ outcome, Notice.complaints (complaints op outcome) = complaints op outcome ∧
      (Notice.announcements (complaints op outcome)).map some = [].map Notice.ready? ∧
      Notice.handling (complaints op outcome) = [] := by
    rintro (f | ⟨_ | _, value, _ | error⟩) <;> simp [complaints, Reply.complaints]
  obtain ⟨hcomplaints, hannouncements, hhandling⟩ := hown ((replying op a).start host).1
  have hwarned : (a.start host).2.Sends ((replying op a).start host).2 _ [] [] :=
    ⟨_, notices_replying op a host, hcomplaints, hannouncements, hhandling⟩
  have hboth := h.trans hwarned
  rwa [List.nil_append, List.nil_append, List.append_nil] at hboth

end Command

end Pasteboard
