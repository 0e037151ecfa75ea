import Pasteboard.Proofs.Register
import Pasteboard.Proofs.Turns
import Pasteboard.Proofs.Visits

/-!
# Commands that take turns

A command has three steps on its clipboard: it gets a handle, uses it, and releases it. Between any
two of them other commands on the same clipboard may have their turns. `Phase.advance` does the next
step, and a command that nothing comes in between of replies and leaves the host as
`Command.answer` says (`Phase.advance_alone`).

What a clipboard is a part of, or has written down about itself, makes no difference to the commands
that use it. `Clipboard.Covers` relates two clipboards that do the same, step by step, and then any
number of commands go on alike on both, in every order of turns (`Clipboard.Covers.alike_run`).
-/

namespace Pasteboard

variable {σ τ β : Type}

/-! ### Steps -/

/-- How far a command has got with its clipboard. -/
inductive Phase (σ : Type)
  | opening
  /-- There is a handle to be used. -/
  | held (h : Handle σ)
  /-- The handle has been used and is to be released. -/
  | leaving (h : Handle σ) (result : Except Failure Value)
  | answered (reply : Except Failure Reply)

/-- A command on its way. -/
structure Invocation (σ : Type) where
  request : Request
  phase : Phase σ := .opening

namespace Phase

/-- Does the next step. -/
def advance (p : Clipboard σ) (r : Request) : Phase σ → σ → Phase σ × σ
  | opening, s =>
    match p.reach.start s with
    | (.ok h, s) => (held h, s)
    | (.error f, s) => (answered (Command.verdict r.operation (.error f)), s)
  | held h, s =>
    let (result, s) := ((h.ifOpen (r.hook h.hooks)).mapFailure (.asOperation r.operation)).start s
    (leaving h result, s)
  | leaving h result, s =>
    match h.close.start s with
    | (.ok (), s) => (answered (Command.verdict r.operation result), s)
    | (.error f, s) => (answered (Command.verdict r.operation (.error f)), s)
  | answered reply, s => (answered reply, s)

/-- The reply, if there is one. -/
def reply? : Phase σ → Option (Except Failure Reply)
  | answered reply => some reply
  | _ => none

/-- **A command that nothing comes in between of** has its reply after three steps, and the reply
and the host are those of `Command.answer` but for notices. -/
theorem advance_alone (c : Container β) (r : Request) (host : Host β) :
    let step := fun ended : Phase (Host β) × Host β => ended.1.advance c.clipboard r ended.2
    let ended := step (step (step (opening, host)))
    ended.1 = answered ((Command.answer c r).start host).1 ∧
      ∃ notices, ((Command.answer c r).start host).2 = { ended.2 with notices } := by
  intro step ended
  have hend : ended = (answered (Command.verdict r.operation
      ((c.clipboard.transfer r).start host).1), ((c.clipboard.transfer r).start host).2) := by
    rw [Clipboard.transfer_eq, Action.start_bind]
    simp only [ended, step, advance]
    rcases c.clipboard.reach.start host with ⟨f | h, s⟩
    · rfl
    · simp only [Handle.use, Action.start_guarded]
      rcases h.close.start _ with ⟨f | _, t⟩ <;> rfl
  rw [hend, Command.answer_eq, Command.fst_start_replying]
  exact ⟨rfl, Command.snd_start_replying r.operation _ host⟩

end Phase

namespace Invocation

/-- Does the next step of the command. -/
def advance (p : Clipboard σ) (i : Invocation σ) (s : σ) : Invocation σ × σ :=
  let (phase, s) := i.phase.advance p i.request s
  ({ i with phase }, s)

/-- A command of which nothing has been done. -/
def begin (r : Request) : Invocation σ := { request := r }

end Invocation

/-- Commands on one clipboard take turns. -/
def Clipboard.turns (p : Clipboard σ) : Turns Nat σ (Invocation σ) where
  who number := number
  advance _ i s := i.advance p s

/-- The reply of the command with a number, if there is one yet. -/
def Concurrent.reply? (c : Concurrent τ (Invocation σ)) (number : Nat) :
    Option (Except Failure Reply) :=
  c.parts[number]?.bind fun i => i.phase.reply?

/-! ### Clipboards that do the same -/

namespace Clipboard

/-- The first clipboard does what the second one does, on a state that shows the state of the second
one; `H` relates their handles. -/
structure Covers (p : Clipboard σ) (q : Clipboard τ) (shown : σ → τ)
    (H : Handle σ → Handle τ → Prop) : Prop where
  reach : ∀ s, shown (p.reach.start s).2 = (q.reach.start (shown s)).2 ∧
    ((∃ f, (p.reach.start s).1 = .error f ∧ (q.reach.start (shown s)).1 = .error f) ∨
      ∃ h k, (p.reach.start s).1 = .ok h ∧ (q.reach.start (shown s)).1 = .ok k ∧ H h k)
  use : ∀ h k, H h k → ∀ (r : Request) (s : σ),
    ((h.ifOpen (r.hook h.hooks)).start s).1 = ((k.ifOpen (r.hook k.hooks)).start (shown s)).1 ∧
      shown ((h.ifOpen (r.hook h.hooks)).start s).2 =
        ((k.ifOpen (r.hook k.hooks)).start (shown s)).2
  close : ∀ h k, H h k → ∀ s : σ, (h.close.start s).1 = (k.close.start (shown s)).1 ∧
    shown (h.close.start s).2 = (k.close.start (shown s)).2

/-- Commands that have got equally far. -/
inductive Level (H : Handle σ → Handle τ → Prop) : Phase σ → Phase τ → Prop
  | opening : Level H .opening .opening
  | held {h : Handle σ} {k : Handle τ} (hk : H h k) : Level H (.held h) (.held k)
  | leaving {h : Handle σ} {k : Handle τ} (hk : H h k) (result : Except Failure Value) :
    Level H (.leaving h result) (.leaving k result)
  | answered (reply : Except Failure Reply) : Level H (.answered reply) (.answered reply)

/-- The same command, equally far. -/
def LevelCommands (H : Handle σ → Handle τ → Prop) (i : Invocation σ) (j : Invocation τ) : Prop :=
  i.request = j.request ∧ Level H i.phase j.phase

variable {p : Clipboard σ} {q : Clipboard τ} {shown : σ → τ} {H : Handle σ → Handle τ → Prop}

theorem Level.reply?_eq {a : Phase σ} {b : Phase τ} (h : Level H a b) : a.reply? = b.reply? := by
  cases h <;> rfl

/-- **One step** takes commands that are equally far equally far again, one case for each phase. -/
theorem Covers.advance (hcovers : p.Covers q shown H) {a : Phase σ} {b : Phase τ}
    (h : Level H a b) (r : Request) (s : σ) :
    shown (a.advance p r s).2 = (b.advance q r (shown s)).2 ∧
      Level H (a.advance p r s).1 (b.advance q r (shown s)).1 := by
  cases h with
  | opening =>
    obtain ⟨hstate, hresult⟩ := hcovers.reach s
    simp only [Phase.advance]
    rcases hp : p.reach.start s with ⟨_, s'⟩
    rcases hq : q.reach.start (shown s) with ⟨_, t'⟩
    rw [hp, hq] at hstate hresult
    -- both fail with the same, or both have a handle
    rcases hresult with ⟨f, rfl, rfl⟩ | ⟨h, k, rfl, rfl, hk⟩
    · exact ⟨hstate, .answered _⟩
    · exact ⟨hstate, .held hk⟩
  | @held h k hk =>
    obtain ⟨hresult, hstate⟩ := hcovers.use h k hk r s
    simp only [Phase.advance, Action.start_mapFailure, hresult]
    exact ⟨hstate, .leaving hk _⟩
  | @leaving h k hk result =>
    obtain ⟨hresult, hstate⟩ := hcovers.close h k hk s
    simp only [Phase.advance]
    rcases hp : h.close.start s with ⟨f | _, s'⟩ <;>
    · rw [hp] at hstate hresult
      rcases hq : k.close.start (shown s) with ⟨ended, t'⟩
      rw [hq] at hstate hresult
      cases hresult
      exact ⟨hstate, .answered _⟩
  | answered reply => exact ⟨rfl, .answered reply⟩

theorem Covers.advance_invocation (hcovers : p.Covers q shown H) {i : Invocation σ}
    {j : Invocation τ} (h : LevelCommands H i j) (s : σ) :
    shown (i.advance p s).2 = (j.advance q (shown s)).2 ∧
      LevelCommands H (i.advance p s).1 (j.advance q (shown s)).1 := by
  obtain ⟨request, phase⟩ := i
  obtain ⟨request', phase'⟩ := j
  obtain ⟨hrequest, hlevel⟩ := h
  cases hrequest
  obtain ⟨hstate, hnext⟩ := hcovers.advance hlevel request s
  exact ⟨hstate, rfl, hnext⟩

/-- Commands that are about to begin are equally far. -/
theorem alike_begin {ρ υ : Type} (R : ρ → υ → Prop) {s : ρ} {t : υ} (hshared : R s t)
    (requests : List Request) :
    Alike R (LevelCommands H) ⟨s, requests.map Invocation.begin⟩
      ⟨t, requests.map Invocation.begin⟩ := by
  refine ⟨hshared, fun i => ?_⟩
  dsimp only
  rw [List.getElem?_map, List.getElem?_map]
  cases requests[i]? with
  | none => exact .none
  | some r => exact .some ⟨rfl, .opening⟩

/-- **Commands go on alike** on a clipboard and on one that does the same, whoever has the turns. -/
theorem Covers.alike_run (hcovers : p.Covers q shown H) (requests : List Request)
    (schedule : List Nat) (s : σ) :
    Alike (fun s t => shown s = t) (LevelCommands H)
      (p.turns.run schedule ⟨s, requests.map Invocation.begin⟩)
      (q.turns.run schedule ⟨shown s, requests.map Invocation.begin⟩) := by
  refine Turns.run_alike p.turns q.turns (fun _ => rfl) ?_ schedule ?_
  · rintro number i j s _ rfl hij
    exact hcovers.advance_invocation hij s
  · refine alike_begin _ ?_ requests
    rfl

/-- What is alike has the same replies. -/
theorem reply?_of_alike {ρ υ : Type} {R : ρ → υ → Prop} {c : Concurrent ρ (Invocation σ)}
    {d : Concurrent υ (Invocation τ)} (h : Alike R (LevelCommands H) c d) (number : Nat) :
    c.reply? number = d.reply? number := by
  have hpart := h.parts number
  rw [Concurrent.reply?, Concurrent.reply?]
  generalize c.parts[number]? = a at hpart ⊢
  generalize d.parts[number]? = b at hpart ⊢
  cases hpart with
  | none => rfl
  | some hab => exact hab.2.reply?_eq

/-! ### Parts and logs -/

/-- A clipboard that is a part of something does what it does alone. -/
theorem covers_within {get : σ → τ} {set : τ → σ → σ} (hget : ∀ t s, get (set t s) = t)
    (q : Clipboard τ) :
    (q.within get set).Covers q get fun h k => h = k.within get set where
  reach s := by
    simp only [reach, Action.start_mapFailure, within, Action.start_map, Action.start_within, hget]
    refine ⟨trivial, ?_⟩
    rcases (q.acquire.start (get s)).1 with f | k
    · exact .inl ⟨_, rfl, rfl⟩
    · exact .inr ⟨_, k, rfl, rfl, rfl⟩
  use := by
    rintro _ k rfl r s
    cases hc : k.closed with
    | true => simp [Handle.ifOpen, Handle.within, hc]
    | false =>
      simp only [Handle.ifOpen, Handle.within, hc, Bool.false_eq_true, if_false,
        r.start_hook_within, hget]
      exact ⟨trivial, trivial⟩
  close := by
    rintro _ k rfl s
    cases hc : k.closed with
    | true => simp [Handle.close, Handle.within, hc]
    | false => simp [Handle.close, Handle.within, Hooks.within, hc, hget]

/-- A hook that keeps a log does what it does without one. -/
theorem start_hook_logged {ε : Type} (entry : Use → ε) (hooks : Hooks σ) (r : Request)
    (s : Logged ε σ) :
    (r.hook (hooks.logged entry)).start s =
      (((r.hook hooks).start s.state).1,
        ⟨((r.hook hooks).start s.state).2, s.log ++ [entry r.use]⟩) := by
  cases r with
  | copy t => exact Action.start_logged_then (entry .set) (hooks.set (.text t)) .null s
  | read => rfl

/-- The first handle is the second one with a log. -/
def IsLogged (h : Handle (Logged Entry σ)) (k : Handle σ) : Prop :=
  ∃ number, h = k.logged (.used number)

/-- A clipboard that keeps a log does what it does without one. -/
theorem covers_logged (q : Clipboard σ) : q.logged.Covers q Logged.state IsLogged where
  reach s := by
    simp only [reach, Action.start_mapFailure, logged, Action.start_ofFunction]
    rcases q.acquire.start s.state with ⟨f | k, t⟩
    · exact ⟨rfl, .inl ⟨_, rfl, rfl⟩⟩
    · exact ⟨rfl, .inr ⟨_, k, rfl, rfl, _, rfl⟩⟩
  use := by
    rintro _ k ⟨number, rfl⟩ r s
    cases hc : k.closed with
    | true => simp [Handle.ifOpen, Handle.logged, hc]
    | false => simp [Handle.ifOpen, Handle.logged, hc, start_hook_logged]
  close := by
    rintro _ k ⟨number, rfl⟩ s
    cases hc : k.closed with
    | true => simp [Handle.close, Handle.logged, hc]
    | false => simp [Handle.close, Handle.logged, Hooks.logged, hc]

end Clipboard

end Pasteboard
