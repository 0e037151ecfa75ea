import Mathlib.Tactic.Common
import Pasteboard.Command

/-!
# The course of a transfer

A transfer on a clipboard goes one of three ways: no handle can be had, the handle has been released
before it is handed out, or the hook of the request runs and the release hook after it. `Course`
says which, with how each hook ended, and `Clipboard.course` reads it off the clipboard without the
tagging and re-raising that the library does. `start_transfer` and `start_answer` are the one place
where the two are connected; what a command replies is then a question about three cases.
-/

namespace Pasteboard

variable {σ β : Type}

/-- What a command asks of a clipboard. -/
inductive Request
  | copy (t : Text)
  | read

namespace Request

/-- The operation that a request stands for. -/
def operation : Request → Operation
  | copy _ => .copy
  | read => .read

/-- The hook that serves a request. -/
def hook (h : Hooks σ) : Request → Action σ Value
  | copy t => do h.set (.text t); pure .null
  | read => h.get

end Request

/-- The transfer that serves a request. -/
def Clipboard.transfer (p : Clipboard σ) : Request → Action σ Value
  | .copy t => do p.copy (.text t); pure .null
  | .read => p.read

/-- The command that a request stands for. -/
def Command.answer (c : Container β) : Request → Action (Host β) Reply
  | .copy t => Command.copy c (.text t)
  | .read => Command.read c

/-- How a transfer goes: which hooks run, and how each of them ends. -/
inductive Course (σ : Type)
  /-- No handle could be had. -/
  | unreached (f : Failure) (s : σ)
  /-- The handle had been released before it was handed out. -/
  | stale (s : σ)
  /-- The hook of the request ran, and the release hook after it. -/
  | served (result : Except Failure Value) (release : Except Failure Unit) (s : σ)

/-- The course of a transfer, from the hooks alone. -/
def Clipboard.course (p : Clipboard σ) (r : Request) (s : σ) : Course σ :=
  match p.acquire.start s with
  | (.error f, s₁) => .unreached f s₁
  | (.ok h, s₁) =>
    if h.closed then .stale s₁
    else
      let served := (r.hook h.hooks).start s₁
      let released := h.hooks.release.start served.2
      .served served.1 released.1 released.2

namespace Course

/-- The state that a course ends in. -/
def state : Course σ → σ
  | unreached _ s => s
  | stale s => s
  | served _ _ s => s

/-- How the transfer ends: each failure tagged by its step, and a failed release in place of
whatever came before it. -/
def outcome (op : Operation) : Course σ → Except Failure Value
  | unreached f _ => .error f.asInit
  | stale _ => .error (Failure.handleReleased.asOperation op)
  | served result (.ok ()) _ => result.mapError (.asOperation op)
  | served _ (.error f) _ => .error f

/-- Every hook that ran succeeded, on a handle that had not been released. -/
def Smooth (c : Course σ) : Prop := ∃ v s, c = .served (.ok v) (.ok ()) s

/-- The release hook failed with something that is no tagged clipboard failure. -/
def Leaks (c : Course σ) : Prop :=
  ∃ result f s, c = .served result (.error f) s ∧ f.isTagged = false

/-- The failure that decides, that of the release hook or else of the hook of the request, has the
tag of an operation other than `op`. -/
def Mislabels (op : Operation) (c : Course σ) : Prop :=
  ∃ op' details s, op' ≠ op ∧
    ((∃ result, c = .served result (.error (.operation op' details)) s) ∨
      c = .served (.error (.operation op' details)) (.ok ()) s)

end Course

/-! ### From hooks to transfers -/

/-- Using an open handle runs an action and then the release hook. -/
private theorem start_use_of_open (h : Handle σ) (hc : h.closed = false) (a : Action σ Value)
    (s : σ) :
    (h.use a).start s =
      (match (h.hooks.release.start (a.start s).2).1 with
        | .ok () => (a.start s).1
        | .error f => .error f,
      (h.hooks.release.start (a.start s).2).2) := by
  rw [Handle.use, Action.start_guarded]
  simp only [Handle.close, hc, Bool.false_eq_true, if_false]
  rcases h.hooks.release.start (a.start s).2 with ⟨_ | _, _⟩ <;> rfl

/-- Using a handle that had been released runs no hook. -/
private theorem start_use_of_closed (h : Handle σ) (hc : h.closed = true) (a : Action σ Value)
    (s : σ) : (h.use a).start s = a.start s := by
  rw [Handle.use, Action.start_guarded]
  simp only [Handle.close, hc, if_true, Action.start_pure]

/-- A transfer as one action: get a handle, and use it for the hook of the request. -/
theorem Clipboard.transfer_eq (p : Clipboard σ) (r : Request) :
    p.transfer r = p.reach >>= fun h =>
      h.use ((h.ifOpen (r.hook h.hooks)).mapFailure (.asOperation r.operation)) := by
  cases r with
  | read => rfl
  | copy t =>
    funext s
    change (p.transfer (.copy t)).start s = Action.start _ s
    simp only [Clipboard.transfer, Clipboard.copy, Action.start_bind]
    rcases p.reach.start s with ⟨f | h, s₁⟩
    · rfl
    · simp only [Request.hook, Request.operation, Handle.set]
      cases hc : h.closed with
      | true =>
        -- the handle had been released: neither the hook nor the release runs
        simp only [Handle.use, Action.start_guarded, Handle.close, Handle.ifOpen, hc, if_true,
          Action.start_pure, Action.start_mapFailure, Action.start_throw, Except.mapError]
      | false =>
        simp only [Handle.use, Action.start_guarded, Handle.close, Handle.ifOpen, hc,
          Bool.false_eq_true, if_false, Action.start_mapFailure, Action.start_bind]
        rcases (h.hooks.set (.text t)).start s₁ with ⟨f | _, s₂⟩ <;>
          rcases hr : h.hooks.release.start s₂ with ⟨g | _, s₃⟩ <;>
          simp [hr, Except.mapError]

/-- A transfer ends as its course says and leaves the state that its course ends in. -/
theorem Clipboard.start_transfer (p : Clipboard σ) (r : Request) (s : σ) :
    (p.transfer r).start s = ((p.course r s).outcome r.operation, (p.course r s).state) := by
  rw [transfer_eq, Action.start_bind, Clipboard.reach, Action.start_mapFailure, Clipboard.course]
  rcases p.acquire.start s with ⟨f | h, s₁⟩
  · rfl
  · simp only [Except.mapError]
    cases hc : h.closed with
    | true =>
      rw [start_use_of_closed h hc]
      simp only [Handle.ifOpen, hc, if_true, Action.start_mapFailure, Action.start_throw]
      rfl
    | false =>
      rw [start_use_of_open h hc]
      simp only [Handle.ifOpen, hc, Bool.false_eq_true, if_false, Action.start_mapFailure]
      rcases h.hooks.release.start ((r.hook h.hooks).start s₁).2 with ⟨_ | _, _⟩ <;> rfl

/-! ### What the outcome says about the course -/

namespace Course

theorem outcome_eq_ok_iff {op : Operation} {c : Course σ} {v : Value} :
    c.outcome op = .ok v ↔ ∃ s, c = .served (.ok v) (.ok ()) s := by
  constructor
  · intro h
    rcases c with ⟨f, s⟩ | s | ⟨f | w, g | _, s⟩ <;> cases h
    exact ⟨s, rfl⟩
  · rintro ⟨s, rfl⟩
    rfl

theorem smooth_iff (op : Operation) {c : Course σ} :
    c.Smooth ↔ ∃ v, c.outcome op = .ok v :=
  exists_congr fun _ => outcome_eq_ok_iff.symm

/-- A failure of a transfer has a tag unless it is that of the release hook. -/
theorem isTagged_or_released {op : Operation} {c : Course σ} {f : Failure}
    (h : c.outcome op = .error f) :
    f.isTagged = true ∨ ∃ result s, c = .served result (.error f) s := by
  rcases c with ⟨g, s⟩ | s | ⟨result, g | _, s⟩
  · cases h
    rw [Failure.asInit_eq_init]
    exact .inl rfl
  · cases h
    exact .inl (Failure.isTagged_asOperation op _)
  · cases h
    exact .inr ⟨result, s, rfl⟩
  · rcases result with g | v <;> cases h
    exact .inl (Failure.isTagged_asOperation op g)

theorem leaks_iff (op : Operation) {c : Course σ} :
    c.Leaks ↔ ∃ f, c.outcome op = .error f ∧ f.isTagged = false := by
  constructor
  · rintro ⟨result, f, s, rfl, hf⟩
    exact ⟨f, rfl, hf⟩
  · rintro ⟨f, h, hf⟩
    obtain ht | ⟨result, s, rfl⟩ := isTagged_or_released h
    · rw [hf] at ht
      cases ht
    · exact ⟨result, f, s, rfl, hf⟩

theorem mislabels_iff {op : Operation} {c : Course σ} :
    c.Mislabels op ↔ ∃ op' details, op' ≠ op ∧ c.outcome op = .error (.operation op' details) := by
  constructor
  · rintro ⟨op', details, s, hne, ⟨result, rfl⟩ | rfl⟩ <;> exact ⟨op', details, hne, rfl⟩
  · rintro ⟨op', details, hne, h⟩
    rcases c with ⟨g, s⟩ | s | ⟨result, g | _, s⟩
    · rw [outcome, Failure.asInit_eq_init] at h
      cases h
    · cases h
      exact absurd rfl hne
    · cases h
      exact ⟨op', details, s, hne, .inl ⟨result, rfl⟩⟩
    · rcases result with g | v
      · have hg : g.asOperation op = .operation op' details := by injection h
        rw [Failure.asOperation] at hg
        split at hg
        · subst hg
          exact ⟨op', details, s, hne, .inr rfl⟩
        · cases hg
          exact absurd rfl hne
      · cases h

end Course

end Pasteboard
