import Mathlib.Tactic.Common
import Pasteboard.Scripted

/-!
# The life of a handle

What is done with a handle is a `Handle.Usage`: steps one after the other, each chosen in view of
how the last one ended, and blocks that the handle is released after, with more steps and blocks in
them. `Handle.Usage.run` does it with the library's own steps and keeps the handle in sight.

A released handle is inert: whatever is done with it changes nothing (`Handle.Usage.run_of_closed`).
To say which hooks run, and in which order, they are made to keep a log (`Hooks.logged`), which does
not change what they do (`Handle.Usage.exists_log`). The log of a handle that is open has no release
in it, and that of a released one has a single release as its last entry (`Handle.Accounted`); one
step preserves this, and so does any use of the handle (`Handle.Usage.lifecycle`).
-/

namespace Pasteboard

variable {α ε σ : Type}

/-! ### Logs -/

/-- A state, and a log of what was done to it. -/
structure Logged (ε σ : Type) where
  state : σ
  log : List ε := []

/-- The action, for which an entry is made in the log. -/
def Action.logged (e : ε) (a : Action σ α) : Action (Logged ε σ) α :=
  .ofFunction fun s => ((a.start s.state).1, ⟨(a.start s.state).2, s.log ++ [e]⟩)

@[simp] theorem Action.start_logged (e : ε) (a : Action σ α) (s : Logged ε σ) :
    (a.logged e).start s = ((a.start s.state).1, ⟨(a.start s.state).2, s.log ++ [e]⟩) := rfl

/-- Giving a value after an action has no part in the log. -/
theorem Action.start_logged_then (e : ε) (a : Action σ α) (v : Value) (s : Logged ε σ) :
    (do let _ ← a.logged e; pure v : Action (Logged ε σ) Value).start s =
      ((do let _ ← a; pure v : Action σ Value).logged e).start s := by
  rw [Action.start_logged, Action.start_bind, Action.start_bind, Action.start_logged]
  rcases a.start s.state with ⟨_ | _, _⟩ <;> rfl

/-- The hooks, each of which makes its entry in the log. -/
def Hooks.logged (entry : Use → ε) (hooks : Hooks σ) : Hooks (Logged ε σ) where
  get := hooks.get.logged (entry .get)
  set v := (hooks.set v).logged (entry .set)
  release := hooks.release.logged (entry .release)

/-- The handle with hooks that keep a log. -/
def Handle.logged (entry : Use → ε) (h : Handle σ) : Handle (Logged ε σ) where
  hooks := h.hooks.logged entry
  closed := h.closed

namespace Handle

/-! ### Handles in use -/

/-- A handle in use, and the state that its hooks act on. -/
structure Held (σ : Type) where
  handle : Handle σ
  state : σ

namespace Held

/-- A handle with given hooks that nothing was done with yet. -/
def fresh (hooks : Hooks σ) (s : σ) : Held σ := ⟨{ hooks }, s⟩

/-- Does a step with the handle. -/
def perform (held : Held σ) (step : Step) : Except Failure Value × Held σ :=
  let ended := (held.handle.perform step).start held.state
  (ended.1, ⟨held.handle.after step, ended.2⟩)

/-- Leaves a block: the handle is released, and if that fails its failure takes the place of what
the block ended with. -/
def leave (held : Held σ) (result : Except Failure Value) : Except Failure Value × Held σ :=
  let closing := held.perform .close
  (match closing.1 with
    | .ok _ => result
    | .error f => .error f, closing.2)

/-- The handle with a log, which has some entries already. -/
def logged (entry : Use → ε) (log : List ε) (held : Held σ) : Held (Logged ε σ) :=
  ⟨held.handle.logged entry, ⟨held.state, log⟩⟩

end Held

/-- What is done with a handle. -/
inductive Usage
  /-- No more is done, and this is how it ends. -/
  | finish (result : Except Failure Value)
  /-- A step, and then what follows from how it ended. -/
  | step (step : Step) (next : Except Failure Value → Usage)
  /-- A block after which the handle is released, and then what follows from how it ended. -/
  | block (body : Usage) (next : Except Failure Value → Usage)

/-- Does it with a handle. -/
def Usage.run : Usage → Held σ → Except Failure Value × Held σ
  | finish result, held => (result, held)
  | step s next, held =>
    let ended := held.perform s
    (next ended.1).run ended.2
  | block body next, held =>
    let ended := body.run held
    let left := ended.2.leave ended.1
    (next left.1).run left.2

namespace Held

variable {held : Held σ}

/-! ### Released handles -/

/-- A step changes nothing about a handle that has been released. -/
theorem perform_of_closed (hc : held.handle.closed = true) (step : Step) :
    (held.perform step).2 = held := by
  obtain ⟨⟨hooks, closed⟩, s⟩ := held
  cases hc
  cases step <;> rfl

/-- Nothing is got from a released handle or set through it, and releasing it again is no
failure. -/
theorem result_of_closed (hc : held.handle.closed = true) :
    (held.perform .get).1 = .error .handleReleased ∧
      (∀ v, (held.perform (.set v)).1 = .error .handleReleased) ∧
      (held.perform .close).1 = .ok .null := by
  obtain ⟨⟨hooks, closed⟩, s⟩ := held
  cases hc
  exact ⟨rfl, fun _ => rfl, rfl⟩

/-- Releasing an open handle ends as its release hook does. -/
theorem fst_perform_close (ho : held.handle.closed = false) :
    (held.perform .close).1 =
      (held.handle.hooks.release.start held.state).1.map fun _ => .null := by
  simp only [perform, Handle.perform, close, ho, Bool.false_eq_true, if_false, Action.start_bind]
  rcases held.handle.hooks.release.start held.state with ⟨_ | _, _⟩ <;> rfl

/-- Leaving a block releases the handle, however that goes. -/
theorem closed_leave (held : Held σ) (result : Except Failure Value) :
    (held.leave result).2.handle.closed = true := rfl

theorem leave_of_closed (hc : held.handle.closed = true) (result : Except Failure Value) :
    (held.leave result).2 = held := perform_of_closed hc .close

end Held

/-- An action that a handle is used for ends like a block around it. -/
theorem start_use (h : Handle σ) (a : Action σ Value) (s : σ) :
    (h.use a).start s =
      let left := Held.leave ⟨h, (a.start s).2⟩ (a.start s).1
      (left.1, left.2.state) := by
  rw [use, Action.start_guarded]
  simp only [Held.leave, Held.perform, Handle.perform, Action.start_bind]
  rcases h.close.start (a.start s).2 with ⟨_ | _, _⟩ <;> rfl

/-- The step that gets the text and releases the handle leaves a block. -/
theorem Held.perform_scopedGet (held : Held σ) :
    held.perform .scopedGet = (held.perform .get).2.leave (held.perform .get).1 := by
  rw [perform, Handle.perform, start_use]
  rfl

namespace Usage

variable {held : Held σ}

/-- **A released handle is inert.** By induction on what is done: neither the handle nor the state
changes, so no hook has run. -/
theorem run_of_closed (usage : Usage) (hc : held.handle.closed = true) :
    (usage.run held).2 = held := by
  induction usage with
  | finish result => rfl
  | step step next ih =>
    simp only [run]
    rw [Held.perform_of_closed hc]
    exact ih _
  | block body next ihBody ih =>
    simp only [run]
    rw [ihBody, Held.leave_of_closed hc]
    exact ih _

/-- The step that gets the text and releases the handle is a block with one step in it. -/
theorem run_scopedGet (next : Except Failure Value → Usage) (held : Held σ) :
    (step .scopedGet next).run held = (block (step .get finish) next).run held := by
  simp only [run, Held.perform_scopedGet]

end Usage

/-! ### What a log tells -/

namespace Step

/-- The hooks that a step runs on a handle that is open, in this order. -/
def uses : Step → List Use
  | .get => [.get]
  | .set _ => [.set]
  | .close => [.release]
  | .scopedGet => [.get, .release]

end Step

namespace Held

/-- Releasing an open handle, with a log. -/
private theorem perform_close_logged (entry : Use → ε) (log : List ε) (hooks : Hooks σ) (s : σ) :
    ((fresh hooks s).logged entry log).perform .close =
      (((fresh hooks s).perform .close).1,
        ((fresh hooks s).perform .close).2.logged entry (log ++ [entry .release])) := by
  have h : (((fresh hooks s).handle.logged entry).perform .close).start ⟨s, log⟩ = _ :=
    Action.start_logged_then (entry .release) hooks.release .null ⟨s, log⟩
  dsimp only [perform, logged]
  rw [show ((fresh hooks s).state) = s from rfl, h]
  rfl

/-- A step with a log ends as it would without one, and has made its entries if the handle was
open. -/
theorem perform_logged (entry : Use → ε) (log : List ε) (held : Held σ) (step : Step) :
    (held.logged entry log).perform step =
      ((held.perform step).1, (held.perform step).2.logged entry
        (log ++ if held.handle.closed then [] else step.uses.map entry)) := by
  obtain ⟨⟨hooks, closed⟩, s⟩ := held
  cases closed with
  | true =>
    rw [if_pos rfl, List.append_nil]
    cases step <;> rfl
  | false =>
    rw [if_neg Bool.false_ne_true]
    cases step with
    | get => rfl
    | set v =>
      have h : ((Handle.logged entry ⟨hooks, false⟩).perform (.set v)).start ⟨s, log⟩ = _ :=
        Action.start_logged_then (entry .set) (hooks.set v) .null ⟨s, log⟩
      dsimp only [perform, logged]
      rw [h]
      rfl
    | close => exact perform_close_logged entry log hooks s
    | scopedGet =>
      rw [perform_scopedGet, perform_scopedGet]
      -- the handle is still open when the block is left
      have h := perform_close_logged entry (log ++ [entry .get]) hooks (hooks.get.start s).2
      rw [List.append_assoc] at h
      exact congrArg (fun closing : _ × Held (Logged ε σ) => (match closing.1 with
        | .ok _ => (hooks.get.start s).1
        | .error f => .error f, closing.2)) h

/-- Leaving a block with a log. -/
theorem leave_logged (entry : Use → ε) (log : List ε) (held : Held σ)
    (result : Except Failure Value) :
    (held.logged entry log).leave result =
      ((held.leave result).1, (held.leave result).2.logged entry
        (log ++ if held.handle.closed then [] else [entry .release])) := by
  rw [leave, perform_logged]
  rfl

end Held

/-- The release hook has run once and last if the handle is released, and not at all if it is
open. -/
structure Accounted (closed : Bool) (log : List Use) : Prop where
  of_open : closed = false → Use.release ∉ log
  of_closed : closed = true → ∃ before, log = before ++ [.release] ∧ Use.release ∉ before

/-- **One step.** What the log tells about a handle is still right after any step. -/
theorem Accounted.perform {held : Held σ} {log : List Use}
    (h : Accounted held.handle.closed log) (step : Step) :
    Accounted (held.perform step).2.handle.closed
      (log ++ if held.handle.closed then [] else step.uses) := by
  cases hc : held.handle.closed with
  | true =>
    rw [Held.perform_of_closed hc, if_pos rfl, List.append_nil]
    exact h
  | false =>
    rw [if_neg Bool.false_ne_true]
    have hlog := h.of_open hc
    cases step with
    | get => exact ⟨fun _ => by simpa [Step.uses] using hlog, fun ho => by cases hc.symm.trans ho⟩
    | set v =>
      exact ⟨fun _ => by simpa [Step.uses] using hlog, fun ho => by cases hc.symm.trans ho⟩
    | close => exact ⟨nofun, fun _ => ⟨log, rfl, hlog⟩⟩
    | scopedGet => exact ⟨nofun, fun _ => ⟨log ++ [.get], by simp [Step.uses], by simpa using hlog⟩⟩

namespace Usage

/-- The hooks of a handle stay the same. -/
theorem hooks_run (usage : Usage) (held : Held σ) :
    (usage.run held).2.handle.hooks = held.handle.hooks := by
  induction usage generalizing held with
  | finish result => rfl
  | step step next ih => exact (ih _ _).trans (hooks_after held.handle step)
  | block body next ihBody ih => exact (ih _ _).trans (ihBody held)

/-- **Any use of a handle.** With a log it ends as it would without one, and what the log tells is
right afterwards; by induction on what is done. -/
theorem exists_log (usage : Usage) (held : Held σ) {log : List Use}
    (h : Accounted held.handle.closed log) :
    ∃ log', usage.run (held.logged id log) =
        ((usage.run held).1, (usage.run held).2.logged id log') ∧
      Accounted (usage.run held).2.handle.closed log' := by
  induction usage generalizing held log with
  | finish result => exact ⟨log, rfl, h⟩
  | step step next ih =>
    simp only [run]
    rw [Held.perform_logged, List.map_id]
    exact ih _ _ (h.perform step)
  | block body next ihBody ih =>
    obtain ⟨middle, hrun, hmiddle⟩ := ihBody held h
    simp only [run]
    rw [hrun]
    dsimp only
    rw [Held.leave_logged]
    exact ih _ _ (hmiddle.perform .close)

/-- **The life of a handle.** Something is done with a fresh handle, whatever its hooks do, and a
log is kept of the hooks that ran; without the log it goes the same way. While the handle is open
its release hook has not run; releasing it runs that hook, and the handle is released even if the
hook fails. Once it is released, that hook has run once and no other hook since; whatever is done
later changes nothing, nothing is got or set, and releasing it again is no failure. Leaving a block
always leaves a released handle. -/
theorem lifecycle (hooks : Hooks σ) (s : σ) (usage : Usage) {result : Except Failure Value}
    {held : Held (Logged Use σ)}
    (hrun : usage.run ((Held.fresh hooks s).logged id []) = (result, held)) :
    usage.run (.fresh hooks s) =
        (result, ⟨⟨hooks, held.handle.closed⟩, held.state.state⟩) ∧
      (held.handle.closed = false → Use.release ∉ held.state.log ∧
        (held.perform .close).1 = (hooks.release.start held.state.state).1.map (fun _ => .null) ∧
        (held.perform .close).2.handle.closed = true ∧
        (held.perform .close).2.state.log = held.state.log ++ [.release]) ∧
      (held.handle.closed = true →
        (∃ before, held.state.log = before ++ [.release] ∧ Use.release ∉ before) ∧
        (∀ later : Usage, (later.run held).2 = held) ∧
        (held.perform .get).1 = .error .handleReleased ∧
        (∀ v, (held.perform (.set v)).1 = .error .handleReleased) ∧
        (held.perform .close).1 = .ok .null) ∧
      ∀ body : Usage, ((block body finish).run held).2.handle.closed = true := by
  have hstart : Accounted (Held.fresh hooks s).handle.closed [] :=
    ⟨fun _ => List.not_mem_nil, nofun⟩
  obtain ⟨log, hlogged, haccounted⟩ := usage.exists_log _ hstart
  rw [hrun] at hlogged
  have hhooks := usage.hooks_run (.fresh hooks s)
  rcases hplain : usage.run (.fresh hooks s) with ⟨ended, ⟨hooks', closed⟩, t⟩
  rw [hplain] at hlogged haccounted hhooks
  cases hlogged
  cases hhooks
  refine ⟨rfl, fun ho => ?_, fun hc => ?_, fun body => Held.closed_leave _ _⟩
  · cases ho
    rw [Held.perform_logged]
    exact ⟨haccounted.of_open rfl, @Held.fst_perform_close σ ⟨{ hooks }, t⟩ rfl, rfl, rfl⟩
  · cases hc
    exact ⟨haccounted.of_closed rfl, fun later => later.run_of_closed rfl,
      Held.result_of_closed rfl⟩

/-- In a block a text is got and the handle is released, which fails; then a text is to be set. -/
theorem lifecycle_of_failing_release :
    let hooks : Hooks Unit :=
      ⟨pure (.text "v"), fun _ => throw (.timeout []), throw (.clipboard "boom")⟩
    let usage : Usage := block (step .get fun _ => step .close finish) fun _ =>
      step (.set (.text "x")) finish
    let held : Held (Logged Use Unit) :=
      ⟨⟨hooks.logged id, true⟩, ⟨(), [.get, .release]⟩⟩
    usage.run ((Held.fresh hooks ()).logged id []) = (.error .handleReleased, held) ∧
      (usage.run (.fresh hooks ())).1 = .error .handleReleased ∧
      (∃ before, held.state.log = before ++ [.release] ∧ Use.release ∉ before) ∧
      (held.perform .get).1 = .error .handleReleased ∧ (held.perform .close).1 = .ok .null := by
  intro hooks usage held
  have hrun : usage.run ((Held.fresh hooks ()).logged id []) = (.error .handleReleased, held) := rfl
  obtain ⟨hplain, -, hreleased, -⟩ := lifecycle hooks () usage hrun
  obtain ⟨hlog, -, hget, -, hclose⟩ := hreleased rfl
  exact ⟨hrun, congrArg Prod.fst hplain, hlog, hget, hclose⟩

end Usage

end Handle

end Pasteboard
