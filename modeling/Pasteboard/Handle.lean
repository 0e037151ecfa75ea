import Pasteboard.Action
import Pasteboard.Value

/-!
# Clipboard handles

A clipboard is used through handles, each good for a moment: the clipboard hands one out, one text
is got or set, and the handle is released. What a handle does on a clipboard are its three hooks;
when they may run is the same for every clipboard and is decided here. A released handle runs no
hook any more. Releasing happens once, and a handle counts as released even if its release hook
fails.

Using a handle never opens it again, so what becomes of a handle, `Handle.after`, is known before
the hooks run.
-/

namespace Pasteboard

/-- What a clipboard does for a handle. -/
structure Hooks (σ : Type) where
  /-- Hands over what the clipboard holds. -/
  get : Action σ Value
  /-- Puts a value on the clipboard. What is no text is for the clipboard to accept or to refuse. -/
  set : Value → Action σ Unit
  /-- Frees what the handle holds. -/
  release : Action σ Unit

/-- A handle: its hooks, and whether it has been released. -/
structure Handle (σ : Type) where
  hooks : Hooks σ
  closed : Bool := false

namespace Handle

variable {σ α : Type}

/-- An action with the handle, which a released handle refuses. -/
def ifOpen (h : Handle σ) (a : Action σ α) : Action σ α :=
  if h.closed then throw .handleReleased else a

/-- Gets what the clipboard holds. -/
def get (h : Handle σ) : Action σ Value := h.ifOpen h.hooks.get

/-- Puts a value on the clipboard. -/
def set (h : Handle σ) (v : Value) : Action σ Unit := h.ifOpen (h.hooks.set v)

/-- Releases the handle; nothing happens if it has been released before. -/
def close (h : Handle σ) : Action σ Unit := if h.closed then pure () else h.hooks.release

/-- An action with the handle, which is released afterwards however the action ends. -/
def use (h : Handle σ) (a : Action σ α) : Action σ α := a.guarded h.close

/-- Something to do with a handle. -/
inductive Step
  | get
  | set (v : Value)
  | close
  /-- Get the text and release the handle. -/
  | scopedGet

/-- Does one step; steps without a result give `null`. -/
def perform (h : Handle σ) : Step → Action σ Value
  | .get => h.get
  | .set v => do h.set v; pure .null
  | .close => do h.close; pure .null
  | .scopedGet => h.use h.get

/-- The handle after a step, however the step ends. -/
def after (h : Handle σ) : Step → Handle σ
  | .get => h
  | .set _ => h
  | .close => { h with closed := true }
  | .scopedGet => { h with closed := true }

/-- A released handle stays released. -/
theorem closed_after_of_closed (h : Handle σ) (step : Step) (hc : h.closed = true) :
    (h.after step).closed = true := by
  cases step <;> simp [after, hc]

/-- No step changes what a handle does. -/
@[simp] theorem hooks_after (h : Handle σ) (step : Step) : (h.after step).hooks = h.hooks := by
  cases step <;> rfl

end Handle

/-- A clipboard, which hands out handles. -/
structure Clipboard (σ : Type) where
  /-- Hands out a fresh handle. -/
  acquire : Action σ (Handle σ)
  /-- Whether the clipboard counts as true where it is asked for. One that has no say in this always
  does; others may tell by what they hold. -/
  counts : σ → Bool := fun _ => true

/-- Hooks on a part of a state as hooks on the whole. -/
def Hooks.within {σ τ : Type} (get : σ → τ) (set : τ → σ → σ) (h : Hooks τ) : Hooks σ where
  get := h.get.within get set
  set v := (h.set v).within get set
  release := h.release.within get set

/-- A handle on a part of a state as a handle on the whole. -/
def Handle.within {σ τ : Type} (get : σ → τ) (set : τ → σ → σ) (h : Handle τ) : Handle σ where
  hooks := h.hooks.within get set
  closed := h.closed

/-- A clipboard on a part of a state as a clipboard on the whole. -/
def Clipboard.within {σ τ : Type} (get : σ → τ) (set : τ → σ → σ) (p : Clipboard τ) :
    Clipboard σ where
  acquire := Handle.within get set <$> p.acquire.within get set
  counts s := p.counts (get s)

end Pasteboard
