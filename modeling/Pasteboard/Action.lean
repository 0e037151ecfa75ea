import Pasteboard.Failure

/-!
# Actions

An action changes a state and ends with a value or a failure. What it did to the state stays done
when it fails: nothing is rolled back, since the world outside cannot be. `Action.guarded` is the
one way to put a clean-up behind an action, and `Action.within` lets an action on a part of a state
act on the whole.
-/

namespace Pasteboard

/-- A change of a state that ends with a value or a failure. -/
abbrev Action (σ α : Type) := ExceptT Failure (StateM σ) α

namespace Action

variable {σ τ α : Type}

/-- How an action ends on a state, and the state that it leaves. -/
def start (a : Action σ α) (s : σ) : Except Failure α × σ := a s

/-- The action that is described by how it ends and the state that it leaves. -/
def ofFunction (f : σ → Except Failure α × σ) : Action σ α := f

/-- The action that ends as given and leaves the state alone. -/
def ofResult (r : Except Failure α) : Action σ α := ofFunction fun s => (r, s)

/-- The action that changes the state and succeeds. -/
def update (f : σ → σ) : Action σ Unit := ofFunction fun s => (.ok (), f s)

/-- The action that asks for a part of the state. -/
def ask (f : σ → α) : Action σ α := ofFunction fun s => (.ok (f s), s)

/-- The action with its failures reworded; the state does not depend on the wording. -/
def mapFailure (f : Failure → Failure) (a : Action σ α) : Action σ α :=
  ofFunction fun s => ((a.start s).1.mapError f, (a.start s).2)

/-- The action, and `last` after it however it ends. If `last` fails, its failure is the outcome
whatever came before it. -/
def guarded (a : Action σ α) (last : Action σ Unit) : Action σ α :=
  ofFunction fun s =>
    let (result, s) := a.start s
    match last.start s with
    | (.ok (), s) => (result, s)
    | (.error f, s) => (.error f, s)

/-- An action on a part of the state as an action on the whole. -/
def within (get : σ → τ) (set : τ → σ → σ) (a : Action τ α) : Action σ α :=
  ofFunction fun s => ((a.start (get s)).1, set (a.start (get s)).2 s)

@[simp] theorem start_ofFunction (f : σ → Except Failure α × σ) (s : σ) :
    (ofFunction f).start s = f s := rfl

@[simp] theorem start_ofResult (r : Except Failure α) (s : σ) :
    (ofResult r : Action σ α).start s = (r, s) := rfl

@[simp] theorem start_update (f : σ → σ) (s : σ) : (update f).start s = (.ok (), f s) := rfl

@[simp] theorem start_ask (f : σ → α) (s : σ) : (ask f).start s = (.ok (f s), s) := rfl

@[simp] theorem start_pure (a : α) (s : σ) :
    (pure a : Action σ α).start s = (.ok a, s) := rfl

@[simp] theorem start_throw (f : Failure) (s : σ) :
    (throw f : Action σ α).start s = (.error f, s) := rfl

/-- An action goes on with the next one where it succeeds and stops where it fails. -/
theorem start_bind {β : Type} (a : Action σ α) (k : α → Action σ β) (s : σ) :
    (a >>= k).start s =
      match a.start s with
      | (.ok x, t) => (k x).start t
      | (.error f, t) => (.error f, t) := by
  simp only [start, bind, ExceptT.bind, ExceptT.mk, ExceptT.bindCont, StateT.bind]
  rcases a s with ⟨_ | _, _⟩ <;> rfl

/-- An action that fails is followed by what is done about the failure. -/
theorem start_tryCatch (a : Action σ α) (k : Failure → Action σ α) (s : σ) :
    (tryCatch a k).start s =
      match a.start s with
      | (.ok x, t) => (.ok x, t)
      | (.error f, t) => (k f).start t := by
  simp only [start, tryCatch, tryCatchThe, MonadExceptOf.tryCatch, ExceptT.tryCatch, ExceptT.mk,
    bind, StateT.bind]
  rcases a s with ⟨_ | _, _⟩ <;> rfl

theorem start_map {β : Type} (f : α → β) (a : Action σ α) (s : σ) :
    (f <$> a).start s = ((a.start s).1.map f, (a.start s).2) := by
  simp only [start, Functor.map, ExceptT.map, ExceptT.mk, bind, StateT.bind]
  rcases a s with ⟨_ | _, _⟩ <;> rfl

/-- An action with a clean-up ends as it would alone unless the clean-up fails. -/
theorem start_guarded (a : Action σ α) (last : Action σ Unit) (s : σ) :
    (a.guarded last).start s =
      match last.start (a.start s).2 with
      | (.ok (), t) => ((a.start s).1, t)
      | (.error f, t) => (.error f, t) := rfl

@[simp] theorem start_within (get : σ → τ) (set : τ → σ → σ) (a : Action τ α) (s : σ) :
    (a.within get set).start s = ((a.start (get s)).1, set (a.start (get s)).2 s) := rfl

@[simp] theorem start_mapFailure (f : Failure → Failure) (a : Action σ α) (s : σ) :
    (a.mapFailure f).start s = ((a.start s).1.mapError f, (a.start s).2) := rfl

end Action

end Pasteboard
