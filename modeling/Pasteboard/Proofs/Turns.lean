import Mathlib.Data.List.Basic

/-!
# Taking turns

Activities that go on at the same time share a state and take turns at it, in any order. `Turns`
says whose turn it is and what a turn does to the activity and to the state; a schedule is a list of
turns. An activity that gets no more turns has stopped for good, so nothing more is needed for
processes that end halfway.

What holds at the start and is kept by each turn holds after every schedule (`Turns.run_induction`).
-/

namespace Pasteboard

variable {τ σ π : Type}

/-- Activities and the state that they share. -/
structure Concurrent (σ π : Type) where
  shared : σ
  parts : List π

/-- Whose turn it is, and what a turn does. -/
structure Turns (τ σ π : Type) where
  who : τ → Nat
  advance : τ → π → σ → π × σ

namespace Turns

variable (T : Turns τ σ π)

/-- One turn; nothing happens if there is no activity with this number. -/
def take (c : Concurrent σ π) (t : τ) : Concurrent σ π :=
  match c.parts[T.who t]? with
  | none => c
  | some part =>
    ⟨(T.advance t part c.shared).2, c.parts.set (T.who t) (T.advance t part c.shared).1⟩

/-- One turn after the other. -/
def run (schedule : List τ) (c : Concurrent σ π) : Concurrent σ π := schedule.foldl T.take c

variable {T} {c : Concurrent σ π} {t : τ} {part : π}

theorem take_of_getElem? (h : c.parts[T.who t]? = some part) :
    T.take c t =
      ⟨(T.advance t part c.shared).2, c.parts.set (T.who t) (T.advance t part c.shared).1⟩ := by
  rw [take, h]

theorem take_of_none (h : c.parts[T.who t]? = none) : T.take c t = c := by
  rw [take, h]

/-- What is kept by the turns of all activities that are there is kept by every turn. -/
theorem take_induction {P : Concurrent σ π → Prop} (hstart : P c)
    (hturn : ∀ part, c.parts[T.who t]? = some part →
      P ⟨(T.advance t part c.shared).2, c.parts.set (T.who t) (T.advance t part c.shared).1⟩) :
    P (T.take c t) := by
  rcases hpart : c.parts[T.who t]? with _ | part
  · rw [take_of_none hpart]
    exact hstart
  · rw [take_of_getElem? hpart]
    exact hturn part hpart

/-- What holds at the start and is kept by each turn holds after every schedule, by induction on the
turns. It may be about the turns that have been taken. -/
theorem run_induction {P : List τ → Concurrent σ π → Prop} (schedule : List τ) (hstart : P [] c)
    (hturn : ∀ done c t, P done c → P (done ++ [t]) (T.take c t)) :
    P schedule (T.run schedule c) := by
  have key : ∀ done c, P done c → P (done ++ schedule) (T.run schedule c) := by
    induction schedule with
    | nil =>
      intro done c h
      rwa [List.append_nil]
    | cons t rest ih =>
      intro done c h
      have hrest := ih (done ++ [t]) _ (hturn done c t h)
      rwa [List.append_assoc] at hrest
  exact key [] c hstart

end Turns

/-! ### Two systems side by side -/

/-- What is shared is related, and so are the activities one by one. -/
structure Alike {σ' π' : Type} (R : σ → σ' → Prop) (Q : π → π' → Prop) (c : Concurrent σ π)
    (d : Concurrent σ' π') : Prop where
  shared : R c.shared d.shared
  parts : ∀ i : Nat, Option.Rel Q c.parts[i]? d.parts[i]?

/-- The activities after a turn: the one whose turn it was has gone on, all others are as before. -/
theorem getElem?_set_cases {parts : List π} {i j : Nat} {old new part : π}
    (hi : parts[i]? = some old) (h : (parts.set i new)[j]? = some part) :
    (j = i ∧ part = new) ∨ (j ≠ i ∧ parts[j]? = some part) := by
  by_cases hj : j = i
  · subst hj
    rw [List.getElem?_set_self (List.getElem?_eq_some_iff.1 hi).1] at h
    exact .inl ⟨rfl, (Option.some.inj h).symm⟩
  · rw [List.getElem?_set_ne (Ne.symm hj)] at h
    exact .inr ⟨hj, h⟩

/-- **Two systems go on alike** if every turn keeps what relates them. -/
theorem Turns.run_alike {σ' π' : Type} {R : σ → σ' → Prop} {Q : π → π' → Prop}
    (T : Turns τ σ π) (U : Turns τ σ' π') (hwho : ∀ t, T.who t = U.who t)
    (hturn : ∀ t a b s s', R s s' → Q a b →
      R (T.advance t a s).2 (U.advance t b s').2 ∧ Q (T.advance t a s).1 (U.advance t b s').1)
    (schedule : List τ) {c : Concurrent σ π} {d : Concurrent σ' π'} (h : Alike R Q c d) :
    Alike R Q (T.run schedule c) (U.run schedule d) := by
  induction schedule generalizing c d with
  | nil => exact h
  | cons t rest ih =>
    refine ih (c := T.take c t) (d := U.take d t) ?_
    have hpart := h.parts (T.who t)
    rcases ha : c.parts[T.who t]? with _ | a
    · -- neither system has an activity with this number
      rw [ha] at hpart
      cases hb : d.parts[T.who t]? with
      | none => rwa [take_of_none ha, take_of_none (by rw [← hwho]; exact hb)]
      | some b =>
        rw [hb] at hpart
        cases hpart
    · rw [ha] at hpart
      rcases hb : d.parts[T.who t]? with _ | b
      · rw [hb] at hpart
        cases hpart
      · rw [hb] at hpart
        cases hpart with
        | some hab =>
          obtain ⟨hshared, hnew⟩ := hturn t a b c.shared d.shared h.shared hab
          rw [take_of_getElem? ha, take_of_getElem? (by rw [← hwho]; exact hb)]
          refine ⟨hshared, fun i => ?_⟩
          dsimp only
          by_cases hi : T.who t = i
          · rw [← hwho, ← hi, List.getElem?_set_self (List.getElem?_eq_some_iff.1 ha).1,
              List.getElem?_set_self (List.getElem?_eq_some_iff.1 hb).1]
            exact .some hnew
          · rw [← hwho, List.getElem?_set_ne hi, List.getElem?_set_ne hi]
            exact h.parts i

end Pasteboard
