import Pasteboard.Failure

/-!
# Results

A result is a value or a failure. What a result that was worked out from another one says about the
other one: each lemma is for one way of going on from a result.
-/

namespace Pasteboard

variable {ε δ α γ : Type} {f : Failure}

theorem bind_eq_ok_iff {x : Except Failure α} {k : α → Except Failure γ} {y : γ} :
    x >>= k = .ok y ↔ ∃ a, x = .ok a ∧ k a = .ok y := by
  cases x with
  | error f => exact iff_of_false nofun (by rintro ⟨a, ⟨⟩, -⟩)
  | ok a => exact ⟨fun h => ⟨a, rfl, h⟩, by rintro ⟨b, ⟨⟩, h⟩; exact h⟩

theorem bind_eq_error_iff {x : Except Failure α} {k : α → Except Failure γ} :
    x >>= k = .error f ↔ x = .error f ∨ ∃ a, x = .ok a ∧ k a = .error f := by
  cases x with
  | error g => exact ⟨fun h => by cases h; exact .inl rfl, by rintro (⟨⟨⟩⟩ | ⟨a, ⟨⟩, -⟩); rfl⟩
  | ok a => exact ⟨fun h => .inr ⟨a, rfl, h⟩, by rintro (⟨⟨⟩⟩ | ⟨b, ⟨⟩, h⟩); exact h⟩

theorem map_eq_ok_iff {x : Except Failure α} {k : α → γ} {y : γ} :
    k <$> x = .ok y ↔ ∃ a, x = .ok a ∧ y = k a := by
  cases x with
  | error f => exact iff_of_false nofun (by rintro ⟨a, ⟨⟩, -⟩)
  | ok a => exact ⟨fun h => by cases h; exact ⟨a, rfl, rfl⟩, by rintro ⟨b, ⟨⟩, rfl⟩; rfl⟩

theorem map_eq_error_iff {x : Except Failure α} {k : α → γ} :
    k <$> x = .error f ↔ x = .error f := by
  cases x with
  | error g => exact ⟨fun h => by cases h; rfl, by rintro ⟨⟩; rfl⟩
  | ok a => exact iff_of_false nofun nofun

theorem mapError_eq_ok_iff {x : Except ε α} {k : ε → δ} {y : α} :
    x.mapError k = .ok y ↔ x = .ok y := by
  cases x with
  | error e => exact iff_of_false nofun nofun
  | ok a => exact ⟨fun h => by cases h; rfl, by rintro ⟨⟩; rfl⟩

theorem mapError_eq_error_iff {x : Except ε α} {k : ε → δ} {d : δ} :
    x.mapError k = .error d ↔ ∃ e, x = .error e ∧ d = k e := by
  cases x with
  | error e => exact ⟨fun h => by cases h; exact ⟨e, rfl, rfl⟩, by rintro ⟨_, ⟨⟩, rfl⟩; rfl⟩
  | ok a => exact iff_of_false nofun (by rintro ⟨e, ⟨⟩, -⟩)

end Pasteboard
