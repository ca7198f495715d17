/-!
# Results of what can fail

When something that can fail has a result, each of its steps has had one, and no check in it has failed.
-/

namespace Trainer6800

variable {ε α β : Type}

theorem map_eq_ok_iff {r : Except ε α} {f : α → β} {b : β} :
    r.map f = .ok b ↔ ∃ a, r = .ok a ∧ f a = b := by
  cases r with
  | error e => simp [Except.map]
  | ok a => simp [Except.map]

theorem bind_eq_ok_iff {r : Except ε α} {f : α → Except ε β} {b : β} :
    r.bind f = .ok b ↔ ∃ a, r = .ok a ∧ f a = .ok b := by
  cases r with
  | error e => simp [Except.bind]
  | ok a => simp [Except.bind]

theorem mapError_eq_ok_iff {δ : Type} {r : Except ε α} {f : ε → δ} {a : α} :
    r.mapError f = .ok a ↔ r = .ok a := by
  cases r with
  | error e => exact ⟨nofun, nofun⟩
  | ok b =>
    show Except.ok b = .ok a ↔ _
    rw [Except.ok.injEq, Except.ok.injEq]

theorem check_eq_ok_iff {fails : Prop} [Decidable fails] {e : ε} {r : Except ε α} {a : α} :
    (if fails then .error e else r) = .ok a ↔ ¬ fails ∧ r = .ok a := by
  by_cases h : fails
  · simp [h]
  · simp [h]

end Trainer6800
