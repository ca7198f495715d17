import Mathlib.Data.List.Basic

/-!
# The last setting counts

Much of a state is a value that some actions set and all others leave: a segment of the display, a byte
of memory, the level of a category.  What such a value is after any actions is said without the state:
it is what was set last, and if nothing was, it is what it had been before.

An action sets the value to `setting? a`, if to anything.  That each action does what `setting?` says has
to be shown of every state that keeps the invariant `P`; then `getD_lastSetting?_foldl` is about all runs.
-/

namespace Trainer6800

variable {S A α : Type} {setting? : A → Option α}

/-- The value that was set last, if any was set. -/
def lastSetting? (setting? : A → Option α) (actions : List A) : Option α :=
  (actions.filterMap setting?).getLast?

theorem lastSetting?_append (before after : List A) :
    lastSetting? setting? (before ++ after) =
      (lastSetting? setting? after).or (lastSetting? setting? before) := by
  rw [lastSetting?, List.filterMap_append, List.getLast?_append, lastSetting?, lastSetting?]

theorem lastSetting?_singleton (a : A) : lastSetting? setting? [a] = setting? a := by
  rw [lastSetting?, List.filterMap_cons]
  cases setting? a with
  | none => rfl
  | some value => rfl

theorem lastSetting?_eq_none_iff {actions : List A} :
    lastSetting? setting? actions = none ↔ ∀ a ∈ actions, setting? a = none := by
  rw [lastSetting?, List.getLast?_eq_none_iff, List.filterMap_eq_nil_iff]

/-- What comes before the last setting does not matter. -/
theorem lastSetting?_of_last {before after : List A} {a : A} {value : α}
    (sets : setting? a = some value) (last : ∀ later ∈ after, setting? later = none) :
    lastSetting? setting? (before ++ a :: after) = some value := by
  rw [← List.singleton_append, lastSetting?_append, lastSetting?_append, lastSetting?_singleton, sets,
    lastSetting?_eq_none_iff.mpr last, Option.none_or, Option.some_or]

/-- The first setting counts as what was there before the others. -/
theorem getD_lastSetting?_cons (a : A) (actions : List A) (old : α) :
    (lastSetting? setting? (a :: actions)).getD old =
      (lastSetting? setting? actions).getD ((setting? a).getD old) := by
  rw [← List.singleton_append, lastSetting?_append, lastSetting?_singleton]
  cases lastSetting? setting? actions with
  | none => rw [Option.none_or, Option.getD_none]
  | some value => rw [Option.some_or, Option.getD_some, Option.getD_some]

/-- Of two actions of which only one sets anything, either may come first. -/
theorem lastSetting?_swap {a b : A} (apart : setting? a = none ∨ setting? b = none)
    (later : List A) :
    lastSetting? setting? (a :: b :: later) = lastSetting? setting? (b :: a :: later) := by
  rw [lastSetting?, lastSetting?]
  rcases apart with none | none
  · rw [List.filterMap_cons_none none, List.filterMap_cons, List.filterMap_cons,
      List.filterMap_cons_none none]
  · rw [List.filterMap_cons_none none, List.filterMap_cons, List.filterMap_cons_none none,
      List.filterMap_cons]

/-- If each action sets a value or leaves it, then after any of them it is what was set last. -/
theorem getD_lastSetting?_foldl {act : S → A → S} (value : S → α) (P : S → Prop)
    (kept : ∀ s a, P s → P (act s a))
    (each : ∀ s a, P s → value (act s a) = (setting? a).getD (value s)) {s : S} (h : P s)
    (actions : List A) :
    value (actions.foldl act s) = (lastSetting? setting? actions).getD (value s) := by
  induction actions generalizing s with
  | nil => rfl
  | cons a rest ih =>
    rw [List.foldl_cons, ih (kept s a h), each s a h, getD_lastSetting?_cons]

end Trainer6800
