import Trainer6800.Keypad.Basic

/-!
# Held keys

No operation of the keypad makes a key occur twice among the held ones: a press of a held key is
ignored, and a keypad that comes from outside loses its repetitions.
-/

namespace Trainer6800

/-- A list without repetitions has none to lose. -/
theorem eraseDups_of_nodup {α : Type} [BEq α] [LawfulBEq α] {l : List α} (h : l.Nodup) :
    l.eraseDups = l := by
  induction l with
  | nil => rfl
  | cons a as ih =>
    obtain ⟨ha, has⟩ := List.nodup_cons.mp h
    have others : (as.filter fun b => !b == a) = as := by
      rw [List.filter_eq_self]
      intro b hb
      simp only [Bool.not_eq_true', beq_eq_false_iff_ne]
      intro e
      exact ha (e ▸ hb)
    rw [List.eraseDups_cons, others, ih has]

theorem nodup_eraseDups {α : Type} [BEq α] [LawfulBEq α] (l : List α) : l.eraseDups.Nodup := by
  -- each element is kept once and removed from the rest, which is then shorter
  induction hn : l.length using Nat.strongRecOn generalizing l with
  | ind n ih =>
    cases l with
    | nil => exact List.nodup_nil
    | cons a as =>
      rw [List.eraseDups_cons, List.nodup_cons]
      constructor
      · simp
      · refine ih _ ?_ _ rfl
        rw [← hn, List.length_cons]
        exact Nat.lt_succ_of_le (List.length_filter_le _ _)

namespace Keypad

theorem nodup_press {k : Keypad} (h : k.held.Nodup) (key : Key) : (k.press key).held.Nodup := by
  unfold press
  split
  · exact h
  · rename_i fresh
    refine List.nodup_append.mpr ⟨h, List.pairwise_singleton _ _, ?_⟩
    rintro a ha b hb rfl
    rw [List.mem_singleton] at hb
    subst hb
    exact fresh (List.contains_iff_mem.mpr ha)

theorem nodup_release {k : Keypad} (h : k.held.Nodup) (key : Key) :
    (k.release key).held.Nodup :=
  h.erase key

theorem nodup_withoutRepetitions (k : Keypad) : k.withoutRepetitions.held.Nodup :=
  nodup_eraseDups k.held

theorem withoutRepetitions_of_nodup {k : Keypad} (h : k.held.Nodup) : k.withoutRepetitions = k := by
  rw [withoutRepetitions, eraseDups_of_nodup h]

theorem policy_press (k : Keypad) (key : Key) : (k.press key).policy = k.policy := by
  unfold press
  split
  · rfl
  · rfl

end Keypad

end Trainer6800
