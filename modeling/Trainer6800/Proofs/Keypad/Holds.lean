import Mathlib.Data.List.Induction
import Trainer6800.Proofs.Keypad.Held
import Trainer6800.Proofs.InPlace.Keypad
import Trainer6800.Proofs.LastSetting

/-!
# Holds

A press of a released key begins a hold of the key, and the hold lasts until the key is released, alone
or together with all others; another press in between is ignored.  `Unreleased` and `HeldSince` say which
keys are held at the end of a history of actions, and since when, by looking at the history alone.

The keypad does not know its history.  It has a list that every action edits, and the scan matrix sees
the part of the list that the policy lets through.  `HoldsOf` says what the list is: the keys of the
present holds, in the order in which these began.  Every action keeps it so, and after any history the
keypad answers and shows what the history says (`Keypad.held_as_pressed`).
-/

namespace Trainer6800

/-! ## Histories -/

/-- What is done to a keypad. -/
inductive KeypadAction where
  | press (key : Key)
  | release (key : Key)
  | releaseAll
  | setPolicy (policy : KeyPolicy)
  deriving DecidableEq, Repr

namespace KeypadAction

/-- The action ends the hold of a key, if there is one. -/
def Releases (key : Key) : KeypadAction → Prop
  | release other => other = key
  | releaseAll => True
  | press _ | setPolicy _ => False

/-- The policy that an action sets, if it sets one. -/
def policy? : KeypadAction → Option KeyPolicy
  | setPolicy policy => some policy
  | press _ | release _ | releaseAll => none

end KeypadAction

open KeypadAction

/-- The key has been pressed and not been released since. -/
def Unreleased (history : List KeypadAction) (key : Key) : Prop :=
  ∃ before after, history = before ++ press key :: after ∧ ∀ a ∈ after, ¬ a.Releases key

/-- The present hold of the key began with the action that `moment` others came before: it is a press,
the key was not held before it, and it has not been released since. -/
def HeldSince (history : List KeypadAction) (key : Key) (moment : Nat) : Prop :=
  ∃ before after, history = before ++ press key :: after ∧
    (before.length = moment ∧ ¬ Unreleased before key) ∧ ∀ a ∈ after, ¬ a.Releases key

/-- The keys are the data key whose hold began last of all those with the property `P`, and none if no
such key is held. -/
def Latest (history : List KeypadAction) (P : Fin 16 → Prop) (keys : List Key) : Prop :=
  (keys = [] ∧ ∀ digit, P digit → ¬ Unreleased history (.data digit)) ∨
    ∃ digit, keys = [.data digit] ∧ P digit ∧ ∃ moment, HeldSince history (.data digit) moment ∧
      ∀ other earlier, P other → HeldSince history (.data other) earlier → earlier ≤ moment

variable {history : List KeypadAction} {a : KeypadAction} {key : Key} {held : List Key}

/-- A press since which a key has not been released, in a history that has become longer, is the last
action, or it was there before and the last action does not release the key. -/
theorem exists_press_concat {P : List KeypadAction → Prop} :
    (∃ before after, history ++ [a] = before ++ press key :: after ∧
        P before ∧ ∀ b ∈ after, ¬ b.Releases key) ↔
      (a = press key ∧ P history) ∨
        (∃ before after, history = before ++ press key :: after ∧
          P before ∧ ∀ b ∈ after, ¬ b.Releases key) ∧ ¬ a.Releases key := by
  constructor
  · rintro ⟨before, after, split, holds, since⟩
    rcases List.eq_nil_or_concat after with rfl | ⟨after, last, rfl⟩
    · obtain ⟨rfl, same⟩ := List.append_inj' split rfl
      exact .inl ⟨List.singleton_inj.mp same, holds⟩
    · rw [List.concat_eq_append] at split since
      rw [← List.cons_append, ← List.append_assoc] at split
      obtain ⟨rfl, same⟩ := List.append_inj' split rfl
      cases same
      rw [List.forall_mem_append, List.forall_mem_singleton] at since
      exact .inr ⟨⟨before, after, rfl, holds, since.1⟩, since.2⟩
  · rintro (⟨rfl, holds⟩ | ⟨⟨before, after, rfl, holds, since⟩, lasts⟩)
    · exact ⟨history, [], rfl, holds, List.forall_mem_nil _⟩
    · refine ⟨before, after ++ [a], List.append_assoc _ _ _, holds, ?_⟩
      exact List.forall_mem_append.mpr ⟨since, List.forall_mem_singleton.mpr lasts⟩

theorem not_unreleased_nil (key : Key) : ¬ Unreleased [] key := by
  rintro ⟨before, after, split, -⟩
  cases before <;> cases split

theorem unreleased_concat :
    Unreleased (history ++ [a]) key ↔
      a = press key ∨ Unreleased history key ∧ ¬ a.Releases key := by
  simpa only [Unreleased, true_and, and_true] using exists_press_concat (P := fun _ => True)

theorem heldSince_concat {moment : Nat} :
    HeldSince (history ++ [a]) key moment ↔
      (a = press key ∧ history.length = moment ∧ ¬ Unreleased history key) ∨
        HeldSince history key moment ∧ ¬ a.Releases key :=
  exists_press_concat

namespace HeldSince

variable {moment : Nat}

theorem unreleased (h : HeldSince history key moment) : Unreleased history key := by
  obtain ⟨before, after, split, -, since⟩ := h
  exact ⟨before, after, split, since⟩

theorem lt_length (h : HeldSince history key moment) : moment < history.length := by
  obtain ⟨before, after, rfl, ⟨rfl, -⟩, -⟩ := h
  simp

theorem concat (h : HeldSince history key moment) (lasts : ¬ a.Releases key) :
    HeldSince (history ++ [a]) key moment :=
  heldSince_concat.mpr (.inr ⟨h, lasts⟩)

/-- The present hold has one beginning. -/
theorem unique (h : HeldSince history key moment) {moment' : Nat}
    (h' : HeldSince history key moment') : moment = moment' := by
  induction history using List.reverseRecOn with
  | nil => exact absurd h.unreleased (not_unreleased_nil key)
  | append_singleton history a ih =>
    rcases heldSince_concat.mp h with ⟨-, last, fresh⟩ | ⟨old, -⟩
    · rcases heldSince_concat.mp h' with ⟨-, last', -⟩ | ⟨old', -⟩
      · exact last.symm.trans last'
      · exact absurd old'.unreleased fresh
    · rcases heldSince_concat.mp h' with ⟨-, -, fresh'⟩ | ⟨old', -⟩
      · exact absurd old.unreleased fresh'
      · exact ih old old'

end HeldSince

/-- Every present hold has a beginning. -/
theorem Unreleased.exists_heldSince (h : Unreleased history key) :
    ∃ moment, HeldSince history key moment := by
  induction history using List.reverseRecOn with
  | nil => exact absurd h (not_unreleased_nil key)
  | append_singleton history a ih =>
    by_cases before : Unreleased history key
    · obtain ⟨moment, since⟩ := ih before
      have lasts : ¬ a.Releases key := by
        rcases unreleased_concat.mp h with rfl | ⟨-, lasts⟩
        · exact id
        · exact lasts
      exact ⟨moment, since.concat lasts⟩
    · rcases unreleased_concat.mp h with pressed | ⟨before', -⟩
      · exact ⟨history.length, heldSince_concat.mpr (.inl ⟨pressed, rfl, before⟩)⟩
      · exact absurd before' before

/-! ## The list of held keys -/

/-- The keys are those of the present holds, in the order in which the holds began. -/
structure HoldsOf (history : List KeypadAction) (held : List Key) : Prop where
  mem_iff : ∀ key, key ∈ held ↔ Unreleased history key
  order : held.Pairwise fun first later =>
    ∃ i j, HeldSince history first i ∧ HeldSince history later j ∧ i < j

namespace HoldsOf

theorem nil : HoldsOf [] [] :=
  ⟨fun key => by simp [not_unreleased_nil], .nil⟩

/-- A hold has one beginning, so no key has two places. -/
theorem nodup (h : HoldsOf history held) : held.Nodup := by
  refine h.order.imp ?_
  rintro first later ⟨i, j, since, since', earlier⟩ rfl
  exact absurd (since.unique since') (Nat.ne_of_lt earlier)

/-- An action that begins no hold leaves those that it does not end. -/
theorem remain (h : HoldsOf history held) {remaining : List Key} (sublist : remaining.Sublist held)
    (mem_iff : ∀ key, key ∈ remaining ↔ key ∈ held ∧ ¬ a.Releases key)
    (none : ∀ key, a = press key → key ∈ held) : HoldsOf (history ++ [a]) remaining where
  mem_iff := by
    intro key
    rw [mem_iff, unreleased_concat, h.mem_iff]
    constructor
    · exact .inr
    · rintro (rfl | lasts)
      · exact ⟨(h.mem_iff key).mp (none key rfl), id⟩
      · exact lasts
  order := by
    refine (h.order.sublist sublist).imp_of_mem ?_
    rintro first later isFirst isLater ⟨i, j, since, since', earlier⟩
    exact ⟨i, j, since.concat ((mem_iff first).mp isFirst).2,
      since'.concat ((mem_iff later).mp isLater).2, earlier⟩

/-- A press of a released key begins a hold, which is later than all others. -/
theorem begin (h : HoldsOf history held) (released : key ∉ held) :
    HoldsOf (history ++ [press key]) (held ++ [key]) where
  mem_iff := by
    intro other
    rw [unreleased_concat, ← h.mem_iff, List.mem_append, List.mem_singleton, or_comm, eq_comm]
    simp [Releases]
  order := by
    rw [List.pairwise_append]
    refine ⟨h.order.imp ?_, List.pairwise_singleton _ _, ?_⟩
    · rintro first later ⟨i, j, since, since', earlier⟩
      exact ⟨i, j, since.concat id, since'.concat id, earlier⟩
    · intro other isHeld last isLast
      cases List.mem_singleton.mp isLast
      obtain ⟨i, since⟩ := ((h.mem_iff other).mp isHeld).exists_heldSince
      have began : HeldSince (history ++ [press key]) key history.length :=
        heldSince_concat.mpr (.inl ⟨rfl, rfl, mt (h.mem_iff key).mpr released⟩)
      exact ⟨i, history.length, since.concat id, began, since.lt_length⟩

/-- Of the listed keys with a place in the scan matrix, the last one is the one whose hold began last. -/
theorem latest {P : Fin 16 → Prop}
    (mem_iff : ∀ digit, .data digit ∈ held ↔ P digit ∧ Unreleased history (.data digit))
    (order : held.Pairwise fun first later =>
      ∃ i j, HeldSince history first i ∧ HeldSince history later j ∧ i < j) :
    Latest history P (held.findRev? fun key => key.position?.isSome).toList := by
  rw [List.findRev?_eq_find?_reverse]
  cases found : held.reverse.find? fun key => key.position?.isSome with
  | none =>
    refine .inl ⟨rfl, fun digit among unreleased => ?_⟩
    have isHeld := List.mem_reverse.mpr ((mem_iff digit).mpr ⟨among, unreleased⟩)
    exact absurd (Key.isSome_position?_data digit) (List.find?_eq_none.mp found _ isHeld)
  | some key =>
    obtain ⟨placed, after, before, split, others⟩ := List.find?_eq_some_iff_append.mp found
    have listed : held = before.reverse ++ key :: after.reverse := by
      rw [← List.reverse_reverse held, split]
      simp
    cases key with
    | reset => cases placed
    | data digit =>
      rw [listed, List.pairwise_append] at order
      have isHeld : .data digit ∈ held := by simp [listed]
      obtain ⟨among, unreleased⟩ := (mem_iff digit).mp isHeld
      obtain ⟨moment, since⟩ := unreleased.exists_heldSince
      refine .inr ⟨digit, rfl, among, moment, since, ?_⟩
      intro other earlier among' since'
      have isHeld' := (mem_iff other).mpr ⟨among', since'.unreleased⟩
      rw [listed, List.mem_append, List.mem_cons, List.mem_reverse, List.mem_reverse] at isHeld'
      rcases isHeld' with inBefore | same | inAfter
      · obtain ⟨i, j, first, later, lt⟩ :=
          order.2.2 _ (List.mem_reverse.mpr inBefore) _ List.mem_cons_self
        rw [since'.unique first, since.unique later]
        exact Nat.le_of_lt lt
      · cases same
        exact Nat.le_of_eq (since'.unique since)
      · simpa using others _ inAfter

end HoldsOf

namespace Keypad

/-! ## One action, and any number of them -/

/-- The keypad after an action, and what a press or a release answers: whether it began or ended a hold. -/
def obey (k : Keypad) : KeypadAction → Keypad × Option Bool
  | .press key => (k.press key, some !k.isPressed key)
  | .release key => (k.release key, some (k.isPressed key))
  | .releaseAll => (k.releaseAll, none)
  | .setPolicy policy => ({ k with policy }, none)

/-- The keypad after some actions. -/
def obeyAll (k : Keypad) (history : List KeypadAction) : Keypad :=
  history.foldl (fun k a => (k.obey a).1) k

variable {k : Keypad}

theorem obeyAll_concat (k : Keypad) (history : List KeypadAction) (a : KeypadAction) :
    k.obeyAll (history ++ [a]) = ((k.obeyAll history).obey a).1 := by
  rw [obeyAll, List.foldl_append]
  rfl

theorem holdsOf_obey (h : HoldsOf history k.held) (a : KeypadAction) :
    HoldsOf (history ++ [a]) (k.obey a).1.held := by
  cases a with
  | press key =>
    simp only [obey, press]
    split
    · rename_i pressed
      refine h.remain (List.Sublist.refl _) (by simp [Releases]) ?_
      rintro other same
      cases same
      exact List.contains_iff_mem.mp pressed
    · rename_i released
      exact h.begin (mt List.contains_iff_mem.mpr released)
  | release key =>
    refine h.remain List.erase_sublist ?_ nofun
    intro other
    show other ∈ k.held.erase key ↔ other ∈ k.held ∧ ¬ key = other
    rw [h.nodup.mem_erase_iff, and_comm, ne_comm]
  | releaseAll => exact h.remain (List.nil_sublist _) (by simp [obey, releaseAll, Releases]) nofun
  | setPolicy policy => exact h.remain (List.Sublist.refl _) (by simp [obey, Releases]) nofun

theorem holdsOf_obeyAll (start : KeyPolicy) (history : List KeypadAction) :
    HoldsOf history (obeyAll ⟨[], start⟩ history).held := by
  induction history using List.reverseRecOn with
  | nil => exact .nil
  | append_singleton history a ih =>
    rw [obeyAll_concat]
    exact holdsOf_obey ih a

/-- Only the actions that set the policy change it. -/
theorem policy_obeyAll (start : KeyPolicy) (history : List KeypadAction) :
    (obeyAll ⟨[], start⟩ history).policy = (history.filterMap policy?).getLast?.getD start := by
  refine getD_lastSetting?_foldl (fun k : Keypad => k.policy) (fun _ => True)
    (fun _ _ _ => trivial) ?_ trivial history
  intro k a _
  cases a with
  | press key => exact policy_press k key
  | release key | releaseAll => rfl
  | setPolicy policy => rfl

/-! ## What the scan matrix sees -/

theorem active_of_singleKey (single : k.policy = .singleKey) :
    k.active = (k.held.findRev? fun key => key.position?.isSome).toList := by
  rw [active, single]

theorem latest_active (h : HoldsOf history k.held) (single : k.policy = .singleKey) :
    Latest history (fun _ => True) k.active := by
  rw [active_of_singleKey single]
  exact HoldsOf.latest (fun digit => by rw [h.mem_iff, true_and]) h.order

/-- With one of the keys released, it is the latest of the others, whichever that key was. -/
theorem latest_active_release (h : HoldsOf history k.held) (single : k.policy = .singleKey)
    (digit : Fin 16) : Latest history (· ≠ digit) (k.release (.data digit)).active := by
  rw [active_of_singleKey (k := k.release (.data digit)) single]
  refine HoldsOf.latest (fun other => ?_) (h.order.sublist List.erase_sublist)
  rw [release, h.nodup.mem_erase_iff, h.mem_iff, ne_eq, Key.data.injEq]

/-- RESET has no place in the scan matrix, so it does not matter whether it is held. -/
theorem active_reset (single : k.policy = .singleKey) :
    (k.press .reset).active = k.active ∧ (k.release .reset).active = k.active := by
  constructor
  · rw [active_of_singleKey ((policy_press k .reset).trans single), active_of_singleKey single, press]
    split
    · rfl
    · rw [List.findRev?_eq_find?_reverse, List.findRev?_eq_find?_reverse, List.reverse_append,
        List.reverse_singleton, List.singleton_append, List.find?_cons_of_neg (by simp)]
  · rw [active_of_singleKey (k := k.release .reset) single, active_of_singleKey single, release,
      List.findRev?_eq_find?_reverse, List.findRev?_eq_find?_reverse, ← List.getLast?_filter,
      ← List.getLast?_filter, ← List.erase_filter, List.erase_of_not_mem (by simp)]

/-- The keypad is as a history of actions has left it. -/
structure Reflects (k : Keypad) (start : KeyPolicy) (history : List KeypadAction) : Prop where
  /-- No key is listed twice. -/
  nodup : k.held.Nodup
  /-- The keys listed are those that have not been released since they were pressed. -/
  held : ∀ key, key ∈ k.held ↔ Unreleased history key
  /-- They are listed in the order in which their holds began. -/
  order : k.held.Pairwise fun first later =>
    ∃ i j, HeldSince history first i ∧ HeldSince history later j ∧ i < j
  /-- The policy is the one that was set last. -/
  policy : k.policy = (history.filterMap policy?).getLast?.getD start
  /-- A press answers that it began a hold when the key was not held, and so it does in place. -/
  press : ∀ key, ∃ began, (k.obey (.press key)).2 = some began ∧
    (pressM key).Does k began (k.press key) (k.pressRecords key) ∧
    (began = true ↔ ¬ Unreleased history key)
  /-- A release answers that it ended a hold when the key was held, and so it does in place. -/
  release : ∀ key, ∃ ended, (k.obey (.release key)).2 = some ended ∧
    (releaseM key).Does k ended (k.release key) (k.releaseRecords key) ∧
    (ended = true ↔ Unreleased history key)
  /-- Either every held key is active, or the data key whose hold began last. -/
  multi : k.policy = .multiKey → k.active = k.held
  single : k.policy = .singleKey → Latest history (fun _ => True) k.active
  /-- When a data key is released, it is the turn of the latest of the others. -/
  fallback : k.policy = .singleKey →
    ∀ digit, Latest history (· ≠ digit) (k.release (.data digit)).active
  reset : k.policy = .singleKey →
    (k.press .reset).active = k.active ∧ (k.release .reset).active = k.active

/-- After any history, whatever the policy was and is, the keypad holds the keys that were pressed and not
released, in the order in which they were pressed. -/
theorem held_as_pressed (start : KeyPolicy) (history : List KeypadAction) :
    (obeyAll ⟨[], start⟩ history).Reflects start history := by
  have holds := holdsOf_obeyAll start history
  have policy := policy_obeyAll start history
  generalize obeyAll ⟨[], start⟩ history = k at holds policy
  have pressed (key : Key) : k.isPressed key = true ↔ Unreleased history key := by
    rw [isPressed, List.contains_iff_mem, holds.mem_iff]
  exact {
    nodup := holds.nodup
    held := holds.mem_iff
    order := holds.order
    policy
    press := fun key =>
      ⟨_, rfl, k.does_pressM key, by rw [Bool.not_eq_true', ← pressed, Bool.not_eq_true]⟩
    release := fun key => ⟨_, rfl, k.does_releaseM key, pressed key⟩
    multi := fun multi => by rw [active, multi]
    single := latest_active holds
    fallback := latest_active_release holds
    reset := active_reset }

end Keypad

end Trainer6800
