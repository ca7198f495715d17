import Trainer6800.Json.Value

/-!
# Sorted members

`Members.put` keeps the members of an object in the order of their keys, and replaces instead of
repeating.  A value that has been sorted is therefore a value with ascending keys everywhere, and a
look at one of its members finds the sorted form of what the unsorted value has there.
-/

namespace Trainer6800.Json

namespace Members

theorem lookup_cons (key k : String) (v : Value) (rest : Members) :
    List.lookup key ((k, v) :: rest) = if key = k then some v else rest.lookup key := by
  rw [List.lookup_cons]
  by_cases same : key = k
  · rw [if_pos same, same, beq_self_eq_true]
  · rw [if_neg same, beq_false_of_ne same]

theorem mem_of_lookup {ms : Members} {key : String} {v : Value} (h : ms.lookup key = some v) :
    (key, v) ∈ ms := by
  induction ms with
  | nil => cases h
  | cons m rest ih =>
    obtain ⟨k, w⟩ := m
    rw [lookup_cons] at h
    split at h
    · rename_i same
      cases h
      rw [same]
      exact List.mem_cons_self
    · exact List.mem_cons_of_mem _ (ih h)

/-- Where no key occurs twice, a look finds every member. -/
theorem lookup_of_mem {ms : Members} (distinct : (ms.map Prod.fst).Nodup) {key : String} {v : Value}
    (h : (key, v) ∈ ms) : ms.lookup key = some v := by
  induction ms with
  | nil => cases h
  | cons m rest ih =>
    obtain ⟨k, w⟩ := m
    obtain ⟨fresh, others⟩ := List.nodup_cons.mp distinct
    rw [lookup_cons]
    rcases List.mem_cons.mp h with here | later
    · cases here
      rw [if_pos rfl]
    · rw [if_neg, ih others later]
      rintro rfl
      exact fresh (List.mem_map.mpr ⟨_, later, rfl⟩)

/-- The keys ascend, so no key occurs twice. -/
def Ascending (ms : Members) : Prop :=
  (ms.map Prod.fst).Pairwise (· < ·)

theorem Ascending.nodup {ms : Members} (h : Ascending ms) : (ms.map Prod.fst).Nodup :=
  h.imp fun lt => String.ne_of_lt lt

theorem mem_put {key k : String} {value v : Value} {ms : Members}
    (h : (k, v) ∈ Members.put key value ms) : (k, v) = (key, value) ∨ (k, v) ∈ ms := by
  induction ms with
  | nil => exact .inl (List.mem_singleton.mp h)
  | cons m rest ih =>
    obtain ⟨k', v'⟩ := m
    rw [Members.put] at h
    split at h
    · rcases List.mem_cons.mp h with new | old
      · exact .inl new
      · exact .inr (List.mem_cons_of_mem _ old)
    split at h
    · rcases List.mem_cons.mp h with new | old
      · exact .inl new
      · exact .inr old
    · rcases List.mem_cons.mp h with here | later
      · exact .inr (here ▸ List.mem_cons_self)
      · rcases ih later with new | old
        · exact .inl new
        · exact .inr (List.mem_cons_of_mem _ old)

theorem Ascending.put {ms : Members} (h : Ascending ms) (key : String) (value : Value) :
    Ascending (Members.put key value ms) := by
  induction ms with
  | nil => exact List.pairwise_singleton _ _
  | cons m rest ih =>
    obtain ⟨k, v⟩ := m
    obtain ⟨first, others⟩ := List.pairwise_cons.mp h
    rw [Members.put]
    split
    · rename_i same
      subst same
      exact h
    · rename_i different
      split
      · rename_i before
        refine List.pairwise_cons.mpr ⟨?_, h⟩
        intro k' hk'
        rcases List.mem_cons.mp hk' with rfl | later
        · exact before
        · exact String.lt_trans before (first k' later)
      · rename_i notBefore
        have after : k < key :=
          Std.lt_of_le_of_ne (String.not_lt.mp notBefore) fun e => different e.symm
        refine List.pairwise_cons.mpr ⟨?_, ih others⟩
        intro k' hk'
        obtain ⟨⟨k'', v''⟩, mem, rfl⟩ := List.mem_map.mp hk'
        rcases mem_put mem with new | old
        · cases new
          exact after
        · exact first k'' (List.mem_map_of_mem old)

/-- A key behind all others goes to the end. -/
theorem put_of_last {ms : Members} {key : String} (h : ∀ k ∈ ms.map Prod.fst, k < key)
    (value : Value) : Members.put key value ms = ms ++ [(key, value)] := by
  induction ms with
  | nil => rfl
  | cons m rest ih =>
    obtain ⟨k, v⟩ := m
    have before : k < key := h k List.mem_cons_self
    rw [Members.put, if_neg fun e => String.ne_of_lt before e.symm, if_neg (String.lt_asymm before),
      ih fun k' hk' => h k' (List.mem_cons_of_mem k hk')]
    rfl

theorem lookup_put (key k : String) (value : Value) (ms : Members) :
    (Members.put key value ms).lookup k = if k = key then some value else ms.lookup k := by
  induction ms with
  | nil => exact lookup_cons k key value []
  | cons m rest ih =>
    obtain ⟨k', v'⟩ := m
    rw [Members.put]
    split
    · rename_i same
      subst same
      rw [lookup_cons, lookup_cons]
      split
      · rfl
      · rfl
    split
    · rw [lookup_cons]
    · rename_i different _
      rw [lookup_cons, lookup_cons, ih]
      split
      · rename_i there
        subst there
        rw [if_neg fun e => different e.symm]
      · rfl

end Members

/-! ## Sorting -/

theorem lookup_sortedMembers (key : String) (ms : Members) :
    (sortedMembers ms).lookup key = (ms.lookup key).map Value.sorted := by
  induction ms with
  | nil => rfl
  | cons m rest ih =>
    obtain ⟨k, v⟩ := m
    rw [sortedMembers, Members.lookup_put, ih, Members.lookup_cons]
    split
    · rfl
    · rfl

theorem ascending_sortedMembers (ms : Members) : Members.Ascending (sortedMembers ms) := by
  induction ms with
  | nil => exact List.Pairwise.nil
  | cons m rest ih =>
    obtain ⟨k, v⟩ := m
    exact ih.put k v.sorted

theorem mem_sortedMembers {k : String} {w : Value} {ms : Members}
    (h : (k, w) ∈ sortedMembers ms) : ∃ v, (k, v) ∈ ms ∧ w = v.sorted := by
  induction ms with
  | nil => cases h
  | cons m rest ih =>
    obtain ⟨k', v'⟩ := m
    rcases Members.mem_put h with new | old
    · cases new
      exact ⟨v', List.mem_cons_self, rfl⟩
    · obtain ⟨v, mem, same⟩ := ih old
      exact ⟨v, List.mem_cons_of_mem _ mem, same⟩

/-- Where no key occurs twice, sorting keeps every member. -/
theorem mem_sortedMembers_of_mem {k : String} {v : Value} {ms : Members}
    (distinct : (ms.map Prod.fst).Nodup) (h : (k, v) ∈ ms) : (k, v.sorted) ∈ sortedMembers ms := by
  refine Members.mem_of_lookup ?_
  rw [lookup_sortedMembers, Members.lookup_of_mem distinct h]
  rfl

theorem sortedElements_eq_map (vs : List Value) : sortedElements vs = vs.map Value.sorted := by
  induction vs with
  | nil => rfl
  | cons v rest ih => rw [sortedElements, ih, List.map_cons]

/-- A member of a sorted object is the sorted member. -/
theorem get_sorted (v : Value) (key : String) : v.sorted.get key = (v.get key).sorted := by
  cases v with
  | object ms =>
    rw [Value.sorted, Value.get, Value.get, lookup_sortedMembers]
    cases ms.lookup key with
    | none => rfl
    | some w => rfl
  | null => rfl
  | bool b => rfl
  | number n => rfl
  | string s => rfl
  | array vs => rfl

end Trainer6800.Json
