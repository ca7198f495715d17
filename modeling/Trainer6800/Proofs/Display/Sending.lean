import Trainer6800.Proofs.Display.Audience

/-!
# What a latch sends, and to whom

Three questions about a latch that sends events: who gets them, what do they make of the display as
it was before, and who is on the list afterwards.  They are answered once for `DisplayLatch.Sends`,
and every operation that changes the display is such a sending.  The observers' own actions are here
too, with what each of them does to the list and to the events that wait.
-/

namespace Trainer6800

namespace DisplayLatch

/-! ## Who is on the list -/

/-- The numbers of the observers on the list that have not closed. -/
def openIds (l : DisplayLatch) : List Nat :=
  (l.observers.filter (·.isOpen)).map (·.id)

theorem isSome_observer? {l : DisplayLatch} {id : Nat} :
    (l.observer? id).isSome ↔ id ∈ l.openIds := by
  simp only [observer?, openIds, List.find?_isSome, List.mem_map, List.mem_filter,
    Bool.and_eq_true, beq_iff_eq]
  constructor
  · rintro ⟨o, mem, eq, isOpen⟩
    exact ⟨o, ⟨mem, isOpen⟩, eq⟩
  · rintro ⟨o, ⟨mem, isOpen⟩, eq⟩
    exact ⟨o, mem, eq, isOpen⟩

theorem waiting_of_not_mem {l : DisplayLatch} {id : Nat} (h : id ∉ l.openIds) :
    l.waiting id = #[] := by
  have none : l.observer? id = Option.none := by
    rw [← Option.not_isSome_iff_eq_none, isSome_observer?]
    exact h
  rw [waiting, none]

/-! ## Sending an event -/

theorem observer?_broadcast (l : DisplayLatch) (event : DisplayEvent) (id : Nat) :
    (l.broadcast event).observer? id =
      (l.observer? id).map fun o => { o with pending := o.pending.push event } := by
  simp only [observer?, broadcast, List.find?_map, List.find?_filter]
  congr 2
  funext o
  show decide (o.isOpen = true ∧ (o.id == id && o.isOpen) = true) = (o.id == id && o.isOpen)
  rw [Bool.eq_iff_iff]
  simp [and_comm]

@[simp] theorem openIds_broadcast (l : DisplayLatch) (event : DisplayEvent) :
    (l.broadcast event).openIds = l.openIds := by
  simp only [openIds, broadcast, List.filter_map, List.map_map]
  congr 1
  simp [Function.comp_def]

/-- A broadcast leaves only open observers on the list. -/
theorem subscriberCount_broadcast (l : DisplayLatch) (event : DisplayEvent) :
    (l.broadcast event).subscriberCount = l.openIds.length := by
  simp only [subscriberCount, broadcast, openIds, List.length_map]

theorem waiting_broadcast {l : DisplayLatch} {id : Nat} (h : id ∈ l.openIds)
    (event : DisplayEvent) :
    ((l.broadcast event).waiting id).toList = (l.waiting id).toList ++ [event] := by
  obtain ⟨o, ho⟩ := Option.isSome_iff_exists.mp (isSome_observer?.mpr h)
  simp only [waiting, observer?_broadcast, ho, Option.map_some, Array.toList_push]

/-! ## What an observer does -/

/-- Neither the observer nor the display changes for those with other numbers. -/
theorem observer?_updateObserver_of_ne {l : DisplayLatch} {i id : Nat} {f : Observer → Observer}
    (keepsId : ∀ o, (f o).id = o.id) (h : i ≠ id) :
    (l.updateObserver id f).observer? i = l.observer? i := by
  simp only [observer?, updateObserver]
  induction l.observers with
  | nil => rfl
  | cons o os ih =>
    rw [List.map_cons, List.find?_cons, List.find?_cons, ih]
    by_cases ho : o.id = id
    · have other : (o.id == i) = false := beq_false_of_ne (ho ▸ h.symm)
      simp [ho, keepsId, ho ▸ other]
    · simp [ho]

@[simp] theorem openIds_take (l : DisplayLatch) (id : Nat) : (l.take id).openIds = l.openIds := by
  simp only [openIds, take, updateObserver]
  induction l.observers with
  | nil => rfl
  | cons o os ih =>
    by_cases ho : o.id = id <;> by_cases hopen : o.isOpen <;> simpa [ho, hopen] using ih

theorem openIds_unsubscribe (l : DisplayLatch) (id : Nat) :
    (l.unsubscribe id).openIds = l.openIds.filter fun i => i != id := by
  simp only [openIds, unsubscribe, updateObserver]
  induction l.observers with
  | nil => rfl
  | cons o os ih =>
    by_cases ho : o.id = id <;> by_cases hopen : o.isOpen <;> simpa [ho, hopen] using ih

theorem openIds_subscribe (l : DisplayLatch) :
    l.subscribe.openIds = l.openIds ++ [l.subscriptions] := by
  simp [openIds, subscribe]

theorem waiting_take_of_ne {l : DisplayLatch} {i id : Nat} (h : i ≠ id) :
    (l.take id).waiting i = l.waiting i := by
  have same : (l.take id).observer? i = l.observer? i :=
    observer?_updateObserver_of_ne (fun _ => rfl) h
  rw [waiting, same, waiting]

theorem waiting_take_self (l : DisplayLatch) (id : Nat) : (l.take id).waiting id = #[] := by
  simp only [waiting, observer?, take, updateObserver]
  induction l.observers with
  | nil => rfl
  | cons o os ih =>
    rw [List.map_cons, List.find?_cons]
    by_cases ho : o.id = id
    · by_cases hopen : o.isOpen
      · simp [ho, hopen]
      · simpa [ho, hopen] using ih
    · have other : (o.id == id) = false := beq_false_of_ne ho
      simpa [other] using ih

theorem waiting_unsubscribe_of_ne {l : DisplayLatch} {i id : Nat} (h : i ≠ id) :
    (l.unsubscribe id).waiting i = l.waiting i := by
  have same : (l.unsubscribe id).observer? i = l.observer? i :=
    observer?_updateObserver_of_ne (fun _ => rfl) h
  rw [waiting, same, waiting]

theorem waiting_subscribe_of_ne {l : DisplayLatch} {i : Nat} (h : i ≠ l.subscriptions) :
    l.subscribe.waiting i = l.waiting i := by
  have other : (l.subscriptions == i) = false := beq_false_of_ne h.symm
  simp only [waiting, observer?, subscribe, List.find?_append, List.find?_cons, other,
    Bool.false_and, List.find?_nil, Option.or_none]

/-- A new observer has the display waiting for it. -/
theorem waiting_subscribe_self {l : DisplayLatch} (h : l.subscriptions ∉ l.openIds) :
    l.subscribe.waiting l.subscriptions = #[.snapshot l.snapshot] := by
  have none : l.observer? l.subscriptions = Option.none := by
    rw [← Option.not_isSome_iff_eq_none, isSome_observer?]
    exact h
  simp only [observer?] at none
  simp only [waiting, observer?, subscribe, List.find?_append, none, List.find?_cons, beq_self_eq_true,
    Bool.and_self, Option.none_or]

/-! ## Changes of the display are events -/

theorem setDigit_sends {l : DisplayLatch} {index : Fin 6} {segments : UInt8}
    (changed : l.digits.get index ≠ segments) :
    l.Sends [.digit (UInt64.ofNat index) segments] (l.setDigit index segments) :=
  Sends.nothing.digit index segments changed

/-- A write sends the one digit that it changes, and nothing if it changes none. -/
theorem write_sends (l : DisplayLatch) (offset value : UInt8) :
    ∃ events, l.Sends events (l.write offset value) := by
  unfold write
  split
  · exact ⟨[], .nothing⟩
  · rename_i index _
    by_cases same : latchedDigit l.digits[index] offset value = l.digits[index]
    · simp only [same, if_true]
      exact ⟨[], .nothing⟩
    · simp only [same, if_false]
      exact ⟨_, setDigit_sends fun h => same h.symm⟩

theorem blankDigit_sends (l : DisplayLatch) (index : Fin 6) :
    ∃ events, l.Sends events (l.blankDigit index) := by
  unfold blankDigit
  by_cases dark : l.digits[index] = 0
  · rw [if_pos dark]
    exact ⟨[], .nothing⟩
  · rw [if_neg dark]
    exact ⟨_, setDigit_sends dark⟩

theorem blank_sends (l : DisplayLatch) : ∃ events, l.Sends events l.blank := by
  unfold blank
  generalize List.finRange 6 = indices
  induction indices generalizing l with
  | nil => exact ⟨[], .nothing⟩
  | cons index rest ih =>
    obtain ⟨first, h1⟩ := l.blankDigit_sends index
    obtain ⟨others, h2⟩ := ih (l.blankDigit index)
    exact ⟨first ++ others, h1.trans h2⟩

theorem restore_sends (l : DisplayLatch) (shown : DisplaySnapshot) :
    l.Sends [.snapshot shown] (l.restore shown) :=
  Sends.nothing.shown shown

/-! ## What is sent makes up the display -/

theorem apply_digit (s : DisplaySnapshot) (index : Fin 6) (segments : UInt8) :
    s.apply (.digit (UInt64.ofNat index) segments) = ⟨s.digits.set index segments index.isLt⟩ := by
  have small : (UInt64.ofNat index.val).toNat = index.val := by
    rw [UInt64.toNat_ofNat']
    omega
  simp only [DisplaySnapshot.apply, small]
  congr 1
  ext j hj
  rw [Vector.getElem_setIfInBounds, Vector.getElem_set]

end DisplayLatch

theorem allTell_append {s : DisplaySnapshot} {es fs : List DisplayEvent} :
    AllTell s (es ++ fs) ↔ AllTell s es ∧ AllTell (es.foldl DisplaySnapshot.apply s) fs := by
  induction es generalizing s with
  | nil => simp [AllTell]
  | cons e es ih => simp only [List.cons_append, AllTell, ih, List.foldl_cons, and_assoc]

namespace DisplayLatch

/-- Applied to what the latch showed before, the events it sends make what it shows after, and each
of them tells of a change. -/
theorem Sends.mirrors {l l' : DisplayLatch} {events : List DisplayEvent} (h : l.Sends events l') :
    events.foldl DisplaySnapshot.apply l.snapshot = l'.snapshot ∧ AllTell l.snapshot events := by
  induction h with
  | nothing => exact ⟨rfl, trivial⟩
  | digit before index segments changed ih =>
    obtain ⟨made, tell⟩ := ih
    rw [List.foldl_append, made, allTell_append, made]
    refine ⟨?_, tell, ⟨index, rfl, changed⟩, trivial⟩
    exact apply_digit _ index segments
  | shown before display ih =>
    obtain ⟨made, tell⟩ := ih
    rw [List.foldl_append, made, allTell_append, made]
    exact ⟨rfl, tell, trivial, trivial⟩

/-- An open observer gets all that is sent, and stays. -/
theorem Sends.reaches {l l' : DisplayLatch} {events : List DisplayEvent} (h : l.Sends events l') :
    l'.openIds = l.openIds ∧ l'.subscriptions = l.subscriptions ∧
      ∀ id ∈ l.openIds, (l'.waiting id).toList = (l.waiting id).toList ++ events := by
  induction h with
  | nothing => simp
  | digit before index segments changed ih =>
    obtain ⟨ids, count, wait⟩ := ih
    refine ⟨(openIds_broadcast _ _).trans ids, count, ?_⟩
    intro id hid
    rw [← List.append_assoc, ← wait id hid]
    exact waiting_broadcast (by rw [← ids] at hid; exact hid) _
  | shown before display ih =>
    obtain ⟨ids, count, wait⟩ := ih
    refine ⟨(openIds_broadcast _ _).trans ids, count, ?_⟩
    intro id hid
    rw [← List.append_assoc, ← wait id hid]
    exact waiting_broadcast (by rw [← ids] at hid; exact hid) _

/-- Once anything has been sent, only open observers are left on the list. -/
theorem Sends.prunes {l l' : DisplayLatch} {events : List DisplayEvent} (h : l.Sends events l')
    (some : events ≠ []) : l'.subscriberCount = l.openIds.length := by
  cases h with
  | nothing => exact absurd rfl some
  | digit before index segments changed =>
    rw [← before.reaches.1]
    exact subscriberCount_broadcast _ _
  | shown before display =>
    rw [← before.reaches.1]
    exact subscriberCount_broadcast _ _

end DisplayLatch

end Trainer6800
