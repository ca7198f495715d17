import Trainer6800.Proofs.Display.Sending

/-!
# Mirroring the display

Whoever follows the display can put it together from the events alone.  The invariant that carries
this has two halves.  `Audience.Knows` is about the lists: the audience is exactly the open part of
the latch's list, and numbers are never given twice.  `Told` is about the events of one observer:
together they make what the display shows, and none of them is idle.  Each half is shown for the two
things that can happen: something is sent (`DisplayLatch.Sends`), or an observer acts
(`DisplayLatch.watch`).  `DisplaySystem.Lawful` says that nothing else happens, so both halves hold
after any sequence of actions, and `DisplaySystem.mirrored` reads the mirroring off them.
-/

namespace Trainer6800

/-! ## What an observer has been sent -/

/-- What an observer has been sent makes what the latch shows, and never tells of a change that is
none. -/
structure Told (l : DisplayLatch) (events : List DisplayEvent) : Prop where
  replayed : replay events = l.snapshot
  tell : AllTell .blank events

theorem Told.send {l l' : DisplayLatch} {events sent : List DisplayEvent} (h : Told l events)
    (hs : l.Sends sent l') : Told l' (events ++ sent) := by
  have made : events.foldl DisplaySnapshot.apply .blank = l.snapshot := h.replayed
  constructor
  · rw [replay, List.foldl_append, made]
    exact hs.mirrors.1
  · rw [allTell_append, made]
    exact ⟨h.tell, hs.mirrors.2⟩

theorem Told.subscribe (l : DisplayLatch) : Told l.subscribe [.snapshot l.snapshot] :=
  ⟨rfl, trivial, trivial⟩

namespace Audience

open DisplayLatch

/-- The latch and the audience agree on who is there, and every number that the latch has not given
yet is unused. -/
structure Knows (u : Audience) (l : DisplayLatch) : Prop where
  open_eq : l.openIds = u.following
  given : ∀ id ∈ u.following, id < l.subscriptions
  unused : ∀ id, l.subscriptions ≤ id → u.taken id = []

theorem Knows.start {l : DisplayLatch} (h : l.observers = []) : Knows {} l := by
  refine ⟨?_, ?_, fun _ _ => rfl⟩
  · simp [openIds, h]
  · intro id hid
    cases hid

theorem Knows.send {u : Audience} {l l' : DisplayLatch} {events : List DisplayEvent}
    (k : u.Knows l) (h : l.Sends events l') : u.Knows l' := by
  obtain ⟨ids, count, -⟩ := h.reaches
  refine ⟨ids.trans k.open_eq, ?_, ?_⟩
  · rw [count]
    exact k.given
  · rw [count]
    exact k.unused

theorem Knows.watch {u : Audience} {l : DisplayLatch} (k : u.Knows l) (w : Watching) :
    (u.watch l w).Knows (l.watch w) := by
  cases w with
  | subscribe =>
    refine ⟨?_, ?_, ?_⟩
    · rw [DisplayLatch.watch, openIds_subscribe, k.open_eq]
      rfl
    · intro id hid
      show id < l.subscriptions + 1
      rcases List.mem_append.mp hid with old | new
      · have := k.given id old
        omega
      · rw [List.mem_singleton.mp new]
        omega
    · intro id (hid : l.subscriptions + 1 ≤ id)
      exact k.unused id (by omega)
  | close id =>
    refine ⟨?_, ?_, k.unused⟩
    · rw [DisplayLatch.watch, openIds_unsubscribe, k.open_eq]
      rfl
    · intro i hi
      exact k.given i (List.mem_filter.mp hi).1
  | take id =>
    refine ⟨?_, k.given, ?_⟩
    · rw [DisplayLatch.watch, openIds_take, k.open_eq]
      rfl
    · intro i (hi : l.subscriptions ≤ i)
      show (if i = id then u.taken i ++ (l.waiting i).toList else u.taken i) = []
      have nobody : i ∉ l.openIds := by
        rw [k.open_eq]
        intro mem
        have := k.given i mem
        omega
      rw [k.unused i hi, waiting_of_not_mem nobody]
      simp

theorem Knows.received_send {u : Audience} {l l' : DisplayLatch} {events : List DisplayEvent}
    (k : u.Knows l) (h : l.Sends events l') {id : Nat} (hid : id ∈ u.following) :
    u.received l' id = u.received l id ++ events := by
  rw [received, received, List.append_assoc, h.reaches.2.2 id (k.open_eq ▸ hid)]

/-- Whatever the observers do, an observer that stays has been sent what it had been sent. -/
theorem Knows.received_watch {u : Audience} {l : DisplayLatch} (k : u.Knows l) (w : Watching)
    {id : Nat} (before : id ∈ u.following) (after : id ∈ (u.watch l w).following) :
    (u.watch l w).received (l.watch w) id = u.received l id := by
  cases w with
  | subscribe =>
    have older : id ≠ l.subscriptions := by
      have := k.given id before
      omega
    show u.taken id ++ (l.subscribe.waiting id).toList = u.taken id ++ (l.waiting id).toList
    rw [waiting_subscribe_of_ne older]
  | close gone =>
    have stays : id ≠ gone := by simpa using (List.mem_filter.mp after).2
    show u.taken id ++ ((l.unsubscribe gone).waiting id).toList = u.taken id ++ (l.waiting id).toList
    rw [waiting_unsubscribe_of_ne stays]
  | take taker =>
    show (if id = taker then u.taken id ++ (l.waiting id).toList else u.taken id) ++
      ((l.take taker).waiting id).toList = u.taken id ++ (l.waiting id).toList
    by_cases self : id = taker
    · subst self
      rw [if_pos rfl, waiting_take_self]
      exact List.append_nil _
    · rw [if_neg self, waiting_take_of_ne self]

/-- A new observer has been sent the display and nothing else. -/
theorem Knows.received_subscribe {u : Audience} {l : DisplayLatch} (k : u.Knows l) :
    (u.watch l .subscribe).received l.subscribe l.subscriptions = [.snapshot l.snapshot] := by
  have new : l.subscriptions ∉ l.openIds := by
    rw [k.open_eq]
    intro mem
    exact Nat.lt_irrefl _ (k.given _ mem)
  show u.taken l.subscriptions ++ (l.subscribe.waiting l.subscriptions).toList = _
  rw [k.unused _ (Nat.le_refl _), waiting_subscribe_self new]
  rfl

theorem mem_watch {u : Audience} {l : DisplayLatch} {w : Watching} {id : Nat}
    (h : id ∈ (u.watch l w).following) :
    id ∈ u.following ∨ (w = .subscribe ∧ id = l.subscriptions) := by
  cases w with
  | subscribe =>
    rcases List.mem_append.mp h with old | new
    · exact .inl old
    · exact .inr ⟨rfl, List.mem_singleton.mp new⟩
  | close gone => exact .inl (List.mem_filter.mp h).1
  | take taker => exact .inl h

end Audience

/-! ## Systems -/

namespace DisplaySystem

variable {S A : Type} {g : DisplaySystem S A}

/-- Both halves of the invariant. -/
structure Attuned (g : DisplaySystem S A) (f : Followed S) : Prop where
  knows : f.audience.Knows (g.latch f.state)
  told : ∀ id ∈ f.audience.following,
    Told (g.latch f.state) (f.audience.received (g.latch f.state) id)

/-- An observer's action changes the audience as it changes the latch. -/
theorem audience_next_of_watch {f : Followed S} {a : A} {w : Watching}
    (h : g.watching? a = some w) : (g.next f a).audience = f.audience.watch (g.latch f.state) w := by
  simp only [next, h]

/-- Any other action leaves the audience alone. -/
theorem audience_next_of_none {f : Followed S} {a : A} (h : g.watching? a = none) :
    (g.next f a).audience = f.audience := by
  simp only [next, h]

/-- In one action every observer that stays is sent the same events. -/
theorem Attuned.received_next (lawful : g.Lawful) {f : Followed S} (h : g.Attuned f) (a : A) :
    ∃ events, ∀ id ∈ f.audience.following, id ∈ (g.next f a).audience.following →
      (g.next f a).audience.received (g.latch (g.next f a).state) id =
        f.audience.received (g.latch f.state) id ++ events := by
  cases hw : g.watching? a with
  | none =>
    obtain ⟨events, hs⟩ := lawful.send f.state a hw
    refine ⟨events, ?_⟩
    intro id hid _
    rw [audience_next_of_none hw]
    exact h.knows.received_send hs hid
  | some w =>
    refine ⟨[], ?_⟩
    intro id hid stays
    rw [audience_next_of_watch hw] at stays ⊢
    rw [List.append_nil]
    show _ = Audience.received _ _ _
    rw [← h.knows.received_watch w hid stays, ← lawful.watch f.state a w hw]
    rfl

theorem Attuned.next (lawful : g.Lawful) {f : Followed S} (h : g.Attuned f) (a : A) :
    g.Attuned (g.next f a) := by
  cases hw : g.watching? a with
  | none =>
    obtain ⟨events, hs⟩ := lawful.send f.state a hw
    have same := audience_next_of_none (f := f) hw
    refine ⟨?_, ?_⟩
    · rw [same]
      exact h.knows.send hs
    · rw [same]
      intro id hid
      have grown := (h.told id hid).send hs
      rw [← h.knows.received_send hs hid] at grown
      exact grown
  | some w =>
    have same := audience_next_of_watch (f := f) hw
    have latch : g.latch (g.next f a).state = (g.latch f.state).watch w := lawful.watch f.state a w hw
    refine ⟨?_, ?_⟩
    · rw [same, latch]
      exact h.knows.watch w
    · rw [same, latch]
      intro id hid
      have shows : ((g.latch f.state).watch w).snapshot = (g.latch f.state).snapshot := by
        cases w <;> rfl
      rcases Audience.mem_watch hid with old | ⟨rfl, rfl⟩
      · rw [h.knows.received_watch w old hid]
        exact ⟨(h.told id old).replayed.trans shows.symm, (h.told id old).tell⟩
      · have new : Told (g.latch f.state).subscribe _ := Told.subscribe (g.latch f.state)
        rw [← h.knows.received_subscribe] at new
        exact new

theorem Attuned.start {start : S} (alone : (g.latch start).observers = []) :
    g.Attuned { state := start } := by
  refine ⟨Audience.Knows.start alone, ?_⟩
  intro id hid
  cases hid

theorem Attuned.foldl (lawful : g.Lawful) {f : Followed S} (h : g.Attuned f) (actions : List A) :
    g.Attuned (actions.foldl g.next f) := by
  induction actions generalizing f with
  | nil => exact h
  | cons a rest ih => exact ih (h.next lawful a)

theorem subscriptions_next (lawful : g.Lawful) (f : Followed S) (a : A) :
    (g.latch f.state).subscriptions ≤ (g.latch (g.next f a).state).subscriptions := by
  cases hw : g.watching? a with
  | none =>
    obtain ⟨events, hs⟩ := lawful.send f.state a hw
    exact Nat.le_of_eq hs.reaches.2.1.symm
  | some w =>
    show _ ≤ (g.latch (g.act f.state a)).subscriptions
    rw [lawful.watch f.state a w hw]
    cases w with
    | subscribe => exact Nat.le_succ _
    | close id => exact Nat.le_refl _
    | take id => exact Nat.le_refl _

/-- Nobody comes back: a number that has been given and follows later, follows now. -/
theorem following_of_later (lawful : g.Lawful) {f : Followed S} {id : Nat}
    (given : id < (g.latch f.state).subscriptions) (actions : List A)
    (later : id ∈ (actions.foldl g.next f).audience.following) : id ∈ f.audience.following := by
  induction actions generalizing f with
  | nil => exact later
  | cons a rest ih =>
    have next := ih (Nat.lt_of_lt_of_le given (subscriptions_next lawful f a)) later
    cases hw : g.watching? a with
    | none =>
      rw [audience_next_of_none hw] at next
      exact next
    | some w =>
      rw [audience_next_of_watch hw] at next
      rcases Audience.mem_watch next with old | ⟨-, rfl⟩
      · exact old
      · exact absurd given (Nat.lt_irrefl _)

/-- In a sequence of actions every observer that stays is sent the same events. -/
theorem Attuned.received_foldl (lawful : g.Lawful) {f : Followed S} (h : g.Attuned f)
    (actions : List A) :
    ∃ events, ∀ id ∈ f.audience.following, id ∈ (actions.foldl g.next f).audience.following →
      (actions.foldl g.next f).audience.received (g.latch (actions.foldl g.next f).state) id =
        f.audience.received (g.latch f.state) id ++ events := by
  induction actions generalizing f with
  | nil => exact ⟨[], fun id _ _ => (List.append_nil _).symm⟩
  | cons a rest ih =>
    obtain ⟨first, h1⟩ := h.received_next lawful a
    obtain ⟨others, h2⟩ := ih (h.next lawful a)
    refine ⟨first ++ others, ?_⟩
    intro id now later
    have given := Nat.lt_of_lt_of_le (h.knows.given id now) (subscriptions_next lawful f a)
    have between := following_of_later lawful given rest later
    rw [List.foldl_cons, h2 id between later, h1 id now between, List.append_assoc]

/-- Someone who subscribes now and stays has been sent the present display first. -/
theorem Attuned.received_of_subscribe (lawful : g.Lawful) {f : Followed S} (h : g.Attuned f) {a : A}
    (hw : g.watching? a = some .subscribe) (after : List A)
    (later : (g.latch f.state).subscriptions ∈
      (after.foldl g.next (g.next f a)).audience.following) :
    ∃ events, (after.foldl g.next (g.next f a)).audience.received
        (g.latch (after.foldl g.next (g.next f a)).state) (g.latch f.state).subscriptions =
      .snapshot (g.latch f.state).snapshot :: events := by
  have latch : g.latch (g.next f a).state = (g.latch f.state).subscribe :=
    lawful.watch f.state a .subscribe hw
  have joined : (g.latch f.state).subscriptions ∈ (g.next f a).audience.following := by
    rw [audience_next_of_watch hw]
    exact List.mem_append_right _ (List.mem_singleton_self _)
  obtain ⟨events, grow⟩ := (h.next lawful a).received_foldl lawful after
  refine ⟨events, ?_⟩
  rw [grow _ joined later, audience_next_of_watch hw, latch, h.knows.received_subscribe]
  rfl

theorem follow_append (start : S) (before after : List A) :
    g.follow start (before ++ after) = after.foldl g.next (g.follow start before) := by
  rw [follow, List.foldl_append, follow]

/-- A system whose latch is reached in no other way than by observers and by sending can be mirrored
from any state that nobody follows yet. -/
theorem mirrored (lawful : g.Lawful) {start : S} (alone : (g.latch start).observers = []) :
    g.Mirrored start := by
  have attuned (actions : List A) : g.Attuned (g.follow start actions) :=
    (Attuned.start alone).foldl lawful actions
  refine ⟨?_, ?_, ?_, ?_, ?_, ?_⟩
  · intro before a after hw later
    simp only [history, live, latchAfter, follow_append, List.foldl_cons] at later ⊢
    obtain ⟨events, got⟩ := (attuned before).received_of_subscribe lawful hw after later
    rw [got]
    rfl
  · intro actions id hid
    exact ((attuned actions).told id hid).replayed
  · intro actions id hid
    exact ((attuned actions).told id hid).tell
  · intro before after i hi j hj hi' hj'
    obtain ⟨events, grow⟩ := (attuned before).received_foldl lawful after
    simp only [history, live, latchAfter, follow_append] at *
    exact ⟨events, grow i hi hi', grow j hj hj'⟩
  · intro actions id hid
    rw [DisplayLatch.isSome_observer?, latchAfter, (attuned actions).knows.open_eq]
    exact hid
  · intro actions a hw
    obtain ⟨events, hs⟩ := lawful.send (g.follow start actions).state a hw
    have ha : (g.next (g.follow start actions) a).audience = (g.follow start actions).audience :=
      audience_next_of_none hw
    have k := (attuned actions).knows
    simp only [history, live, latchAfter, follow_append, List.foldl_cons, List.foldl_nil]
    refine ⟨events, hs, ?_, ?_⟩
    · intro id hid
      rw [ha]
      exact k.received_send hs hid
    · intro some
      rw [ha, ← k.open_eq]
      exact hs.prunes some

end DisplaySystem

end Trainer6800
