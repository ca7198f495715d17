import Trainer6800.Display.Latch

/-!
# The display and its audience

The latch keeps for each observer the events that the observer has not taken yet, and forgets them
when they are taken.  To say what an observer has been told altogether, somebody has to keep the
events it took.  This is the `Audience`: who follows the display, and what each of them has taken so
far.  The audience is what the observers know of themselves; the latch has its own list, in which an
observer that has closed stays until the next event, and the two need not agree.

A `DisplaySystem` is anything with a display latch inside: the latch alone, or a whole trainer.  Its
actions are those of the observers (`Watching`) and others, which reach the latch only by sending
events (`DisplayLatch.Sends`).  `DisplaySystem.Mirrored` says that from a given state on every
observer can mirror the display, whatever the actions are.
-/

namespace Trainer6800

/-! ## Observers -/

/-- What an observer does. -/
inductive Watching where
  | subscribe
  /-- The observer with a number goes away, and with it the events it did not take. -/
  | close (observer : Nat)
  /-- The observer with a number takes the events that wait for it. -/
  | take (observer : Nat)
  deriving DecidableEq, Repr

/-- The latch after an observer has done something. -/
def DisplayLatch.watch (l : DisplayLatch) : Watching → DisplayLatch
  | .subscribe => l.subscribe
  | .close id => l.unsubscribe id
  | .take id => l.take id

/-- The observers as they know themselves. -/
structure Audience where
  /-- Those who have subscribed and not closed, in the order of their subscription. -/
  following : List Nat := []
  /-- The events that each of them has taken, oldest first. -/
  taken : Nat → List DisplayEvent := fun _ => []

namespace Audience

/-- The audience after an observer of a latch has done something. -/
def watch (u : Audience) (l : DisplayLatch) : Watching → Audience
  | .subscribe => { u with following := u.following ++ [l.subscriptions] }
  | .close id => { u with following := u.following.filter fun i => i != id }
  | .take id =>
    { u with taken := fun i => if i = id then u.taken i ++ (l.waiting i).toList else u.taken i }

/-- All events that an observer has been sent: those it has taken and those that wait for it. -/
def received (u : Audience) (l : DisplayLatch) (id : Nat) : List DisplayEvent :=
  u.taken id ++ (l.waiting id).toList

end Audience

/-! ## Events -/

/-- The display as it is put together from events alone. -/
def replay (events : List DisplayEvent) : DisplaySnapshot :=
  events.foldl DisplaySnapshot.apply .blank

/-- An event tells of a change: a digit event names one of the six digits and a pattern that this
digit did not have. -/
def DisplayEvent.TellsOf (s : DisplaySnapshot) : DisplayEvent → Prop
  | .snapshot _ => True
  | .digit index segments => ∃ i : Fin 6, index = UInt64.ofNat i ∧ s.digits.get i ≠ segments

/-- Every event tells of a change of what the events before it make of the display. -/
def AllTell : DisplaySnapshot → List DisplayEvent → Prop
  | _, [] => True
  | s, e :: es => e.TellsOf s ∧ AllTell (s.apply e) es

namespace DisplayLatch

/-- The latch `l` sends events, in order, and becomes another latch.  There are two ways to send an
event: one digit is set to a pattern that it does not have, or the whole display is replaced. -/
inductive Sends (l : DisplayLatch) : List DisplayEvent → DisplayLatch → Prop where
  | nothing : Sends l [] l
  | digit {events : List DisplayEvent} {l' : DisplayLatch} (before : Sends l events l')
      (index : Fin 6) (segments : UInt8) (changed : l'.digits.get index ≠ segments) :
      Sends l (events ++ [.digit (UInt64.ofNat index) segments]) (l'.setDigit index segments)
  | shown {events : List DisplayEvent} {l' : DisplayLatch} (before : Sends l events l')
      (display : DisplaySnapshot) :
      Sends l (events ++ [.snapshot display]) (l'.restore display)

theorem Sends.trans {l m n : DisplayLatch} {es fs : List DisplayEvent} (h : Sends l es m)
    (h' : Sends m fs n) : Sends l (es ++ fs) n := by
  induction h' with
  | nothing => simpa using h
  | digit before index segments changed ih =>
    rw [← List.append_assoc]
    exact ih.digit index segments changed
  | shown before display ih =>
    rw [← List.append_assoc]
    exact ih.shown display

end DisplayLatch

/-! ## Systems with a display -/

/-- A system with a display latch: states `S`, and actions `A` of which some are an observer's. -/
structure DisplaySystem (S A : Type) where
  latch : S → DisplayLatch
  act : S → A → S
  watching? : A → Option Watching

namespace DisplaySystem

variable {S A : Type}

/-- A state of the system together with the audience of its display. -/
structure Followed (S : Type) where
  state : S
  audience : Audience := {}

/-- The observers see only their own actions; all else reaches them through the latch. -/
def next (g : DisplaySystem S A) (f : Followed S) (a : A) : Followed S where
  state := g.act f.state a
  audience :=
    match g.watching? a with
    | some w => f.audience.watch (g.latch f.state) w
    | none => f.audience

/-- The system and its audience after a sequence of actions. -/
def follow (g : DisplaySystem S A) (start : S) (actions : List A) : Followed S :=
  actions.foldl g.next { state := start }

/-- Observers act on the latch as `DisplayLatch.watch` says, and every other action reaches it only
by sending events. -/
structure Lawful (g : DisplaySystem S A) : Prop where
  watch : ∀ s a w, g.watching? a = some w → g.latch (g.act s a) = (g.latch s).watch w
  send : ∀ s a, g.watching? a = none → ∃ events, (g.latch s).Sends events (g.latch (g.act s a))

/-- The observers that have not closed. -/
def live (g : DisplaySystem S A) (start : S) (actions : List A) : List Nat :=
  (g.follow start actions).audience.following

/-- The latch after a sequence of actions. -/
def latchAfter (g : DisplaySystem S A) (start : S) (actions : List A) : DisplayLatch :=
  g.latch (g.follow start actions).state

/-- What an observer has been sent in the course of a sequence of actions. -/
def history (g : DisplaySystem S A) (start : S) (actions : List A) (id : Nat) :
    List DisplayEvent :=
  (g.follow start actions).audience.received (g.latchAfter start actions) id

/-- Every observer of a system can mirror its display exactly, after every sequence of actions. -/
structure Mirrored (g : DisplaySystem S A) (start : S) : Prop where
  /-- An observer first gets the display as it was when it subscribed. -/
  first : ∀ before a after, g.watching? a = some .subscribe →
    (g.latchAfter start before).subscriptions ∈ g.live start (before ++ a :: after) →
    (g.history start (before ++ a :: after) (g.latchAfter start before).subscriptions).head? =
      some (.snapshot (g.latchAfter start before).snapshot)
  /-- The events of an observer together make what the display shows. -/
  replayed : ∀ actions, ∀ id ∈ g.live start actions,
    replay (g.history start actions id) = (g.latchAfter start actions).snapshot
  /-- No event is idle, and none is about a digit that does not exist. -/
  told : ∀ actions, ∀ id ∈ g.live start actions, AllTell .blank (g.history start actions id)
  /-- Two observers get the same events from when both have subscribed. -/
  together : ∀ before after, ∀ i ∈ g.live start before, ∀ j ∈ g.live start before,
    i ∈ g.live start (before ++ after) → j ∈ g.live start (before ++ after) →
    ∃ events, g.history start (before ++ after) i = g.history start before i ++ events ∧
      g.history start (before ++ after) j = g.history start before j ++ events
  /-- An observer that has not closed is on the latch's list. -/
  kept : ∀ actions, ∀ id ∈ g.live start actions,
    ((g.latchAfter start actions).observer? id).isSome
  /-- An action that is no observer's sends the same events to all of them, and if it sends any, then
  the latch's list is as long as the audience after it. -/
  sent : ∀ actions a, g.watching? a = none →
    ∃ events, (g.latchAfter start actions).Sends events (g.latchAfter start (actions ++ [a])) ∧
      (∀ id ∈ g.live start actions,
        g.history start (actions ++ [a]) id = g.history start actions id ++ events) ∧
      (events ≠ [] → (g.latchAfter start (actions ++ [a])).subscriberCount =
        (g.live start (actions ++ [a])).length)

end DisplaySystem

end Trainer6800
