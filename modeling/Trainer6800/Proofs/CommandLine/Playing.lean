import Trainer6800.CommandLine.Program
import Trainer6800.Proofs.Machine.Follow
import Trainer6800.Proofs.Machine.QueuedKeys
import Trainer6800.Proofs.Machine.Written
import Trainer6800.Proofs.Results

/-!
# Playing a session

A session presses keys by a fixed plan and knows the display only from what its observer is told.  The
plan and the telling hold together tick by tick: at the end of each tick the held key is the one that the
plan has there (`heldIn`), what is shown is what the display shows, and a line is due exactly if the
observer has been told anything (`Session.Ticked`).

What a tick relies on is `Session.Attended`: the machine is on, no key event waits, the keys of the tick
before are held, and the events that wait for the observer make up for what it does not know yet.  A
session is attended when its first tick begins, whatever was mounted, configured and loaded, and every
tick leaves it so.
-/

namespace Trainer6800

/-! ## The display as an observer knows it -/

/-- The observer with number `id` follows the latch, and the events that wait for it make what the latch
shows of what it knows already. -/
structure DisplayLatch.Informs (l : DisplayLatch) (id : Nat) (known : DisplaySnapshot) : Prop where
  follows : id ∈ l.openIds
  told : (l.waiting id).foldl DisplaySnapshot.apply known = l.snapshot

namespace DisplayLatch.Informs

variable {l l' : DisplayLatch} {id : Nat} {known : DisplaySnapshot} {events : List DisplayEvent}

theorem send (h : l.Informs id known) (sends : l.Sends events l') : l'.Informs id known := by
  obtain ⟨ids, -, waits⟩ := sends.reaches
  have before : (l.waiting id).toList.foldl DisplaySnapshot.apply known = l.snapshot := by
    rw [Array.foldl_toList, h.told]
  refine ⟨ids ▸ h.follows, ?_⟩
  rw [← Array.foldl_toList, waits id h.follows, List.foldl_append, before]
  exact sends.mirrors.1

/-- Once the observer has taken its events, it knows what the display shows. -/
theorem take (h : l.Informs id known) : (l.take id).Informs id l.snapshot := by
  refine ⟨(openIds_take l id).symm ▸ h.follows, ?_⟩
  rw [waiting_take_self]
  rfl

/-- Whoever subscribes needs to know nothing. -/
theorem subscribe (fresh : l.subscriptions ∉ l.openIds) (known : DisplaySnapshot) :
    l.subscribe.Informs l.subscriptions known := by
  refine ⟨?_, ?_⟩
  · rw [openIds_subscribe]
    exact List.mem_append_right _ (List.mem_singleton_self _)
  · rw [waiting_subscribe_self fresh]
    rfl

end DisplayLatch.Informs

/-! ## The plan -/

/-- The keys that are held at the end of a tick: in every other tick one of the keys, in order. -/
def heldIn (keys : List Key) (tick : Nat) : List Key :=
  if h : tick % 2 = 0 ∧ tick / 2 < keys.length then [keys[tick / 2]] else []

/-- The keys that are held when a tick begins. -/
def heldBefore (keys : List Key) : Nat → List Key
  | 0 => []
  | tick + 1 => heldIn keys tick

theorem heldIn_odd (keys : List Key) {tick : Nat} (odd : tick % 2 = 1) : heldIn keys tick = [] :=
  dif_neg (by omega)

/-- When a tick begins in which a key is to be pressed, none is held. -/
theorem heldBefore_even (keys : List Key) {tick : Nat} (even : tick % 2 = 0) :
    heldBefore keys tick = [] := by
  cases tick with
  | zero => rfl
  | succ last => exact heldIn_odd keys (by omega)

/-- The event that the plan has for a tick turns the keys held before it into those held after it. -/
theorem held_scripted {keys : List Key} {tick : Nat} {k : Keypad}
    (before : k.held = heldBefore keys tick) :
    (k.obeyAll ((scriptedEvent? keys tick).toList.map KeyEvent.action)).held = heldIn keys tick := by
  rcases Nat.mod_two_eq_zero_or_one tick with even | odd
  · rw [heldBefore_even keys even] at before
    by_cases more : tick / 2 < keys.length
    · have event : scriptedEvent? keys tick = some (.press keys[tick / 2]) := by
        simp [scriptedEvent?, more, even]
      rw [event, heldIn, dif_pos ⟨even, more⟩]
      simp [Keypad.obeyAll, Keypad.obey, KeyEvent.action, Keypad.press, Keypad.isPressed, before]
    · have none : scriptedEvent? keys tick = none := by
        simp [scriptedEvent?, more]
      rw [none, heldIn, dif_neg fun h => more h.2]
      exact before
  · obtain ⟨last, rfl⟩ : ∃ last, tick = last + 1 := ⟨tick - 1, by omega⟩
    have same : (last + 1) / 2 = last / 2 := by omega
    rw [heldIn_odd keys odd]
    rw [heldBefore, heldIn] at before
    by_cases more : last / 2 < keys.length
    · have event : scriptedEvent? keys (last + 1) = some (.release keys[last / 2]) := by
        simp [scriptedEvent?, same, more, odd]
      rw [dif_pos ⟨by omega, more⟩] at before
      rw [event]
      simp [Keypad.obeyAll, Keypad.obey, KeyEvent.action, Keypad.release, before]
    · have none : scriptedEvent? keys (last + 1) = none := by
        simp [scriptedEvent?, same, more]
      rw [dif_neg fun h => more h.2] at before
      rw [none]
      exact before

namespace Session

/-! ## Tick by tick -/

/-- The session after its next tick, which has been recorded. -/
def next (s : Session) : Session :=
  s.advance.1.record s.advance.2

/-- The session after a number of ticks, also if it should have ended before. -/
def after (s : Session) (ticks : Nat) : Session :=
  next^[ticks] s

/-- The report of a tick. -/
def report (s : Session) (tick : Nat) : TickReport :=
  (s.after tick).advance.2

/-- The display at the end of a tick, before the observer takes what it has been told. -/
def latchIn (s : Session) (tick : Nat) : DisplayLatch :=
  (s.after tick).queueScripted.tick.1.bus.display

/-- The lines for the display that a number of ticks lead to. -/
def lines (s : Session) (ticks : Nat) : List String :=
  (((List.range ticks).map s.report).filter (·.changed)).map TickReport.line

end Session

/-- The processor has halted or met a breakpoint. -/
def TickReport.Ends (r : TickReport) : Prop :=
  r.stop = .halted ∨ ∃ address, r.stop = .breakpoint address

theorem TickReport.ends_iff {r : TickReport} : r.Ends ↔ r.stop.endsSession = true := by
  unfold Ends
  cases r.stop <;> simp [StopReason.endsSession]

namespace Session

/-- A session of at most `limit` ticks has `count` of them: the first that ends it is the last, and there
is one if ticks are left over. -/
structure EndsAfter (s : Session) (limit count : Nat) : Prop where
  within : count ≤ limit
  goesOn : ∀ tick, tick + 1 < count → ¬ (s.report tick).Ends
  early : count < limit → ∃ last, count = last + 1 ∧ (s.report last).Ends

variable {s : Session}

theorem after_succ (s : Session) (ticks : Nat) : s.after (ticks + 1) = (s.after ticks).next :=
  Function.iterate_succ_apply' next ticks s

/-- A session is played tick by tick, up to the first that ends it. -/
theorem exists_play_eq (s : Session) (limit : Nat) :
    ∃ count, s.EndsAfter limit count ∧ play limit s = s.after count := by
  induction limit generalizing s with
  | zero => exact ⟨0, ⟨Nat.le_refl 0, nofun, nofun⟩, rfl⟩
  | succ limit ih =>
    by_cases ends : (s.report 0).Ends
    · have played : play (limit + 1) s = s.next := if_pos (TickReport.ends_iff.mp ends)
      refine ⟨1, ⟨Nat.succ_le_succ (Nat.zero_le limit), ?_, fun _ => ⟨0, rfl, ends⟩⟩, played⟩
      intro tick within
      omega
    · have played : play (limit + 1) s = play limit s.next := if_neg (mt TickReport.ends_iff.mpr ends)
      obtain ⟨count, ended, rest⟩ := ih s.next
      refine ⟨count + 1, ⟨Nat.succ_le_succ ended.within, ?_, ?_⟩, played.trans rest⟩
      · intro tick within
        cases tick with
        | zero => exact ends
        | succ tick => exact ended.goesOn tick (Nat.lt_of_succ_lt_succ within)
      · intro less
        obtain ⟨last, rfl, stops⟩ := ended.early (Nat.lt_of_succ_lt_succ less)
        exact ⟨last + 1, rfl, stops⟩

/-- A tick writes its line if one is due, and no other. -/
theorem display_next (s : Session) :
    s.next.transcript.display =
      if s.advance.2.changed then s.transcript.display.push s.advance.2.line
      else s.transcript.display := by
  unfold next record
  split
  · rfl
  · rfl

theorem display_after (s : Session) (ticks : Nat) :
    (s.after ticks).transcript.display.toList = s.transcript.display.toList ++ s.lines ticks := by
  induction ticks with
  | zero => exact (List.append_nil _).symm
  | succ ticks ih =>
    rw [after_succ, display_next, lines, List.range_succ, List.map_append, List.filter_append,
      List.map_append, ← List.append_assoc]
    show _ = (s.transcript.display.toList ++ s.lines ticks) ++ _
    rw [← ih]
    by_cases due : (s.report ticks).changed
    · have due' : (s.after ticks).advance.2.changed = true := due
      simp [due', report]
    · have due' : ¬ (s.after ticks).advance.2.changed = true := due
      simp [due', report]

/-! ## What a tick relies on, and what it leaves -/

/-- The session is ready for its next tick, which has number `tick`. -/
structure Attended (keys : List Key) (tick : Nat) (s : Session) : Prop where
  plan : s.keys = keys
  number : s.tick = tick
  on : s.machine.isPowered = true
  idle : s.machine.keyQueue = []
  held : s.machine.bus.keypad.held = heldBefore keys tick
  informed : s.machine.bus.display.Informs s.observer s.shown
  /-- Nothing has been left from the tick before; only at first something waits. -/
  waits : (s.machine.bus.display.waiting s.observer).toList ≠ [] ↔ tick = 0

/-- What is so at the end of a tick. -/
structure Ticked (keys : List Key) (s : Session) (tick : Nat) : Prop where
  number : (s.report tick).tick = tick
  held : (s.after (tick + 1)).machine.bus.keypad.held = heldIn keys tick
  mirrored : (s.after (tick + 1)).shown = (s.after (tick + 1)).machine.display
  reported : (s.report tick).shown = (s.after (tick + 1)).machine.display
  /-- Whatever becomes of the display in the tick, the observers are told of it. -/
  sent : ∃ events, (s.after tick).machine.bus.display.Sends events (s.latchIn tick)
  /-- A line is due if there has been any such event, and at first in any case. -/
  due : ∀ events, (s.after tick).machine.bus.display.Sends events (s.latchIn tick) →
    ((s.report tick).changed = true ↔ tick = 0 ∨ events ≠ [])

theorem queueScripted_eq (on : s.machine.isPowered = true) (idle : s.machine.keyQueue = []) :
    s.queueScripted = { s.machine with keyQueue := (scriptedEvent? s.keys s.tick).toList } := by
  unfold queueScripted
  cases scriptedEvent? s.keys s.tick with
  | none =>
    show s.machine = { s.machine with keyQueue := [] }
    rw [← idle]
  | some event =>
    show (if s.machine.isPowered then { s.machine with keyQueue := s.machine.keyQueue ++ [event] }
      else s.machine) = _
    rw [if_pos on, idle]
    rfl

/-- The machine in a tick: the key event of the plan has been handled, and whatever has become of the display
has been sent. -/
theorem Attended.tick {keys : List Key} {tick : Nat} (h : s.Attended keys tick) :
    s.queueScripted.tick.1.isPowered = true ∧ s.queueScripted.tick.1.keyQueue = [] ∧
      s.queueScripted.tick.1.bus.keypad.held = heldIn keys tick ∧
      Bus.ComesAfter s.machine.bus.display s.queueScripted.tick.1.bus := by
  have queued := queueScripted_eq h.on h.idle
  have display : s.queueScripted.bus.display = s.machine.bus.display := by
    rw [queued]
    rfl
  obtain ⟨on, idle, keypad⟩ := Machine.tick_handles h.on h.idle (scriptedEvent? s.keys s.tick).toList
  rw [← queued] at on idle keypad
  refine ⟨on, idle, ?_, ?_⟩
  · rw [keypad, h.plan, h.number]
    exact held_scripted h.held
  · rw [← display]
    exact s.queueScripted.tick_moves.sends

/-- What a tick makes of a session, apart from what it writes. -/
theorem next_eq (s : Session) :
    ∃ transcript, s.next = { s with
      machine := s.queueScripted.tick.1.updateBus fun b =>
        { b with display := b.display.take s.observer, journal := #[] }
      shown := (s.queueScripted.tick.1.bus.display.waiting s.observer).foldl DisplaySnapshot.apply s.shown
      tick := s.tick + 1
      transcript } :=
  ⟨_, rfl⟩

/-- What the report of a tick says. -/
theorem advance_report (s : Session) :
    s.advance.2.tick = s.tick ∧
      s.advance.2.shown = (s.queueScripted.tick.1.bus.display.waiting s.observer).foldl
        DisplaySnapshot.apply s.shown ∧
      s.advance.2.changed = !(s.queueScripted.tick.1.bus.display.waiting s.observer).isEmpty :=
  ⟨rfl, rfl, rfl⟩

theorem Attended.next {keys : List Key} {tick : Nat} (h : s.Attended keys tick) :
    s.next.Attended keys (tick + 1) := by
  obtain ⟨on, idle, held, events, sends⟩ := h.tick
  have informed := h.informed.send sends
  obtain ⟨transcript, next⟩ := s.next_eq
  rw [next, informed.told]
  exact {
    plan := h.plan
    number := congrArg (· + 1) h.number
    on := on
    idle := idle
    held := held
    informed := informed.take
    waits := iff_of_false (not_not_intro (congrArg Array.toList (DisplayLatch.waiting_take_self _ _)))
      (Nat.succ_ne_zero tick) }

/-- A tick that a session is ready for goes by the plan and tells the observer all. -/
theorem Attended.ticked {keys : List Key} {tick : Nat} (h : (s.after tick).Attended keys tick) :
    s.Ticked keys tick := by
  obtain ⟨-, -, held, comes⟩ := h.tick
  obtain ⟨events, sends⟩ := comes
  have informed := h.informed.send sends
  obtain ⟨transcript, next⟩ := (s.after tick).next_eq
  obtain ⟨number, shown, changed⟩ := (s.after tick).advance_report
  rw [informed.told] at next shown
  refine ⟨number.trans h.number, ?_, ?_, ?_, ⟨events, sends⟩, ?_⟩
  · rw [after_succ, next]
    exact held
  · rw [after_succ, next]
    rfl
  · rw [after_succ, next]
    exact shown
  · intro events sends
    have waits := sends.reaches.2.2 _ h.informed.follows
    rw [latchIn] at waits
    rw [report, changed, ← h.waits, Bool.not_eq_true', ← Array.isEmpty_toList, waits,
      List.isEmpty_eq_false_iff, ne_eq, List.append_eq_nil_iff, not_and_or]

/-! ## The opening -/

/-- The machine of a session, with its monitor if there is an image of one. -/
def mounted (monitor : Option (List UInt8)) (config : MachineConfig) : Machine :=
  match monitor with
  | some image => (Machine.ofMonitor [] config).mountMonitor image
  | none => .ofMonitor [] config

/-- A session whose machine has been turned on. -/
def begun (monitor : Option (List UInt8)) (config : MachineConfig) (keys : List Key)
    (transcript : Transcript) : Session :=
  (start (mounted monitor config) keys transcript).writeLog

/-- The session goes on with a machine from an address, if there is one. -/
def goOn (s : Session) (address : Option UInt16) (machine : Machine) : Session :=
  { s with machine := Program.jumpTo address machine }.writeLog

/-- The session once a program has been loaded, if there is one. -/
def loaded (s : Session) (program : Option ProgramImage) (address : Option UInt16) :
    Except LoadError Session :=
  match program with
  | some image =>
    (s.machine.loadProgram image).2.map fun _ => s.goOn address (s.machine.loadProgram image).1
  | none => .ok (s.goOn address s.machine)

/-- A session can begin on any machine that is off, if no key is held and the number of the next observer
is free. -/
theorem attended_start {m : Machine} (off : m.power = .off) (released : m.bus.keypad.held = [])
    (fresh : m.bus.display.subscriptions ∉ m.bus.display.openIds) (keys : List Key)
    (transcript : Transcript) : (start m keys transcript).Attended keys 0 := by
  have turnedOn : m.subscribe.powerButton = m.subscribe.powerOn := by
    have off' : ¬ m.subscribe.isPowered = true := by
      show ¬ (m.power == .running) = true
      rw [off]
      decide
    exact if_neg off'
  obtain ⟨records, powered⟩ := m.subscribe.powerOn_eq
  obtain ⟨events, sends⟩ := m.subscribe.powerOn_moves.sends
  have informed : m.bus.display.subscribe.Informs m.bus.display.subscriptions .blank :=
    .subscribe fresh .blank
  have waits := sends.reaches.2.2 _ informed.follows
  have first : (m.subscribe.bus.display.waiting m.bus.display.subscriptions) =
      #[.snapshot m.bus.display.snapshot] := DisplayLatch.waiting_subscribe_self fresh
  simp only [start, turnedOn]
  exact {
    plan := rfl
    number := rfl
    on := by rw [powered]; rfl
    idle := by rw [powered]; rfl
    held := (congrArg Keypad.held m.subscribe.powerOn_keeps.2.1).trans released
    informed := informed.send sends
    waits := by
      refine iff_of_true ?_ rfl
      show (m.subscribe.powerOn.bus.display.waiting m.bus.display.subscriptions).toList ≠ []
      rw [waits, first]
      exact List.cons_ne_nil _ _ }

/-- Before a session the machine is off, with no key held and nobody following the display. -/
theorem mounted_off (monitor : Option (List UInt8)) (config : MachineConfig) :
    (mounted monitor config).power = .off ∧ (mounted monitor config).bus.keypad.held = [] ∧
      (mounted monitor config).bus.display.openIds = [] := by
  cases monitor with
  | none => exact ⟨rfl, rfl, rfl⟩
  | some image =>
    obtain ⟨events, sends⟩ := (Machine.ofMonitor [] config).powerOff_moves.sends
    have power := (Machine.ofMonitor [] config).power_powerOff
    have held := (Machine.ofMonitor [] config).held_powerOff
    have alone : (Machine.ofMonitor [] config).powerOff.bus.display.openIds = [] := sends.reaches.1
    rw [mounted, Machine.mountMonitor, Machine.changeMonitor]
    -- what the machine was before it was turned off does not matter
    generalize (Machine.ofMonitor [] config).powerOff = off at power held alone
    exact ⟨power, held, alone⟩

variable {keys : List Key}

/-- Writing the log changes nothing but the journal. -/
theorem Attended.writeLog {tick : Nat} (h : s.Attended keys tick) : s.writeLog.Attended keys tick where
  plan := h.plan
  number := h.number
  on := h.on
  idle := h.idle
  held := h.held
  informed := h.informed
  waits := h.waits

theorem attended_begun (monitor : Option (List UInt8)) (config : MachineConfig) (keys : List Key)
    (transcript : Transcript) : (begun monitor config keys transcript).Attended keys 0 := by
  obtain ⟨off, released, alone⟩ := mounted_off monitor config
  have fresh : (mounted monitor config).bus.display.subscriptions ∉
      (mounted monitor config).bus.display.openIds := by
    rw [alone]
    exact List.not_mem_nil
  exact (attended_start off released fresh keys transcript).writeLog

/-- Before the first tick the machine may be changed in any way that leaves power and keys alone. -/
theorem Attended.change (h : s.Attended keys 0) {m : Machine} (moves : Machine.Moves s.machine m)
    (power : m.power = s.machine.power) (keyQueue : m.keyQueue = s.machine.keyQueue)
    (keypad : m.bus.keypad = s.machine.bus.keypad) :
    ({ s with machine := m } : Session).Attended keys 0 := by
  obtain ⟨events, sends⟩ := moves.sends
  have waits : (m.bus.display.waiting s.observer).toList ≠ [] := by
    rw [sends.reaches.2.2 _ h.informed.follows]
    exact List.append_ne_nil_of_left_ne_nil (h.waits.mpr rfl) _
  exact {
    plan := h.plan
    number := h.number
    on := (congrArg (· == .running) power).trans h.on
    idle := keyQueue.trans h.idle
    held := keypad ▸ h.held
    informed := h.informed.send sends
    waits := iff_of_true waits rfl }

/-- A session into which a program has been loaded goes on with a machine that has been changed in memory
only. -/
theorem exists_goOn_of_loaded {program : Option ProgramImage} {address : Option UInt16} {s' : Session}
    (loads : s.loaded program address = .ok s') :
    ∃ m, s' = s.goOn address m ∧ Machine.Moves s.machine m ∧ m.power = s.machine.power ∧
      m.keyQueue = s.machine.keyQueue ∧ m.bus.keypad = s.machine.bus.keypad := by
  cases program with
  | none =>
    cases loads
    exact ⟨s.machine, rfl, .refl, rfl, rfl, rfl⟩
  | some image =>
    obtain ⟨counts, -, rfl⟩ := map_eq_ok_iff.mp loads
    exact ⟨_, rfl, s.machine.loadProgram_moves image, rfl, rfl, (s.machine.loadProgram_keeps image).1⟩

/-- Loading a program leaves the session ready for its first tick. -/
theorem Attended.loaded (h : s.Attended keys 0) {program : Option ProgramImage} {address : Option UInt16}
    {s' : Session} (loads : s.loaded program address = .ok s') : s'.Attended keys 0 := by
  obtain ⟨m, rfl, moves, power, keyQueue, keypad⟩ := exists_goOn_of_loaded loads
  cases address with
  | none => exact (h.change moves power keyQueue keypad).writeLog
  | some address =>
    exact (h.change (moves.trans (Machine.Move.setPc address).moves) power keyQueue keypad).writeLog

theorem Attended.after (h : s.Attended keys 0) (ticks : Nat) : (s.after ticks).Attended keys ticks := by
  induction ticks with
  | zero => exact h
  | succ ticks ih =>
    rw [after_succ]
    exact ih.next

/-- However a session is opened and for whatever keys, at the end of each of its ticks the plan is kept, and
what is shown is what the display shows.  A line is due for a tick exactly if the display has sent an event
since the tick before, and for the first tick always; these lines are written, in order.  The session ends
early only with a tick in which the processor halts or meets a breakpoint, and with the first such. -/
theorem session_followed {monitor : Option (List UInt8)} {config : MachineConfig} {keys : List Key}
    {transcript : Transcript} {program : Option ProgramImage} {address : Option UInt16} {s : Session}
    (opened : (begun monitor config keys transcript).loaded program address = .ok s) (limit : Nat) :
    ∃ count, s.EndsAfter limit count ∧ s.play limit = s.after count ∧
      (∀ tick < count, s.Ticked keys tick) ∧
      (s.play limit).transcript.display.toList = transcript.display.toList ++ s.lines count := by
  have attended : s.Attended keys 0 := (attended_begun monitor config keys transcript).loaded opened
  obtain ⟨count, ends, played⟩ := s.exists_play_eq limit
  refine ⟨count, ends, played, fun tick _ => (attended.after tick).ticked, ?_⟩
  obtain ⟨m, rfl, -⟩ := exists_goOn_of_loaded opened
  rw [played, display_after]
  rfl

/-- A program that lights a segment, with a monitor that waits: in the first of five ticks RESET is held, and
a line is due. -/
theorem session_followed_reset :
    let begun := begun (some [0x20, 0xFE]) {} [.reset, .data 5] {}
    let program := ProgramImage.pairs [(0xC166, 1)]
    let s := begun.goOn (some 0xFC00) (begun.machine.loadProgram program).1
    begun.loaded (some program) (some 0xFC00) = .ok s ∧
      ∃ count, 0 < count ∧ play 5 s = s.after count ∧
        (s.after 1).machine.bus.keypad.held = [.reset] ∧
        (s.after 1).shown = (s.after 1).machine.display ∧ (s.report 0).changed = true := by
  intro begun program s
  have mounted : Machine.Reachable (mounted (some [0x20, 0xFE]) {}) :=
    (Machine.Reachable.ofMonitor [] {}).act (.command (.mount "Monitor" [0x20, 0xFE]))
  have reachable : Machine.Reachable begun.machine :=
    ((mounted.act (.watch .subscribe)).act (.command .powerButton)).act .writeOut
  have opened : begun.loaded (some program) (some 0xFC00) = .ok s := by
    have writes : program.writes = .ok [(0xC166, 1)] := rfl
    simp only [loaded, s]
    rw [reachable.sound.loadProgram_ok writes]
    rfl
  obtain ⟨count, ends, played, ticked, -⟩ := session_followed opened 5
  have some : 0 < count := by
    cases count with
    | zero =>
      obtain ⟨last, more, -⟩ := ends.early (by decide)
      cases more
    | succ last => exact Nat.succ_pos last
  have first : s.Ticked [.reset, .data 5] 0 := ticked 0 some
  have held := first.held
  have mirrored := first.mirrored
  obtain ⟨events, sends⟩ := first.sent
  have due := (first.due events sends).mpr (.inl rfl)
  clear_value s
  exact ⟨opened, count, some, played, held, mirrored, due⟩

end Session

/-! ## The program's session -/

namespace Program

variable {m : Type → Type} [Monad m]

theorem require_map [LawfulMonad m] {ε α β : Type} (failure : ε → Failure) (f : α → β)
    (r : Except ε α) : require (m := m) failure (r.map f) = f <$> require failure r := by
  cases r with
  | ok a =>
    show (pure (f a) : Run m β) = f <$> pure a
    rw [map_pure]
  | error e =>
    refine ExceptT.ext ?_
    rw [ExceptT.run_map]
    exact (map_pure (Except.map f) (.error (failure e))).symm

variable [FileAccess m]

/-- The image of the monitor, if there is to be one. -/
def readMonitor (a : Arguments) : Run m (Option (List UInt8)) := do
  match a.monitor with
  | none => return none
  | some path =>
    let image ← require (.monitor path) (← FileAccess.read (m := m) path)
    return some image.toList

/-- The image of the program, if there is to be one. -/
def readImage (a : Arguments) : Run m (Option ProgramImage) := do
  match a.program with
  | none => return none
  | some path => return some (← readProgram path)

variable [LawfulMonad m]

theorem mountMonitor_eq (a : Arguments) (config : MachineConfig) :
    mountMonitor (m := m) a (.ofMonitor [] config) =
      (Session.mounted · config) <$> readMonitor a := by
  unfold mountMonitor readMonitor
  cases a.monitor with
  | none => simp only [map_pure, Session.mounted]
  | some path => simp only [map_bind, map_pure, Session.mounted]

theorem loadProgram_eq (a : Arguments) (s : Session) :
    s.goOn a.start <$> loadProgram (m := m) a s.machine =
      readImage a >>= fun program => require .load (s.loaded program a.start) := by
  unfold loadProgram readImage
  cases a.program with
  | none =>
    simp only [map_pure, pure_bind, Session.loaded]
    rfl
  | some path =>
    simp only [map_bind, map_pure, bind_assoc, pure_bind, Session.loaded]
    refine bind_congr fun image => ?_
    rw [require_map, map_eq_pure_bind]

/-- The program reads what its arguments name, and then opens and plays a session with it. -/
theorem session_eq (a : Arguments) : session (m := m) a = (do
    setLevel a
    openLogFile a
    let config ← readConfig a
    let keys ← require .key (a.keys.mapM Key.ofText)
    let monitor ← readMonitor a
    let begun := Session.begun monitor config keys (← get)
    set begun.transcript
    let program ← readImage a
    let opened ← require .load (begun.loaded program a.start)
    let s := opened.play a.ticks
    set { s.transcript with display := s.transcript.display.push s.machine.registersLine }
    return s.machine) := by
  have rest (s : Session) : (do
      let machine ← loadProgram a s.machine
      let s := (s.goOn a.start machine).play a.ticks
      set { s.transcript with display := s.transcript.display.push s.machine.registersLine }
      return s.machine : Run m Machine) = (do
      let program ← readImage a
      let opened ← require .load (s.loaded program a.start)
      let s := opened.play a.ticks
      set { s.transcript with display := s.transcript.display.push s.machine.registersLine }
      return s.machine) := by
    rw [← bind_assoc, ← loadProgram_eq, bind_map_left]
  simp only [session, mountMonitor_eq, bind_map_left, ← rest]
  rfl

end Program

end Trainer6800
