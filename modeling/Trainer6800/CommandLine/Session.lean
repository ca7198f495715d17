import Trainer6800.Log.Limiter
import Trainer6800.Machine.Run

/-!
# Sessions

A session plays a list of keys on a machine, tick by tick, and follows its display.  Key number `n` is
pressed in tick `2 * n` and released in the tick after that.  What is shown is never asked of the
machine: it is put together from the events that the session's observer receives.

A session ends early when the processor halts or meets a breakpoint.
-/

namespace Trainer6800

/-- What has been written during a session. -/
structure Transcript where
  logger : Log.Logger := {}
  /-- Lines of the log. -/
  log : Array String := #[]
  /-- Lines that show the display. -/
  display : Array String := #[]

/-- Offer the journal of a machine to the log; the journal is empty afterwards. -/
def Transcript.takeJournal (t : Transcript) (m : Machine) : Transcript × Machine :=
  let (lines, logger) := t.logger.writeAll m.bus.journal
  ({ t with logger, log := t.log ++ lines }, m.updateBus fun b => { b with journal := #[] })

/-- A machine with someone who follows its display and presses its keys. -/
structure Session where
  machine : Machine
  /-- The keys to press. -/
  keys : List Key := []
  /-- The number of the observer. -/
  observer : Nat := 0
  /-- The number of the next tick. -/
  tick : Nat := 0
  /-- The display, as far as the observer knows it. -/
  shown : DisplaySnapshot := .blank
  transcript : Transcript := {}

/-- What happened in a tick. -/
structure TickReport where
  tick : Nat
  shown : DisplaySnapshot
  /-- Whether the observer was told anything. -/
  changed : Bool
  stop : StopReason
  deriving DecidableEq, Repr

/-- Whether a session ends with a tick that stopped so. -/
def StopReason.endsSession : StopReason → Bool
  | halted | breakpoint _ => true
  | budgetExhausted | waiting | poweredOff => false

/-- The key event that comes before a tick. -/
def scriptedEvent? (keys : List Key) (tick : Nat) : Option KeyEvent :=
  (keys[tick / 2]?).map fun key => if tick % 2 = 0 then .press key else .release key

/-- A number with blanks in front of it, up to a width. -/
def padded (width n : Nat) : String :=
  let digits := (toString n).toList
  String.ofList (List.replicate (width - digits.length) ' ' ++ digits)

/-- The line that shows the display after a tick. -/
def TickReport.line (r : TickReport) : String :=
  padded 5 r.tick ++ " [" ++ r.shown.render ++ "]"

/-- The line that shows the processor. -/
def Machine.registersLine (m : Machine) : String :=
  let r := m.cpu.registers
  "A=" ++ Hex.byte r.a ++ " B=" ++ Hex.byte r.b ++ " X=" ++ Hex.word r.x ++ " SP=" ++ Hex.word r.sp ++
    " PC=" ++ Hex.word r.pc ++ " CCR=" ++ Hex.byte r.ccr.toByte ++ " cycles=" ++
    toString m.cpu.cycles.toNat

namespace Session

/-- A session on a machine that is off: the display is followed from before the power comes on. -/
def start (m : Machine) (keys : List Key) (transcript : Transcript) : Session where
  machine := m.subscribe.powerButton
  keys
  observer := m.bus.display.subscriptions
  transcript

/-- Write the journal of the machine into the log. -/
def writeLog (s : Session) : Session :=
  let (transcript, machine) := s.transcript.takeJournal s.machine
  { s with transcript, machine }

/-- Put the key event of the next tick into the queue. -/
def queueScripted (s : Session) : Machine :=
  match scriptedEvent? s.keys s.tick with
  | some event => s.machine.queueKey event
  | none => s.machine

/-- Do one tick. -/
def advance (s : Session) : Session × TickReport :=
  -- the machine handles the queued key before it runs
  let (machine, summary) := s.queueScripted.tick
  let events := machine.bus.display.waiting s.observer
  let shown := events.foldl DisplaySnapshot.apply s.shown
  let machine := machine.updateBus fun b => { b with display := b.display.take s.observer }
  ({ s with machine, shown, tick := s.tick + 1 },
    { tick := s.tick, shown, changed := !events.isEmpty, stop := summary.stop })

/-- Write what happened in a tick: a line for the display if it told of anything, and the log. -/
def record (s : Session) (r : TickReport) : Session :=
  let transcript :=
    if r.changed then { s.transcript with display := s.transcript.display.push r.line }
    else s.transcript
  { s with transcript }.writeLog

/-- Do a number of ticks, or fewer if the session ends before. -/
def play : Nat → Session → Session
  | 0, s => s
  | n + 1, s =>
    -- a tick that ends the session is still recorded
    let (s, report) := s.advance
    let s := s.record report
    if report.stop.endsSession then s else play n s

end Session

end Trainer6800
