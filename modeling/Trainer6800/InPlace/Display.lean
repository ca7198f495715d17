import Trainer6800.Display.Latch
import Trainer6800.Log.Book

/-!
# The display latch in place

Changes of the display with the log at hand.  A change is logged before the observers hear of it, and
then how many of them had closed.
-/

namespace Trainer6800.DisplayLatch

open Acting (log)

/-- Send an event. -/
def broadcastM (event : DisplayEvent) : Acting DisplayLatch Unit := do
  let before := (← get).observers.length
  modify fun l => l.broadcast event
  let pruned := before - (← get).observers.length
  if 0 < pruned then
    log .display .debug (pure (prunedText pruned))

/-- Change a digit and tell the observers. -/
def setDigitM (index : Fin 6) (segments : UInt8) : Acting DisplayLatch Unit := do
  modify (·.putDigit index segments)
  log .display .trace (pure (digitText index segments))
  broadcastM (.digit (UInt64.ofNat index) segments)

/-- Write to the latch. -/
def writeM (offset value : UInt8) : Acting DisplayLatch Unit := do
  match wiredDigit? offset with
  | none => log .display .trace (pure (unwiredText offset))
  | some index =>
    let old := (← get).digits.get index
    let new := latchedDigit old offset value
    if new ≠ old then
      setDigitM index new

/-- Turn off the segments of a digit. -/
def blankDigitM (index : Fin 6) : Acting DisplayLatch Unit := do
  if (← get).digits.get index ≠ 0 then
    setDigitM index 0

/-- Turn off every segment. -/
def blankM : Acting DisplayLatch Unit :=
  (List.finRange 6).forM blankDigitM

/-- Show something else altogether. -/
def restoreM (shown : DisplaySnapshot) : Acting DisplayLatch Unit := do
  modify fun l => { l with digits := shown.digits }
  broadcastM (.snapshot shown)

end Trainer6800.DisplayLatch
