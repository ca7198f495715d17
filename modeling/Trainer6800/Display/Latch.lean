import Trainer6800.Display.Snapshot
import Trainer6800.Log.Record
import Trainer6800.Text.Hex

/-!
# The display latch

A write to the latch sets or clears one segment.  Bits 4–6 of the offset select a slot: slot 6 is
the leftmost digit, slot 1 the rightmost, slots 0 and 7 are not wired.  Bits 0–2 select the segment,
`g f e d c b a` and the decimal point.  Bit 0 of the value says whether the segment is lit.

Observers follow the display.  An observer gets a snapshot when it subscribes and every change after
that; it keeps the events until they are taken.  An observer that has closed is taken off the list
the next time an event is sent.
-/

namespace Trainer6800

/-- Someone who follows the display. -/
structure Observer where
  id : Nat
  isOpen : Bool := true
  /-- Events not taken yet, oldest first. -/
  pending : Array DisplayEvent := #[]

/-- The digits and their observers. -/
structure DisplayLatch where
  digits : Vector UInt8 6 := Vector.replicate 6 0
  observers : List Observer := []
  /-- How many observers there have been. -/
  subscriptions : Nat := 0

/-- The digit that an offset selects, if it is wired. -/
def wiredDigit? (offset : UInt8) : Option (Fin 6) :=
  match offset.toNat / 16 % 8 with
  | 6 => some 0
  | 5 => some 1
  | 4 => some 2
  | 3 => some 3
  | 2 => some 4
  | 1 => some 5
  | _ => none

/-- The segment that an offset selects, as a pattern. -/
def selectedSegment (offset : UInt8) : UInt8 :=
  match offset.toNat % 8 with
  | 0 => 0x40
  | 1 => 0x20
  | 2 => 0x10
  | 3 => 0x08
  | 4 => 0x04
  | 5 => 0x02
  | 6 => 0x01
  | _ => 0x80

/-- A digit after a write of `value` at `offset`. -/
def latchedDigit (old offset value : UInt8) : UInt8 :=
  if value &&& 1 != 0 then old ||| selectedSegment offset
  else old &&& ~~~(selectedSegment offset)

namespace DisplayLatch

/-- What the display shows. -/
def snapshot (l : DisplayLatch) : DisplaySnapshot :=
  ⟨l.digits⟩

/-- Send an event: open observers get it, closed ones leave the list. -/
def broadcast (l : DisplayLatch) (event : DisplayEvent) : DisplayLatch :=
  { l with observers :=
      (l.observers.filter (·.isOpen)).map fun o => { o with pending := o.pending.push event } }

/-- What is said of observers that have left the list. -/
def prunedText (count : Nat) : String :=
  "pruned " ++ toString count ++ " closed display subscribers"

/-- The report of sending an event. -/
def broadcastRecords (l : DisplayLatch) : List Log.Record :=
  let closed := (l.observers.filter fun o => !o.isOpen).length
  if closed = 0 then [] else [⟨.display, .debug, prunedText closed⟩]

/-- Change a digit. -/
def putDigit (l : DisplayLatch) (index : Fin 6) (segments : UInt8) : DisplayLatch :=
  { l with digits := l.digits.set index segments }

/-- Change a digit and tell the observers. -/
def setDigit (l : DisplayLatch) (index : Fin 6) (segments : UInt8) : DisplayLatch :=
  (l.putDigit index segments).broadcast (.digit (UInt64.ofNat index) segments)

/-- What is said of a digit that has changed. -/
def digitText (index : Fin 6) (segments : UInt8) : String :=
  "digit " ++ toString index.val ++ " = " ++ Hex.byte segments

/-- The report of changing a digit. -/
def setDigitRecords (l : DisplayLatch) (index : Fin 6) (segments : UInt8) : List Log.Record :=
  ⟨.display, .trace, digitText index segments⟩ :: l.broadcastRecords

/-- Write to the latch; observers only hear of it when a digit changes. -/
def write (l : DisplayLatch) (offset value : UInt8) : DisplayLatch :=
  match wiredDigit? offset with
  | none => l
  | some index =>
    -- lighting a lit segment is no change
    let segments := latchedDigit l.digits[index] offset value
    if segments = l.digits[index] then l else l.setDigit index segments

/-- What is said of a write to a slot that is not wired. -/
def unwiredText (offset : UInt8) : String :=
  "latch write to unwired slot " ++ toString (offset.toNat / 16 % 8) ++ " ignored"

/-- The report of a write. -/
def writeRecords (l : DisplayLatch) (offset value : UInt8) : List Log.Record :=
  match wiredDigit? offset with
  | none => [⟨.display, .trace, unwiredText offset⟩]
  | some index =>
    let segments := latchedDigit l.digits[index] offset value
    if segments = l.digits[index] then [] else l.setDigitRecords index segments

/-- Turn off the segments of a digit; a digit that is off already stays without notice. -/
def blankDigit (l : DisplayLatch) (index : Fin 6) : DisplayLatch :=
  if l.digits[index] = 0 then l else l.setDigit index 0

/-- The report of turning off a digit. -/
def blankDigitRecords (l : DisplayLatch) (index : Fin 6) : List Log.Record :=
  if l.digits[index] = 0 then [] else l.setDigitRecords index 0

/-- Turn off every segment, digit by digit from the left. -/
def blank (l : DisplayLatch) : DisplayLatch :=
  (List.finRange 6).foldl blankDigit l

/-- The report of turning off every segment. -/
def blankRecords (l : DisplayLatch) : List Log.Record :=
  ((List.finRange 6).foldl
    (fun (l, records) i => (l.blankDigit i, records ++ l.blankDigitRecords i)) (l, [])).2

/-- Show something else altogether. -/
def restore (l : DisplayLatch) (shown : DisplaySnapshot) : DisplayLatch :=
  { l with digits := shown.digits }.broadcast (.snapshot shown)

/-- A new observer, which has the present display waiting for it; its number is the number of
subscriptions so far. -/
def subscribe (l : DisplayLatch) : DisplayLatch :=
  { l with
    observers := l.observers ++ [{ id := l.subscriptions, pending := #[.snapshot l.snapshot] }]
    subscriptions := l.subscriptions + 1 }

/-- The observer with a number, unless it has closed. -/
def observer? (l : DisplayLatch) (id : Nat) : Option Observer :=
  l.observers.find? fun o => o.id == id && o.isOpen

/-- The events waiting for the observer with a number. -/
def waiting (l : DisplayLatch) (id : Nat) : Array DisplayEvent :=
  match l.observer? id with
  | some o => o.pending
  | none => #[]

/-- Change the observer with a number. -/
def updateObserver (l : DisplayLatch) (id : Nat) (f : Observer → Observer) : DisplayLatch :=
  { l with observers := l.observers.map fun o => if o.id == id then f o else o }

/-- The latch after an observer has taken its events. -/
def take (l : DisplayLatch) (id : Nat) : DisplayLatch :=
  l.updateObserver id fun o => { o with pending := #[] }

/-- The latch after an observer has closed, together with the events it did not take. -/
def unsubscribe (l : DisplayLatch) (id : Nat) : DisplayLatch :=
  l.updateObserver id fun o => { o with isOpen := false, pending := #[] }

/-- How many observers are on the list, closed ones included. -/
def subscriberCount (l : DisplayLatch) : Nat :=
  l.observers.length

end DisplayLatch

end Trainer6800
