import Trainer6800.Display.Latch
import Trainer6800.Keypad.Basic
import Trainer6800.Memory.AddressSpace
import Trainer6800.Memory.Block

/-!
# The bus

The address map of the trainer:

| addresses     | read               | write                    |
|---------------|--------------------|--------------------------|
| `0000`–`BFFF` | memory             | memory                   |
| `C000`–`C0FF` | keypad scan byte   | memory                   |
| `C100`–`C1FF` | memory             | memory and display latch |
| `C200`–`FBFF` | memory             | memory                   |
| `FC00`–`FFFF` | monitor            | refused                  |

The processor cannot be told that an access failed: a read that nothing answers gives `FF`, and a
write that nothing takes is remembered in `Bus.fault`.  With blocks of the standard size this never
happens.  What the parts of the bus report is gathered in `Bus.journal`.
-/

namespace Trainer6800

/-- Number of bytes of memory. -/
def ramSize : Nat := 0xFC00

/-- Number of bytes of the monitor. -/
def romSize : Nat := 0x400

/-- First address of the monitor. -/
def romBase : UInt16 := 0xFC00

/-- Whether an address reads the keypad. -/
def inKeypadWindow (address : UInt16) : Bool :=
  0xC000 ≤ address && address ≤ 0xC0FF

/-- Whether a write to an address reaches the display latch. -/
def inDisplayWindow (address : UInt16) : Bool :=
  0xC100 ≤ address && address ≤ 0xC1FF

/-- Everything that answers to an address. -/
structure Bus where
  ram : MemoryBlock
  rom : MemoryBlock
  keypad : Keypad
  display : DisplayLatch := {}
  /-- The last write that nothing took. -/
  fault : Option OutOfRange := none
  /-- Reports, oldest first. -/
  journal : Array Log.Record := #[]

namespace Bus

/-- The monitor block of an image. -/
def monitorBlock (image : List UInt8) : MemoryBlock :=
  (MemoryBlock.readOnly romSize image).placedAt romBase

/-- Add reports to the journal. -/
def report (b : Bus) (records : List Log.Record) : Bus :=
  { b with journal := b.journal.appendList records }

/-- Replace the monitor. -/
def loadMonitor (b : Bus) (image : List UInt8) : Bus :=
  { b with rom := monitorBlock image }.report (MemoryBlock.readOnlyRecords romSize image)

/-- A bus with blank memory, a monitor and a keypad. -/
def ofMonitor (image : List UInt8) (keypad : Keypad) : Bus :=
  { ram := .plain ramSize, rom := monitorBlock [], keypad : Bus }.loadMonitor image

/-- Read through the address map. -/
def readChecked (b : Bus) (address : UInt16) : Except OutOfRange UInt8 :=
  -- the keypad hides the memory below it, the monitor hides any memory that overlaps it
  if inKeypadWindow address then .ok (b.keypad.scan (lowByte address &&& 7))
  else if b.rom.contains address then b.rom.read address
  else b.ram.read address

/-- Read through the address map; a byte that nothing answers for is `FF`. -/
def read (b : Bus) (address : UInt16) : UInt8 :=
  match b.readChecked address with
  | .ok value => value
  | .error _ => 0xFF

/-- What is said of a read that fails. -/
def readFailure (e : OutOfRange) : String :=
  "bus read failed: " ++ e.message

/-- The report of a read. -/
def readRecords (b : Bus) (address : UInt16) : List Log.Record :=
  match b.readChecked address with
  | .ok _ => []
  | .error e => [⟨.memory, .error, readFailure e⟩]

/-- Whether something takes a write to an address. -/
def takes (b : Bus) (address : UInt16) : Bool :=
  b.rom.contains address || b.ram.contains address

/-- Write to an address that something takes writes to. -/
def deliver (b : Bus) (address : UInt16) (value : UInt8) : Bus :=
  if b.rom.contains address then
    let records := b.rom.writeRecords address value
    { b with rom := b.rom.store address [value], journal := b.journal.appendList records }
  else if inDisplayWindow address then
    -- the byte goes into memory as well as to the latch
    let offset := lowByte address
    let records := b.display.writeRecords offset value
    { b with
      ram := b.ram.store address [value]
      display := b.display.write offset value
      journal := b.journal.appendList records }
  else { b with ram := b.ram.store address [value] }

/-- Write through the address map. -/
def writeChecked (b : Bus) (address : UInt16) (value : UInt8) : Except OutOfRange Bus :=
  if b.takes address then .ok (b.deliver address value) else .error (b.ram.outOfRange address)

/-- What is said of a write that fails. -/
def writeFailure (e : OutOfRange) : String :=
  "bus write failed: " ++ e.message

/-- Write through the address map, remembering a failure. -/
def write (b : Bus) (address : UInt16) (value : UInt8) : Bus :=
  if b.takes address then b.deliver address value
  else
    let e := b.ram.outOfRange address
    { b with fault := some e }.report [⟨.memory, .error, writeFailure e⟩]

instance : AddressSpace Bus := ⟨read, write⟩

end Bus

end Trainer6800
