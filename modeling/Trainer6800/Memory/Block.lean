import Trainer6800.Log.Record
import Trainer6800.Text.Hex

/-!
# Memory blocks

A block of bytes at consecutive addresses `base`, `base + 1`, …, which allows either reading and
writing or only reading.  The contents of a read-only block come from an image; what would change
them is refused and counted.  Addresses are absolute, and an address outside the block is an error
for every operation alike.
-/

namespace Trainer6800

/-- What a block allows. -/
inductive Access where
  | plain
  | readOnly
  deriving DecidableEq, Repr

/-- A block of memory. -/
structure MemoryBlock where
  content : Array UInt8
  base : UInt16 := 0
  access : Access
  /-- How many writes, loads and clears were refused.  Each adds one, so that a counter of sixty-four bits
  runs over only after as many of them as it can count. -/
  rejectedWrites : Nat := 0
  deriving DecidableEq

/-- An address outside a block of the given size. -/
structure OutOfRange where
  address : UInt16
  size : Nat
  deriving DecidableEq, Repr

/-- The text of the error. -/
def OutOfRange.message (e : OutOfRange) : String :=
  "address 0x" ++ Hex.word e.address ++ " out of range for " ++ toString e.size ++ "-byte memory"

/-- The name of an access. -/
def Access.name : Access → String
  | plain => "Plain"
  | readOnly => "ReadOnly"

/-- Put bytes into an array from an index on; those beyond its end are dropped. -/
def putBytes (content : Array UInt8) (index : Nat) : List UInt8 → Array UInt8
  | [] => content
  | b :: bs => putBytes (content.setIfInBounds index b) (index + 1) bs

namespace MemoryBlock

/-- Zeros that can be read and written. -/
def plain (size : Nat) : MemoryBlock :=
  { content := Array.replicate size 0, access := .plain }

/-- An image that can only be read, cut to `size` bytes or filled up with zeros. -/
def readOnly (size : Nat) (image : List UInt8) : MemoryBlock :=
  { content := putBytes (Array.replicate size 0) 0 image, access := .readOnly }

/-- The block at another base address. -/
def placedAt (b : MemoryBlock) (base : UInt16) : MemoryBlock :=
  { b with base }

/-- The number of bytes. -/
def size (b : MemoryBlock) : Nat :=
  b.content.size

/-- Whether an address lies in the block. -/
def contains (b : MemoryBlock) (address : UInt16) : Bool :=
  b.base ≤ address && address.toNat - b.base.toNat < b.size

/-- The place of an address in the contents. -/
def index (b : MemoryBlock) (address : UInt16) : Nat :=
  address.toNat - b.base.toNat

/-- The error for an address. -/
def outOfRange (b : MemoryBlock) (address : UInt16) : OutOfRange :=
  ⟨address, b.size⟩

/-- The byte at an address in the block, and zero elsewhere. -/
def fetch (b : MemoryBlock) (address : UInt16) : UInt8 :=
  b.content.getD (b.index address) 0

/-- Read a byte. -/
def read (b : MemoryBlock) (address : UInt16) : Except OutOfRange UInt8 :=
  if b.contains address then .ok (b.fetch address) else .error (b.outOfRange address)

/-- The block after an attempt to change it that its access does not allow. -/
def reject (b : MemoryBlock) : MemoryBlock :=
  { b with rejectedWrites := b.rejectedWrites + 1 }

/-- Store bytes from an address in the block on, as far as access and size allow. -/
def store (b : MemoryBlock) (address : UInt16) (bytes : List UInt8) : MemoryBlock :=
  match b.access with
  | .plain =>
    let i := b.index address
    { b with content := putBytes b.content i bytes }
  | .readOnly => b.reject

/-- Write a byte. -/
def write (b : MemoryBlock) (address : UInt16) (value : UInt8) : Except OutOfRange MemoryBlock :=
  if b.contains address then .ok (b.store address [value]) else .error (b.outOfRange address)

/-- What is said of a write that is refused. -/
def writeWarning (address : UInt16) (value : UInt8) : String :=
  "Attempt to write " ++ Hex.byte value ++ " to ROM at address " ++ Hex.word address ++
    ", nothing written"

/-- The report of writing a byte. -/
def writeRecords (b : MemoryBlock) (address : UInt16) (value : UInt8) : List Log.Record :=
  if b.contains address ∧ b.access = .readOnly then [⟨.memory, .warn, writeWarning address value⟩]
  else []

/-- Why `count` bytes cannot be loaded at an address, if they cannot. -/
def loadFault? (b : MemoryBlock) (address : UInt16) (count : Nat) : Option OutOfRange :=
  -- loading nothing succeeds even at an address outside
  if count = 0 then none
  else if !b.contains address then some (b.outOfRange address)
  else if b.index address + count ≤ b.size then none
  else
    -- the last byte is the one to blame; it may lie beyond the last address there is
    let last := address.toNat + count - 1
    some (b.outOfRange (UInt16.ofNat (min last 0xFFFF)))

/-- Store bytes at consecutive addresses; nothing is stored if any of them lies outside.  Loading
nothing always succeeds and changes nothing. -/
def load (b : MemoryBlock) (address : UInt16) (bytes : List UInt8) : Except OutOfRange MemoryBlock :=
  match b.loadFault? address bytes.length with
  | some fault => .error fault
  | none => .ok (if bytes.isEmpty then b else b.store address bytes)

/-- What is said of a load that is refused. -/
def loadWarning (address : UInt16) (count : Nat) : String :=
  "Attempt to load " ++ toString count ++ " bytes into ROM at address " ++ Hex.word address ++
    ", nothing written"

/-- The report of a load. -/
def loadRecords (b : MemoryBlock) (address : UInt16) (bytes : List UInt8) : List Log.Record :=
  if b.access = .readOnly ∧ bytes ≠ [] ∧ b.loadFault? address bytes.length = none then
    [⟨.memory, .warn, loadWarning address bytes.length⟩]
  else []

/-- Set every byte to zero. -/
def clear (b : MemoryBlock) : MemoryBlock :=
  match b.access with
  | .plain => { b with content := Array.replicate b.size 0 }
  | .readOnly => b.reject

/-- What is said of a clear that is refused. -/
def clearWarning : String :=
  "Attempt to clear ROM, nothing cleared"

/-- The report of a clear. -/
def clearRecords (b : MemoryBlock) : List Log.Record :=
  match b.access with
  | .plain => []
  | .readOnly => [⟨.memory, .warn, clearWarning⟩]

/-- What is said of an image that does not fit. -/
def truncationWarning (size length : Nat) : String :=
  "ROM image of " ++ toString length ++ " bytes truncated to " ++ toString size ++ " bytes"

/-- The report of making a read-only block from an image. -/
def readOnlyRecords (size : Nat) (image : List UInt8) : List Log.Record :=
  if size < image.length then [⟨.memory, .warn, truncationWarning size image.length⟩] else []

end MemoryBlock

end Trainer6800
