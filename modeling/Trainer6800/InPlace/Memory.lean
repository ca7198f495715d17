import Trainer6800.Log.Book
import Trainer6800.Memory.Block

/-!
# Memory blocks in place

The operations on a block, each with the log at hand: what is done to the block, what is logged, and
what is returned, in this order of events.
-/

namespace Trainer6800.MemoryBlock

open Acting (log)

/-- Make a read-only block from an image, wherever this is done. -/
def readOnlyM {σ : Type} (size : Nat) (image : List UInt8) : Acting σ MemoryBlock := do
  if size < image.length then
    log .memory .warn (pure (truncationWarning size image.length))
  return readOnly size image

/-- Write a byte.  On a read-only block this is only logged and counted. -/
def writeM (address : UInt16) (value : UInt8) : Acting MemoryBlock (Except OutOfRange Unit) := do
  let b ← get
  if b.contains address then
    match b.access with
    | .plain =>
      set { b with content := b.content.setIfInBounds (b.index address) value }
    | .readOnly =>
      set b.reject
      log .memory .warn (pure (writeWarning address value))
    return .ok ()
  else
    return .error (b.outOfRange address)

/-- Store bytes at consecutive addresses, all of them or none. -/
def loadM (address : UInt16) (bytes : List UInt8) : Acting MemoryBlock (Except OutOfRange Unit) := do
  if bytes.isEmpty then
    return .ok ()
  let b ← get
  if b.contains address then
    let stop := b.index address + bytes.length
    if b.size < stop then
      -- the last byte is the one to blame; it may lie beyond the last address there is
      return .error (b.outOfRange (UInt16.ofNat (min (b.base.toNat + stop - 1) 0xFFFF)))
    match b.access with
    | .plain =>
      set { b with content := putBytes b.content (b.index address) bytes }
    | .readOnly =>
      set b.reject
      log .memory .warn (pure (loadWarning address bytes.length))
    return .ok ()
  else
    return .error (b.outOfRange address)

/-- Set every byte to zero. -/
def clearM : Acting MemoryBlock Unit := do
  let b ← get
  match b.access with
  | .plain => set { b with content := Array.replicate b.size 0 }
  | .readOnly =>
    set b.reject
    log .memory .warn (pure clearWarning)

end Trainer6800.MemoryBlock
