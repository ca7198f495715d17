import Trainer6800.Log.Book
import Trainer6800.Memory.Flat

/-!
# Address spaces in place

What a processor needs of the memory in its hands: to read and to write, either of which may lead to a
line in the log.
-/

namespace Trainer6800

/-- A type whose values can be read and written in place at every sixteen-bit address. -/
class AddressSpaceM (M : Type) where
  /-- The byte seen at an address. -/
  readM : UInt16 → Acting M UInt8
  /-- Write a byte at an address. -/
  writeM : UInt16 → UInt8 → Acting M Unit

namespace AddressSpaceM

variable {M : Type} [AddressSpaceM M]

/-- The big-endian word at an address and the next one. -/
def readWordM (address : UInt16) : Acting M UInt16 := do
  let high ← readM address
  let low ← readM (address + 1)
  return joinBytes high low

/-- Write a big-endian word at an address and the next one, high byte first. -/
def writeWordM (address value : UInt16) : Acting M Unit := do
  writeM address (highByte value)
  writeM (address + 1) (lowByte value)

end AddressSpaceM

namespace FlatMemory

/-- The byte at an address. -/
def readM (address : UInt16) : Acting FlatMemory UInt8 :=
  return (← get).read address

/-- Store a byte at an address. -/
def writeM (address : UInt16) (value : UInt8) : Acting FlatMemory Unit :=
  modify fun m => m.write address value

instance : AddressSpaceM FlatMemory := ⟨readM, writeM⟩

end FlatMemory

end Trainer6800
