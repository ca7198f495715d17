import Trainer6800.Word

/-!
# Address spaces

A processor sees its surroundings as 65536 byte addresses that it can read and write; there is no
separate input and output.  `AddressSpace` is that view.  What lies behind an address (storage, a
keypad, a display latch, nothing at all) is the instance's own affair.
-/

namespace Trainer6800

/-- A type whose values answer reads and accept writes at every sixteen-bit address. -/
class AddressSpace (M : Type) where
  /-- The byte seen at an address. -/
  read : M → UInt16 → UInt8
  /-- The space after a byte has been written at an address. -/
  write : M → UInt16 → UInt8 → M

namespace AddressSpace

variable {M : Type} [AddressSpace M]

/-- The big-endian word at an address and the next one. -/
def readWord (m : M) (address : UInt16) : UInt16 :=
  joinBytes (read m address) (read m (address + 1))

/-- Write a big-endian word at an address and the next one, high byte first. -/
def writeWord (m : M) (address value : UInt16) : M :=
  write (write m address (highByte value)) (address + 1) (lowByte value)

end AddressSpace

end Trainer6800
