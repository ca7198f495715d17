import Trainer6800.Memory.AddressSpace

/-!
# Flat memory

64 KiB of plain storage: every address reads what was last written there.  It is the address space
of a processor without any devices, and the yardstick for the trainer's bus.
-/

namespace Trainer6800

/-- One byte for each of the 65536 addresses. -/
structure FlatMemory where
  cells : Vector UInt8 65536

namespace FlatMemory

/-- Memory that holds `value` everywhere. -/
def filled (value : UInt8) : FlatMemory :=
  ⟨Vector.replicate 65536 value⟩

/-- The byte at an address. -/
def read (m : FlatMemory) (address : UInt16) : UInt8 :=
  have bound : address.toNat < 65536 := address.toNat_lt
  m.cells[address.toNat]

/-- Store a byte at an address. -/
def write (m : FlatMemory) (address : UInt16) (value : UInt8) : FlatMemory :=
  ⟨m.cells.set address.toNat value address.toNat_lt⟩

instance : AddressSpace FlatMemory := ⟨read, write⟩

/-- Store bytes at consecutive addresses; the address wraps at the top. -/
def writeAll (m : FlatMemory) (address : UInt16) : List UInt8 → FlatMemory
  | [] => m
  | b :: bs => writeAll (m.write address b) (address + 1) bs

/-- Address of the word from which a reset loads the program counter. -/
def resetVector : UInt16 := 0xFFFE

/-- Store a program and point the reset vector at its first byte. -/
def loadProgram (m : FlatMemory) (start : UInt16) (program : List UInt8) : FlatMemory :=
  AddressSpace.writeWord (m.writeAll start program) resetVector start

@[simp] theorem read_write_self (m : FlatMemory) (a : UInt16) (v : UInt8) :
    (m.write a v).read a = v := by
  simp [read, write]

theorem read_write_of_ne (m : FlatMemory) {a b : UInt16} (v : UInt8) (h : a ≠ b) :
    (m.write a v).read b = m.read b := by
  have hne : a.toNat ≠ b.toNat := fun e => h (UInt16.toNat_inj.mp e)
  simp [read, write, Vector.getElem_set_ne, hne]

end FlatMemory

end Trainer6800
