import Trainer6800.Instruction.Mnemonic
import Trainer6800.Instruction.OpcodeMap
import Trainer6800.Memory.AddressSpace
import Trainer6800.Text.Hex

/-!
# Listings

The assembler text of the instruction at an address, and of a run of instructions.  An undefined
opcode is listed as a data byte, `FCB`.  A relative branch shows the address it goes to.
-/

namespace Trainer6800

/-- One line of a listing. -/
structure ListingLine where
  address : UInt16
  text : String
  length : Nat
  deriving DecidableEq, Repr

namespace ListingLine

variable {M : Type} [AddressSpace M]

open AddressSpace

/-- The operand of an instruction at `address`, as it is written after the mnemonic. -/
def operandText (m : M) (address : UInt16) : AddressingMode → String
  | .inherent => ""
  | .immediate => " #$" ++ Hex.byte (read m (address + 1))
  | .immediateWord => " #$" ++ Hex.word (readWord m (address + 1))
  | .direct => " $" ++ Hex.byte (read m (address + 1))
  | .indexed => " $" ++ Hex.byte (read m (address + 1)) ++ ",X"
  | .extended => " $" ++ Hex.word (readWord m (address + 1))
  | .relative => " $" ++ Hex.word (address + 2 + signExtend (read m (address + 1)))

/-- The line for the instruction at an address. -/
def ofAddress (m : M) (address : UInt16) : ListingLine :=
  -- an undefined opcode takes one byte, so a listing goes on behind it
  let opcode := read m address
  match decode opcode with
  | none => { address, text := "FCB $" ++ Hex.byte opcode, length := 1 }
  | some i => { address, text := i.mnemonic ++ operandText m address i.mode, length := i.length }

/-- The address after a line. -/
def next (l : ListingLine) : UInt16 :=
  l.address + UInt16.ofNat l.length

end ListingLine

/-- The listing of `n` instructions from an address, each starting where the one before ends. -/
def listing {M : Type} [AddressSpace M] (m : M) : Nat → UInt16 → List ListingLine
  | 0, _ => []
  | n + 1, address =>
    let l := ListingLine.ofAddress m address
    l :: listing m n l.next

end Trainer6800
