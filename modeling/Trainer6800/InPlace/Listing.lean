import Trainer6800.InPlace.AddressSpace
import Trainer6800.Instruction.Listing

/-!
# Listings in place

Listing an instruction reads its bytes, and so may lead to lines in the log.
-/

namespace Trainer6800.ListingLine

variable {M : Type} [AddressSpaceM M]

open AddressSpaceM

/-- The operand of an instruction at `address`, as it is written after the mnemonic. -/
def operandTextM (address : UInt16) : AddressingMode → Acting M String
  | .inherent => return ""
  | .immediate => return " #$" ++ Hex.byte (← readM (address + 1))
  | .immediateWord => return " #$" ++ Hex.word (← readWordM (address + 1))
  | .direct => return " $" ++ Hex.byte (← readM (address + 1))
  | .indexed => return " $" ++ Hex.byte (← readM (address + 1)) ++ ",X"
  | .extended => return " $" ++ Hex.word (← readWordM (address + 1))
  | .relative => return " $" ++ Hex.word (address + 2 + signExtend (← readM (address + 1)))

/-- The line for the instruction at an address. -/
def ofAddressM (address : UInt16) : Acting M ListingLine := do
  let opcode ← readM address
  match decode opcode with
  | none => return { address, text := "FCB $" ++ Hex.byte opcode, length := 1 }
  | some i =>
    return { address, text := i.mnemonic ++ (← operandTextM address i.mode), length := i.length }

end Trainer6800.ListingLine
