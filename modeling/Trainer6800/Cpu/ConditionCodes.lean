import Trainer6800.Word

/-!
# Condition codes

The condition code register holds six flags, `11HINZVC` from bit 7 down to bit 0.  Bits 7 and 6
have no meaning and read as one; the two fields for them exist because the register can be set to
any byte from outside.  `ConditionCodes.toByte` and `ConditionCodes.ofByte` are inverse, so the
register is a byte wherever one is wanted (on the stack, in accumulator A, in a saved state).
-/

namespace Trainer6800

/-- The eight bits of the condition code register. -/
structure ConditionCodes where
  bit7 : Bool := true
  bit6 : Bool := true
  halfCarry : Bool := false
  interruptMask : Bool := false
  negative : Bool := false
  zero : Bool := false
  overflow : Bool := false
  carry : Bool := false
  deriving DecidableEq, Repr

namespace ConditionCodes

/-- The register as a byte. -/
def toByte (f : ConditionCodes) : UInt8 :=
  let weigh (bit : Bool) (weight : UInt8) : UInt8 := if bit then weight else 0
  weigh f.bit7 0x80 ||| weigh f.bit6 0x40 ||| weigh f.halfCarry 0x20 |||
    weigh f.interruptMask 0x10 ||| weigh f.negative 0x08 ||| weigh f.zero 0x04 |||
    weigh f.overflow 0x02 ||| weigh f.carry 0x01

/-- The register that holds a byte. -/
def ofByte (b : UInt8) : ConditionCodes where
  bit7 := b &&& 0x80 != 0
  bit6 := b &&& 0x40 != 0
  halfCarry := b &&& 0x20 != 0
  interruptMask := b &&& 0x10 != 0
  negative := b &&& 0x08 != 0
  zero := b &&& 0x04 != 0
  overflow := b &&& 0x02 != 0
  carry := b &&& 0x01 != 0

/-- The register with the two bits that always read as one set. -/
def fixed (f : ConditionCodes) : ConditionCodes :=
  { f with bit7 := true, bit6 := true }

/-- Negative and zero from a result byte. -/
def setNZ (f : ConditionCodes) (result : UInt8) : ConditionCodes :=
  { f with negative := signBit result, zero := result == 0 }

/-- The flags after a load, store, transfer or logic operation: negative and zero from the result,
no overflow. -/
def setLogic (f : ConditionCodes) (result : UInt8) : ConditionCodes :=
  { f.setNZ result with overflow := false }

/-- The flags after a load or store of a word. -/
def setLogicWord (f : ConditionCodes) (result : UInt16) : ConditionCodes :=
  { f with negative := signBit (highByte result), zero := result == 0, overflow := false }

/-- The flags after a shift or rotation: overflow tells whether sign and carry differ. -/
def setShift (f : ConditionCodes) (result : UInt8) (carry : Bool) : ConditionCodes :=
  { f.setNZ result with carry, overflow := signBit result != carry }

@[simp] theorem ofByte_toByte (f : ConditionCodes) : ofByte f.toByte = f := by
  obtain ⟨b7, b6, h, i, n, z, v, c⟩ := f
  revert b7 b6 h i n z v c
  decide

@[simp] theorem toByte_ofByte (b : UInt8) : (ofByte b).toByte = b := by
  have all : ∀ n : Fin 256, (ofByte (UInt8.ofFin n)).toByte = UInt8.ofFin n := by decide +kernel
  simpa using all b.toFin

end ConditionCodes

end Trainer6800
