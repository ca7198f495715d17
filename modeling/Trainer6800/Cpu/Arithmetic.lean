import Trainer6800.Cpu.ConditionCodes
import Trainer6800.Instruction.Basic

/-!
# Arithmetic on bytes

What the operations compute, apart from where their operands come from and where results go.  Each
function takes the condition codes before the operation and gives the result byte together with the
codes after it; a flag that is not mentioned keeps its value.
-/

namespace Trainer6800

namespace Arithmetic

/-- Add two bytes and a carry.  Half-carry and carry tell whether the low digit and the whole sum
run over; overflow tells whether the two's-complement sum does not fit a byte. -/
def add (a m : UInt8) (carry : Bool) (f : ConditionCodes) : UInt8 × ConditionCodes :=
  -- the exact sum; the byte is its remainder, carry its excess
  let sum := a.toNat + m.toNat + carry.toNat
  let r := UInt8.ofNat sum
  (r, { f.setNZ r with
    halfCarry := 16 ≤ a.toNat % 16 + m.toNat % 16 + carry.toNat
    overflow := signBit a != signBit r && signBit m != signBit r
    carry := 256 ≤ sum })

/-- Subtract a byte and a borrow from a byte.  Carry tells whether the unsigned difference is
negative; overflow tells whether the two's-complement difference does not fit a byte. -/
def subtract (a m : UInt8) (borrow : Bool) (f : ConditionCodes) : UInt8 × ConditionCodes :=
  let r := a - m - UInt8.ofNat borrow.toNat
  (r, { f.setNZ r with
    overflow := signBit a != signBit m && signBit a != signBit r
    carry := a.toNat < m.toNat + borrow.toNat })

/-- Adjust a sum of two packed decimal bytes, using the half-carry and carry of the addition.
Carry is only ever set. -/
def decimalAdjust (a : UInt8) (f : ConditionCodes) : UInt8 × ConditionCodes :=
  let low := a.toNat % 16
  let high := a.toNat / 16
  let fixLow := f.halfCarry || 9 < low
  -- a high digit of nine runs over when the correction of the low digit carries into it
  let fixHigh := f.carry || 9 < high || (8 < high && 9 < low)
  let r := a + (if fixLow then 0x06 else 0) + (if fixHigh then 0x60 else 0)
  (r, { f.setLogic r with carry := f.carry || fixHigh })

/-- The weight of bit 7 if `bit`, else zero. -/
def topBit (bit : Bool) : UInt8 :=
  if bit then 0x80 else 0

end Arithmetic

open Arithmetic

/-- The byte that an operation leaves in its target, and the condition codes. -/
def Modification.apply (op : Modification) (m : UInt8) (f : ConditionCodes) :
    UInt8 × ConditionCodes :=
  let odd := m % 2 == 1
  let shifted (r : UInt8) (carry : Bool) : UInt8 × ConditionCodes := (r, f.setShift r carry)
  match op with
  | neg => subtract 0 m false f
  | com => (~~~m, { f.setLogic (~~~m) with carry := true })
  | lsr => shifted (m / 2) odd
  | ror => shifted (m / 2 + topBit f.carry) odd
  | asr => shifted (m / 2 + topBit (signBit m)) odd
  | asl => shifted (m + m) (signBit m)
  | rol => shifted (m + m + UInt8.ofNat f.carry.toNat) (signBit m)
  | dec => (m - 1, { f.setNZ (m - 1) with overflow := m == 0x80 })
  | inc => (m + 1, { f.setNZ (m + 1) with overflow := m == 0x7F })
  | tst => (m, { f.setLogic m with carry := false })
  | clr => (0, { f.setLogic 0 with carry := false })

/-- Whether the result goes back into the target; a test only looks. -/
def Modification.writes : Modification → Bool
  | tst => false
  | _ => true

/-- The byte that an operation leaves in the accumulator, and the condition codes; comparisons and
bit tests leave it as it is. -/
def Combination.apply (op : Combination) (acc m : UInt8) (f : ConditionCodes) :
    UInt8 × ConditionCodes :=
  let logic (r : UInt8) : UInt8 × ConditionCodes := (r, f.setLogic r)
  match op with
  | sub => subtract acc m false f
  | cmp => (acc, (subtract acc m false f).2)
  | sbc => subtract acc m f.carry f
  | and => logic (acc &&& m)
  | bit => (acc, f.setLogic (acc &&& m))
  | lda => logic m
  | eor => logic (acc ^^^ m)
  | adc => Arithmetic.add acc m f.carry f
  | ora => logic (acc ||| m)
  | add => Arithmetic.add acc m false f

/-- Whether a branch is taken. -/
def Condition.holds (f : ConditionCodes) : Condition → Bool
  | always => true
  | higher => !(f.carry || f.zero)
  | lowerOrSame => f.carry || f.zero
  | carryClear => !f.carry
  | carrySet => f.carry
  | notEqual => !f.zero
  | equal => f.zero
  | overflowClear => !f.overflow
  | overflowSet => f.overflow
  | plus => !f.negative
  | minus => f.negative
  | greaterOrEqual => f.negative == f.overflow
  | less => f.negative != f.overflow
  | greater => !f.zero && f.negative == f.overflow
  | lessOrEqual => f.zero || f.negative != f.overflow

/-- Compare two words.  Negative and overflow come from the difference of the high bytes alone,
zero from the whole word, and carry stays. -/
def ConditionCodes.compareWord (f : ConditionCodes) (x m : UInt16) : ConditionCodes :=
  let high := (subtract (highByte x) (highByte m) false f).2
  { f with negative := high.negative, overflow := high.overflow, zero := x == m }

end Trainer6800
