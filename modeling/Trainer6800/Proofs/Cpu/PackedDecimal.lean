import Mathlib.Data.Nat.Digits.Lemmas
import Mathlib.Tactic.LinearCombination
import Trainer6800.Cpu.Arithmetic

/-!
# Packed decimals

A byte can hold two decimal digits, one in each half.  The processor adds such bytes as if they were
binary, and an adjustment afterwards makes decimal digits of the sum.  The adjustment has nothing to go
by but the binary sum and the two carries of the addition, and sets the carry for the next byte.

This module has the arithmetic of it.  A list of packed bytes, the least significant one first, is read
as a number in base 100 (`ofPacked`).  `DecimalSum` says of three lists and a last carry that the third
one is the exact sum, in decimal digits.  One byte that is added and adjusted is such a sum
(`DecimalSum.byte`), and a byte before a sum makes a sum again (`DecimalSum.cons`).
-/

namespace Trainer6800

/-! ## Numbers -/

/-- Both halves of a byte are decimal digits. -/
def IsPacked (b : UInt8) : Prop :=
  b.toNat / 16 ≤ 9 ∧ b.toNat % 16 ≤ 9

instance (b : UInt8) : Decidable (IsPacked b) :=
  inferInstanceAs (Decidable (_ ∧ _))

/-- The number that the two digits of a byte stand for. -/
def packedValue (b : UInt8) : Nat :=
  10 * (b.toNat / 16) + b.toNat % 16

/-- The number that packed bytes stand for, the least significant one first. -/
def ofPacked (bytes : List UInt8) : Nat :=
  Nat.ofDigits 100 (bytes.map packedValue)

theorem ofPacked_nil : ofPacked [] = 0 :=
  rfl

theorem ofPacked_cons (b : UInt8) (bytes : List UInt8) :
    ofPacked (b :: bytes) = packedValue b + 100 * ofPacked bytes := by
  rw [ofPacked, List.map_cons, Nat.ofDigits_cons]
  rfl

theorem ofPacked_singleton (b : UInt8) : ofPacked [b] = packedValue b := by
  rw [ofPacked_cons, ofPacked_nil, Nat.mul_zero, Nat.add_zero]

theorem ofPacked_lt {bytes : List UInt8} (packed : ∀ b ∈ bytes, IsPacked b) :
    ofPacked bytes < 100 ^ bytes.length := by
  have digits : ∀ d ∈ bytes.map packedValue, d < 100 := by
    refine List.forall_mem_map.mpr fun b member => ?_
    obtain ⟨high, low⟩ := packed b member
    unfold packedValue
    omega
  have bound := Nat.ofDigits_lt_base_pow_length (by decide) digits
  rwa [List.length_map] at bound

/-! ## One byte -/

namespace Arithmetic

/-- The adjustment adds six to each half that has to be adjusted, and the high one becomes the carry. -/
theorem decimalAdjust_eq {a : UInt8} {f : ConditionCodes} {low high : Bool}
    (fixLow : (f.halfCarry || 9 < a.toNat % 16) = low)
    (fixHigh : (f.carry || 9 < a.toNat / 16 || (8 < a.toNat / 16 && 9 < a.toNat % 16)) = high) :
    (decimalAdjust a f).1.toNat = (a.toNat + 6 * low.toNat + 96 * high.toNat) % 256 ∧
      (decimalAdjust a f).2.carry = high := by
  have six : (if low then (0x06 : UInt8) else 0).toNat = 6 * low.toNat := by cases low <;> rfl
  have sixty : (if high then (0x60 : UInt8) else 0).toNat = 96 * high.toNat := by cases high <;> rfl
  have kept : (f.carry || high) = high := by
    rw [← fixHigh, Bool.or_assoc, ← Bool.or_assoc, Bool.or_self]
  simp only [decimalAdjust, fixLow, fixHigh]
  refine ⟨?_, kept⟩
  rw [UInt8.toNat_add, UInt8.toNat_add, six, sixty]
  omega

/-- Packed bytes that are added and adjusted give the packed sum.  The adjustment finds out from the
binary sum which halves have run over in decimal. -/
theorem decimalAdjust_add {a m : UInt8} (packedA : IsPacked a) (packedM : IsPacked m) (carry : Bool)
    (f : ConditionCodes) :
    let sum := add a m carry f
    let adjusted := decimalAdjust sum.1 sum.2
    IsPacked adjusted.1 ∧ packedValue adjusted.1 + 100 * adjusted.2.carry.toNat =
      packedValue a + packedValue m + carry.toNat := by
  intro sum adjusted
  obtain ⟨highA, lowA⟩ := packedA
  obtain ⟨highM, lowM⟩ := packedM
  have carryIn := carry.toNat_lt
  have binary : sum.1.toNat = (a.toNat + m.toNat + carry.toNat) % 256 := UInt8.toNat_ofNat'
  have half : sum.2.halfCarry = decide (16 ≤ a.toNat % 16 + m.toNat % 16 + carry.toNat) := rfl
  have whole : sum.2.carry = decide (256 ≤ a.toNat + m.toNat + carry.toNat) := rfl
  have low : (sum.2.halfCarry || decide (9 < sum.1.toNat % 16)) =
      decide (10 ≤ a.toNat % 16 + m.toNat % 16 + carry.toNat) := by
    rw [half, binary, ← Bool.decide_or, decide_eq_decide]
    omega
  -- the third condition is for a high digit that only runs over with the carry of the low one
  have high : (sum.2.carry || decide (9 < sum.1.toNat / 16) ||
        (decide (8 < sum.1.toNat / 16) && decide (9 < sum.1.toNat % 16))) =
      decide (100 ≤ packedValue a + packedValue m + carry.toNat) := by
    rw [whole, binary, ← Bool.decide_or, ← Bool.decide_and, ← Bool.decide_or, decide_eq_decide]
    unfold packedValue
    omega
  obtain ⟨result, carryOut⟩ := decimalAdjust_eq low high
  change adjusted.1.toNat = _ at result
  change adjusted.2.carry = _ at carryOut
  rw [binary] at result
  rw [carryOut]
  unfold IsPacked packedValue at *
  by_cases lowRuns : 10 ≤ a.toNat % 16 + m.toNat % 16 + carry.toNat <;>
  by_cases highRuns : 100 ≤ 10 * (a.toNat / 16) + a.toNat % 16 +
    (10 * (m.toNat / 16) + m.toNat % 16) + carry.toNat <;>
  simp only [lowRuns, highRuns, decide_true, decide_false, Bool.toNat_true, Bool.toNat_false]
    at result ⊢ <;>
  omega

end Arithmetic

/-! ## Numbers of many bytes -/

/-- The bytes `r` and the carry `out` are what comes out when the packed bytes `p` and `q` and a carry
are added in decimal. -/
structure DecimalSum (carry : Bool) (p q r : List UInt8) (out : Bool) : Prop where
  packed : ∀ b ∈ r, IsPacked b
  /-- The last carry weighs one more byte than the numbers have. -/
  sum : ofPacked r + out.toNat * 100 ^ r.length = ofPacked p + ofPacked q + carry.toNat

namespace DecimalSum

variable {carry carry' out : Bool} {p q r : List UInt8} {a m b : UInt8}

/-- A byte that is added and adjusted. -/
theorem byte (packedA : IsPacked a) (packedM : IsPacked m) (carry : Bool) (f : ConditionCodes) :
    let sum := Arithmetic.add a m carry f
    let adjusted := Arithmetic.decimalAdjust sum.1 sum.2
    DecimalSum carry [a] [m] [adjusted.1] adjusted.2.carry := by
  intro sum adjusted
  obtain ⟨packed, value⟩ := Arithmetic.decimalAdjust_add packedA packedM carry f
  refine ⟨List.forall_mem_singleton.mpr packed, ?_⟩
  rw [ofPacked_singleton, ofPacked_singleton, ofPacked_singleton, List.length_singleton, pow_one,
    Nat.mul_comm]
  exact value

/-- The carry of a byte goes into the sum behind it. -/
theorem cons (first : DecimalSum carry [a] [m] [b] carry') (rest : DecimalSum carry' p q r out) :
    DecimalSum carry (a :: p) (m :: q) (b :: r) out := by
  refine ⟨List.forall_mem_cons.mpr ⟨List.forall_mem_singleton.mp first.packed, rest.packed⟩, ?_⟩
  have value := first.sum
  rw [ofPacked_singleton, ofPacked_singleton, ofPacked_singleton, List.length_singleton,
    pow_one] at value
  rw [ofPacked_cons, ofPacked_cons, ofPacked_cons, List.length_cons, pow_succ]
  linear_combination value + 100 * rest.sum

end DecimalSum

end Trainer6800
