/-!
# Bytes and words

The machine computes on bytes (`UInt8`) and words (`UInt16`).  A word in memory is big-endian: its
high byte stands at the lower address.  This module holds the three conversions between the two
widths and the sign extension that relative branches use; the lemmas say that splitting a word and
joining its halves are inverse, and that a byte is its bits.
-/

namespace Trainer6800

/-- The word with the given high and low bytes. -/
def joinBytes (high low : UInt8) : UInt16 :=
  high.toUInt16 <<< 8 ||| low.toUInt16

/-- The most significant byte of a word. -/
def highByte (w : UInt16) : UInt8 :=
  (w >>> 8).toUInt8

/-- The least significant byte of a word. -/
def lowByte (w : UInt16) : UInt8 :=
  w.toUInt8

/-- A byte read as a two's-complement number, as a word. -/
def signExtend (b : UInt8) : UInt16 :=
  b.toInt8.toInt16.toUInt16

/-- Bit 7 of a byte, its sign in two's complement. -/
def signBit (b : UInt8) : Bool :=
  128 ≤ b.toNat

theorem toNat_joinBytes (high low : UInt8) :
    (joinBytes high low).toNat = 256 * high.toNat + low.toNat := by
  have hh := high.toNat_lt
  have hl := low.toNat_lt
  have hs : high.toNat <<< 8 % 2 ^ 16 = 2 ^ 8 * high.toNat := by
    rw [Nat.shiftLeft_eq]; omega
  simp only [joinBytes, UInt16.toNat_or, UInt16.toNat_shiftLeft, UInt8.toNat_toUInt16,
    show (8 : UInt16).toNat % 16 = 8 from rfl, hs]
  rw [← Nat.two_pow_add_eq_or_of_lt (by simpa using hl)]

theorem toNat_highByte (w : UInt16) : (highByte w).toNat = w.toNat / 256 := by
  have := w.toNat_lt
  simp only [highByte, UInt16.toNat_toUInt8, UInt16.toNat_shiftRight,
    show (8 : UInt16).toNat % 16 = 8 from rfl, Nat.shiftRight_eq_div_pow]
  omega

theorem toNat_lowByte (w : UInt16) : (lowByte w).toNat = w.toNat % 256 := by
  simp [lowByte]

@[simp] theorem highByte_joinBytes (high low : UInt8) : highByte (joinBytes high low) = high := by
  have := low.toNat_lt
  apply UInt8.toNat_inj.mp
  rw [toNat_highByte, toNat_joinBytes]
  omega

@[simp] theorem lowByte_joinBytes (high low : UInt8) : lowByte (joinBytes high low) = low := by
  have := low.toNat_lt
  apply UInt8.toNat_inj.mp
  rw [toNat_lowByte, toNat_joinBytes]
  omega

@[simp] theorem joinBytes_highByte_lowByte (w : UInt16) : joinBytes (highByte w) (lowByte w) = w := by
  apply UInt16.toNat_inj.mp
  rw [toNat_joinBytes, toNat_highByte, toNat_lowByte]
  omega

/-- A byte is its eight bits. -/
theorem eq_of_testBit_eq {a b : UInt8} (same : ∀ i < 8, a.toNat.testBit i = b.toNat.testBit i) :
    a = b := by
  apply UInt8.toNat_inj.mp
  apply Nat.eq_of_testBit_eq
  intro i
  by_cases low : i < 8
  · exact same i low
  · have beyond (c : UInt8) : c.toNat.testBit i = false :=
      Nat.testBit_lt_two_pow (Nat.lt_of_lt_of_le c.toNat_lt
        (Nat.pow_le_pow_right (by decide) (Nat.not_lt.mp low)))
    rw [beyond a, beyond b]

theorem testBit_not (a : UInt8) {i : Nat} (low : i < 8) :
    (~~~a).toNat.testBit i = !a.toNat.testBit i := by
  rw [← UInt8.toNat_toBitVec, UInt8.toBitVec_not, BitVec.testBit_toNat, BitVec.getLsbD_not,
    decide_eq_true low, Bool.true_and, ← BitVec.testBit_toNat, UInt8.toNat_toBitVec]

end Trainer6800
