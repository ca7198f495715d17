import Mathlib.Data.Nat.Digits.Lemmas
import Mathlib.Tactic.LinearCombination
import Trainer6800.Cpu.Arithmetic

/-!
# Chains of carries

A number of many bytes is added to another one byte by byte, least significant byte first, and the carry
of each addition goes into the next.  This module has the arithmetic of it, without any processor.  A
list of bytes is read as a natural number (`ofBytes`) or as one in two's complement (`signedOfBytes`),
and `ChainSum` says of three lists and the flags at the end that nothing was lost: the third list with
the last carry is the exact sum, overflow tells whether the sum fits, and negative is its sign.
Subtraction is the same with a sign in front of the second list and the carries.

One byte is a chain (`ChainSum.byte`), and a byte before a chain is a chain again (`ChainSum.cons`).
-/

namespace Trainer6800

/-! ## Numbers of many bytes -/

/-- The number that bytes stand for, the least significant one first. -/
def ofBytes (bytes : List UInt8) : Nat :=
  Nat.ofDigits 256 (bytes.map UInt8.toNat)

/-- The number that bytes stand for in two's complement. -/
def signedOfBytes (bytes : List UInt8) : Int :=
  if 2 * ofBytes bytes < 256 ^ bytes.length then ofBytes bytes
  else ofBytes bytes - 256 ^ bytes.length

/-- A number has a two's complement of `n` bytes. -/
def FitsBytes (n : Nat) (z : Int) : Prop :=
  -256 ^ n ≤ 2 * z ∧ 2 * z < 256 ^ n

theorem ofBytes_nil : ofBytes [] = 0 :=
  rfl

theorem ofBytes_cons (b : UInt8) (bytes : List UInt8) :
    ofBytes (b :: bytes) = b.toNat + 256 * ofBytes bytes := by
  rw [ofBytes, List.map_cons, Nat.ofDigits_cons]
  rfl

theorem ofBytes_singleton (b : UInt8) : ofBytes [b] = b.toNat := by
  rw [ofBytes_cons, ofBytes_nil, Nat.mul_zero, Nat.add_zero]

theorem ofBytes_append (low high : List UInt8) :
    ofBytes (low ++ high) = ofBytes low + 256 ^ low.length * ofBytes high := by
  rw [ofBytes, List.map_append, Nat.ofDigits_append, List.length_map]
  rfl

theorem lt_of_mem_toNat (bytes : List UInt8) : ∀ d ∈ bytes.map UInt8.toNat, d < 256 :=
  List.forall_mem_map.mpr fun b _ => b.toNat_lt

theorem ofBytes_lt (bytes : List UInt8) : ofBytes bytes < 256 ^ bytes.length := by
  have bound := Nat.ofDigits_lt_base_pow_length (by decide) (lt_of_mem_toNat bytes)
  rwa [List.length_map] at bound

/-- Lists of one length that stand for the same number are the same. -/
theorem eq_of_ofBytes_eq {bytes bytes' : List UInt8} (lengths : bytes.length = bytes'.length)
    (same : ofBytes bytes = ofBytes bytes') : bytes = bytes' := by
  have digits := Nat.ofDigits_inj_of_len_eq (by decide) (by simpa using lengths)
    (lt_of_mem_toNat bytes) (lt_of_mem_toNat bytes') same
  exact List.map_injective_iff.mpr (fun _ _ => UInt8.toNat_inj.mp) digits

theorem signedOfBytes_singleton (b : UInt8) :
    signedOfBytes [b] = if 128 ≤ b.toNat then (b.toNat : Int) - 256 else b.toNat := by
  simp only [signedOfBytes, ofBytes_singleton, List.length_singleton]
  split <;> split <;> omega

theorem signBit_eq_true_iff (b : UInt8) : signBit b = true ↔ signedOfBytes [b] < 0 := by
  have bound := b.toNat_lt
  rw [signedOfBytes_singleton, signBit, decide_eq_true_iff]
  split <;> omega

theorem even_pow_length {n : Nat} (more : n ≠ 0) : ∃ half : Int, 256 ^ n = 2 * half := by
  obtain ⟨k, rfl⟩ := Nat.exists_eq_succ_of_ne_zero more
  exact ⟨128 * 256 ^ k, by rw [pow_succ]; ring⟩

/-- Only the last byte has a sign. -/
theorem signedOfBytes_cons (b : UInt8) {bytes : List UInt8} (more : bytes ≠ []) :
    signedOfBytes (b :: bytes) = b.toNat + 256 * signedOfBytes bytes := by
  have bound := b.toNat_lt
  obtain ⟨half, even⟩ := even_pow_length (mt List.length_eq_zero_iff.mp more)
  have limit : ((256 ^ bytes.length : Nat) : Int) = 2 * half := by rw [← even]; norm_cast
  simp only [signedOfBytes, ofBytes_cons, List.length_cons, pow_succ, even]
  split <;> split <;> omega

/-- Another byte at the low end makes no difference to what fits. -/
theorem fitsBytes_cons (b : UInt8) {n : Nat} (more : n ≠ 0) (z : Int) :
    FitsBytes (n + 1) (b.toNat + 256 * z) ↔ FitsBytes n z := by
  have bound := b.toNat_lt
  obtain ⟨half, even⟩ := even_pow_length more
  simp only [FitsBytes, pow_succ, even]
  omega

/-! ## The two operations -/

/-- The operations that take a carry in. -/
inductive ChainOperation where
  | adc
  | sbc
  deriving DecidableEq, Repr

namespace ChainOperation

/-- The operation of the processor. -/
def combination : ChainOperation → Combination
  | adc => .adc
  | sbc => .sbc

/-- The sign of what is added. -/
def sign : ChainOperation → Int
  | adc => 1
  | sbc => -1

end ChainOperation

/-- The bytes `r` and the flags `f` are what comes out when the bytes `q` and a carry are added to the
bytes `p`, or subtracted from them. -/
structure ChainSum (o : ChainOperation) (carry : Bool) (p q r : List UInt8) (f : ConditionCodes) :
    Prop where
  /-- The last carry weighs one more byte than the numbers have. -/
  sum : (ofBytes r : Int) + o.sign * (f.carry.toNat * 256 ^ r.length) =
    ofBytes p + o.sign * (ofBytes q + carry.toNat)
  overflow : f.overflow = true ↔
    ¬ FitsBytes p.length (signedOfBytes p + o.sign * (signedOfBytes q + carry.toNat))
  negative : f.negative = true ↔ signedOfBytes r < 0

namespace ChainSum

variable {o : ChainOperation} {carry : Bool} {f g : ConditionCodes}

section Byte

variable (a m : UInt8) (carry : Bool) (f : ConditionCodes)

/-- One byte is added exactly. -/
theorem add :
    ChainSum .adc carry [a] [m] [(Arithmetic.add a m carry f).1] (Arithmetic.add a m carry f).2 := by
  have boundA := a.toNat_lt
  have boundM := m.toNat_lt
  have boundC := carry.toNat_lt
  let r := UInt8.ofNat (a.toNat + m.toNat + carry.toNat)
  have result : r.toNat = (a.toNat + m.toNat + carry.toNat) % 256 := UInt8.toNat_ofNat'
  refine ⟨?_, ?_, signBit_eq_true_iff r⟩
  · show (ofBytes [r] : Int) +
      1 * ((decide (256 ≤ a.toNat + m.toNat + carry.toNat)).toNat * 256 ^ 1) =
        ofBytes [a] + 1 * (ofBytes [m] + carry.toNat)
    rw [ofBytes_singleton, ofBytes_singleton, ofBytes_singleton]
    by_cases exceeds : 256 ≤ a.toNat + m.toNat + carry.toNat
    · rw [decide_eq_true exceeds, Bool.toNat_true]
      omega
    · rw [decide_eq_false exceeds, Bool.toNat_false]
      omega
  · show (signBit a != signBit r && signBit m != signBit r) = true ↔
      ¬ FitsBytes 1 (signedOfBytes [a] + 1 * (signedOfBytes [m] + carry.toNat))
    simp only [signedOfBytes_singleton, signBit, FitsBytes, Bool.and_eq_true, bne_iff_ne, ne_eq,
      decide_eq_decide]
    split <;> split <;> omega

/-- One byte is subtracted exactly. -/
theorem subtract :
    ChainSum .sbc carry [a] [m] [(Arithmetic.subtract a m carry f).1]
      (Arithmetic.subtract a m carry f).2 := by
  have boundA := a.toNat_lt
  have boundM := m.toNat_lt
  have boundC := carry.toNat_lt
  let r := a - m - UInt8.ofNat carry.toNat
  have result : r.toNat = (512 + a.toNat - m.toNat - carry.toNat) % 256 := by
    simp only [r, UInt8.toNat_sub, UInt8.toNat_ofNat']
    omega
  refine ⟨?_, ?_, signBit_eq_true_iff r⟩
  · show (ofBytes [r] : Int) + -1 * ((decide (a.toNat < m.toNat + carry.toNat)).toNat * 256 ^ 1) =
        ofBytes [a] + -1 * (ofBytes [m] + carry.toNat)
    rw [ofBytes_singleton, ofBytes_singleton, ofBytes_singleton]
    by_cases borrows : a.toNat < m.toNat + carry.toNat
    · rw [decide_eq_true borrows, Bool.toNat_true]
      omega
    · rw [decide_eq_false borrows, Bool.toNat_false]
      omega
  · show (signBit a != signBit m && signBit a != signBit r) = true ↔
      ¬ FitsBytes 1 (signedOfBytes [a] + -1 * (signedOfBytes [m] + carry.toNat))
    simp only [signedOfBytes_singleton, signBit, FitsBytes, Bool.and_eq_true, bne_iff_ne, ne_eq,
      decide_eq_decide]
    split <;> split <;> omega

/-- The operations are exact on bytes, and take the carry from the flags. -/
theorem byte (o : ChainOperation) :
    ChainSum o f.carry [a] [m] [(o.combination.apply a m f).1] (o.combination.apply a m f).2 := by
  cases o with
  | adc => exact add a m f.carry f
  | sbc => exact subtract a m f.carry f

end Byte

variable {p q r : List UInt8} {p₀ q₀ r₀ : UInt8}

/-- The carry of a byte goes into the chain behind it. -/
theorem cons (first : ChainSum o carry [p₀] [q₀] [r₀] f) (rest : ChainSum o f.carry p q r g)
    (more : p ≠ []) (length_q : q.length = p.length) (length_r : r.length = p.length) :
    ChainSum o carry (p₀ :: p) (q₀ :: q) (r₀ :: r) g := by
  have nonempty {l : List UInt8} (length : l.length = p.length) : l ≠ [] := by
    rintro rfl
    exact more (List.length_eq_zero_iff.mp length.symm)
  have byte := first.sum
  rw [ofBytes_singleton, ofBytes_singleton, ofBytes_singleton, List.length_singleton, pow_one] at byte
  have bound := r₀.toNat_lt
  -- both numbers, the sum and the carry go up by a byte together
  have sum : (ofBytes (r₀ :: r) : Int) + o.sign * (g.carry.toNat * 256 ^ (r₀ :: r).length) =
      ofBytes (p₀ :: p) + o.sign * (ofBytes (q₀ :: q) + carry.toNat) := by
    rw [ofBytes_cons, ofBytes_cons, ofBytes_cons, List.length_cons, pow_succ]
    push_cast
    linear_combination byte + 256 * rest.sum
  refine ⟨sum, ?_, ?_⟩
  · have signed : signedOfBytes (p₀ :: p) + o.sign * (signedOfBytes (q₀ :: q) + carry.toNat) =
        r₀.toNat + 256 * (signedOfBytes p + o.sign * (signedOfBytes q + f.carry.toNat)) := by
      rw [signedOfBytes_cons p₀ more, signedOfBytes_cons q₀ (nonempty length_q)]
      linear_combination - byte
    rw [rest.overflow, signed, List.length_cons,
      fitsBytes_cons r₀ (mt List.length_eq_zero_iff.mp more)]
  · rw [rest.negative, signedOfBytes_cons r₀ (nonempty length_r)]
    omega

/-- The operands determine the sum and the flags. -/
theorem unique {r' : List UInt8} {f' : ConditionCodes} (h : ChainSum o carry p q r f)
    (h' : ChainSum o carry p q r' f') (length : r'.length = r.length) :
    r = r' ∧ f.carry = f'.carry ∧ f.overflow = f'.overflow ∧ f.negative = f'.negative := by
  have bound : (ofBytes r : Int) < 256 ^ r.length := by exact_mod_cast ofBytes_lt r
  have bound' : (ofBytes r' : Int) < 256 ^ r.length := by
    rw [← length]
    exact_mod_cast ofBytes_lt r'
  have sum := h.sum.trans h'.sum.symm
  rw [length] at sum
  -- the number is what is left of the sum below the weight of the carry
  have told : ofBytes r = ofBytes r' ∧ f.carry = f'.carry := by
    revert sum
    generalize (256 : Int) ^ r.length = weight at bound bound'
    cases o <;> cases f.carry <;> cases f'.carry <;> simp [ChainOperation.sign] <;> omega
  obtain rfl := eq_of_ofBytes_eq length.symm told.1
  exact ⟨rfl, told.2, Bool.eq_iff_iff.mpr (h.overflow.trans h'.overflow.symm),
    Bool.eq_iff_iff.mpr (h.negative.trans h'.negative.symm)⟩

end ChainSum

end Trainer6800
