import Trainer6800.Proofs.Cpu.CarryChain

/-!
# Chains of shifts

A number of many bytes is shifted by one place byte by byte.  The operation on the first byte decides
which bit enters the number; each operation after it is a rotation, and takes in the bit that the one
before has put into the carry.  To the left one begins with the lowest byte, to the right with the highest
one (`NumberShift.steps`).

This module has the arithmetic of it, without any processor.  `passAll` says what operations on bytes in
turn do to the bytes and the carry.  Rotations to the left double a number (`ShiftsUp`), those to the
right halve it (`ShiftsDown`), and the bit that the first operation lets in makes three kinds of shift out
of the two (`NumberShift.shifts_steps`).
-/

namespace Trainer6800

/-! ## Operations in turn -/

/-- What an operation makes of a byte and the carry. -/
def Modification.pass (op : Modification) (m : UInt8) (carry : Bool) : UInt8 × Bool :=
  ((op.apply m { carry }).1, (op.apply m { carry }).2.carry)

/-- No other flag has a part in it. -/
theorem Modification.apply_eq_pass (op : Modification) (m : UInt8) (f : ConditionCodes) :
    ((op.apply m f).1, (op.apply m f).2.carry) = op.pass m f.carry := by
  cases op <;> rfl

/-- What operations on bytes make of them and the carry, one after the other. -/
def passAll : List (Modification × UInt8) → Bool → List UInt8 × Bool
  | [], carry => ([], carry)
  | (op, m) :: rest, carry =>
    let (r, carry) := op.pass m carry
    let (rs, carry) := passAll rest carry
    (r :: rs, carry)

theorem passAll_cons (op : Modification) (m : UInt8) (rest : List (Modification × UInt8))
    (carry : Bool) : passAll ((op, m) :: rest) carry =
      ((op.pass m carry).1 :: (passAll rest (op.pass m carry).2).1,
        (passAll rest (op.pass m carry).2).2) :=
  rfl

/-! ## Doubling and halving -/

/-- The bytes `r` and the bit `out` are what comes out when the bytes `b` are doubled and a bit enters at
the low end. -/
structure ShiftsUp (carry : Bool) (b r : List UInt8) (out : Bool) : Prop where
  length : r.length = b.length
  value : ofBytes r + 256 ^ b.length * out.toNat = 2 * ofBytes b + carry.toNat

/-- The bytes `r` and the bit `out` are what comes out when a bit enters the bytes `b` at the high end
and they are halved. -/
structure ShiftsDown (carry : Bool) (b r : List UInt8) (out : Bool) : Prop where
  length : r.length = b.length
  value : 2 * ofBytes r + out.toNat = 256 ^ b.length * carry.toNat + ofBytes b

section

variable {carry middle out : Bool} {b r : List UInt8} {b₀ r₀ : UInt8}

/-- What leaves the lowest byte enters the others. -/
theorem ShiftsUp.cons (lowest : ShiftsUp carry [b₀] [r₀] middle) (others : ShiftsUp middle b r out) :
    ShiftsUp carry (b₀ :: b) (r₀ :: r) out where
  length := by rw [List.length_cons, List.length_cons, others.length]
  value := by
    have byte := lowest.value
    rw [ofBytes_singleton, ofBytes_singleton, List.length_singleton, pow_one] at byte
    rw [ofBytes_cons, ofBytes_cons, List.length_cons, pow_succ]
    linear_combination byte + 256 * others.value

/-- What leaves the highest byte enters the others. -/
theorem ShiftsDown.concat (highest : ShiftsDown carry [b₀] [r₀] middle)
    (others : ShiftsDown middle b r out) : ShiftsDown carry (b ++ [b₀]) (r ++ [r₀]) out where
  length := by rw [List.length_append, List.length_append, others.length]; rfl
  value := by
    have byte := highest.value
    rw [ofBytes_singleton, ofBytes_singleton, List.length_singleton, pow_one] at byte
    rw [ofBytes_append, ofBytes_append, ofBytes_singleton, ofBytes_singleton, others.length,
      List.length_append, List.length_singleton, pow_succ]
    linear_combination others.value + 256 ^ b.length * byte

end

section Byte

variable (m : UInt8) (carry : Bool)

theorem shiftsUp_rol :
    ShiftsUp carry [m] [(Modification.rol.pass m carry).1] (Modification.rol.pass m carry).2 where
  length := rfl
  value := by
    have bound := m.toNat_lt
    have bit := carry.toNat_lt
    rw [ofBytes_singleton, ofBytes_singleton, List.length_singleton, pow_one]
    show (m + m + UInt8.ofNat carry.toNat).toNat + 256 * (signBit m).toNat = _
    rw [UInt8.toNat_add, UInt8.toNat_add, UInt8.toNat_ofNat', signBit]
    by_cases high : 128 ≤ m.toNat
    · rw [decide_eq_true high, Bool.toNat_true]
      omega
    · rw [decide_eq_false high, Bool.toNat_false]
      omega

theorem toNat_topBit : (Arithmetic.topBit carry).toNat = 128 * carry.toNat := by
  cases carry <;> rfl

theorem toNat_odd : (m % 2 == 1).toNat = m.toNat % 2 := by
  have all : ∀ n : Fin 256, (UInt8.ofFin n % 2 == 1).toNat = (UInt8.ofFin n).toNat % 2 := by
    decide +kernel
  exact all m.toFin

theorem shiftsDown_ror :
    ShiftsDown carry [m] [(Modification.ror.pass m carry).1] (Modification.ror.pass m carry).2 where
  length := rfl
  value := by
    have bound := m.toNat_lt
    have bit := carry.toNat_lt
    have half : (m / 2).toNat = m.toNat / 2 := UInt8.toNat_div m 2
    rw [ofBytes_singleton, ofBytes_singleton, List.length_singleton, pow_one]
    show 2 * (m / 2 + Arithmetic.topBit carry).toNat + (m % 2 == 1).toNat = _
    rw [UInt8.toNat_add, half, toNat_topBit, toNat_odd]
    omega

end Byte

/-- Rotations to the left, from the lowest byte up. -/
theorem shiftsUp_passAll (bytes : List UInt8) (carry : Bool) :
    ShiftsUp carry bytes (passAll (bytes.map (.rol, ·)) carry).1
      (passAll (bytes.map (.rol, ·)) carry).2 := by
  induction bytes generalizing carry with
  | nil => exact ⟨rfl, by simp [passAll, ofBytes_nil]⟩
  | cons m rest ih =>
    rw [List.map_cons, passAll_cons]
    exact (shiftsUp_rol m carry).cons (ih _)

/-- Rotations to the right, from the highest byte down. -/
theorem shiftsDown_passAll (bytes : List UInt8) (carry : Bool) :
    ShiftsDown carry bytes.reverse (passAll (bytes.map (.ror, ·)) carry).1.reverse
      (passAll (bytes.map (.ror, ·)) carry).2 := by
  induction bytes generalizing carry with
  | nil => exact ⟨rfl, by simp [passAll, ofBytes_nil]⟩
  | cons m rest ih =>
    rw [List.map_cons, passAll_cons, List.reverse_cons, List.reverse_cons]
    exact (shiftsDown_ror m carry).concat (ih _)

/-! ## The three shifts -/

/-- Shifts of a number by one place. -/
inductive NumberShift where
  | left
  | right
  /-- To the right, of a number in two's complement. -/
  | signedRight
  deriving DecidableEq, Repr

namespace NumberShift

/-- The operation on the byte where a shift begins. -/
def first : NumberShift → Modification
  | left => .asl
  | right => .lsr
  | signedRight => .asr

/-- The operation on all other bytes. -/
def next : NumberShift → Modification
  | left => .rol
  | right | signedRight => .ror

/-- From the lowest place to the highest, or back. -/
def order {α : Type} (l : List α) : NumberShift → List α
  | left => l
  | right | signedRight => l.reverse

/-- The operations of a shift and the places that they go to, where the places are those of the bytes,
the least significant one first. -/
def steps {α : Type} (s : NumberShift) (places : List α) : List (Modification × α) :=
  match s.order places with
  | [] => []
  | place :: others => (s.first, place) :: others.map (s.next, ·)

/-- What a shift does to a number, and the bit that it puts into the carry. -/
def Shifts (before after : List UInt8) (carry : Bool) : NumberShift → Prop
  | left => ofBytes after = 2 * ofBytes before % 256 ^ before.length ∧
      carry.toNat = 2 * ofBytes before / 256 ^ before.length
  | right => ofBytes after = ofBytes before / 2 ∧ carry.toNat = ofBytes before % 2
  | signedRight => signedOfBytes after = signedOfBytes before / 2 ∧
      carry.toNat = ofBytes before % 2

/-- The bit that enters a number when its first byte is `m`. -/
def entering (m : UInt8) : NumberShift → Bool
  | left | right => false
  | signedRight => signBit m

variable {α β : Type}

theorem order_order (s : NumberShift) (l : List α) : s.order (s.order l) = l := by
  cases s with
  | left => rfl
  | right | signedRight => exact l.reverse_reverse

theorem order_map (s : NumberShift) (f : α → β) (l : List α) :
    s.order (l.map f) = (s.order l).map f := by
  cases s with
  | left => rfl
  | right | signedRight => exact List.map_reverse.symm

theorem steps_map (s : NumberShift) (f : α → β) (places : List α) :
    s.steps (places.map f) = (s.steps places).map (Prod.map id f) := by
  rw [steps, steps, s.order_map]
  cases s.order places with
  | nil => rfl
  | cons place others => simp

/-- The places of the steps are all the places. -/
theorem map_snd_steps (s : NumberShift) (places : List α) :
    (s.steps places).map Prod.snd = s.order places := by
  rw [steps]
  cases s.order places with
  | nil => rfl
  | cons place others => simp

theorem mem_order (s : NumberShift) {place : α} {places : List α} :
    place ∈ s.order places ↔ place ∈ places := by
  cases s with
  | left => rfl
  | right | signedRight => exact List.mem_reverse

theorem nodup_order (s : NumberShift) {places : List α} (once : places.Nodup) :
    (s.order places).Nodup := by
  cases s with
  | left => exact once
  | right | signedRight => exact List.nodup_reverse.mpr once

theorem order_ne_nil (s : NumberShift) {places : List α} (nonempty : places ≠ []) :
    s.order places ≠ [] := by
  intro empty
  apply nonempty
  rw [← s.order_order places, empty]
  cases s <;> rfl

theorem steps_ne_nil (s : NumberShift) {places : List α} (nonempty : places ≠ []) :
    s.steps places ≠ [] := by
  intro empty
  apply s.order_ne_nil nonempty
  rw [← s.map_snd_steps, empty, List.map_nil]

theorem mem_of_mem_steps (s : NumberShift) {step : Modification × α} {places : List α}
    (member : step ∈ s.steps places) :
    (step.1 = s.first ∨ step.1 = s.next) ∧ step.2 ∈ places := by
  have place := List.mem_map_of_mem (f := Prod.snd) member
  rw [s.map_snd_steps, s.mem_order] at place
  refine ⟨?_, place⟩
  rw [steps] at member
  split at member
  · cases member
  · rcases List.mem_cons.mp member with rfl | later
    · exact .inl rfl
    · obtain ⟨other, -, rfl⟩ := List.mem_map.mp later
      exact .inr rfl

/-- Each of the operations sets overflow if sign and carry differ. -/
theorem overflow_apply (s : NumberShift) {op : Modification} (step : op = s.first ∨ op = s.next)
    (m : UInt8) (f : ConditionCodes) :
    (op.apply m f).2.overflow = ((op.apply m f).2.negative != (op.apply m f).2.carry) := by
  cases s <;> rcases step with rfl | rfl <;> rfl

/-- The first operation is a rotation that takes in another bit than the carry. -/
theorem pass_first (s : NumberShift) (m : UInt8) (carry : Bool) :
    s.first.pass m carry = s.next.pass m (s.entering m) := by
  cases s with
  | left =>
    have nothing : m + m = m + m + UInt8.ofNat 0 := (UInt8.add_zero _).symm
    exact congrArg (·, signBit m) nothing
  | right =>
    have nothing : m / 2 = m / 2 + 0 := (UInt8.add_zero _).symm
    exact congrArg (·, m % 2 == 1) nothing
  | signedRight => rfl

/-- A shift is rotations of all the bytes. -/
theorem passAll_steps {s : NumberShift} {bytes rest : List UInt8} {m : UInt8}
    (order : s.order bytes = m :: rest) (carry : Bool) :
    passAll (s.steps bytes) carry = passAll ((s.order bytes).map (s.next, ·)) (s.entering m) := by
  rw [steps, order, List.map_cons, passAll_cons, passAll_cons, s.pass_first]

/-- The sign of a number is that of its highest byte. -/
theorem signBit_eq_decide (low : List UInt8) (m : UInt8) :
    signBit m = decide (256 ^ (low ++ [m]).length ≤ 2 * ofBytes (low ++ [m])) := by
  have bound := ofBytes_lt low
  rw [signBit, decide_eq_decide, ofBytes_append, ofBytes_singleton, List.length_append,
    List.length_singleton, pow_succ]
  generalize 256 ^ low.length = weight at bound
  constructor
  · intro high
    have weighs := Nat.mul_le_mul_left weight high
    omega
  · intro reaches
    by_contra positive
    have weighs := Nat.mul_le_mul_left weight (Nat.le_of_lt_succ (Nat.lt_of_not_le positive))
    omega

section

variable {carry out : Bool} {b r : List UInt8}

theorem shifts_of_shiftsUp (h : ShiftsUp false b r out) : left.Shifts b r out := by
  have value := h.value
  have bound := ofBytes_lt r
  have positive : 0 < 256 ^ b.length := Nat.pow_pos (by decide)
  rw [h.length] at bound
  rw [Bool.toNat_false, Nat.add_zero] at value
  rw [Shifts, ← value]
  constructor
  · rw [Nat.add_mul_mod_self_left, Nat.mod_eq_of_lt bound]
  · rw [Nat.add_mul_div_left _ _ positive, Nat.div_eq_of_lt bound, Nat.zero_add]

theorem shifts_of_shiftsDown (h : ShiftsDown false b r out) : right.Shifts b r out := by
  have value := h.value
  have bit := out.toNat_lt
  rw [Bool.toNat_false, Nat.mul_zero, Nat.zero_add] at value
  rw [Shifts]
  omega

/-- If the sign of a number enters it, what comes out has the same sign. -/
theorem shifts_of_shiftsDown_sign (h : ShiftsDown carry b r out) (nonempty : b ≠ [])
    (sign : carry = decide (256 ^ b.length ≤ 2 * ofBytes b)) : signedRight.Shifts b r out := by
  have value := h.value
  have bound := ofBytes_lt b
  have bit := out.toNat_lt
  obtain ⟨half, even⟩ := even_pow_length (mt List.length_eq_zero_iff.mp nonempty)
  rw [Shifts, signedOfBytes, signedOfBytes, h.length]
  have cast : (256 : Int) ^ b.length = (256 ^ b.length : Nat) := by norm_cast
  rw [cast] at even ⊢
  generalize 256 ^ b.length = weight at *
  by_cases negative : weight ≤ 2 * ofBytes b
  · rw [sign, decide_eq_true negative, Bool.toNat_true] at value
    rw [if_neg (by omega), if_neg (by omega)]
    omega
  · rw [sign, decide_eq_false negative, Bool.toNat_false] at value
    rw [if_pos (by omega), if_pos (by omega)]
    omega

end

/-- The steps of a shift, on the bytes of a number, shift the number. -/
theorem shifts_steps (s : NumberShift) {bytes : List UInt8} (nonempty : bytes ≠ []) (carry : Bool) :
    s.Shifts bytes (s.order (passAll (s.steps bytes) carry).1) (passAll (s.steps bytes) carry).2 := by
  obtain ⟨m, rest, visited⟩ := List.exists_cons_of_ne_nil (s.order_ne_nil nonempty)
  rw [passAll_steps visited carry]
  have down := shiftsDown_passAll bytes.reverse (s.entering m)
  rw [bytes.reverse_reverse] at down
  cases s with
  | left => exact shifts_of_shiftsUp (shiftsUp_passAll bytes false)
  | right => exact shifts_of_shiftsDown down
  | signedRight =>
    have split : bytes = rest.reverse ++ [m] := by
      rw [← bytes.reverse_reverse, show bytes.reverse = m :: rest from visited, List.reverse_cons]
    have sign := signBit_eq_decide rest.reverse m
    rw [← split] at sign
    exact shifts_of_shiftsDown_sign down nonempty sign

end NumberShift

end Trainer6800
