import Trainer6800.Proofs.Cpu.CarryChain
import Trainer6800.Proofs.Cpu.Listed
import Trainer6800.Proofs.Machine.Flat

/-!
# Comparing and branching

A comparison is a subtraction whose result may be thrown away: what it leaves behind are four flags, and
each branch looks at a formula of them.  `Condition.Relates` says what the formulas are for.  Every
condition is a relation of the two bytes that were compared, as unsigned bytes, as bytes in two's
complement, or one on their difference, and the flags of the subtraction decide it
(`Condition.holds_subtract`).

`Cpu.compare_branch` says it of two instructions in memory, one behind the other.
-/

namespace Trainer6800

/-! ## Relations of two bytes -/

/-- The relation of two bytes that a branch after their comparison asks for. -/
def Condition.Relates (a m : UInt8) : Condition → Prop
  | always => True
  | higher => a > m
  | lowerOrSame => a ≤ m
  | carryClear => a ≥ m
  | carrySet => a < m
  | notEqual => a ≠ m
  | equal => a = m
  | overflowClear => FitsBytes 1 (a.toInt8.toInt - m.toInt8.toInt)
  | overflowSet => ¬ FitsBytes 1 (a.toInt8.toInt - m.toInt8.toInt)
  | plus => (a - m).toNat.testBit 7 = false
  | minus => (a - m).toNat.testBit 7 = true
  | greaterOrEqual => a.toInt8 ≥ m.toInt8
  | less => a.toInt8 < m.toInt8
  | greater => a.toInt8 > m.toInt8
  | lessOrEqual => a.toInt8 ≤ m.toInt8

theorem toInt_toInt8 (b : UInt8) :
    b.toInt8.toInt = if 128 ≤ b.toNat then (b.toNat : Int) - 256 else b.toNat := by
  have bound := b.toNat_lt
  show b.toBitVec.toInt = _
  rw [BitVec.toInt_eq_toNat_cond]
  show (if 2 * b.toNat < 256 then (b.toNat : Int) else b.toNat - 256) = _
  split <;> split <;> omega

theorem toInt8_eq_iff {a m : UInt8} : a.toInt8 = m.toInt8 ↔ a = m :=
  ⟨fun same => congrArg Int8.toUInt8 same, congrArg UInt8.toInt8⟩

theorem signBit_eq_testBit (b : UInt8) : signBit b = b.toNat.testBit 7 := by
  have bound := b.toNat_lt
  rw [signBit, Nat.testBit_eq_decide_div_mod_eq, decide_eq_decide]
  omega

/-! ## The flags of a subtraction -/

namespace Arithmetic

variable (a m : UInt8) (f : ConditionCodes)

theorem subtract_eq : (subtract a m false f).1 = a - m :=
  UInt8.sub_zero (a - m)

theorem toNat_difference : (a - m).toNat = (256 + a.toNat - m.toNat) % 256 := by
  have bound := m.toNat_lt
  rw [UInt8.toNat_sub]
  omega

theorem carry_subtract : (subtract a m false f).2.carry = true ↔ a < m := by
  rw [UInt8.lt_iff_toNat_lt]
  exact decide_eq_true_iff

theorem zero_subtract : (subtract a m false f).2.zero = true ↔ a = m := by
  have boundA := a.toNat_lt
  have boundM := m.toNat_lt
  have zero : (subtract a m false f).2.zero = ((subtract a m false f).1 == 0) := rfl
  rw [zero, subtract_eq, beq_iff_eq, ← UInt8.toNat_inj, toNat_difference, ← UInt8.toNat_inj]
  show _ = 0 ↔ _
  omega

theorem negative_subtract : (subtract a m false f).2.negative = (a - m).toNat.testBit 7 := by
  rw [← signBit_eq_testBit, ← subtract_eq a m f]
  rfl

theorem overflow_subtract : (subtract a m false f).2.overflow = true ↔
    ¬ FitsBytes 1 (a.toInt8.toInt - m.toInt8.toInt) := by
  have exact := (ChainSum.subtract a m false f).overflow
  rw [signedOfBytes_singleton, signedOfBytes_singleton, ← toInt_toInt8, ← toInt_toInt8] at exact
  rw [exact]
  show ¬ FitsBytes 1 (_ + -1 * (_ + ((0 : Nat) : Int))) ↔ _
  rw [Nat.cast_zero, Int.add_zero, Int.neg_one_mul, ← Int.sub_eq_add_neg]

/-- Sign and overflow differ if the first number was the smaller one: either the difference fits and has
the right sign, or it does not fit and has the wrong one. -/
theorem signs_subtract :
    (subtract a m false f).2.negative ≠ (subtract a m false f).2.overflow ↔
      a.toInt8 < m.toInt8 := by
  have boundA := a.toNat_lt
  have boundM := m.toNat_lt
  have negative : (subtract a m false f).2.negative = true ↔ 128 ≤ (a - m).toNat := by
    rw [negative_subtract, ← signBit_eq_testBit]
    exact decide_eq_true_iff
  rw [toNat_difference] at negative
  have overflow := overflow_subtract a m f
  rw [Int8.lt_iff_toInt_lt]
  rw [toInt_toInt8, toInt_toInt8] at overflow ⊢
  unfold FitsBytes at overflow
  rw [ne_eq, Bool.eq_iff_iff, negative, overflow]
  split <;> split <;> omega

end Arithmetic

/-- The flags of a subtraction decide each condition. -/
theorem Condition.holds_subtract (condition : Condition) (a m : UInt8) (f : ConditionCodes) :
    condition.holds (Arithmetic.subtract a m false f).2 = true ↔ condition.Relates a m := by
  have carry := Arithmetic.carry_subtract a m f
  have zero := Arithmetic.zero_subtract a m f
  have negative := Arithmetic.negative_subtract a m f
  have overflow := Arithmetic.overflow_subtract a m f
  have signs := Arithmetic.signs_subtract a m f
  generalize (Arithmetic.subtract a m false f).2 = g at *
  cases condition with
  | always => exact iff_of_true rfl trivial
  | carrySet => exact carry
  | carryClear =>
    show (!g.carry) = true ↔ m ≤ a
    rw [Bool.not_eq_true', ← Bool.not_eq_true, carry, UInt8.not_lt]
  | equal => exact zero
  | notEqual =>
    show (!g.zero) = true ↔ a ≠ m
    rw [Bool.not_eq_true', ← Bool.not_eq_true, zero]
  | lowerOrSame =>
    show (g.carry || g.zero) = true ↔ a ≤ m
    rw [Bool.or_eq_true, carry, zero, UInt8.le_iff_lt_or_eq]
  | higher =>
    show (!(g.carry || g.zero)) = true ↔ m < a
    rw [Bool.not_eq_true', ← Bool.not_eq_true, Bool.or_eq_true, carry, zero,
      ← UInt8.le_iff_lt_or_eq, UInt8.not_le]
  | overflowSet => exact overflow
  | overflowClear =>
    show (!g.overflow) = true ↔ FitsBytes 1 (a.toInt8.toInt - m.toInt8.toInt)
    rw [Bool.not_eq_true', ← Bool.not_eq_true, overflow, not_not]
  | minus =>
    show g.negative = true ↔ _
    rw [negative]
    rfl
  | plus =>
    show (!g.negative) = true ↔ _
    rw [Bool.not_eq_true', negative]
    rfl
  | less =>
    show (g.negative != g.overflow) = true ↔ a.toInt8 < m.toInt8
    rw [bne_iff_ne, signs]
  | greaterOrEqual =>
    show (g.negative == g.overflow) = true ↔ m.toInt8 ≤ a.toInt8
    rw [beq_iff_eq, ← not_ne_iff, signs, Int8.not_lt]
  | lessOrEqual =>
    show (g.zero || g.negative != g.overflow) = true ↔ a.toInt8 ≤ m.toInt8
    rw [Int8.le_iff_lt_or_eq, toInt8_eq_iff, ← signs, ← zero, Bool.or_eq_true, bne_iff_ne, or_comm]
  | greater =>
    show (!g.zero && g.negative == g.overflow) = true ↔ m.toInt8 < a.toInt8
    rw [← Int8.not_le, Int8.le_iff_lt_or_eq, toInt8_eq_iff, ← signs, ← zero, Bool.and_eq_true,
      Bool.not_eq_true', ← Bool.not_eq_true, beq_iff_eq, not_or, not_ne_iff, and_comm]

/-! ## The two instructions -/

theorem toNat_signExtend (b : UInt8) :
    (signExtend b).toNat = if 128 ≤ b.toNat then 65280 + b.toNat else b.toNat := by
  have all : ∀ n : Fin 256, (signExtend (UInt8.ofFin n)).toNat =
      if 128 ≤ (UInt8.ofFin n).toNat then 65280 + (UInt8.ofFin n).toNat else (UInt8.ofFin n).toNat := by
    decide +kernel
  exact all b.toFin

/-- A signed offset goes forwards or backwards, and around the ends of the address space. -/
theorem toNat_add_signExtend (address : UInt16) (offset : UInt8) :
    ((address + signExtend offset).toNat : Int) =
      (address.toNat + offset.toInt8.toInt) % 65536 := by
  have bound := offset.toNat_lt
  rw [UInt16.toNat_add, toNat_signExtend, toInt_toInt8]
  split <;> omega

namespace Cpu

variable {M : Type} [AddressSpace M] {c : Cpu M} {i j : Instruction} {a m : UInt8}

open AddressSpace

/-- What an instruction compares: an accumulator with its operand, or the accumulators with each other. -/
def compared? (c : Cpu M) (i : Instruction) : Option (UInt8 × UInt8) :=
  match i.operation with
  | .combine .cmp acc | .combine .sub acc =>
    some (c.registers.accumulator acc, read c.memory (c.operandAddress i.mode))
  | .cba | .sba => some (c.registers.a, c.registers.b)
  | _ => none

/-- A comparison leaves the flags of a subtraction, and the branch behind it as it was. -/
theorem step_compare (running : c.state = .running) (defined : decode c.opcode = some i)
    (compares : c.compared? i = some (a, m)) :
    c.step.cpu.registers.ccr = (Arithmetic.subtract a m false c.registers.ccr).2 ∧
      c.step.cpu.registers.pc = c.registers.pc + UInt16.ofNat i.length ∧
      c.step.cpu.memory = c.memory ∧ c.step.cpu.state = .running := by
  rw [(step_defined running defined).1, execute]
  unfold compared? at compares
  split at compares
  case h_1 acc operation | h_2 acc operation =>
    cases compares
    rw [operation]
    cases acc with
    | a => exact ⟨rfl, rfl, rfl, running⟩
    | b => exact ⟨rfl, rfl, rfl, running⟩
  case h_3 operation | h_4 operation =>
    cases compares
    rw [operation]
    exact ⟨rfl, rfl, rfl, running⟩
  case h_5 => cases compares

/-- A branch after a comparison, in whatever form, is taken if the relation that it asks for holds of
what was compared; then it goes as far from its own end as its signed offset says. -/
theorem compare_branch {condition : Condition} (running : c.state = .running)
    (first : decode c.opcode = some i) (compares : c.compared? i = some (a, m))
    (second : decode (read c.memory (c.registers.pc + UInt16.ofNat i.length)) = some j)
    (branches : j.operation = .branch condition) :
    let address := c.registers.pc + UInt16.ofNat i.length
    let d := c.step.cpu
    let e := d.step.cpu
    c.step.result = .ok i.cycles ∧ d.step.result = .ok j.cycles ∧
      (condition.holds d.registers.ccr = true ↔ condition.Relates a m) ∧
      (condition.Relates a m → (e.registers.pc.toNat : Int) =
        ((address + 2).toNat + (read c.memory (address + 1)).toInt8.toInt) % 65536) ∧
      (¬ condition.Relates a m → e.registers.pc = address + 2) := by
  intro address d e
  obtain ⟨codes, pc, memory, running'⟩ := step_compare running first compares
  change d.registers.pc = address at pc
  have defined : decode d.opcode = some j := by
    rw [opcode, memory, pc]
    exact second
  have decides : condition.holds d.registers.ccr = true ↔ condition.Relates a m := by
    rw [codes]
    exact condition.holds_subtract a m c.registers.ccr
  obtain ⟨next, result⟩ := step_defined running' defined
  have mode : j.mode = .relative := by
    have fits := OpcodeMap.mode_mem_modes defined
    rw [branches] at fits
    exact List.mem_singleton.mp fits
  have length : UInt16.ofNat j.length = 2 := by
    rw [Instruction.length, mode]
    rfl
  have goes : e.registers.pc = if condition.holds d.registers.ccr then
      address + 2 + signExtend (read c.memory (address + 1)) else address + 2 := by
    show d.step.cpu.registers.pc = _
    rw [next, execute, branches, length, mode, ← memory, ← pc]
    exact (d.jump _).pc_perform_branch condition _
  refine ⟨(step_defined running first).2, result, decides, fun holds => ?_, fun fails => ?_⟩
  · rw [goes, if_pos (decides.mpr holds), toNat_add_signExtend]
  · rw [goes, if_neg (mt decides.mp fails)]

/-- A processor that compares 80 with 01 in the last two bytes of the address space, and branches as far
back as it can behind them, which is at the first two. -/
def aroundTheEnd : Cpu FlatMemory :=
  { registers := { a := 0x80, pc := 0xFFFE }
    memory := .imaging fun address => [0x81, 0x01, 0x22, 0x80].getD (address + 2).toNat 0 }

/-- As unsigned bytes the first number is the higher one, so the branch is taken. -/
theorem compare_branch_higher : aroundTheEnd.step.cpu.step.cpu.registers.pc.toNat = 0xFF82 := by
  have byte (address : UInt16) : read aroundTheEnd.memory address =
      [0x81, 0x01, 0x22, 0x80].getD (address + 2).toNat 0 := by
    rw [aroundTheEnd, FlatMemory.read_imaging]
  have running : aroundTheEnd.state = .running := by rw [aroundTheEnd]
  have pc : aroundTheEnd.registers.pc = 0xFFFE := by rw [aroundTheEnd]
  have first : decode aroundTheEnd.opcode = some ⟨0x81, .combine .cmp .a, .immediate, 2⟩ := by
    rw [opcode, byte, pc, OpcodeMap.decode_eq]
    rfl
  have compares : aroundTheEnd.compared? ⟨0x81, .combine .cmp .a, .immediate, 2⟩ =
      some (0x80, 0x01) := by
    show some (aroundTheEnd.registers.a, read aroundTheEnd.memory (aroundTheEnd.registers.pc + 1)) = _
    rw [byte, pc, aroundTheEnd]
    rfl
  have second : decode (read aroundTheEnd.memory (aroundTheEnd.registers.pc + 2)) =
      some ⟨0x22, .branch .higher, .relative, 4⟩ := by
    rw [byte, pc, OpcodeMap.decode_eq]
    rfl
  obtain ⟨-, -, -, taken, -⟩ := compare_branch running first compares second rfl
  have higher : (0x80 : UInt8) > 0x01 := by decide
  have goes := taken higher
  rw [show UInt16.ofNat (Instruction.length ⟨0x81, .combine .cmp .a, .immediate, 2⟩) = 2 from rfl,
    byte, pc] at goes
  have offset : ((0xFFFE + 2 + 2 : UInt16).toNat +
      ([0x81, 0x01, 0x22, 0x80].getD (0xFFFE + 2 + 1 + 2 : UInt16).toNat 0 : UInt8).toInt8.toInt) %
        65536 = 0xFF82 := by
    decide
  exact Int.ofNat.inj (goes.trans offset)

end Cpu

end Trainer6800
