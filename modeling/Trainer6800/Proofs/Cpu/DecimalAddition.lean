import Trainer6800.Proofs.Cpu.PackedDecimal
import Trainer6800.Proofs.Cpu.StraightLine

/-!
# Decimal addition

A program that adds decimal numbers of many bytes loads a byte of the first number, adds a byte of the
second with the carry, and adjusts the sum, before anything else can touch the two carries that the
adjustment needs.  Then it goes on to the next bytes, as in binary arithmetic.

`Cpu.DecimalRounds` is any run of that form, and `Cpu.decimal_exact` says that its results are the
decimal sum.  That there are such runs, for any numbers whatever, is shown by a program that has the
operands in its code.
-/

namespace Trainer6800

open AddressSpace

/-- A program that adds the first number of each pair and the second one: for each pair it loads the
one, adds the other with the carry, and adjusts. -/
def decimalProgram : List (UInt8 × UInt8) → List UInt8
  | [] => []
  | (a, m) :: operands => 0x86 :: a :: 0x89 :: m :: 0x19 :: decimalProgram operands

namespace Cpu

variable {M : Type} [AddressSpace M] {c d : Cpu M} {t : Turn} {turns : List Turn}

/-- Three steps load a byte into accumulator A, add another one with the carry, and adjust the sum. -/
structure DecimalRound (c : Cpu M) (t : Turn) (d : Cpu M) : Prop where
  loads : c.Executes (.combine .lda .a) t.leftAddress
  adds : c.step.cpu.Executes (.combine .adc .a) t.rightAddress
  adjusts : ∃ address, c.step.cpu.step.cpu.Executes .daa address
  finds : t.Finds c.memory
  ends : d = c.step.cpu.step.cpu.step.cpu
  result : d.registers.a = t.result

/-- One round or more, with steps between them that keep the carry. -/
def DecimalRounds (c : Cpu M) (turns : List Turn) (d : Cpu M) : Prop :=
  Series DecimalRound Turn.written c turns d

/-- The accumulator and the flags after an adjustment. -/
theorem Executes.adjust {address : UInt16} (h : c.Executes .daa address) :
    (c.step.cpu.registers.a, c.step.cpu.registers.ccr) =
      Arithmetic.decimalAdjust c.registers.a c.registers.ccr := by
  obtain ⟨running, i, defined, operation, -⟩ := h
  rw [(step_defined running defined).1, execute, operation]
  rfl

/-- A round is a decimal sum of one byte. -/
theorem DecimalRound.decimalSum (h : DecimalRound c t d) (left : IsPacked t.left)
    (right : IsPacked t.right) :
    DecimalSum c.registers.ccr.carry [t.left] [t.right] [t.result] d.registers.ccr.carry := by
  have loaded : c.step.cpu.registers.a = t.left :=
    (Prod.mk.inj h.loads.combine).1.trans h.finds.1.symm
  have carry : c.step.cpu.registers.ccr.carry = c.registers.ccr.carry := by
    apply h.loads.footprint.flags .carry
    simp [Operation.flags, Combination.flags]
  have operand : read c.step.cpu.memory t.rightAddress = t.right := by
    rw [h.loads.memory_combine]
    exact h.finds.2.symm
  have added : (c.step.cpu.step.cpu.registers.a, c.step.cpu.step.cpu.registers.ccr) =
      Arithmetic.add t.left t.right c.registers.ccr.carry c.step.cpu.registers.ccr := by
    rw [← loaded, ← operand, ← carry]
    exact h.adds.combine
  obtain ⟨address, adjusts⟩ := h.adjusts
  have adjusted := adjusts.adjust
  have sum := DecimalSum.byte left right c.registers.ccr.carry c.step.cpu.registers.ccr
  rw [← added] at sum
  dsimp only at sum
  rwa [← adjusted, ← h.ends, h.result] at sum

/-- The rounds are one decimal sum. -/
theorem DecimalRounds.decimalSum (h : DecimalRounds c turns d)
    (packed : ∀ t ∈ turns, IsPacked t.left ∧ IsPacked t.right) :
    DecimalSum c.registers.ccr.carry (turns.map Turn.left) (turns.map Turn.right)
      (turns.map Turn.result) d.registers.ccr.carry := by
  unfold DecimalRounds at h
  induction h with
  | last done ended =>
    obtain ⟨left, right⟩ := List.forall_mem_singleton.mp packed
    exact done.decimalSum left right
  | more done between further ih =>
    rw [List.forall_mem_cons] at packed
    -- the carry of the round is still there when the next one begins
    have rest := ih packed.2
    rw [between.carry_eq] at rest
    exact (done.decimalSum packed.1.1 packed.1.2).cons rest

/-! ## A program with its operands -/

/-- A sum is adjusted, and the next instruction stands behind the adjustment. -/
theorem executes_adjust (running : c.state = .running) (opcode : c.opcode = 0x19) :
    (∃ address, c.Executes .daa address) ∧ c.step.cpu.state = .running ∧
      c.step.cpu.registers.pc = c.registers.pc + 1 ∧ c.step.cpu.memory = c.memory := by
  have defined : decode c.opcode = some ⟨0x19, .daa, .inherent, 2⟩ := by
    rw [opcode, OpcodeMap.decode_eq]
    rfl
  refine ⟨⟨_, running, _, defined, rfl, rfl⟩, ?_⟩
  rw [(step_defined running defined).1]
  exact ⟨running, rfl, rfl⟩

/-- The first round of the program. -/
theorem decimalRound_of_holds {a m : UInt8} {operands : List (UInt8 × UInt8)}
    (running : c.state = .running)
    (holds : HoldsBytes c.memory c.registers.pc (decimalProgram ((a, m) :: operands))) :
    ∃ t : Turn, t.left = a ∧ t.right = m ∧ t.written = [] ∧
      DecimalRound c t c.step.cpu.step.cpu.step.cpu ∧
      c.step.cpu.step.cpu.step.cpu.state = .running ∧
      HoldsBytes c.step.cpu.step.cpu.step.cpu.memory c.step.cpu.step.cpu.step.cpu.registers.pc
        (decimalProgram operands) := by
  obtain ⟨load, left, add, right, adjust, rest⟩ := holds
  have behind (k : UInt16) : c.registers.pc + k + 1 = c.registers.pc + (k + 1) := UInt16.add_assoc ..
  simp only [behind] at add right adjust rest
  have defined₀ : decode c.opcode = some ⟨0x86, .combine .lda .a, .immediate, 2⟩ := by
    rw [opcode, load, OpcodeMap.decode_eq]
    rfl
  obtain ⟨loads, running₁, pc₁⟩ := executes_immediate running defined₀
  have memory₁ := loads.memory_combine
  have defined₁ : decode c.step.cpu.opcode = some ⟨0x89, .combine .adc .a, .immediate, 2⟩ := by
    rw [opcode, pc₁, memory₁, show (2 : UInt16) = 1 + 1 from rfl, add, OpcodeMap.decode_eq]
    rfl
  obtain ⟨adds, running₂, pc₂⟩ := executes_immediate running₁ defined₁
  have memory₂ := adds.memory_combine.trans memory₁
  rw [pc₁, UInt16.add_assoc] at adds pc₂
  have opcode₂ : c.step.cpu.step.cpu.opcode = 0x19 := by
    rw [opcode, pc₂, memory₂]
    exact adjust
  obtain ⟨adjusts, running₃, pc₃, memory₃⟩ := executes_adjust running₂ opcode₂
  rw [pc₂, UInt16.add_assoc] at pc₃
  rw [memory₂] at memory₃
  let t : Turn := {
    left := a
    leftAddress := c.registers.pc + 1
    right := m
    rightAddress := c.registers.pc + (2 + 1)
    result := c.step.cpu.step.cpu.step.cpu.registers.a
    written := [] }
  refine ⟨t, rfl, rfl, rfl, ?_, running₃, ?_⟩
  · exact ⟨loads, adds, adjusts, ⟨left.symm, right.symm⟩, rfl, rfl⟩
  · rw [pc₃, memory₃]
    exact rest

/-- The program adds its operands. -/
theorem decimalRounds_of_holds {operands : List (UInt8 × UInt8)} (nonempty : operands ≠ [])
    (running : c.state = .running)
    (holds : HoldsBytes c.memory c.registers.pc (decimalProgram operands)) :
    ∃ turns, DecimalRounds c turns ((fun c => c.step.cpu)^[3 * operands.length] c) ∧
      turns.map Turn.left = operands.map Prod.fst ∧
      turns.map Turn.right = operands.map Prod.snd := by
  induction operands generalizing c with
  | nil => exact absurd rfl nonempty
  | cons first rest ih =>
    obtain ⟨a, m⟩ := first
    obtain ⟨t, rfl, rfl, ended, done, running', holds'⟩ := decimalRound_of_holds running holds
    rw [List.length_cons, Nat.mul_succ, Function.iterate_add_apply]
    by_cases last : rest = []
    · subst last
      exact ⟨[t], .last done ended, rfl, rfl⟩
    · obtain ⟨turns, further, lefts, rights⟩ := ih last running' holds'
      have between : Interlude c.step.cpu.step.cpu.step.cpu t.written c.step.cpu.step.cpu.step.cpu := by
        rw [ended]
        exact .done _
      refine ⟨t :: turns, .more done between further, ?_, ?_⟩
      · rw [List.map_cons, List.map_cons, lefts]
      · rw [List.map_cons, List.map_cons, rights]

/-- Adding decimal numbers of many bytes is exact, and there is a program for any two numbers that does
it. -/
theorem decimal_exact :
    (∀ {M : Type} [AddressSpace M] {c d : Cpu M} {turns : List Turn}, DecimalRounds c turns d →
      (∀ t ∈ turns, IsPacked t.left ∧ IsPacked t.right) →
      DecimalSum c.registers.ccr.carry (turns.map Turn.left) (turns.map Turn.right)
        (turns.map Turn.result) d.registers.ccr.carry) ∧
    (∀ {M : Type} [AddressSpace M] {c : Cpu M} {operands : List (UInt8 × UInt8)}, operands ≠ [] →
      c.state = .running → HoldsBytes c.memory c.registers.pc (decimalProgram operands) →
      ∃ turns, DecimalRounds c turns ((fun c => c.step.cpu)^[3 * operands.length] c) ∧
        turns.map Turn.left = operands.map Prod.fst ∧
        turns.map Turn.right = operands.map Prod.snd) :=
  ⟨fun run packed => run.decimalSum packed, decimalRounds_of_holds⟩

/-- A processor about to add 5201 to 4799. -/
def beforeCarries : Cpu FlatMemory :=
  { memory := .imaging fun address =>
      (decimalProgram [(0x99, 0x01), (0x47, 0x52)]).getD address.toNat 0 }

/-- Both bytes of the sum run over. -/
theorem decimal_exact_carries :
    ∃ turns d, DecimalRounds beforeCarries turns d ∧ turns.map Turn.left = [0x99, 0x47] ∧
      turns.map Turn.right = [0x01, 0x52] ∧ ofPacked (turns.map Turn.result) = 0 ∧
      d.registers.ccr.carry = true := by
  have holds : HoldsBytes beforeCarries.memory beforeCarries.registers.pc
      (decimalProgram [(0x99, 0x01), (0x47, 0x52)]) := by
    simp only [HoldsBytes, decimalProgram, beforeCarries, FlatMemory.read_imaging]
    decide
  obtain ⟨sums, exists_rounds⟩ := decimal_exact
  obtain ⟨turns, run, left, right⟩ := exists_rounds (by decide) (by rw [beforeCarries]) holds
  change _ = [0x99, 0x47] at left
  change _ = [0x01, 0x52] at right
  generalize (fun c : Cpu FlatMemory => c.step.cpu)^[3 * _] beforeCarries = d at run
  have packedLeft : ∀ t ∈ turns, IsPacked t.left := by
    rw [← List.forall_mem_map, left, List.forall_mem_cons, List.forall_mem_singleton]
    decide
  have packedRight : ∀ t ∈ turns, IsPacked t.right := by
    rw [← List.forall_mem_map, right, List.forall_mem_cons, List.forall_mem_singleton]
    decide
  obtain ⟨packed, sum⟩ := sums run fun t member => ⟨packedLeft t member, packedRight t member⟩
  have length : (turns.map Turn.result).length = 2 := by
    rw [List.length_map, ← List.length_map Turn.left, left]
    rfl
  have bound := ofPacked_lt packed
  have start : beforeCarries.registers.ccr.carry = false := by rw [beforeCarries]
  rw [left, right, start, length] at sum
  rw [length] at bound
  have total : ofPacked [0x99, 0x47] + ofPacked [0x01, 0x52] + false.toNat = 100 ^ 2 := by decide
  rw [total] at sum
  refine ⟨turns, d, run, left, right, ?_⟩
  cases carry : d.registers.ccr.carry with
  | false =>
    rw [carry, Bool.toNat_false] at sum
    omega
  | true =>
    rw [carry, Bool.toNat_true] at sum
    exact ⟨by omega, rfl⟩

end Cpu

end Trainer6800
