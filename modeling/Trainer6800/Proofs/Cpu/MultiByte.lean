import Trainer6800.Proofs.Cpu.CarryChain
import Trainer6800.Proofs.Machine.Flat

/-!
# Arithmetic on numbers of many bytes

A program that adds or subtracts numbers of many bytes goes in rounds: it loads a byte of the first
number, combines it with a byte of the second and the carry, does something with the result, and goes on
to the next bytes.  The carry must get from one round to the next, so between the rounds only
instructions may stand that keep it: stores, counting, comparing pointers, branches.

`Cpu.Rounds` is any run of that form.  It does not matter where the program lies, which modes its
instructions have and what it does with the bytes between the rounds.  A `Turn` writes down what a round
met: the bytes that the operands were when they were read, and their addresses.  If nothing is written
over operands that are still to be read, these are the bytes that the memory held from the beginning
(`Rounds.finds`).  Every such run is exact (`rounds_exact`).
-/

namespace Trainer6800

/-! ## Instructions between the rounds -/

/-- An operation that leaves the carry as it is. -/
def Operation.KeepsCarry (op : Operation) : Prop :=
  .carry ∉ op.flags

/-- Programs store the result, count with the index register or in memory, and branch. -/
theorem Operation.keepsCarry_between (acc : Accumulator) (target : Target) (condition : Condition) :
    ∀ op ∈ [Operation.sta acc, .stx, .ldx, .inx, .dex, .modify .inc target, .modify .dec target,
      .branch condition], op.KeepsCarry := by
  simp [KeepsCarry, flags, Modification.flags]

namespace Cpu

variable {M : Type} [AddressSpace M]

open AddressSpace

/-- The next step executes the operation on an operand at `address`, found in some mode. -/
def Executes (c : Cpu M) (op : Operation) (address : UInt16) : Prop :=
  c.state = .running ∧
    ∃ i, decode c.opcode = some i ∧ i.operation = op ∧ c.operandAddress i.mode = address

/-- Steps that keep the carry lead from one state to another, and write some addresses. -/
inductive Interlude : Cpu M → List UInt16 → Cpu M → Prop
  | done (c : Cpu M) : Interlude c [] c
  | step {c d : Cpu M} {op : Operation} {address : UInt16} {addresses : List UInt16}
      (executes : c.Executes op address) (keeps : op.KeepsCarry)
      (rest : Interlude c.step.cpu addresses d) :
      Interlude c (op.written address c.registers.sp ++ addresses) d

/-! ## Rounds -/

/-- What a round met. -/
structure Turn where
  left : UInt8
  leftAddress : UInt16
  right : UInt8
  rightAddress : UInt16
  /-- The accumulator afterwards. -/
  result : UInt8
  /-- The addresses that are written after the round and before the next one. -/
  written : List UInt16

/-- What is written after a round is not read by a later one. -/
def Turn.Spares (t u : Turn) : Prop :=
  u.leftAddress ∉ t.written ∧ u.rightAddress ∉ t.written

/-- The operands are what the memory holds at their addresses. -/
def Turn.Finds (m : M) (t : Turn) : Prop :=
  t.left = read m t.leftAddress ∧ t.right = read m t.rightAddress

/-- The next two steps load a byte into an accumulator and combine it with another one. -/
structure Round (o : ChainOperation) (acc : Accumulator) (c : Cpu M) (t : Turn) : Prop where
  loads : c.Executes (.combine .lda acc) t.leftAddress
  left : read c.memory t.leftAddress = t.left
  combines : c.step.cpu.Executes (.combine o.combination acc) t.rightAddress
  right : read c.step.cpu.memory t.rightAddress = t.right
  result : c.step.cpu.step.cpu.registers.accumulator acc = t.result

/-- One round or more lead from one state to another, with steps between them that keep the carry. -/
inductive Rounds (o : ChainOperation) (acc : Accumulator) : Cpu M → List Turn → Cpu M → Prop
  | last {c : Cpu M} {t : Turn} (round : Round o acc c t) (ended : t.written = []) :
      Rounds o acc c [t] c.step.cpu.step.cpu
  | more {c d e : Cpu M} {t : Turn} {turns : List Turn} (round : Round o acc c t)
      (between : Interlude c.step.cpu.step.cpu t.written d) (rest : Rounds o acc d turns e) :
      Rounds o acc c (t :: turns) e

variable {c d e : Cpu M} {o : ChainOperation} {acc : Accumulator} {t : Turn} {turns : List Turn}

theorem Executes.footprint {op : Operation} {address : UInt16} (h : c.Executes op address) :
    Footprint op address c c.step.cpu := by
  obtain ⟨running, i, defined, rfl, rfl⟩ := h
  exact footprint_step running defined

/-- The accumulator and the flags after it is combined with an operand. -/
theorem Executes.combine {m : Combination} {address : UInt16}
    (h : c.Executes (.combine m acc) address) :
    (c.step.cpu.registers.accumulator acc, c.step.cpu.registers.ccr) =
      m.apply (c.registers.accumulator acc) (read c.memory address) c.registers.ccr := by
  obtain ⟨running, i, defined, operation, rfl⟩ := h
  rw [(step_defined running defined).1, execute, operation]
  cases acc <;> rfl

theorem Executes.memory_combine {m : Combination} {address : UInt16}
    (h : c.Executes (.combine m acc) address) : c.step.cpu.memory = c.memory := by
  obtain ⟨bytes, none, memory⟩ := h.footprint.memory
  rw [memory, List.map_eq_nil_iff.mp none, writeBytes_nil]

/-- The flags and the memory after a byte of memory is modified. -/
theorem Executes.modify {m : Modification} {address : UInt16}
    (h : c.Executes (.modify m .memory) address) :
    c.step.cpu.registers.ccr = (m.apply (read c.memory address) c.registers.ccr).2 ∧
      c.step.cpu.memory = if m.writes then
          write c.memory address (m.apply (read c.memory address) c.registers.ccr).1
        else c.memory := by
  obtain ⟨running, i, defined, operation, rfl⟩ := h
  rw [(step_defined running defined).1, execute, operation]
  cases m <;> exact ⟨rfl, rfl⟩

theorem Interlude.carry_eq {addresses : List UInt16} (h : Interlude c addresses d) :
    d.registers.ccr.carry = c.registers.ccr.carry := by
  induction h with
  | done c => rfl
  | step executes keeps rest ih => exact ih.trans (executes.footprint.flags .carry keeps)

/-- A round is a chain of one byte. -/
theorem Round.chainSum (h : Round o acc c t) :
    ChainSum o c.registers.ccr.carry [t.left] [t.right] [t.result]
      c.step.cpu.step.cpu.registers.ccr := by
  have loaded : c.step.cpu.registers.accumulator acc = t.left :=
    (Prod.mk.inj h.loads.combine).1.trans h.left
  have carry : c.step.cpu.registers.ccr.carry = c.registers.ccr.carry := by
    apply h.loads.footprint.flags .carry
    simp [Operation.flags, Combination.flags]
  have combined := h.combines.combine
  rw [loaded, h.right, h.result] at combined
  have exact := ChainSum.byte t.left t.right c.step.cpu.registers.ccr o
  rwa [← combined, carry] at exact

/-- A round only reads. -/
theorem Round.memory_eq (h : Round o acc c t) : c.step.cpu.step.cpu.memory = c.memory :=
  h.combines.memory_combine.trans h.loads.memory_combine

theorem Rounds.ne_nil (h : Rounds o acc c turns d) : turns ≠ [] := by
  cases h <;> simp

/-- The rounds are one chain. -/
theorem Rounds.chainSum (h : Rounds o acc c turns d) :
    ChainSum o c.registers.ccr.carry (turns.map Turn.left) (turns.map Turn.right)
      (turns.map Turn.result) d.registers.ccr := by
  induction h with
  | last round ended => exact round.chainSum
  | more round between rest ih =>
    -- the carry of the round is still there when the next one begins
    rw [between.carry_eq] at ih
    apply round.chainSum.cons ih
    · simpa using rest.ne_nil
    · simp
    · simp

/-! ## Operands in memory -/

theorem Round.finds (h : Round o acc c t) : t.Finds c.memory := by
  have right := h.right
  rw [h.loads.memory_combine] at right
  exact ⟨h.left.symm, right.symm⟩

section Operands

variable {P : M → Prop} {cell : UInt16 → Prop} {addresses : List UInt16}

/-- A byte that is modified in a cell is found there afterwards, whether it was written or only
tested, and nothing changes anywhere else. -/
theorem Executes.cell_modify (hS : Storage P cell) {m : Modification} {address : UInt16}
    (h : c.Executes (.modify m .memory) address) (hP : P c.memory) (inside : cell address) :
    P c.step.cpu.memory ∧
      read c.step.cpu.memory address = (m.apply (read c.memory address) c.registers.ccr).1 ∧
      ∀ other, other ≠ address → read c.step.cpu.memory other = read c.memory other := by
  rw [h.modify.2]
  cases m with
  | tst => exact ⟨hP, rfl, fun _ _ => rfl⟩
  | _ =>
    exact ⟨hS.kept hP inside _, hS.read_self hP inside _,
      fun other apart => hS.read_other hP inside _ apart⟩

/-- Between two rounds, nothing changes but what is written. -/
theorem Interlude.keeps (hS : Storage P cell) (h : Interlude c addresses d) (hP : P c.memory)
    (cells : ∀ address ∈ addresses, cell address) :
    P d.memory ∧ ∀ address ∉ addresses, read d.memory address = read c.memory address := by
  induction h with
  | done c => exact ⟨hP, fun _ _ => rfl⟩
  | step executes keeps rest ih =>
    obtain ⟨bytes, written, memory⟩ := executes.footprint.memory
    rw [← written] at cells ⊢
    have inside : ∀ w ∈ bytes, cell w.1 := by
      intro w hw
      apply cells
      exact List.mem_append_left _ (List.mem_map_of_mem hw)
    obtain ⟨kept, same⟩ := ih (by rw [memory]; exact hS.kept_writeBytes hP inside)
      (fun address later => cells address (List.mem_append_right _ later))
    refine ⟨kept, fun address apart => ?_⟩
    rw [List.mem_append, not_or] at apart
    rw [same address apart.2, memory]
    exact hS.read_writeBytes_of_notMem hP inside apart.1

/-- Operands that are not written over before they are read are what the memory held at first. -/
theorem Rounds.finds (hS : Storage P cell) (h : Rounds o acc c turns d) (hP : P c.memory)
    (cells : ∀ t ∈ turns, ∀ address ∈ t.written, cell address)
    (spared : turns.Pairwise Turn.Spares) :
    ∀ t ∈ turns, t.Finds c.memory := by
  induction h with
  | last round ended =>
    intro t member
    obtain rfl := List.mem_singleton.mp member
    exact round.finds
  | more round between rest ih =>
    rw [List.forall_mem_cons] at cells
    rw [List.pairwise_cons] at spared
    obtain ⟨kept, same⟩ := between.keeps hS (by rw [round.memory_eq]; exact hP) cells.1
    intro t member
    rcases List.mem_cons.mp member with rfl | later
    · exact round.finds
    · obtain ⟨left, right⟩ := ih kept cells.2 spared.2 t later
      obtain ⟨left', right'⟩ := spared.1 t later
      rw [same _ left', round.memory_eq] at left
      rw [same _ right', round.memory_eq] at right
      exact ⟨left, right⟩

end Operands

/-- Adding and subtracting numbers of many bytes is exact. -/
theorem rounds_exact (run : Rounds o acc c turns d) :
    ChainSum o c.registers.ccr.carry (turns.map Turn.left) (turns.map Turn.right)
        (turns.map Turn.result) d.registers.ccr ∧
      (∀ {N : Type} [AddressSpace N] {acc' : Accumulator} {c' d' : Cpu N} {turns' : List Turn},
        Rounds o acc' c' turns' d' → c'.registers.ccr.carry = c.registers.ccr.carry →
        turns'.map Turn.left = turns.map Turn.left → turns'.map Turn.right = turns.map Turn.right →
        turns'.map Turn.result = turns.map Turn.result ∧
          d'.registers.ccr.carry = d.registers.ccr.carry ∧
          d'.registers.ccr.overflow = d.registers.ccr.overflow ∧
          d'.registers.ccr.negative = d.registers.ccr.negative) ∧
      ∀ {P : M → Prop} {cell : UInt16 → Prop}, Storage P cell → P c.memory →
        (∀ t ∈ turns, ∀ address ∈ t.written, cell address) → turns.Pairwise Turn.Spares →
        ∀ t ∈ turns, t.Finds c.memory := by
  refine ⟨run.chainSum, ?_, fun hS hP cells spared => run.finds hS hP cells spared⟩
  intro N _ acc' c' d' turns' run' carry left right
  have sum := run'.chainSum
  rw [carry, left, right] at sum
  have length := congrArg List.length left
  exact sum.unique run.chainSum (by simpa using length.symm)

/-- An instruction on the byte behind it is executed, and the next one stands behind that byte. -/
theorem executes_immediate {m : Combination} {opcode : UInt8} {cycles : Nat}
    (running : c.state = .running)
    (defined : decode c.opcode = some ⟨opcode, .combine m acc, .immediate, cycles⟩) :
    c.Executes (.combine m acc) (c.registers.pc + 1) ∧ c.step.cpu.state = .running ∧
      c.step.cpu.registers.pc = c.registers.pc + 2 := by
  refine ⟨⟨running, _, defined, rfl, rfl⟩, ?_⟩
  rw [(step_defined running defined).1]
  cases acc <;> exact ⟨running, rfl⟩

/-- A byte is stored, and the next instruction stands behind the byte that tells the address. -/
theorem executes_store {opcode : UInt8} {cycles : Nat} (running : c.state = .running)
    (defined : decode c.opcode = some ⟨opcode, .sta acc, .direct, cycles⟩) :
    c.Executes (.sta acc) (c.operandAddress .direct) ∧ c.step.cpu.state = .running ∧
      c.step.cpu.registers.pc = c.registers.pc + 2 ∧
      c.step.cpu.memory =
        write c.memory (c.operandAddress .direct) (c.registers.accumulator acc) := by
  refine ⟨⟨running, _, defined, rfl, rfl⟩, ?_⟩
  rw [(step_defined running defined).1]
  cases acc <;> exact ⟨running, rfl, rfl⟩

/-- A program that adds one to the number 7FFF of two bytes, and stores the low byte of the sum where
that of the number was. -/
def incrementing : List UInt8 :=
  [0x86, 0xFF, 0x89, 0x01, 0x97, 0x01, 0x86, 0x7F, 0x89, 0x00]

/-- A processor at the beginning of the program. -/
def atIncrementing : Cpu FlatMemory :=
  { memory := .imaging fun address => incrementing.getD address.toNat 0 }

/-- What the two rounds meet. -/
def incrementingTurns (low high : UInt8) : List Turn :=
  [⟨0xFF, 1, 0x01, 3, low, [1]⟩, ⟨0x7F, 7, 0x00, 9, high, []⟩]

theorem rounds_incrementing (c₀ : Cpu M) (running₀ : c₀.state = .running)
    (pc₀ : c₀.registers.pc = 0)
    (reads : ∀ address, read c₀.memory address = incrementing.getD address.toNat 0)
    (reads' : ∀ value address, address ≠ 1 →
      read (write c₀.memory 1 value) address = incrementing.getD address.toNat 0) :
    ∃ low high d, Rounds .adc .a c₀ (incrementingTurns low high) d := by
  -- the first round
  have defined₀ : decode c₀.opcode = some ⟨0x86, .combine .lda .a, .immediate, 2⟩ := by
    rw [opcode, pc₀, reads, OpcodeMap.decode_eq]
    rfl
  obtain ⟨loads₀, running₁, pc₁⟩ := executes_immediate running₀ defined₀
  have memory₁ := loads₀.memory_combine
  rw [pc₀] at loads₀ pc₁
  have defined₁ : decode c₀.step.cpu.opcode = some ⟨0x89, .combine .adc .a, .immediate, 2⟩ := by
    rw [opcode, pc₁, memory₁, reads, OpcodeMap.decode_eq]
    rfl
  obtain ⟨adds₁, running₂, pc₂⟩ := executes_immediate running₁ defined₁
  have memory₂ := adds₁.memory_combine.trans memory₁
  rw [pc₁] at adds₁ pc₂
  generalize next₂ : c₀.step.cpu.step.cpu = c₂ at running₂ pc₂ memory₂
  -- the store
  have defined₂ : decode c₂.opcode = some ⟨0x97, .sta .a, .direct, 4⟩ := by
    rw [opcode, pc₂, memory₂, reads, OpcodeMap.decode_eq]
    rfl
  have address₂ : c₂.operandAddress .direct = 1 := by
    rw [operandAddress, pc₂, memory₂, reads]
    rfl
  obtain ⟨stores₂, running₃, pc₃, memory₃⟩ := executes_store running₂ defined₂
  rw [address₂] at stores₂ memory₃
  rw [memory₂] at memory₃
  rw [pc₂] at pc₃
  generalize next₃ : c₂.step.cpu = c₃ at memory₃ pc₃ running₃
  -- the second round
  have defined₃ : decode c₃.opcode = some ⟨0x86, .combine .lda .a, .immediate, 2⟩ := by
    rw [opcode, pc₃, memory₃, reads' _ _ (by decide), OpcodeMap.decode_eq]
    rfl
  obtain ⟨loads₃, running₄, pc₄⟩ := executes_immediate running₃ defined₃
  have memory₄ := loads₃.memory_combine
  rw [pc₃] at loads₃ pc₄
  have defined₄ : decode c₃.step.cpu.opcode = some ⟨0x89, .combine .adc .a, .immediate, 2⟩ := by
    rw [opcode, pc₄, memory₄, memory₃, reads' _ _ (by decide), OpcodeMap.decode_eq]
    rfl
  obtain ⟨adds₄, -, -⟩ := executes_immediate running₄ defined₄
  rw [pc₄] at adds₄
  have first : Round .adc .a c₀ ⟨0xFF, 1, 0x01, 3, c₂.registers.a, [1]⟩ := by
    refine ⟨loads₀, reads 1, adds₁, ?_, by rw [next₂]; rfl⟩
    rw [memory₁]
    exact reads 3
  have second : Round .adc .a c₃ ⟨0x7F, 7, 0x00, 9, c₃.step.cpu.step.cpu.registers.a, []⟩ := by
    refine ⟨loads₃, ?_, adds₄, ?_, rfl⟩
    · rw [memory₃]
      exact reads' _ 7 (by decide)
    · rw [memory₄, memory₃]
      exact reads' _ 9 (by decide)
  have between : Interlude c₂ [1] c₃ := by
    have keeps : (Operation.sta .a).KeepsCarry := Operation.keepsCarry_between .a .a .always _ (by simp)
    rw [← next₃]
    exact .step stores₂ keeps (.done _)
  rw [← next₂] at between
  exact ⟨_, _, _, .more first between (.last second rfl)⟩

/-- The sum is 8000, which is negative and too large in two's complement, and the low byte of the number
is written over only when it has been read. -/
theorem rounds_exact_incrementing :
    ∃ turns d, Rounds .adc .a atIncrementing turns d ∧
      turns.map Turn.left = [0xFF, 0x7F] ∧ turns.map Turn.right = [0x01, 0x00] ∧
      ofBytes (turns.map Turn.result) = 0x8000 ∧ d.registers.ccr.carry = false ∧
      d.registers.ccr.overflow = true ∧ d.registers.ccr.negative = true ∧
      ∀ t ∈ turns, t.Finds atIncrementing.memory := by
  have reads (address : UInt16) :
      read atIncrementing.memory address = incrementing.getD address.toNat 0 := by
    rw [atIncrementing, FlatMemory.read_imaging]
  obtain ⟨low, high, d, run⟩ := rounds_incrementing atIncrementing (by rw [atIncrementing])
    (by rw [atIncrementing]) reads fun value address other =>
      (atIncrementing.memory.read_write_of_ne value other.symm).trans (reads address)
  obtain ⟨chain, -, found⟩ := rounds_exact run
  have start : atIncrementing.registers.ccr.carry = false := by rw [atIncrementing]
  have sum : (low.toNat : Int) + 256 * high.toNat + d.registers.ccr.carry.toNat * 65536 = 0x8000 := by
    simpa [start, incrementingTurns, ofBytes_cons, ofBytes_nil, ChainOperation.sign] using chain.sum
  have number : ofBytes [low, high] = 0x8000 ∧ d.registers.ccr.carry = false := by
    have boundLow := low.toNat_lt
    rw [ofBytes_cons, ofBytes_singleton]
    cases carry : d.registers.ccr.carry with
    | false =>
      rw [carry, Bool.toNat_false] at sum
      refine ⟨?_, rfl⟩
      omega
    | true =>
      rw [carry, Bool.toNat_true] at sum
      exfalso
      omega
  have overflow : d.registers.ccr.overflow = true := by
    rw [chain.overflow]
    simp [start, incrementingTurns, FitsBytes, signedOfBytes, ofBytes_cons, ofBytes_nil,
      ChainOperation.sign]
  have negative : d.registers.ccr.negative = true := by
    rw [chain.negative]
    show signedOfBytes [low, high] < 0
    simp [signedOfBytes, number.1]
  refine ⟨_, d, run, rfl, rfl, number.1, number.2, overflow, negative, ?_⟩
  apply found FlatMemory.storage trivial (fun _ _ _ _ => trivial)
  simp [incrementingTurns, Turn.Spares]

end Cpu

end Trainer6800
