import Trainer6800.Proofs.Cpu.MultiByte

/-!
# Forms of an instruction

Every combination stands in eight rows of the opcode map, four for each accumulator, and every
modification in four rows.  The rows differ in where the operand is, and in nothing else: what comes out
depends on the operation, the byte, and the registers that the operation sees (`Cpu.forms_uniform`).

An operation on accumulator B sees the registers as one on accumulator A would if the two accumulators
changed places.  This is what `Registers.facing` says, which leaves out the program counter as well, since
the forms have different lengths.
-/

namespace Trainer6800

/-! ## Opcodes -/

/-- The column of the opcode map that a combination stands in. -/
def Combination.column : Combination → UInt8
  | sub => 0x0
  | cmp => 0x1
  | sbc => 0x2
  | and => 0x4
  | bit => 0x5
  | lda => 0x6
  | eor => 0x8
  | adc => 0x9
  | ora => 0xA
  | add => 0xB

/-- The column of the opcode map that a modification stands in. -/
def Modification.column : Modification → UInt8
  | neg => 0x0
  | com => 0x3
  | lsr => 0x4
  | ror => 0x6
  | asr => 0x7
  | asl => 0x8
  | rol => 0x9
  | dec => 0xA
  | inc => 0xC
  | tst => 0xD
  | clr => 0xF

/-- The forms of an operand that is read. -/
inductive OperandForm where
  | immediate
  | direct
  | indexed
  | extended
  deriving DecidableEq, Repr

namespace OperandForm

def mode : OperandForm → AddressingMode
  | immediate => .immediate
  | direct => .direct
  | indexed => .indexed
  | extended => .extended

/-- The row of accumulator A. -/
def row : OperandForm → UInt8
  | immediate => 0x80
  | direct => 0x90
  | indexed => 0xA0
  | extended => 0xB0

end OperandForm

/-- How far the rows of an accumulator are from those of accumulator A. -/
def Accumulator.rowOffset : Accumulator → UInt8
  | a => 0
  | b => 0x40

/-- The forms of an operand that is modified. -/
inductive TargetForm where
  | accumulator (acc : Accumulator)
  | indexed
  | extended
  deriving DecidableEq, Repr

namespace TargetForm

def target : TargetForm → Target
  | accumulator .a => .a
  | accumulator .b => .b
  | indexed | extended => .memory

def mode : TargetForm → AddressingMode
  | accumulator _ => .inherent
  | indexed => .indexed
  | extended => .extended

def row : TargetForm → UInt8
  | accumulator .a => 0x40
  | accumulator .b => 0x50
  | indexed => 0x60
  | extended => 0x70

end TargetForm

/-- The opcode of a form of a combination. -/
def Combination.opcode (op : Combination) (form : OperandForm) (acc : Accumulator) : UInt8 :=
  form.row + op.column + acc.rowOffset

/-- The opcode of a form of a modification. -/
def Modification.opcode (op : Modification) (form : TargetForm) : UInt8 :=
  form.row + op.column

theorem OpcodeMap.decode_combination (op : Combination) (form : OperandForm) (acc : Accumulator) :
    ∃ i, decode (op.opcode form acc) = some i ∧ i.operation = .combine op acc ∧ i.mode = form.mode := by
  rw [decode_eq]
  cases op <;> cases form <;> cases acc <;> exact ⟨_, rfl, rfl, rfl⟩

theorem OpcodeMap.decode_modification (op : Modification) (form : TargetForm) :
    ∃ i, decode (op.opcode form) = some i ∧ i.operation = .modify op form.target ∧
      i.mode = form.mode := by
  rw [decode_eq]
  rcases form with acc | _ | _
  · cases op <;> cases acc <;> exact ⟨_, rfl, rfl, rfl⟩
  · cases op <;> exact ⟨_, rfl, rfl, rfl⟩
  · cases op <;> exact ⟨_, rfl, rfl, rfl⟩

/-! ## Registers -/

namespace Registers

/-- The registers apart from the program counter, with the given accumulator in the place of
accumulator A. -/
def facing (r : Registers) : Accumulator → Registers
  | .a => { r with pc := 0 }
  | .b => { r with a := r.b, b := r.a, pc := 0 }

/-- The registers after accumulator A is combined with a byte. -/
def combined (r : Registers) (op : Combination) (v : UInt8) : Registers :=
  let (a, ccr) := op.apply r.a v r.ccr
  { r with a, ccr }

end Registers

namespace Cpu

variable {M : Type} [AddressSpace M] {c d : Cpu M} {acc : Accumulator}

open AddressSpace

theorem Executes.facing_combine {op : Combination} {address : UInt16}
    (h : c.Executes (.combine op acc) address) :
    c.step.cpu.registers.facing acc =
      (c.registers.facing acc).combined op (read c.memory address) := by
  obtain ⟨running, i, defined, operation, rfl⟩ := h
  rw [(step_defined running defined).1, execute, operation]
  cases acc <;> rfl

/-- The byte that a modification is about to meet. -/
def held (c : Cpu M) (form : TargetForm) : UInt8 :=
  match form with
  | .accumulator acc => c.registers.accumulator acc
  | .indexed | .extended => read c.memory (c.operandAddress form.mode)

/-- A modification leaves the byte `r` where it works, if it leaves one at all, and the flags `f`. -/
structure Modifies (op : Modification) (form : TargetForm) (r : UInt8) (f : ConditionCodes)
    (c d : Cpu M) : Prop where
  codes : d.registers.ccr = f
  accumulator : ∀ acc, form = .accumulator acc → d.registers.accumulator acc = r
  memory : d.memory = if form.target = .memory ∧ op.writes then
      write c.memory (c.operandAddress form.mode) r
    else c.memory
  /-- In a cell the byte can be read afterwards, also if it was only tested. -/
  cell : form.target = .memory → ∀ {P : M → Prop} {cell : UInt16 → Prop}, Storage P cell →
    P c.memory → cell (c.operandAddress form.mode) →
      read d.memory (c.operandAddress form.mode) = r
  others : ∀ acc, form ≠ .accumulator acc →
    d.registers.accumulator acc = c.registers.accumulator acc
  x : d.registers.x = c.registers.x
  sp : d.registers.sp = c.registers.sp

/-- No other accumulator is changed than the one that is modified. -/
theorem eq_of_mem_accumulators {op : Modification} {form : TargetForm}
    (member : acc ∈ (Operation.modify op form.target).accumulators) : form = .accumulator acc := by
  cases op with
  | tst => cases member
  | _ =>
    rcases form with (_ | _) | _ | _
    · rw [List.mem_singleton.mp member]
    · rw [List.mem_singleton.mp member]
    · cases member
    · cases member

theorem Executes.modifies {op : Modification} {form : TargetForm}
    (h : c.Executes (.modify op form.target) (c.operandAddress form.mode)) :
    Modifies op form (op.apply (c.held form) c.registers.ccr).1
      (op.apply (c.held form) c.registers.ccr).2 c c.step.cpu := by
  have footprint := h.footprint
  have others (acc : Accumulator) (apart : form ≠ .accumulator acc) :
      c.step.cpu.registers.accumulator acc = c.registers.accumulator acc :=
    footprint.accumulators acc (mt eq_of_mem_accumulators apart)
  have x := footprint.x rfl
  have sp := footprint.sp rfl
  cases form with
  | accumulator acc =>
    obtain ⟨running, i, defined, operation, -⟩ := h
    have next := (step_defined running defined).1
    rw [execute, operation] at next
    refine ⟨?_, ?_, ?_, ?_, others, x, sp⟩
    · rw [next]
      cases acc <;> rfl
    · rintro other ⟨⟩
      rw [next]
      cases acc <;> rfl
    · rw [next]
      cases acc <;> rfl
    · cases acc <;> rintro ⟨⟩
  | indexed | extended =>
    refine ⟨h.modify.1, ?_, ?_, ?_, others, x, sp⟩
    · rintro acc ⟨⟩
    · rw [h.modify.2]
      simp [TargetForm.target, held]
    · intro _ P cell hS hP inside
      exact (h.cell_modify hS hP inside).2.1

/-- The forms of an operation do the same with the same byte. -/
theorem forms_uniform :
    (∀ (op : Combination) (v : UInt8) (before : Registers), ∃ after : Registers,
      ∀ {M : Type} [AddressSpace M] {c : Cpu M} (form : OperandForm) (acc : Accumulator),
        c.state = .running → c.opcode = op.opcode form acc →
        read c.memory (c.operandAddress form.mode) = v → c.registers.facing acc = before →
        (∃ n, c.step.result = .ok n) ∧ c.step.cpu.registers.facing acc = after) ∧
    (∀ (op : Modification) (v : UInt8) (f : ConditionCodes), ∃ (r : UInt8) (g : ConditionCodes),
      ∀ {M : Type} [AddressSpace M] {c : Cpu M} (form : TargetForm),
        c.state = .running → c.opcode = op.opcode form → c.held form = v →
        c.registers.ccr = f →
        (∃ n, c.step.result = .ok n) ∧ Modifies op form r g c c.step.cpu) := by
  constructor
  · intro op v before
    refine ⟨before.combined op v, ?_⟩
    intro M _ c form acc running opcode operand faces
    obtain ⟨i, defined, operation, mode⟩ := OpcodeMap.decode_combination op form acc
    rw [← opcode] at defined
    have executes : c.Executes (.combine op acc) (c.operandAddress form.mode) :=
      ⟨running, i, defined, operation, by rw [mode]⟩
    refine ⟨⟨i.cycles, (step_defined running defined).2⟩, ?_⟩
    rw [executes.facing_combine, operand, faces]
  · intro op v f
    refine ⟨(op.apply v f).1, (op.apply v f).2, ?_⟩
    intro M _ c form running opcode held codes
    obtain ⟨i, defined, operation, mode⟩ := OpcodeMap.decode_modification op form
    rw [← opcode] at defined
    have executes : c.Executes (.modify op form.target) (c.operandAddress form.mode) :=
      ⟨running, i, defined, operation, by rw [mode]⟩
    refine ⟨⟨i.cycles, (step_defined running defined).2⟩, ?_⟩
    rw [← held, ← codes]
    exact executes.modifies

/-- A processor at address zero, with an opcode there and the byte 37 everywhere else. -/
def amongAlike (opcode : UInt8) (registers : Registers) : Cpu FlatMemory :=
  { registers, memory := .imaging fun address => if address = 0 then opcode else 0x37 }

section

variable (o : UInt8) (r : Registers)

theorem state_amongAlike : (amongAlike o r).state = .running := by
  rw [amongAlike]

theorem registers_amongAlike : (amongAlike o r).registers = r := by
  rw [amongAlike]

theorem read_amongAlike (address : UInt16) :
    read (amongAlike o r).memory address = if address = 0 then o else 0x37 := by
  rw [amongAlike, FlatMemory.read_imaging]

theorem opcode_amongAlike (start : r.pc = 0) : (amongAlike o r).opcode = o := by
  rw [opcode, registers_amongAlike, read_amongAlike, start, if_pos rfl]

theorem immediate_amongAlike (start : r.pc = 0) :
    read (amongAlike o r).memory ((amongAlike o r).operandAddress .immediate) = 0x37 := by
  rw [operandAddress, registers_amongAlike, read_amongAlike, start, if_neg (by decide)]

theorem indexed_amongAlike (start : r.pc = 0) (bottom : r.x = 0) :
    (amongAlike o r).operandAddress .indexed = 0x37 ∧
      read (amongAlike o r).memory ((amongAlike o r).operandAddress .indexed) = 0x37 := by
  have address : (amongAlike o r).operandAddress .indexed = 0x37 := by
    rw [operandAddress, registers_amongAlike, read_amongAlike, start, bottom, if_neg (by decide)]
    rfl
  refine ⟨address, ?_⟩
  rw [address, read_amongAlike, if_neg (by decide)]

end

/-- The byte is subtracted from A where it follows the opcode, and from B where it lies at an offset from
the index register; it is rotated in A and in memory. -/
theorem forms_uniform_sbc_ror :
    (amongAlike 0x82 { a := 0x10, b := 0xFE }).step.cpu.registers.facing .a =
        (amongAlike 0xE2 { a := 0xFE, b := 0x10 }).step.cpu.registers.facing .b ∧
      (amongAlike 0x46 { a := 0x37 }).step.cpu.registers.accumulator .a =
        read (amongAlike 0x66 {}).step.cpu.memory 0x37 ∧
      (amongAlike 0x46 { a := 0x37 }).step.cpu.registers.ccr =
        (amongAlike 0x66 {}).step.cpu.registers.ccr := by
  obtain ⟨combinations, modifications⟩ := forms_uniform
  obtain ⟨after, subtracts⟩ := combinations .sbc 0x37 { a := 0x10, b := 0xFE }
  obtain ⟨r, g, rotates⟩ := modifications .ror 0x37 {}
  have onA := subtracts .immediate .a (state_amongAlike 0x82 { a := 0x10, b := 0xFE })
    (opcode_amongAlike _ _ rfl) (immediate_amongAlike _ _ rfl) (by rw [registers_amongAlike]; rfl)
  have onB := subtracts .indexed .b (state_amongAlike 0xE2 { a := 0xFE, b := 0x10 })
    (opcode_amongAlike _ _ rfl) (indexed_amongAlike _ _ rfl rfl).2 (by rw [registers_amongAlike]; rfl)
  have inA := rotates (.accumulator .a) (state_amongAlike 0x46 { a := 0x37 })
    (opcode_amongAlike _ _ rfl) (by rw [held, registers_amongAlike]; rfl)
    (by rw [registers_amongAlike])
  have inMemory := rotates .indexed (state_amongAlike 0x66 {}) (opcode_amongAlike _ _ rfl)
    (indexed_amongAlike _ _ rfl rfl).2 (by rw [registers_amongAlike])
  have found := inMemory.2.cell rfl FlatMemory.storage trivial trivial
  rw [TargetForm.mode, (indexed_amongAlike _ _ rfl rfl).1] at found
  refine ⟨onA.2.trans onB.2.symm, ?_, inA.2.codes.trans inMemory.2.codes.symm⟩
  exact (inA.2.accumulator .a rfl).trans found.symm

end Cpu

end Trainer6800
