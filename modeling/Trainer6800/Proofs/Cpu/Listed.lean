import Trainer6800.Proofs.Cpu.Footprint
import Trainer6800.Proofs.Instruction.Operand

/-!
# What a listing says of execution

Whoever reads a listing takes from a line where the next instruction is, where a branch goes, and which
byte of memory an instruction loads or stores.  The processor finds all of this out for itself, and
`Cpu.listing_tells` says that the two agree: whatever is read off a line is what the step does.

What is read off a line is its length and its operand (`ListingLine.operand?`), and no more of memory
than they say.  `Cpu.Told` spells out what follows from them for each operation.
-/

namespace Trainer6800

/-! ## Operations and modes -/

namespace Operation

/-- Whether an operation may send the processor elsewhere than to the next instruction. -/
def transfers : Operation → Bool
  | branch _ | bsr | jmp | jsr | rts | rti | swi => true
  | _ => false

/-- The modes that an operation comes in. -/
def modes : Operation → List AddressingMode
  | branch _ | bsr => [.relative]
  | jmp | jsr | modify _ .memory => [.indexed, .extended]
  | combine _ _ => [.immediate, .direct, .indexed, .extended]
  | cpx | lds | ldx => [.immediateWord, .direct, .indexed, .extended]
  | sta _ | sts | stx => [.direct, .indexed, .extended]
  | _ => [.inherent]

end Operation

/-- There are no other forms among the opcodes. -/
theorem OpcodeMap.mode_mem_modes {opcode : UInt8} {i : Instruction} (h : decode opcode = some i) :
    i.mode ∈ i.operation.modes := by
  have all : ∀ n : Fin 256, ∀ i ∈ defineOpcode (UInt8.ofFin n), i.mode ∈ i.operation.modes := by
    decide +kernel
  have known := all opcode.toFin
  rw [UInt8.ofFin_toFin, ← decode_eq] at known
  exact known i h

/-! ## Reading an operand -/

namespace PrintedOperand

variable {M : Type} [AddressSpace M]

open AddressSpace

/-- The address that an operand names when the index register holds `x`. -/
def address? (x : UInt16) : PrintedOperand → Option UInt16
  | direct address => some address.toUInt16
  | indexed offset => some (x + offset.toUInt16)
  | absolute address => some address
  | absent | byte _ | word _ => none

/-- The byte that is meant: the one that is written there, or the one at the address. -/
def byte? (m : M) (x : UInt16) : PrintedOperand → Option UInt8
  | byte value => some value
  | o => (o.address? x).map (read m)

/-- The word that is meant. -/
def word? (m : M) (x : UInt16) : PrintedOperand → Option UInt16
  | word value => some value
  | o => (o.address? x).map (readWord m)

end PrintedOperand

namespace Cpu

variable {M : Type} [AddressSpace M] {c d : Cpu M}

open AddressSpace

/-- The operand of the instruction at the program counter. -/
def printedOperand (c : Cpu M) (mode : AddressingMode) : PrintedOperand :=
  .ofMemory c.memory c.registers.pc mode

section
variable {mode : AddressingMode}

/-- The address that is printed is the one that the processor finds. -/
theorem address?_printedOperand (c : Cpu M) (names : mode ∈ [.relative, .direct, .indexed, .extended]) :
    (c.printedOperand mode).address? c.registers.x = some (c.operandAddress mode) := by
  cases mode with
  | inherent | immediate | immediateWord => simp at names
  | direct | indexed | extended | relative => rfl

theorem byte?_printedOperand (c : Cpu M) (names : mode ∈ [.immediate, .direct, .indexed, .extended]) :
    (c.printedOperand mode).byte? c.memory c.registers.x =
      some (read c.memory (c.operandAddress mode)) := by
  cases mode with
  | inherent | immediateWord | relative => simp at names
  | immediate | direct | indexed | extended => rfl

theorem word?_printedOperand (c : Cpu M)
    (names : mode ∈ [.immediateWord, .direct, .indexed, .extended]) :
    (c.printedOperand mode).word? c.memory c.registers.x =
      some (readWord c.memory (c.operandAddress mode)) := by
  cases mode with
  | inherent | immediate | relative => simp at names
  | immediateWord | direct | indexed | extended => rfl

end

/-! ## What is told -/

/-- What an operation, its operand and the address of the next line tell of a step from `c` to `d`. -/
structure Told (op : Operation) (operand : PrintedOperand) (next : UInt16) (c d : Cpu M) : Prop where
  proceeds : op.transfers = false → d.registers.pc = next
  notTaken : ∀ condition, op = .branch condition → condition.holds c.registers.ccr = false →
    d.registers.pc = next
  taken : ∀ condition, op = .branch condition → condition.holds c.registers.ccr = true →
    operand = .absolute d.registers.pc
  branchesAway : op = .bsr → operand = .absolute d.registers.pc
  jumps : op = .jmp ∨ op = .jsr → operand.address? c.registers.x = some d.registers.pc
  /-- A call stacks the address of the next line, and nothing else. -/
  calls : op = .bsr ∨ op = .jsr → d.registers.sp = c.registers.sp - 2 ∧
    d.memory = writeBytes c.memory
      [(c.registers.sp, lowByte next), (c.registers.sp - 1, highByte next)]
  combines : ∀ m acc, op = .combine m acc → ∃ value,
    operand.byte? c.memory c.registers.x = some value ∧
      (d.registers.accumulator acc, d.registers.ccr) =
        m.apply (c.registers.accumulator acc) value c.registers.ccr
  compares : op = .cpx → ∃ value, operand.word? c.memory c.registers.x = some value ∧
    d.registers.ccr = c.registers.ccr.compareWord c.registers.x value
  loadsSp : op = .lds → operand.word? c.memory c.registers.x = some d.registers.sp
  loadsX : op = .ldx → operand.word? c.memory c.registers.x = some d.registers.x
  stores : ∀ acc, op = .sta acc → ∃ address, operand.address? c.registers.x = some address ∧
    d.memory = write c.memory address (c.registers.accumulator acc)
  storesSp : op = .sts → ∃ address, operand.address? c.registers.x = some address ∧
    d.memory = writeWord c.memory address c.registers.sp
  storesX : op = .stx → ∃ address, operand.address? c.registers.x = some address ∧
    d.memory = writeWord c.memory address c.registers.x
  /-- A byte is changed where it is, unless it is only tested. -/
  modifies : ∀ m, op = .modify m .memory → ∃ address,
    operand.address? c.registers.x = some address ∧
      d.registers.ccr = (m.apply (read c.memory address) c.registers.ccr).2 ∧
      d.memory = if m.writes then
          write c.memory address (m.apply (read c.memory address) c.registers.ccr).1
        else c.memory

theorem pc_perform (c : Cpu M) (op : Operation) (address : UInt16) (stays : op.transfers = false) :
    (c.perform op address).registers.pc = c.registers.pc := by
  cases op with
  | branch | bsr | jmp | jsr | rts | rti | swi => cases stays
  | pul acc | combine m acc =>
    cases acc with
    | a => rfl
    | b => rfl
  | modify m target =>
    obtain ⟨a, b, ccr, memory, modified⟩ := c.exists_modify_eq m target address
    simp only [perform, modified]
  | wai => simp only [perform, pushState_eq]
  | _ => rfl

/-- A branch goes to its target or stays where it is. -/
theorem pc_perform_branch (c : Cpu M) (condition : Condition) (address : UInt16) :
    (c.perform (.branch condition) address).registers.pc =
      if condition.holds c.registers.ccr then address else c.registers.pc := by
  simp only [perform]
  split
  · rfl
  · rfl

theorem memory_modify (c : Cpu M) (m : Modification) (address : UInt16) :
    (c.modify m .memory address).memory = if m.writes then
        write c.memory address (m.apply (read c.memory address) c.registers.ccr).1
      else c.memory := by
  cases m <;> rfl

/-- An operation does what its printed operand tells, in each of its modes. -/
theorem told_perform (c : Cpu M) {op : Operation} {mode : AddressingMode} (fits : mode ∈ op.modes)
    (next : UInt16) :
    Told op (c.printedOperand mode) next c ((c.jump next).perform op (c.operandAddress mode)) := by
  have relative (only : mode ∈ [.relative]) :
      c.printedOperand mode = .absolute (c.operandAddress mode) := by
    rw [List.mem_singleton] at only
    subst only
    rfl
  have codes : (c.jump next).registers.ccr = c.registers.ccr := rfl
  have inMemory (data : mode ∈ [.direct, .indexed, .extended]) :
      (c.printedOperand mode).address? c.registers.x = some (c.operandAddress mode) :=
    c.address?_printedOperand (List.mem_cons_of_mem _ data)
  exact {
    proceeds := (c.jump next).pc_perform op (c.operandAddress mode)
    notTaken := by
      rintro condition rfl fails
      rw [pc_perform_branch, codes, fails]
      exact if_neg Bool.false_ne_true
    taken := by
      rintro condition rfl holds
      rw [pc_perform_branch, codes, if_pos holds, relative fits]
    branchesAway := by
      rintro rfl
      exact relative fits
    jumps := by
      rintro (rfl | rfl)
      · exact inMemory (List.mem_cons_of_mem _ fits)
      · exact inMemory (List.mem_cons_of_mem _ fits)
    calls := by
      have below : c.registers.sp - 1 - 1 = c.registers.sp - 2 := by grind
      rintro (rfl | rfl)
      · exact ⟨below, rfl⟩
      · exact ⟨below, rfl⟩
    combines := by
      rintro m acc rfl
      refine ⟨_, c.byte?_printedOperand fits, ?_⟩
      cases acc with
      | a => rfl
      | b => rfl
    compares := by
      rintro rfl
      exact ⟨_, c.word?_printedOperand fits, rfl⟩
    loadsSp := by
      rintro rfl
      exact c.word?_printedOperand fits
    loadsX := by
      rintro rfl
      exact c.word?_printedOperand fits
    stores := by
      rintro acc rfl
      exact ⟨_, inMemory fits, rfl⟩
    storesSp := by
      rintro rfl
      exact ⟨_, inMemory fits, rfl⟩
    storesX := by
      rintro rfl
      exact ⟨_, inMemory fits, rfl⟩
    modifies := by
      rintro m rfl
      refine ⟨_, inMemory (List.mem_cons_of_mem _ fits), ?_, (c.jump next).memory_modify m _⟩
      obtain ⟨bytes, -, modified⟩ := (c.jump next).modify_memory m (c.operandAddress mode)
      simp only [perform, modified]
      rfl }

/-! ## Lines -/

/-- What a line tells of a step: an opcode that stops the processor is listed as a byte, and of every
other instruction the line has the operand. -/
structure LineTells (l : ListingLine) (c : Cpu M) : Prop where
  undefined : ∀ e, c.step.result = .error e →
    l.text = "FCB $" ++ Hex.byte c.opcode ∧ l.length = 1 ∧
      c.step.cpu.registers.pc = c.registers.pc
  defined : ∀ n, c.step.result = .ok n → ∃ i operand,
    decode c.opcode = some i ∧ l.text = i.mnemonic ++ operand.text ∧ l.operand? = some operand ∧
      operand.Shows i.mode ∧ Told i.operation operand l.next c c.step.cpu

/-- The disassembler tells the truth.  On whatever memory, the line that it lists at the program counter
of a running processor says where the next step leads: an undefined opcode is listed as a byte and left
where it is; otherwise control goes on behind the line unless the instruction transfers it, a branch that
is taken and a call go to the address on the line, calls stack the address behind the line, and what is
loaded, stored or changed is the value on the line or stands at its address. -/
theorem listing_tells (running : c.state = .running) :
    LineTells (ListingLine.ofAddress c.memory c.registers.pc) c := by
  cases decoded : decode c.opcode with
  | none =>
    obtain ⟨next, result⟩ := step_undefined running decoded
    rw [ListingLine.ofAddress_undefined decoded]
    refine ⟨fun e _ => ⟨rfl, rfl, by rw [next]⟩, fun n took => ?_⟩
    rw [result] at took
    cases took
  | some i =>
    obtain ⟨next, result⟩ := step_defined running decoded
    have text := ListingLine.ofAddress_defined decoded
    have told := c.told_perform (OpcodeMap.mode_mem_modes decoded)
      (c.registers.pc + UInt16.ofNat i.length)
    refine ⟨fun e failed => ?_, fun n _ => ⟨i, c.printedOperand i.mode, decoded, ?_, ?_, ?_, ?_⟩⟩
    · rw [result] at failed
      cases failed
    · rw [text]
      rfl
    · rw [text]
      exact ListingLine.operand?_of_text rfl
    · exact PrintedOperand.shows_ofMemory _ _ _
    · rw [text, next]
      exact { told with }

/-- A processor among calls whose offset is negative. -/
def amongCalls : Cpu FlatMemory :=
  { registers := { sp := 0x1F }, memory := .filled 0x8D }

/-- The first of them leads from the bottom of the address space to the top. -/
theorem listing_tells_bsr :
    (ListingLine.ofAddress amongCalls.memory 0).text = "BSR $FF8F" ∧
      amongCalls.step.cpu.registers.pc = 0xFF8F ∧
      amongCalls.step.cpu.memory = writeBytes amongCalls.memory [(0x1F, 0x02), (0x1E, 0x00)] := by
  have running : amongCalls.state = .running := rfl
  have reads : ∀ address, read amongCalls.memory address = 0x8D := FlatMemory.read_filled 0x8D
  have defined : decode amongCalls.opcode = some ⟨0x8D, .bsr, .relative, 8⟩ := by
    rw [opcode, reads, OpcodeMap.decode_eq]
    rfl
  have line := ListingLine.ofAddress_defined defined
  have text : (ListingLine.ofAddress amongCalls.memory 0).text = "BSR $FF8F" := by
    show (ListingLine.ofAddress amongCalls.memory amongCalls.registers.pc).text = _
    rw [line, PrintedOperand.ofMemory, reads]
    decide +kernel
  obtain ⟨i, operand, decoded, -, onLine, -, told⟩ :=
    (listing_tells running).defined 8 (step_defined running defined).2
  rw [defined] at decoded
  cases decoded
  have target : operand = .absolute 0xFF8F := by
    have printed : PrintedOperand.ofChars? ("BSR $FF8F".toList.dropWhile (· != ' ')) =
        some (.absolute 0xFF8F) := by
      decide +kernel
    refine Option.some.inj (onLine.symm.trans ?_)
    show PrintedOperand.ofChars? ((ListingLine.ofAddress amongCalls.memory 0).text.toList.dropWhile
      (· != ' ')) = _
    rw [text, printed]
  have goes := told.branchesAway rfl
  have pushed := (told.calls (.inl rfl)).2
  rw [target] at goes
  rw [line] at pushed
  exact ⟨text, (PrintedOperand.absolute.inj goes).symm, pushed⟩

end Cpu

end Trainer6800
