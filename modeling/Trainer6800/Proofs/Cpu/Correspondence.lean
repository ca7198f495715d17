import Trainer6800.Proofs.Cpu.Writes

/-!
# Processors on corresponding memories

The processor knows its address space only through `read` and `write`.  So if a relation between two
address spaces is such that related spaces read alike at every address and stay related when the
same byte is written to both, then two processors with equal registers on related spaces go on alike
for ever: every step, reset and interrupt gives equal registers, equal results and related spaces
again.  `AddressSpace.Correspondence` is such a relation and `Cpu.Alike` extends it to processors.

The two spaces may be of different types.  They may also be one and the same space: a property of
an address space that writes keep is the correspondence of the space with itself that has the
property, and `Correspondence.ofKept` turns each lemma below into a lemma about such properties.

Not every write need keep the relation.  With `AddressSpace.CorrespondenceOn` only writes to certain
addresses do, and processors go on alike for as long as they write to no others.
-/

namespace Trainer6800

/-- A relation between address spaces that no read can tell apart and that every write keeps. -/
structure AddressSpace.Correspondence {M N : Type} [AddressSpace M] [AddressSpace N]
    (R : M → N → Prop) : Prop where
  read : ∀ {m n}, R m n → ∀ address, AddressSpace.read m address = AddressSpace.read n address
  write : ∀ {m n}, R m n → ∀ address value,
    R (AddressSpace.write m address value) (AddressSpace.write n address value)

/-- A relation between address spaces that no read can tell apart and that writes to the addresses of
`cell` keep. -/
structure AddressSpace.CorrespondenceOn {M N : Type} [AddressSpace M] [AddressSpace N]
    (cell : UInt16 → Prop) (R : M → N → Prop) : Prop where
  read : ∀ {m n}, R m n → ∀ address, AddressSpace.read m address = AddressSpace.read n address
  write : ∀ {m n}, R m n → ∀ {address}, cell address → ∀ value,
    R (AddressSpace.write m address value) (AddressSpace.write n address value)

namespace AddressSpace

variable {M N : Type} [AddressSpace M] [AddressSpace N] {R : M → N → Prop} {cell : UInt16 → Prop}

namespace CorrespondenceOn

theorem readWord (hR : CorrespondenceOn cell R) {m : M} {n : N} (h : R m n) (address : UInt16) :
    AddressSpace.readWord m address = AddressSpace.readWord n address := by
  rw [AddressSpace.readWord, AddressSpace.readWord, hR.read h, hR.read h]

theorem writeBytes (hR : CorrespondenceOn cell R) {m : M} {n : N} (h : R m n)
    {bytes : List (UInt16 × UInt8)} (cells : ∀ w ∈ bytes, cell w.1) :
    R (AddressSpace.writeBytes m bytes) (AddressSpace.writeBytes n bytes) := by
  induction bytes generalizing m n with
  | nil => exact h
  | cons w rest ih =>
    have first := hR.write h (cells w List.mem_cons_self) w.2
    exact ih first fun w' hw => cells w' (List.mem_cons_of_mem w hw)

end CorrespondenceOn

/-- What every write keeps, writes to any addresses keep. -/
theorem Correspondence.on (hR : Correspondence R) : CorrespondenceOn (fun _ => True) R where
  read := hR.read
  write := fun h _ _ value => hR.write h _ value

/-- A property that every write keeps makes a space correspond to itself. -/
theorem Correspondence.ofKept {P : M → Prop}
    (kept : ∀ {m}, P m → ∀ address value, P (AddressSpace.write m address value)) :
    Correspondence fun m n : M => m = n ∧ P m where
  read := by
    rintro m n ⟨rfl, -⟩ address
    rfl
  write := by
    rintro m n ⟨rfl, h⟩ address value
    exact ⟨rfl, kept h address value⟩

end AddressSpace

namespace Cpu

variable {M N : Type}

/-- Equal registers, execution state and cycle counter, on related address spaces. -/
structure Alike (R : M → N → Prop) (c : Cpu M) (d : Cpu N) : Prop where
  registers : c.registers = d.registers
  state : c.state = d.state
  cycles : c.cycles = d.cycles
  memory : R c.memory d.memory

variable [AddressSpace M] [AddressSpace N] {R : M → N → Prop} {cell : UInt16 → Prop}

open AddressSpace

namespace Alike

section

variable {c : Cpu M} {d : Cpu N}

omit [AddressSpace M] [AddressSpace N] in
/-- Equal registers may be replaced by equal registers. -/
theorem withRegisters (h : Alike R c d) {r s : Registers} (hr : r = s) :
    Alike R { c with registers := r } { d with registers := s } :=
  ⟨hr, h.state, h.cycles, h.memory⟩

omit [AddressSpace M] [AddressSpace N] in
/-- Both may go over to the same execution state. -/
theorem withState (h : Alike R c d) (s : ExecState) :
    Alike R { c with state := s } { d with state := s } :=
  ⟨h.registers, rfl, h.cycles, h.memory⟩

omit [AddressSpace M] [AddressSpace N] in
theorem isHalted (h : Alike R c d) : c.isHalted = d.isHalted := by
  rw [Cpu.isHalted, Cpu.isHalted, h.state]

omit [AddressSpace M] [AddressSpace N] in
theorem acceptsIrq (h : Alike R c d) : c.acceptsIrq = d.acceptsIrq := by
  rw [Cpu.acceptsIrq, Cpu.acceptsIrq, h.registers, h.isHalted]

/-! ## The stack -/

theorem push (hR : CorrespondenceOn cell R) (h : Alike R c d) (top : cell c.registers.sp)
    (value : UInt8) : Alike R (c.push value) (d.push value) where
  registers := by rw [Cpu.push, Cpu.push, h.registers]
  state := h.state
  cycles := h.cycles
  memory := by
    rw [Cpu.push, Cpu.push, ← h.registers]
    exact hR.write h.memory top _

theorem pull (hR : CorrespondenceOn cell R) (h : Alike R c d) :
    c.pull.1 = d.pull.1 ∧ Alike R c.pull.2 d.pull.2 := by
  refine ⟨?_, ⟨?_, h.state, h.cycles, h.memory⟩⟩
  · rw [Cpu.pull, Cpu.pull, h.registers]
    exact hR.read h.memory _
  · rw [Cpu.pull, Cpu.pull, h.registers]

theorem pushWord (hR : CorrespondenceOn cell R) (h : Alike R c d)
    (cells : ∀ address ∈ stackArea c.registers.sp 2, cell address) (value : UInt16) :
    Alike R (c.pushWord value) (d.pushWord value) := by
  have top : cell c.registers.sp := cells _ (by simp [stackArea, List.range_succ])
  have next : cell (c.registers.sp - 1) := cells _ (by simp [stackArea, List.range_succ])
  exact (h.push hR top _).push hR next _

theorem pullWord (hR : CorrespondenceOn cell R) (h : Alike R c d) :
    c.pullWord.1 = d.pullWord.1 ∧ Alike R c.pullWord.2 d.pullWord.2 := by
  obtain ⟨high, h1⟩ := h.pull hR
  obtain ⟨low, h2⟩ := h1.pull hR
  refine ⟨?_, h2⟩
  show joinBytes c.pull.1 c.pull.2.pull.1 = joinBytes d.pull.1 d.pull.2.pull.1
  rw [high, low]

theorem pushState (hR : CorrespondenceOn cell R) (h : Alike R c d)
    (cells : ∀ address ∈ stackArea c.registers.sp 7, cell address) :
    Alike R c.pushState d.pushState := by
  rw [pushState_eq, pushState_eq, ← h.registers]
  exact ⟨rfl, h.state, h.cycles, hR.writeBytes h.memory (Registers.forall_mem_frame cells)⟩

theorem pullState (hR : CorrespondenceOn cell R) (h : Alike R c d) :
    Alike R c.pullState d.pullState := by
  refine ⟨?_, h.state, h.cycles, h.memory⟩
  simp only [pullState_eq, h.registers, hR.read h.memory]

/-! ## Instructions -/

theorem store (hR : CorrespondenceOn cell R) (h : Alike R c d) {address : UInt16}
    (inside : cell address) (value : UInt8) :
    Alike R (c.store address value) (d.store address value) :=
  ⟨h.registers, h.state, h.cycles, hR.write h.memory inside value⟩

theorem operandAddress (hR : CorrespondenceOn cell R) (h : Alike R c d) (mode : AddressingMode) :
    c.operandAddress mode = d.operandAddress mode := by
  cases mode <;> simp only [Cpu.operandAddress, h.registers, hR.read h.memory, hR.readWord h.memory]

theorem modify (hR : CorrespondenceOn cell R) (h : Alike R c d) (op : Modification)
    (target : Target) {address : UInt16}
    (cells : ∀ a ∈ (Operation.modify op target).written address c.registers.sp, cell a) :
    Alike R (c.modify op target address) (d.modify op target address) := by
  cases target with
  | a => exact h.withRegisters (by rw [h.registers])
  | b => exact h.withRegisters (by rw [h.registers])
  | memory =>
    have tested : Alike R (c.setCodes (op.apply (read c.memory address) c.registers.ccr).2)
        (d.setCodes (op.apply (read d.memory address) d.registers.ccr).2) := by
      refine h.withRegisters ?_
      rw [h.registers, hR.read h.memory]
    simp only [Cpu.modify, ← h.registers, ← hR.read h.memory] at tested ⊢
    split
    · rename_i writes
      refine tested.store hR (cells address ?_) _
      cases op with
      | tst => cases writes
      | _ => exact List.mem_singleton_self address
    · exact tested

theorem combine (hR : CorrespondenceOn cell R) (h : Alike R c d) (op : Combination)
    (acc : Accumulator) (address : UInt16) :
    Alike R (c.combine op acc address) (d.combine op acc address) :=
  h.withRegisters (by rw [h.registers, hR.read h.memory])

theorem storeWord (hR : CorrespondenceOn cell R) (h : Alike R c d) {address : UInt16}
    (high : cell address) (low : cell (address + 1)) (value : UInt16) :
    Alike R (c.storeWord address value) (d.storeWord address value) := by
  refine ⟨?_, h.state, h.cycles, hR.write (hR.write h.memory high _) low _⟩
  rw [Cpu.storeWord, Cpu.storeWord, h.registers]

/-- An operation that writes only to cells. -/
theorem perform (hR : CorrespondenceOn cell R) (h : Alike R c d) (op : Operation) (address : UInt16)
    (cells : ∀ a ∈ op.written address c.registers.sp, cell a) :
    Alike R (c.perform op address) (d.perform op address) := by
  have hr := h.registers
  cases op with
  | nop => exact h
  -- these change registers alone, and only by what other registers hold
  | tap | tpa | inx | dex | clv | sev | clc | sec | cli | sei | sba | cba | tab | tba | daa | aba
  | tsx | txs | ins | des | jmp => exact h.withRegisters (by rw [hr])
  | branch condition =>
    simp only [Cpu.perform, hr]
    split
    · exact h.withRegisters (by rw [hr])
    · exact h
  | psh acc =>
    have top : cell c.registers.sp := cells _ (by simp [Operation.written, stackArea])
    simp only [Cpu.perform, hr]
    exact h.push hR top _
  | pul acc =>
    obtain ⟨value, h1⟩ := h.pull hR
    have same : c.pull.2.registers.setAccumulator acc c.pull.1 =
        d.pull.2.registers.setAccumulator acc d.pull.1 := by
      rw [value, h1.registers]
    exact h1.withRegisters same
  | rts =>
    obtain ⟨pc, h1⟩ := h.pullWord hR
    have same : { c.pullWord.2.registers with pc := c.pullWord.1 } =
        { d.pullWord.2.registers with pc := d.pullWord.1 } := by
      rw [pc, h1.registers]
    exact h1.withRegisters same
  | rti => exact h.pullState hR
  | wai => exact (h.pushState hR cells).withState .waiting
  | swi =>
    have h1 := h.pushState hR cells
    exact h1.withRegisters (by rw [h1.registers, hR.readWord h1.memory])
  | modify m target => exact h.modify hR m target cells
  | combine m acc => exact h.combine hR m acc address
  | sta acc =>
    have inside : cell address := cells address (List.mem_singleton_self address)
    simp only [Cpu.perform, hr]
    exact (h.withRegisters (by rw [hr])).store hR inside _
  | bsr | jsr =>
    simp only [Cpu.perform, hr]
    have h1 := h.pushWord hR cells d.registers.pc
    exact h1.withRegisters (by rw [h1.registers])
  | cpx | lds | ldx => exact h.withRegisters (by rw [hr, hR.readWord h.memory])
  | sts | stx =>
    have high : cell address := cells address List.mem_cons_self
    have low : cell (address + 1) := cells _ (List.mem_cons_of_mem _ List.mem_cons_self)
    simp only [Cpu.perform, hr]
    exact h.storeWord hR high low _

theorem execute (hR : CorrespondenceOn cell R) (h : Alike R c d) (i : Instruction)
    (cells : ∀ a ∈ i.operation.written (c.operandAddress i.mode) c.registers.sp, cell a) :
    Alike R (c.execute i) (d.execute i) := by
  have moved : Alike R (c.jump (c.registers.pc + UInt16.ofNat i.length))
      (d.jump (d.registers.pc + UInt16.ofNat i.length)) :=
    h.withRegisters (by rw [h.registers])
  have done := moved.perform hR i.operation (c.operandAddress i.mode) cells
  rw [Cpu.execute, Cpu.execute, ← h.operandAddress hR]
  exact ⟨done.registers, done.state, by simp only [done.cycles], done.memory⟩

/-! ## Steps, resets and interrupts -/

theorem opcode (hR : CorrespondenceOn cell R) (h : Alike R c d) : c.opcode = d.opcode := by
  rw [Cpu.opcode, Cpu.opcode, h.registers, hR.read h.memory]

/-- A step of two like processors has the same result and reports, and leaves them alike if it writes
only to cells. -/
theorem step_on (hR : CorrespondenceOn cell R) (h : Alike R c d)
    (cells : ∀ address ∈ c.written, cell address) :
    Alike R c.step.cpu d.step.cpu ∧ c.step.result = d.step.result ∧
      c.step.records = d.step.records := by
  simp only [Cpu.step, ← h.opcode hR, ← h.state]
  cases state : c.state with
  | halted => exact ⟨h, rfl, rfl⟩
  | waiting => exact ⟨⟨h.registers, rfl, by simp only [h.cycles], h.memory⟩, rfl, rfl⟩
  | running =>
    cases defined : decode c.opcode with
    | none =>
      refine ⟨⟨h.registers, rfl, h.cycles, h.memory⟩, ?_, ?_⟩
      · rw [h.registers]
      · rw [h.registers]
    | some i =>
      rw [written_of_defined state defined] at cells
      have h1 := h.execute hR i cells
      refine ⟨h1, rfl, ?_⟩
      simp only [softwareInterruptRecord, softwareInterruptText, h1.registers]

/-- So does an interrupt. -/
theorem interrupt_on (hR : CorrespondenceOn cell R) (h : Alike R c d)
    (cells : ∀ address ∈ c.writtenByInterrupt, cell address) (vector : UInt16) :
    Alike R (c.interrupt vector) (d.interrupt vector) := by
  have stacked : Alike R (if c.state = .waiting then c else c.pushState)
      (if d.state = .waiting then d else d.pushState) := by
    unfold writtenByInterrupt at cells
    rw [← h.state]
    split
    · exact h
    · rename_i awake
      rw [if_neg awake] at cells
      exact h.pushState hR cells
  refine ⟨?_, rfl, ?_, stacked.memory⟩
  · simp only [Cpu.interrupt]
    rw [stacked.registers, hR.readWord stacked.memory]
  · simp only [Cpu.interrupt]
    rw [stacked.cycles]

/-! ### Where every write keeps the relation -/

theorem step (hR : Correspondence R) (h : Alike R c d) :
    Alike R c.step.cpu d.step.cpu ∧ c.step.result = d.step.result ∧
      c.step.records = d.step.records :=
  h.step_on hR.on fun _ _ => trivial

theorem interrupt (hR : Correspondence R) (h : Alike R c d) (vector : UInt16) :
    Alike R (c.interrupt vector) (d.interrupt vector) :=
  h.interrupt_on hR.on (fun _ _ => trivial) vector

theorem reset (hR : Correspondence R) (h : Alike R c d) : Alike R c.reset d.reset := by
  refine ⟨?_, rfl, h.cycles, h.memory⟩
  rw [Cpu.reset, Cpu.reset, h.registers, hR.on.readWord h.memory]

theorem powerOnReset (hR : Correspondence R) (h : Alike R c d) :
    Alike R c.powerOnReset d.powerOnReset := by
  refine reset hR ⟨?_, h.state, rfl, h.memory⟩
  rw [h.registers]

end

end Alike

/-! ## Properties that writes keep

What every write keeps, every step and every interrupt keeps. -/

variable {P : M → Prop} {c : Cpu M}

omit [AddressSpace M] in
/-- A processor is like itself, on a space with a property. -/
theorem Alike.self (h : P c.memory) : Alike (fun m n => m = n ∧ P m) c c :=
  ⟨rfl, rfl, rfl, rfl, h⟩

theorem step_kept (kept : ∀ {m}, P m → ∀ address value, P (write m address value))
    (h : P c.memory) : P c.step.cpu.memory :=
  ((Alike.self h).step (.ofKept kept)).1.memory.2

theorem interrupt_kept (kept : ∀ {m}, P m → ∀ address value, P (write m address value))
    (h : P c.memory) (vector : UInt16) : P (c.interrupt vector).memory :=
  ((Alike.self h).interrupt (.ofKept kept) vector).memory.2

end Cpu

end Trainer6800
