import Trainer6800.Proofs.Cpu.FixedBits
import Trainer6800.Proofs.Cpu.Outcome
import Trainer6800.Proofs.Cpu.Stack

/-!
# Interrupts and their return

There are several ways into an interrupt routine: a request that is taken while instructions are
executed, the software interrupt, and a request taken after the processor has waited, for however long.
All of them stack the machine state once, the last one before the wait and the others at the interrupt
(`Cpu.stacked_enter`).

`Cpu.interrupt_returns` says that the instruction that returns from an interrupt undoes this when it is
the first of the routine: it brings back all registers as they were, with the program counter at the
instruction that would have come next, and it leaves behind the seven bytes on the stack and nothing
else.  For this the stack has to lie on cells of memory, and on flat memory it always does.  The routine
itself may lie anywhere, also where the stack has just overwritten it.
-/

namespace Trainer6800

/-- A request to interrupt. -/
inductive InterruptRequest where
  | irq
  | nmi
  deriving DecidableEq, Repr

/-- A way into an interrupt routine. -/
inductive InterruptEntry where
  /-- A request while instructions are executed. -/
  | request (r : InterruptRequest)
  /-- The software interrupt. -/
  | software
  /-- The instruction that waits, some idle steps, and a request. -/
  | wait (idle : Nat) (r : InterruptRequest)
  deriving DecidableEq, Repr

/-- Where the address of its routine is. -/
def InterruptRequest.vector : InterruptRequest → UInt16
  | irq => irqVector
  | nmi => nmiVector

@[inherit_doc InterruptRequest.vector]
def InterruptEntry.vector : InterruptEntry → UInt16
  | request r | wait _ r => r.vector
  | software => swiVector

/-- Whether a processor with the given condition codes takes a request. -/
def InterruptRequest.Unmasked (f : ConditionCodes) : InterruptRequest → Prop
  | irq => f.interruptMask = false
  | nmi => True

namespace OpcodeMap

theorem decode_rti : decode 0x3B = some ⟨0x3B, .rti, .inherent, 10⟩ := by
  rw [decode_eq]
  rfl

theorem decode_wai : decode 0x3E = some ⟨0x3E, .wai, .inherent, 9⟩ := by
  rw [decode_eq]
  rfl

theorem decode_swi : decode 0x3F = some ⟨0x3F, .swi, .inherent, 12⟩ := by
  rw [decode_eq]
  rfl

end OpcodeMap

namespace Cpu

variable {M : Type}

/-- The registers with which the interrupted program goes on.  A request comes between two instructions;
the two instructions that lead into a routine are a byte long. -/
def resumption (c : Cpu M) : InterruptEntry → Registers
  | .request _ => c.registers
  | .software | .wait _ _ => { c.registers with pc := c.registers.pc + 1 }

theorem sp_resumption (c : Cpu M) (entry : InterruptEntry) :
    (c.resumption entry).sp = c.registers.sp := by
  cases entry <;> rfl

theorem ccr_resumption (c : Cpu M) (entry : InterruptEntry) :
    (c.resumption entry).ccr = c.registers.ccr := by
  cases entry <;> rfl

variable [AddressSpace M] {c : Cpu M}

open AddressSpace

/-- The processor after a request. -/
def request (c : Cpu M) : InterruptRequest → Cpu M
  | .irq => c.irq
  | .nmi => c.nmi

/-- The processor at the start of the routine. -/
def enter (c : Cpu M) : InterruptEntry → Cpu M
  | .request r => c.request r
  | .software => c.step.cpu
  | .wait idle r => ((fun c => c.step.cpu)^[idle] c.step.cpu).request r

/-- Whether a way is open: the instruction is at the program counter, and the request is not masked. -/
def CanEnter (c : Cpu M) : InterruptEntry → Prop
  | .request r => r.Unmasked c.registers.ccr
  | .software => c.opcode = 0x3F
  | .wait _ r => c.opcode = 0x3E ∧ r.Unmasked c.registers.ccr

/-! ## Stacking -/

/-- The second processor has stacked the registers `r` on the memory of the first, and written nothing
else. -/
structure Stacked (r : Registers) (c d : Cpu M) : Prop where
  memory : d.memory = writeBytes c.memory r.frame
  sp : d.registers.sp = r.sp - 7

theorem Stacked.of_eq {r : Registers} {d d' : Cpu M} (h : Stacked r c d) (memory : d'.memory = d.memory)
    (sp : d'.registers.sp = d.registers.sp) : Stacked r c d' :=
  ⟨memory.trans h.memory, sp.trans h.sp⟩

/-- Above and below the frame, memory reads as before. -/
theorem Stacked.read_of_notMem {P : M → Prop} {cell : UInt16 → Prop} (hS : Storage P cell)
    {r : Registers} {d : Cpu M} (h : Stacked r c d) (hP : P c.memory)
    (cells : ∀ address ∈ stackArea r.sp 7, cell address) {address : UInt16}
    (apart : address ∉ stackArea r.sp 7) : read d.memory address = read c.memory address := by
  rw [h.memory]
  rw [← r.addresses_frame] at apart
  exact hS.read_writeBytes_of_notMem hP (Registers.forall_mem_frame cells) apart

theorem stacked_pushState (c : Cpu M) : Stacked c.registers c c.pushState := by
  rw [pushState_eq]
  exact ⟨rfl, rfl⟩

/-- A processor that does not wait stacks its state before it goes on at a vector. -/
theorem stacked_interrupt (awake : c.state ≠ .waiting) (vector : UInt16) :
    Stacked c.registers c (c.interrupt vector) := by
  refine c.stacked_pushState.of_eq ?_ ?_
  · simp only [interrupt, if_neg awake]
  · simp only [interrupt, if_neg awake]

/-- A processor that waits has stacked it already. -/
theorem Stacked.interrupt {r : Registers} {d : Cpu M} (h : Stacked r c d) (waiting : d.state = .waiting)
    (vector : UInt16) : Stacked r c (d.interrupt vector) := by
  refine h.of_eq ?_ ?_
  · simp only [Cpu.interrupt, if_pos waiting]
  · simp only [Cpu.interrupt, if_pos waiting]

/-- A request that is not masked is taken, unless the processor is halted. -/
theorem request_eq (goes : c.state ≠ .halted) {r : InterruptRequest}
    (unmasked : r.Unmasked c.registers.ccr) : c.request r = c.interrupt r.vector := by
  have awake : c.isHalted = false := by simpa [isHalted] using goes
  cases r with
  | irq =>
    have accepts : c.acceptsIrq = true := by
      rw [acceptsIrq, awake, show c.registers.ccr.interruptMask = false from unmasked]
      rfl
    exact if_pos accepts
  | nmi => exact if_neg (by rw [awake]; exact Bool.false_ne_true)

/-! ## The three instructions -/

theorem step_swi (running : c.state = .running) (opcode : c.opcode = 0x3F) :
    Stacked { c.registers with pc := c.registers.pc + 1 } c c.step.cpu ∧
      c.step.cpu.state = .running ∧
      c.step.cpu.registers.pc = readWord c.step.cpu.memory swiVector := by
  have stacked := (c.jump (c.registers.pc + 1)).stacked_pushState
  have executed := (step_defined running (opcode ▸ OpcodeMap.decode_swi)).1
  rw [executed, execute]
  refine ⟨⟨stacked.memory, stacked.sp⟩, ?_, rfl⟩
  simp only [perform, pushState_eq]
  exact running

/-- The instruction stacks the state and leaves the condition codes for the request to look at. -/
theorem step_wai (running : c.state = .running) (opcode : c.opcode = 0x3E) :
    Stacked { c.registers with pc := c.registers.pc + 1 } c c.step.cpu ∧
      c.step.cpu.state = .waiting ∧ c.step.cpu.registers.ccr = c.registers.ccr := by
  have stacked := (c.jump (c.registers.pc + 1)).stacked_pushState
  have executed := (step_defined running (opcode ▸ OpcodeMap.decode_wai)).1
  rw [executed, execute]
  refine ⟨⟨stacked.memory, stacked.sp⟩, rfl, ?_⟩
  simp only [perform, pushState_eq]
  rfl

/-- The return takes all registers from the stack and leaves memory alone. -/
theorem step_rti (running : c.state = .running) (opcode : c.opcode = 0x3B) :
    c.step.result = .ok 10 ∧ c.step.cpu.state = .running ∧ c.step.cpu.memory = c.memory ∧
      c.step.cpu.registers = c.pullState.registers := by
  obtain ⟨executed, took⟩ := step_defined running (opcode ▸ OpcodeMap.decode_rti)
  refine ⟨took, ?_⟩
  rw [executed, execute]
  simp only [perform, pullState_eq]
  exact ⟨running, rfl, rfl⟩

/-! ## There and back -/

/-- Every way into a routine stacks the machine state once and goes on, running, at its vector. -/
theorem stacked_enter (running : c.state = .running) {entry : InterruptEntry}
    (opens : c.CanEnter entry) :
    Stacked (c.resumption entry) c (c.enter entry) ∧ (c.enter entry).state = .running ∧
      (c.enter entry).registers.pc = readWord (c.enter entry).memory entry.vector := by
  cases entry with
  | request r =>
    have goes : c.state ≠ .halted := by rw [running]; decide
    have awake : c.state ≠ .waiting := by rw [running]; decide
    rw [enter, request_eq goes opens]
    exact ⟨stacked_interrupt awake r.vector, rfl, rfl⟩
  | software => exact step_swi running opens
  | wait idle r =>
    obtain ⟨opcode, unmasked⟩ := opens
    obtain ⟨stacked, waiting, codes⟩ := step_wai running opcode
    -- the idle steps change nothing but the counter
    let d : Cpu M := { c.step.cpu with cycles := c.step.cpu.cycles + UInt64.ofNat idle }
    have waited : (fun c : Cpu M => c.step.cpu)^[idle] c.step.cpu = d :=
      iterate_step_waiting waiting idle
    have stacked' : Stacked _ c d := stacked.of_eq rfl rfl
    have goes : d.state ≠ .halted := by
      show c.step.cpu.state ≠ .halted
      rw [waiting]
      decide
    have unmasked' : r.Unmasked d.registers.ccr := by
      show r.Unmasked c.step.cpu.registers.ccr
      rwa [codes]
    rw [enter, waited, request_eq goes unmasked']
    exact ⟨stacked'.interrupt waiting r.vector, rfl, rfl⟩

/-- What entering a routine stacks, and what is left of it when the routine returns at once. -/
structure Returns (c : Cpu M) (entry : InterruptEntry) : Prop where
  /-- The state is stacked once, by whichever step of the entry. -/
  stacked : Stacked (c.resumption entry) c (c.enter entry)
  running : (c.enter entry).state = .running
  vectored : (c.enter entry).registers.pc = readWord (c.enter entry).memory entry.vector
  /-- The registers are back, and the processor is running. -/
  resumed : (c.enter entry).opcode = 0x3B →
    (c.enter entry).step.result = .ok 10 ∧ (c.enter entry).step.cpu.state = .running ∧
      (c.enter entry).step.cpu.registers = c.resumption entry
  /-- Seven bytes of the stack are all that the interrupt has changed. -/
  elsewhere : (c.enter entry).opcode = 0x3B → ∀ address ∉ stackArea c.registers.sp 7,
    read (c.enter entry).step.cpu.memory address = read c.memory address

/-- An interrupt returns if its stack lies on cells of memory. -/
theorem returns_of_storage {P : M → Prop} {cell : UInt16 → Prop} (hS : Storage P cell)
    (h : P c.memory) (running : c.state = .running) (codes : c.registers.ccr.IsFixed)
    (cells : ∀ address ∈ stackArea c.registers.sp 7, cell address) {entry : InterruptEntry}
    (opens : c.CanEnter entry) : c.Returns entry := by
  obtain ⟨stacked, entered, vectored⟩ := stacked_enter running opens
  rw [← c.sp_resumption entry] at cells
  refine ⟨stacked, entered, vectored, fun returns => ?_, fun returns => ?_⟩
  · obtain ⟨took, goes, -, registers⟩ := step_rti entered returns
    have codes' : (c.resumption entry).ccr.fixed = (c.resumption entry).ccr := by
      rw [c.ccr_resumption entry]
      exact codes
    have pulled := pullState_frame hS h codes' cells stacked.memory stacked.sp
    exact ⟨took, goes, by rw [registers, pulled]⟩
  · intro address apart
    obtain ⟨-, -, memory, -⟩ := step_rti entered returns
    rw [← c.sp_resumption entry] at apart
    rw [memory]
    exact stacked.read_of_notMem hS h cells apart

/-- Unless the stack has reached the vector or the routine, the routine begins as memory had it. -/
theorem Returns.opcode_eq {P : M → Prop} {cell : UInt16 → Prop} (hS : Storage P cell)
    {entry : InterruptEntry} (h : c.Returns entry) (hP : P c.memory)
    (cells : ∀ address ∈ stackArea c.registers.sp 7, cell address)
    (high : entry.vector ∉ stackArea c.registers.sp 7)
    (low : entry.vector + 1 ∉ stackArea c.registers.sp 7) {routine : UInt16}
    (leads : readWord c.memory entry.vector = routine)
    (apart : routine ∉ stackArea c.registers.sp 7) :
    (c.enter entry).opcode = read c.memory routine := by
  rw [← c.sp_resumption entry] at cells high low apart
  have same {address : UInt16} (outside : address ∉ stackArea (c.resumption entry).sp 7) :
      read (c.enter entry).memory address = read c.memory address :=
    h.stacked.read_of_notMem hS hP cells outside
  have pc : (c.enter entry).registers.pc = routine := by
    rw [h.vectored, readWord, same high, same low]
    exact leads
  rw [opcode, pc, same apart]

/-- Interrupts and the instruction that returns from them are inverse to each other, whatever the way in:
on flat memory wherever the stack is, and on the trainer's bus if no part of it is in the monitor or
under the keypad. -/
theorem interrupt_returns :
    (∀ (c : Cpu FlatMemory) (entry : InterruptEntry), c.state = .running →
      c.registers.ccr.IsFixed → c.CanEnter entry → c.Returns entry) ∧
    (∀ (c : Cpu Bus) (entry : InterruptEntry), c.memory.Fitted → c.state = .running →
      c.registers.ccr.IsFixed → (∀ address ∈ stackArea c.registers.sp 7, Bus.IsCell address) →
      c.CanEnter entry → c.Returns entry) := by
  refine ⟨fun c entry running codes opens => ?_, fun c entry fitted running codes cells opens => ?_⟩
  · exact returns_of_storage FlatMemory.storage trivial running codes (fun _ _ => trivial) opens
  · exact returns_of_storage Bus.storage fitted running codes cells opens

/-- A processor about to wait among returns, with a stack that wraps around. -/
def aboutToWait : Cpu FlatMemory :=
  { registers := { pc := 0x100, sp := 2 }, memory := (FlatMemory.filled 0x3B).write 0x100 0x3E }

/-- The processor of a trainer with a blank monitor, where all vectors are zero, and a return there. -/
def aboutToReturn : Cpu Bus :=
  { registers := { pc := 0x100, sp := 0x1F }, memory := (Bus.ofMonitor [] {}).write 0 0x3B }

theorem memory_aboutToReturn : aboutToReturn.memory = (Bus.ofMonitor [] {}).write 0 0x3B := by
  rw [aboutToReturn]

/-- A wait and a request, each of which meets a return. -/
theorem interrupt_returns_at_once :
    (aboutToWait.Returns (.wait 3 .irq) ∧ (aboutToWait.enter (.wait 3 .irq)).opcode = 0x3B) ∧
    aboutToReturn.Returns (.request .nmi) ∧ (aboutToReturn.enter (.request .nmi)).opcode = 0x3B := by
  refine ⟨?_, ?_⟩
  · have wai : aboutToWait.opcode = 0x3E := FlatMemory.read_write_self _ _ _
    have waited := interrupt_returns.1 aboutToWait (.wait 3 .irq) rfl rfl ⟨wai, rfl⟩
    have same {address : UInt16} (apart : address ≠ 0x100) :
        read aboutToWait.memory address = 0x3B :=
      ((FlatMemory.filled 0x3B).read_write_of_ne _ apart.symm).trans (FlatMemory.read_filled _ _)
    have vector : readWord aboutToWait.memory irqVector = 0x3B3B := by
      rw [readWord, same (by decide), same (by decide)]
      rfl
    have opcode := waited.opcode_eq FlatMemory.storage trivial (fun _ _ => trivial) (by decide)
      (by decide) vector (by decide)
    exact ⟨waited, opcode.trans (same (by decide))⟩
  · have blank : (Bus.ofMonitor [] {}).Fitted := Bus.fitted_ofMonitor [] {}
    have first : Bus.IsCell 0 := ⟨by decide, rfl⟩
    have fitted : aboutToReturn.memory.Fitted := by
      rw [memory_aboutToReturn]
      exact blank.write first.1 0x3B
    have cells : ∀ address ∈ stackArea 0x1F 7, Bus.IsCell address := by
      have all : (stackArea 0x1F 7).all (fun a => a < romBase && inKeypadWindow a == false) := by
        decide
      simpa [Bus.IsCell] using all
    have taken := interrupt_returns.2 aboutToReturn (.request .nmi) fitted rfl rfl cells trivial
    have same {address : UInt16} (apart : address ≠ 0) :
        read aboutToReturn.memory address = read (Bus.ofMonitor [] {}) address := by
      rw [memory_aboutToReturn]
      exact Bus.storage.read_other blank first 0x3B apart
    have vector : readWord aboutToReturn.memory nmiVector = 0 := by
      rw [readWord, same (by decide), same (by decide)]
      decide +kernel
    have opcode := taken.opcode_eq Bus.storage fitted cells (by decide) (by decide) vector
      (by decide)
    refine ⟨taken, opcode.trans ?_⟩
    rw [memory_aboutToReturn]
    exact Bus.storage.read_self blank first 0x3B

end Cpu

end Trainer6800
