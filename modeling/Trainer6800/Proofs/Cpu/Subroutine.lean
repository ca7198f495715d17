import Trainer6800.Proofs.Cpu.Writes
import Trainer6800.Proofs.Machine.AddressMap

/-!
# Subroutines and their return

A call stacks the address of the instruction behind it, the low byte at the stack pointer and the high
byte below, and goes to the subroutine (`Cpu.Called`).  The return takes the address from the stack
again.  Between the two there may be any number of steps.  Of these nothing is asked but that the stack
pointer is back where it was when the subroutine began, and that the two bytes are still there
(`Cpu.AtReturn`): then the program goes on behind the call with the stack as it was before it
(`Cpu.subroutine_returns`).

The call may have overwritten itself, if the stack has reached it, and the stack may wrap around.  The
length of the call is what counts, and it has been read before anything was stacked.

A subroutine keeps the two bytes if none of its steps writes to them, and what it writes elsewhere does
not matter, be it to memory, to the display or to the monitor (`Cpu.iterate_step_spares`).
-/

namespace Trainer6800

/-- The three instructions that call a subroutine. -/
inductive CallForm where
  | bsr
  | jsrIndexed
  | jsrExtended
  deriving DecidableEq, Repr

namespace CallForm

/-- The instruction itself. -/
def instruction : CallForm → Instruction
  | bsr => ⟨0x8D, .bsr, .relative, 8⟩
  | jsrIndexed => ⟨0xAD, .jsr, .indexed, 8⟩
  | jsrExtended => ⟨0xBD, .jsr, .extended, 9⟩

theorem decode_opcode (form : CallForm) : decode form.instruction.opcode = some form.instruction := by
  cases form <;> exact OpcodeMap.decode_eq _

/-- There are no other calls. -/
theorem exists_of_decode {opcode : UInt8} {i : Instruction} (h : decode opcode = some i)
    (calls : i.operation = .bsr ∨ i.operation = .jsr) : ∃ form : CallForm, i = form.instruction := by
  have all : ∀ n : Fin 256, ∀ i ∈ OpcodeMap.defineOpcode (UInt8.ofFin n),
      i.operation = .bsr ∨ i.operation = .jsr →
        i = bsr.instruction ∨ i = jsrIndexed.instruction ∨ i = jsrExtended.instruction := by
    decide +kernel
  have known := all opcode.toFin
  rw [UInt8.ofFin_toFin, ← OpcodeMap.decode_eq] at known
  rcases known i h calls with rfl | rfl | rfl
  · exact ⟨bsr, rfl⟩
  · exact ⟨jsrIndexed, rfl⟩
  · exact ⟨jsrExtended, rfl⟩

end CallForm

namespace OpcodeMap

theorem decode_rts : decode 0x39 = some ⟨0x39, .rts, .inherent, 5⟩ := by
  rw [decode_eq]
  rfl

theorem decode_psh_a : decode 0x36 = some ⟨0x36, .psh .a, .inherent, 4⟩ := by
  rw [decode_eq]
  rfl

theorem decode_pul_a : decode 0x32 = some ⟨0x32, .pul .a, .inherent, 4⟩ := by
  rw [decode_eq]
  rfl

end OpcodeMap

namespace Cpu

variable {M : Type}

/-- The address of the instruction behind a call at the program counter. -/
def behind (c : Cpu M) (form : CallForm) : UInt16 :=
  c.registers.pc + UInt16.ofNat form.instruction.length

/-- The return address, low byte first, and where it is stacked. -/
def linkage (c : Cpu M) (form : CallForm) : List (UInt16 × UInt8) :=
  [(c.registers.sp, lowByte (c.behind form)), (c.registers.sp - 1, highByte (c.behind form))]

theorem addresses_linkage (c : Cpu M) (form : CallForm) :
    (c.linkage form).map Prod.fst = stackArea c.registers.sp 2 :=
  congrArg (fun sp => [sp, c.registers.sp - 1]) (UInt16.sub_zero c.registers.sp).symm

theorem forall_mem_linkage {c : Cpu M} {form : CallForm} {cell : UInt16 → Prop}
    (cells : ∀ address ∈ stackArea c.registers.sp 2, cell address) :
    ∀ w ∈ c.linkage form, cell w.1 := by
  intro w hw
  apply cells
  rw [← c.addresses_linkage form]
  exact List.mem_map_of_mem hw

variable [AddressSpace M] {c d e : Cpu M} {form : CallForm}

open AddressSpace

/-! ## The two ends -/

/-- The second state is the first one after a call. -/
structure Called (form : CallForm) (c d : Cpu M) : Prop where
  running : d.state = .running
  /-- The operand is found before anything is stacked. -/
  target : d.registers.pc = c.operandAddress form.instruction.mode
  memory : d.memory = writeBytes c.memory (c.linkage form)
  sp : d.registers.sp = c.registers.sp - 2

theorem called_step (running : c.state = .running) (opcode : c.opcode = form.instruction.opcode) :
    Called form c c.step.cpu := by
  have defined := form.decode_opcode
  rw [← opcode] at defined
  have below : c.registers.sp - 1 - 1 = c.registers.sp - 2 := by grind
  rw [(step_defined running defined).1]
  cases form with
  | bsr | jsrIndexed | jsrExtended => exact ⟨running, rfl, rfl, below⟩

/-- A return goes to the address above the stack pointer, and leaves memory alone. -/
theorem step_rts (running : c.state = .running) (opcode : c.opcode = 0x39) :
    c.step.result = .ok 5 ∧ c.step.cpu = { c with
      registers := { c.registers with
        pc := readWord c.memory (c.registers.sp + 1)
        sp := c.registers.sp + 2 }
      cycles := c.cycles + 5 } := by
  obtain ⟨executed, took⟩ := step_defined running (opcode ▸ OpcodeMap.decode_rts)
  have above : c.registers.sp + 1 + 1 = c.registers.sp + 2 := by grind
  refine ⟨took, ?_⟩
  rw [executed, ← above]
  rfl

/-- The return address can be read where it was stacked. -/
theorem Called.readWord_eq {P : M → Prop} {cell : UInt16 → Prop} (hS : Storage P cell)
    (h : Called form c d) (hP : P c.memory)
    (cells : ∀ address ∈ stackArea c.registers.sp 2, cell address) :
    readWord d.memory (d.registers.sp + 1) = c.behind form := by
  have once : ((c.linkage form).map Prod.fst).Nodup := by
    rw [c.addresses_linkage form]
    exact nodup_stackArea c.registers.sp (by decide)
  have found {address : UInt16} {value : UInt8} (hw : (address, value) ∈ c.linkage form) :
      read d.memory address = value := by
    rw [h.memory]
    exact hS.read_writeBytes_of_mem hP (forall_mem_linkage cells) once hw
  have high : d.registers.sp + 1 = c.registers.sp - 1 := by
    rw [h.sp]
    grind
  have low : c.registers.sp - 1 + 1 = c.registers.sp := by grind
  rw [readWord, high, low, found (List.mem_cons_of_mem _ List.mem_cons_self),
    found List.mem_cons_self, joinBytes_highByte_lowByte]

/-! ## There and back -/

/-- A subroutine that was called by the step of `c` has come to its return, and has the stack pointer
and the return address as it found them. -/
structure AtReturn (c e : Cpu M) : Prop where
  running : e.state = .running
  sp : e.registers.sp = c.step.cpu.registers.sp
  address : ∀ address ∈ stackArea c.registers.sp 2,
    read e.memory address = read c.step.cpu.memory address
  opcode : e.opcode = 0x39

/-- The return leads from `e` behind the call at `c`, with the stack as it was before the call.  It
touches nothing else. -/
structure GoesBehind (form : CallForm) (c e : Cpu M) : Prop where
  took : e.step.result = .ok 5
  pc : e.step.cpu.registers.pc = c.registers.pc + UInt16.ofNat form.instruction.length
  sp : e.step.cpu.registers.sp = c.registers.sp
  others : e.step.cpu = { e with
    registers := { e.registers with pc := e.step.cpu.registers.pc, sp := e.step.cpu.registers.sp }
    cycles := e.cycles + 5 }

/-- What a call does, and what a return does after it, whatever the steps between them were. -/
structure CallReturns (form : CallForm) (c : Cpu M) : Prop where
  called : Called form c c.step.cpu
  returned : ∀ n, AtReturn c ((fun c => c.step.cpu)^[n] c.step.cpu) →
    GoesBehind form c ((fun c => c.step.cpu)^[n] c.step.cpu)

theorem AtReturn.goesBehind {P : M → Prop} {cell : UInt16 → Prop} (hS : Storage P cell)
    (h : AtReturn c e) (called : Called form c c.step.cpu) (hP : P c.memory)
    (cells : ∀ address ∈ stackArea c.registers.sp 2, cell address) : GoesBehind form c e := by
  obtain ⟨took, after⟩ := step_rts h.running h.opcode
  have top : e.registers.sp + 1 = c.registers.sp - 1 := by
    rw [h.sp, called.sp]
    grind
  have low : c.registers.sp - 1 + 1 = c.registers.sp := by grind
  -- both bytes of the return address are as the call left them
  have inside : c.registers.sp ∈ stackArea c.registers.sp 2 ∧
      c.registers.sp - 1 ∈ stackArea c.registers.sp 2 := by
    rw [← c.addresses_linkage form]
    exact ⟨List.mem_cons_self, List.mem_cons_of_mem _ List.mem_cons_self⟩
  have word : readWord e.memory (e.registers.sp + 1) = c.behind form := by
    rw [← called.readWord_eq hS hP cells, ← h.sp, top, readWord, readWord, low,
      h.address _ inside.1, h.address _ inside.2]
  refine ⟨took, ?_, ?_, ?_⟩
  · rw [after]
    exact word
  · rw [after]
    show e.registers.sp + 2 = c.registers.sp
    rw [h.sp, called.sp]
    grind
  · rw [after]

theorem callReturns_of_storage {P : M → Prop} {cell : UInt16 → Prop} (hS : Storage P cell)
    (hP : P c.memory) (running : c.state = .running)
    (cells : ∀ address ∈ stackArea c.registers.sp 2, cell address)
    (opcode : c.opcode = form.instruction.opcode) : CallReturns form c := by
  have called := called_step running opcode
  exact ⟨called, fun n back => back.goesBehind hS called hP cells⟩

/-! ## Subroutines that spare the return address -/

/-- Steps change nothing at an address to which none of them writes. -/
theorem iterate_step_spares {P : M → Prop} (hS : Separate P) (h : P c.memory) {address : UInt16} {n : Nat}
    (spared : ∀ k < n, address ∉ ((fun c => c.step.cpu)^[k] c).written) :
    P ((fun c => c.step.cpu)^[n] c).memory ∧
      read ((fun c => c.step.cpu)^[n] c).memory address = read c.memory address := by
  induction n with
  | zero => exact ⟨h, rfl⟩
  | succ n ih =>
    obtain ⟨kept, same⟩ := ih fun k hk => spared k (Nat.lt_succ_of_lt hk)
    obtain ⟨bytes, addresses, memory⟩ := writes_step ((fun c => c.step.cpu)^[n] c)
    have apart := spared n (Nat.lt_succ_self n)
    rw [← addresses] at apart
    obtain ⟨kept', same'⟩ := hS.writeBytes kept bytes
    rw [Function.iterate_succ_apply', memory]
    exact ⟨kept', (same' address apart).trans same⟩

/-- A subroutine that has the stack pointer back and has never written to the return address can
return. -/
theorem atReturn_of_spared {P : M → Prop} (hS : Separate P) (h : P c.step.cpu.memory) {n : Nat}
    (running : ((fun c => c.step.cpu)^[n] c.step.cpu).state = .running)
    (sp : ((fun c => c.step.cpu)^[n] c.step.cpu).registers.sp = c.step.cpu.registers.sp)
    (spared : ∀ address ∈ stackArea c.registers.sp 2, ∀ k < n,
      address ∉ ((fun c => c.step.cpu)^[k] c.step.cpu).written)
    (opcode : ((fun c => c.step.cpu)^[n] c.step.cpu).opcode = 0x39) :
    AtReturn c ((fun c => c.step.cpu)^[n] c.step.cpu) :=
  ⟨running, sp, fun address inside => (iterate_step_spares hS h (spared address inside)).2, opcode⟩

/-- An accumulator is saved and taken back: the stack pointer is as it was, and the byte at it is all that
has been written. -/
theorem saved_and_restored {P : M → Prop} (hS : Separate P) (h : P d.memory) (running : d.state = .running)
    (saves : d.opcode = 0x36) (restores : read d.memory (d.registers.pc + 1) = 0x32)
    (apart : d.registers.pc + 1 ≠ d.registers.sp) :
    d.written = [d.registers.sp] ∧ d.step.cpu.written = [] ∧
      d.step.cpu.step.cpu.state = .running ∧
      d.step.cpu.step.cpu.registers.sp = d.registers.sp ∧
      d.step.cpu.step.cpu.registers.pc = d.registers.pc + 1 + 1 := by
  have push := OpcodeMap.decode_psh_a
  have pull := OpcodeMap.decode_pul_a
  rw [← saves] at push
  have saved := (step_defined running push).1
  have running' : d.step.cpu.state = .running := by
    rw [saved]
    exact running
  have second : d.step.cpu.opcode = 0x32 := by
    rw [opcode, saved]
    exact (hS.elsewhere h apart d.registers.a).trans restores
  rw [← second] at pull
  have restored := (step_defined running' pull).1
  refine ⟨?_, written_of_defined running' pull, ?_, ?_, ?_⟩
  · rw [written_of_defined running push]
    exact congrArg (fun sp => [sp]) (UInt16.sub_zero d.registers.sp)
  · rw [restored]
    exact running'
  · rw [restored]
    show d.step.cpu.registers.sp + 1 = d.registers.sp
    rw [saved]
    exact UInt16.sub_add_cancel d.registers.sp 1
  · rw [restored]
    show d.step.cpu.registers.pc + 1 = d.registers.pc + 1 + 1
    rw [saved]
    rfl

/-- A subroutine that saves an accumulator below the return address, and takes it back, can return. -/
theorem atReturn_of_saved {P : M → Prop} (hS : Separate P) (h : P c.step.cpu.memory)
    (running : c.step.cpu.state = .running) (saves : c.step.cpu.opcode = 0x36)
    (restores : read c.step.cpu.memory (c.step.cpu.registers.pc + 1) = 0x32)
    (returns : read c.step.cpu.memory (c.step.cpu.registers.pc + 1 + 1) = 0x39)
    (below : c.step.cpu.registers.sp ∉ stackArea c.registers.sp 2)
    (apart : c.step.cpu.registers.pc + 1 ≠ c.step.cpu.registers.sp ∧
      c.step.cpu.registers.pc + 1 + 1 ≠ c.step.cpu.registers.sp) :
    AtReturn c ((fun c => c.step.cpu)^[2] c.step.cpu) := by
  obtain ⟨first, second, goes, sp, pc⟩ := saved_and_restored hS h running saves restores apart.1
  have spared {address : UInt16} (other : address ≠ c.step.cpu.registers.sp) :
      ∀ k < 2, address ∉ ((fun c => c.step.cpu)^[k] c.step.cpu).written := by
    intro k hk
    obtain rfl | rfl : k = 0 ∨ k = 1 := by omega
    · show address ∉ c.step.cpu.written
      simpa [first] using other
    · show address ∉ c.step.cpu.step.cpu.written
      simp [second]
  refine atReturn_of_spared hS h goes sp (fun address inside => spared ?_) ?_
  · rintro rfl
    exact below inside
  · show read _ c.step.cpu.step.cpu.step.cpu.registers.pc = 0x39
    rw [pc]
    exact (iterate_step_spares hS h (spared apart.2)).2.trans returns

/-- Calls and returns are inverse to each other, whichever way the call finds the subroutine and whatever
the subroutine does before it returns: on flat memory wherever the stack is, and on the trainer's bus if
the return address is neither in the monitor nor under the keypad. -/
theorem subroutine_returns :
    (∀ (c : Cpu FlatMemory) (form : CallForm), c.state = .running →
      c.opcode = form.instruction.opcode → CallReturns form c) ∧
    (∀ (c : Cpu Bus) (form : CallForm), c.memory.Fitted → c.state = .running →
      (∀ address ∈ stackArea c.registers.sp 2, Bus.IsCell address) →
      c.opcode = form.instruction.opcode → CallReturns form c) := by
  refine ⟨fun c form running opcode => ?_, fun c form fitted running cells opcode => ?_⟩
  · exact callReturns_of_storage FlatMemory.storage trivial running (fun _ _ => trivial) opcode
  · exact callReturns_of_storage Bus.storage fitted running cells opcode

/-- A call at address zero, and a subroutine that saves an accumulator. -/
def savingProgram : List (UInt16 × UInt8) :=
  [(0, 0x8D), (1, 0x10), (0x12, 0x36), (0x13, 0x32), (0x14, 0x39)]

/-- The stack begins where the program does. -/
def callOnStack : Cpu FlatMemory :=
  { registers := { pc := 0, sp := 0 }, memory := writeBytes (.filled 0) savingProgram }

theorem read_callOnStack {address : UInt16} {value : UInt8} (hw : (address, value) ∈ savingProgram) :
    read callOnStack.memory address = value :=
  FlatMemory.storage.read_writeBytes_of_mem trivial (fun _ _ => trivial) (by decide) hw

/-- A call of a subroutine that returns at once. -/
def returningProgram : List (UInt16 × UInt8) :=
  [(0x100, 0xBD), (0x101, 0x02), (0x102, 0x00), (0x200, 0x39)]

/-- A trainer that is about to call it. -/
def callOfReturn : Cpu Bus :=
  { registers := { pc := 0x100, sp := 0x1F }
    memory := writeBytes (Bus.ofMonitor [] {}) returningProgram }

theorem read_callOfReturn {address : UInt16} {value : UInt8}
    (hw : (address, value) ∈ returningProgram) : read callOfReturn.memory address = value := by
  have cells : ∀ w ∈ returningProgram, Bus.IsCell w.1 := by
    simp [returningProgram, Bus.IsCell, inKeypadWindow, romBase]
  exact Bus.storage.read_writeBytes_of_mem (Bus.fitted_ofMonitor [] {}) cells (by decide) hw

/-- The call is overwritten, and the subroutine is not. -/
theorem atReturn_callOnStack (called : Called .bsr callOnStack callOnStack.step.cpu) :
    AtReturn callOnStack ((fun c => c.step.cpu)^[2] callOnStack.step.cpu) := by
  have offset : read callOnStack.memory 1 = 0x10 := read_callOnStack (by simp [savingProgram])
  have kept {address : UInt16} (apart : address ∉ [(0 : UInt16), 0xFFFF]) :
      read callOnStack.step.cpu.memory address = read callOnStack.memory address := by
    rw [called.memory]
    exact (FlatMemory.separate.writeBytes trivial _).2 address apart
  have start : callOnStack.step.cpu.registers.pc = 0x12 := by
    rw [called.target]
    show (0 : UInt16) + 2 + signExtend (read callOnStack.memory 1) = 0x12
    rw [offset]
    rfl
  have first : callOnStack.step.cpu.opcode = 0x36 := by
    rw [opcode, start, kept (by decide)]
    exact read_callOnStack (by simp [savingProgram])
  have second : read callOnStack.step.cpu.memory 0x13 = 0x32 := by
    rw [kept (by decide)]
    exact read_callOnStack (by simp [savingProgram])
  have third : read callOnStack.step.cpu.memory 0x14 = 0x39 := by
    rw [kept (by decide)]
    exact read_callOnStack (by simp [savingProgram])
  have pointer : callOnStack.step.cpu.registers.sp = 0xFFFE := called.sp
  refine atReturn_of_saved FlatMemory.separate trivial called.running first ?_ ?_ ?_ ?_
  · rw [start]
    exact second
  · rw [start]
    exact third
  · rw [pointer]
    decide
  · rw [pointer, start]
    decide

theorem fitted_callOfReturn : callOfReturn.memory.Fitted :=
  (Bus.separate.writeBytes (Bus.fitted_ofMonitor [] {}) returningProgram).1

theorem opcode_callOfReturn : callOfReturn.opcode = 0xBD := by
  have pc : callOfReturn.registers.pc = 0x100 := rfl
  rw [opcode, pc]
  exact read_callOfReturn (by simp [returningProgram])

/-- The call leads to a return, which the stack leaves alone. -/
theorem atReturn_callOfReturn (called : Called .jsrExtended callOfReturn callOfReturn.step.cpu) :
    AtReturn callOfReturn callOfReturn.step.cpu := by
  have high : read callOfReturn.memory 0x101 = 0x02 := read_callOfReturn (by simp [returningProgram])
  have low : read callOfReturn.memory 0x102 = 0x00 := read_callOfReturn (by simp [returningProgram])
  have start : callOfReturn.step.cpu.registers.pc = 0x200 := by
    rw [called.target]
    show joinBytes (read callOfReturn.memory 0x101) (read callOfReturn.memory 0x102) = 0x200
    rw [high, low]
    rfl
  have apart : (0x200 : UInt16) ∉ stackArea callOfReturn.registers.sp 2 := by decide
  rw [← callOfReturn.addresses_linkage .jsrExtended] at apart
  have first : callOfReturn.step.cpu.opcode = 0x39 := by
    rw [opcode, start, called.memory, (Bus.separate.writeBytes fitted_callOfReturn _).2 0x200 apart]
    exact read_callOfReturn (by simp [returningProgram])
  exact ⟨called.running, rfl, fun _ _ => rfl, first⟩

/-- A call that is overwritten by what it stacks, and one that meets a return at once. -/
theorem subroutine_returns_overwritten :
    GoesBehind .bsr callOnStack ((fun c => c.step.cpu)^[2] callOnStack.step.cpu) ∧
      GoesBehind .jsrExtended callOfReturn callOfReturn.step.cpu := by
  refine ⟨?_, ?_⟩
  · have calls := subroutine_returns.1 callOnStack .bsr rfl (read_callOnStack List.mem_cons_self)
    exact calls.returned 2 (atReturn_callOnStack calls.called)
  · have stack : ∀ address ∈ stackArea 0x1F 2, Bus.IsCell address := by
      simp [stackArea, List.range_succ, Bus.IsCell, inKeypadWindow, romBase]
    have calls := subroutine_returns.2 callOfReturn .jsrExtended fitted_callOfReturn rfl stack
      opcode_callOfReturn
    have returned := calls.returned 0
    rw [Function.iterate_zero_apply] at returned
    exact returned (atReturn_callOfReturn calls.called)

end Cpu

end Trainer6800
