import Trainer6800.Proofs.Cpu.Footprint

/-!
# What the processor writes

There are three ways in which the processor writes: an instruction stores a byte or a word, it modifies
a byte in place, or the machine state, a return address or an accumulator is stacked.  The footprint of
an instruction lists the addresses.  Here they are the addresses of a whole step and of an interrupt,
one for each byte and in the order of writing, whatever lies behind them.
-/

namespace Trainer6800

namespace AddressSpace

variable {M : Type} [AddressSpace M] {m m' : M}

/-- The second space is the first one after a byte has been written to each of the addresses in turn. -/
def Writes (m : M) (addresses : List UInt16) (m' : M) : Prop :=
  ∃ bytes : List (UInt16 × UInt8), bytes.map Prod.fst = addresses ∧ m' = writeBytes m bytes

theorem Writes.nothing (m : M) : Writes m [] m :=
  ⟨[], rfl, rfl⟩

end AddressSpace

open AddressSpace

namespace Cpu

variable {M : Type} [AddressSpace M]

/-- The addresses that a step writes. -/
def written (c : Cpu M) : List UInt16 :=
  match c.state, decode c.opcode with
  | .running, some i => i.operation.written (c.operandAddress i.mode) c.registers.sp
  | _, _ => []

/-- The addresses that an interrupt writes; a processor that waits has stacked its state before. -/
def writtenByInterrupt (c : Cpu M) : List UInt16 :=
  if c.state = .waiting then [] else stackArea c.registers.sp 7

/-- An instruction writes what its operation does. -/
theorem written_of_defined {c : Cpu M} (running : c.state = .running) {i : Instruction}
    (defined : decode c.opcode = some i) :
    c.written = i.operation.written (c.operandAddress i.mode) c.registers.sp := by
  rw [written, running, defined]

theorem writes_step (c : Cpu M) : Writes c.memory c.written c.step.cpu.memory := by
  unfold written
  cases state : c.state with
  | halted =>
    rw [step_halted state]
    exact .nothing _
  | waiting =>
    rw [step_waiting state]
    exact .nothing _
  | running =>
    cases defined : decode c.opcode with
    | none =>
      rw [(step_undefined state defined).1]
      exact .nothing _
    | some i =>
      rw [(step_defined state defined).1]
      exact (c.jump (c.registers.pc + UInt16.ofNat i.length)).memory_perform i.operation
        (c.operandAddress i.mode)

/-- A step that fails has written nothing. -/
theorem written_of_failed {c : Cpu M} {e : InvalidOpcode} (failed : c.step.result = .error e) :
    c.written = [] := by
  unfold written
  cases state : c.state with
  | halted => rfl
  | waiting => rfl
  | running =>
    cases defined : decode c.opcode with
    | none => rfl
    | some i =>
      rw [(step_defined state defined).2] at failed
      cases failed

theorem writes_interrupt (c : Cpu M) (vector : UInt16) :
    Writes c.memory c.writtenByInterrupt (c.interrupt vector).memory := by
  simp only [writtenByInterrupt, interrupt]
  by_cases waiting : c.state = .waiting
  · rw [if_pos waiting, if_pos waiting]
    exact .nothing _
  · rw [if_neg waiting, if_neg waiting, pushState_eq]
    exact ⟨c.registers.frame, c.registers.addresses_frame, rfl⟩

end Cpu

end Trainer6800
