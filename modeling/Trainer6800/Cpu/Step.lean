import Trainer6800.Cpu.Execute
import Trainer6800.Instruction.OpcodeMap
import Trainer6800.Log.Record
import Trainer6800.Text.Hex

/-!
# Steps, resets and interrupts

`Cpu.step` is the processor's unit of progress: one instruction while running, one idle cycle while
waiting, nothing while halted.  An undefined opcode halts the processor without touching a register;
only a reset resumes it.  What happened is reported as log records beside the new state.
-/

namespace Trainer6800

/-- An undefined opcode, and where it was met. -/
structure InvalidOpcode where
  opcode : UInt8
  pc : UInt16
  deriving DecidableEq, Repr

/-- The text of the error. -/
def InvalidOpcode.message (e : InvalidOpcode) : String :=
  "invalid opcode 0x" ++ Hex.byte e.opcode ++ " at PC=0x" ++ Hex.word e.pc

/-- What one step did. -/
structure StepOutcome (M : Type) where
  cpu : Cpu M
  /-- The cycles it took, or the opcode that stopped it. -/
  result : Except InvalidOpcode Nat
  records : List Log.Record := []

namespace Cpu

variable {M : Type} [AddressSpace M]

open AddressSpace

/-- Cycles taken to stack the machine state and fetch a vector. -/
def interruptCycles : Nat := 12

/-- Whether the processor has stopped on an undefined opcode. -/
def isHalted (c : Cpu M) : Bool :=
  c.state == .halted

/-- The opcode at the program counter. -/
def opcode (c : Cpu M) : UInt8 :=
  read c.memory c.registers.pc

/-- What is said of a software interrupt that has just been taken. -/
def softwareInterruptText (c : Cpu M) : String :=
  "SWI to " ++ Hex.word c.registers.pc

/-- Report of a software interrupt that has just been taken. -/
def softwareInterruptRecord (c : Cpu M) : Log.Record :=
  ⟨.cpu, .debug, c.softwareInterruptText⟩

/-- What is said of an undefined opcode. -/
def invalidOpcodeText (e : InvalidOpcode) : String :=
  "invalid opcode " ++ Hex.byte e.opcode ++ " at PC=" ++ Hex.word e.pc ++ ", halting"

/-- Report of an undefined opcode. -/
def invalidOpcodeRecord (e : InvalidOpcode) : Log.Record :=
  ⟨.cpu, .error, invalidOpcodeText e⟩

/-- Do one step. -/
def step (c : Cpu M) : StepOutcome M :=
  match c.state with
  | .halted => { cpu := c, result := .ok 0 }
  | .waiting => { cpu := { c with cycles := c.cycles + 1 }, result := .ok 1 }
  | .running =>
    match decode c.opcode with
    | none =>
      -- the program counter stays on the opcode, so the fault can be looked at
      let error : InvalidOpcode := ⟨c.opcode, c.registers.pc⟩
      { cpu := { c with state := .halted }
        result := .error error
        records := [invalidOpcodeRecord error] }
    | some i =>
      -- the report of a software interrupt names the address it went to
      let c := c.execute i
      { cpu := c
        result := .ok i.cycles
        records := if i.operation = .swi then [c.softwareInterruptRecord] else [] }

/-- Mask interrupts and continue at the reset vector; the other registers keep what they hold. -/
def reset (c : Cpu M) : Cpu M :=
  { c with
    state := .running
    registers := { c.registers with
      pc := readWord c.memory resetVector
      ccr := { c.registers.ccr.fixed with interruptMask := true } } }

/-- What is said of a reset that has just happened. -/
def resetText (c : Cpu M) : String :=
  "reset, PC=" ++ Hex.word c.registers.pc

/-- Report of a reset that has just happened. -/
def resetRecord (c : Cpu M) : Log.Record :=
  ⟨.cpu, .debug, c.resetText⟩

/-- Reset with all registers and the cycle counter cleared first, as on power-up. -/
def powerOnReset (c : Cpu M) : Cpu M :=
  -- the program counter is cleared by being loaded from the vector
  reset { c with registers := { pc := c.registers.pc }, cycles := 0 }

/-- Continue at a vector with interrupts masked.  The machine state is stacked first, unless `WAI`
has already done so. -/
def interrupt (c : Cpu M) (vector : UInt16) : Cpu M :=
  -- the codes are stacked before interrupts are masked
  let c := if c.state = .waiting then c else c.pushState
  { c with
    state := .running
    cycles := c.cycles + UInt64.ofNat interruptCycles
    registers := { c.registers with
      pc := readWord c.memory vector
      ccr := { c.registers.ccr with interruptMask := true } } }

/-- What is said of an interrupt that has just been taken. -/
def interruptText (c : Cpu M) (vector : UInt16) : String :=
  "interrupt via " ++ Hex.word vector ++ " to " ++ Hex.word c.registers.pc

/-- Report of an interrupt that has just been taken. -/
def interruptRecord (c : Cpu M) (vector : UInt16) : Log.Record :=
  ⟨.cpu, .debug, c.interruptText vector⟩

/-- Whether an interrupt request would be taken now. -/
def acceptsIrq (c : Cpu M) : Bool :=
  !c.registers.ccr.interruptMask && !c.isHalted

/-- Request a maskable interrupt. -/
def irq (c : Cpu M) : Cpu M :=
  if c.acceptsIrq then c.interrupt irqVector else c

/-- Request a non-maskable interrupt; only a halted processor ignores it. -/
def nmi (c : Cpu M) : Cpu M :=
  if c.isHalted then c else c.interrupt nmiVector

end Cpu

end Trainer6800
