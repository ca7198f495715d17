import Trainer6800.Cpu.Arithmetic
import Trainer6800.Memory.AddressSpace

/-!
# The processor's state

A `Cpu` is a register file, an execution state, a cycle counter and the address space it is wired
to.  This module has the state and its elementary moves: reading and setting registers, and the
stack, which grows downwards and whose pointer shows the next free byte.
-/

namespace Trainer6800

/-- The registers that a program sees. -/
structure Registers where
  a : UInt8 := 0
  b : UInt8 := 0
  x : UInt16 := 0
  sp : UInt16 := 0
  pc : UInt16 := 0
  ccr : ConditionCodes := {}
  deriving DecidableEq, Repr

/-- Whether the processor fetches instructions. -/
inductive ExecState where
  | running
  /-- Parked by `WAI`, with the machine state already on the stack. -/
  | waiting
  /-- Stopped on an undefined opcode. -/
  | halted
  deriving DecidableEq, Repr

/-- A processor wired to the address space `memory`. -/
structure Cpu (M : Type) where
  registers : Registers := { ccr := { interruptMask := true } }
  state : ExecState := .running
  cycles : UInt64 := 0
  memory : M

/-- The name of an execution state. -/
def ExecState.name : ExecState → String
  | running => "Running"
  | waiting => "Waiting"
  | halted => "Halted"

/-- The value of an accumulator. -/
def Registers.accumulator (r : Registers) : Accumulator → UInt8
  | .a => r.a
  | .b => r.b

/-- The registers with a new value in an accumulator. -/
def Registers.setAccumulator (r : Registers) (acc : Accumulator) (value : UInt8) : Registers :=
  match acc with
  | .a => { r with a := value }
  | .b => { r with b := value }

namespace Cpu

variable {M : Type} [AddressSpace M]

open AddressSpace

/-- Replace all registers; bits 6 and 7 of the condition codes are set. -/
def setRegisters (c : Cpu M) (r : Registers) : Cpu M :=
  { c with registers := { r with ccr := r.ccr.fixed } }

/-- Replace the condition codes. -/
def setCodes (c : Cpu M) (ccr : ConditionCodes) : Cpu M :=
  { c with registers.ccr := ccr }

/-- Replace the program counter. -/
def jump (c : Cpu M) (pc : UInt16) : Cpu M :=
  { c with registers.pc := pc }

/-- Store a byte. -/
def store (c : Cpu M) (address : UInt16) (value : UInt8) : Cpu M :=
  { c with memory := write c.memory address value }

/-- Push a byte: store it, then move the pointer down. -/
def push (c : Cpu M) (value : UInt8) : Cpu M :=
  { c with
    memory := write c.memory c.registers.sp value
    registers.sp := c.registers.sp - 1 }

/-- Pull a byte: move the pointer up, then load. -/
def pull (c : Cpu M) : UInt8 × Cpu M :=
  let sp := c.registers.sp + 1
  (read c.memory sp, { c with registers.sp := sp })

/-- Push a word, low byte first, so that it lies in memory with its high byte first. -/
def pushWord (c : Cpu M) (value : UInt16) : Cpu M :=
  (c.push (lowByte value)).push (highByte value)

/-- Pull a word. -/
def pullWord (c : Cpu M) : UInt16 × Cpu M :=
  let (high, c) := c.pull
  let (low, c) := c.pull
  (joinBytes high low, c)

/-- Push the seven bytes of the machine state: program counter, index register, both accumulators
and the condition codes. -/
def pushState (c : Cpu M) : Cpu M :=
  let r := c.registers
  -- the codes go last: an interrupt handler's return needs them first
  ((((c.pushWord r.pc).pushWord r.x).push r.a).push r.b).push r.ccr.toByte

/-- Pull the machine state again, in the reverse order. -/
def pullState (c : Cpu M) : Cpu M :=
  let (ccr, c) := c.pull
  let (b, c) := c.pull
  let (a, c) := c.pull
  let (x, c) := c.pullWord
  let (pc, c) := c.pullWord
  -- the pointer has moved with every pull; all other registers come from the stack
  { c with registers := { a, b, x, sp := c.registers.sp, pc, ccr := (ConditionCodes.ofByte ccr).fixed } }

end Cpu

end Trainer6800
