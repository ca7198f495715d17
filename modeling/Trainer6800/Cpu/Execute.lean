import Trainer6800.Cpu.Basic

/-!
# Executing one instruction

An instruction is executed in two parts.  `Cpu.operandAddress` finds the address that the
instruction works on, from memory and registers, changing neither; an immediate operand counts as
the byte or word at the address after the opcode.  `Cpu.perform` then does the operation on that
address, when the program counter has already moved past the instruction, and changes only the
flags that the operation is documented to affect.
-/

namespace Trainer6800

/-- Address of the interrupt request vector. -/
def irqVector : UInt16 := 0xFFF8

/-- Address of the software interrupt vector. -/
def swiVector : UInt16 := 0xFFFA

/-- Address of the non-maskable interrupt vector. -/
def nmiVector : UInt16 := 0xFFFC

/-- Address of the reset vector. -/
def resetVector : UInt16 := 0xFFFE

namespace Cpu

variable {M : Type} [AddressSpace M]

open AddressSpace

/-- The address that an instruction at the program counter works on; a branch works on its target.
Inherent instructions have none, and get the address after the opcode. -/
def operandAddress (c : Cpu M) (mode : AddressingMode) : UInt16 :=
  let argument := c.registers.pc + 1
  match mode with
  | .inherent | .immediate | .immediateWord => argument
  | .direct => (read c.memory argument).toUInt16
  | .indexed => c.registers.x + (read c.memory argument).toUInt16
  | .extended => readWord c.memory argument
  | .relative => c.registers.pc + 2 + signExtend (read c.memory argument)

/-- Modify an accumulator or the byte at `address`. -/
def modify (c : Cpu M) (op : Modification) (target : Target) (address : UInt16) : Cpu M :=
  let f := c.registers.ccr
  match target with
  | .a =>
    let (r, f) := op.apply c.registers.a f
    { c with registers := { c.registers with a := r, ccr := f } }
  | .b =>
    let (r, f) := op.apply c.registers.b f
    { c with registers := { c.registers with b := r, ccr := f } }
  | .memory =>
    let (r, f) := op.apply (read c.memory address) f
    -- a test must not write: behind the address may be a latch
    let c := c.setCodes f
    if op.writes then c.store address r else c

/-- Combine an accumulator with the byte at `address`. -/
def combine (c : Cpu M) (op : Combination) (acc : Accumulator) (address : UInt16) : Cpu M :=
  let (r, f) :=
    op.apply (c.registers.accumulator acc) (read c.memory address) c.registers.ccr
  { c with registers := { c.registers.setAccumulator acc r with ccr := f } }

/-- Store a word and set the flags from it. -/
def storeWord (c : Cpu M) (address value : UInt16) : Cpu M :=
  { c with
    memory := writeWord c.memory address value
    registers.ccr := c.registers.ccr.setLogicWord value }

/-- Do an operation on an operand address; the program counter is already past the instruction. -/
def perform (c : Cpu M) (op : Operation) (address : UInt16) : Cpu M :=
  let r := c.registers
  let f := r.ccr
  let withA (result : UInt8 × ConditionCodes) : Cpu M :=
    { c with registers := { r with a := result.1, ccr := result.2 } }
  match op with
  | .nop => c
  | .tap => c.setCodes (ConditionCodes.ofByte r.a).fixed
  | .tpa => { c with registers.a := f.fixed.toByte }
  | .inx => { c with registers := { r with x := r.x + 1, ccr := { f with zero := r.x + 1 == 0 } } }
  | .dex => { c with registers := { r with x := r.x - 1, ccr := { f with zero := r.x - 1 == 0 } } }
  | .clv => c.setCodes { f with overflow := false }
  | .sev => c.setCodes { f with overflow := true }
  | .clc => c.setCodes { f with carry := false }
  | .sec => c.setCodes { f with carry := true }
  | .cli => c.setCodes { f with interruptMask := false }
  | .sei => c.setCodes { f with interruptMask := true }
  | .sba => withA (Arithmetic.subtract r.a r.b false f)
  | .cba => c.setCodes (Arithmetic.subtract r.a r.b false f).2
  | .tab => { c with registers := { r with b := r.a, ccr := f.setLogic r.a } }
  | .tba => { c with registers := { r with a := r.b, ccr := f.setLogic r.b } }
  | .daa => withA (Arithmetic.decimalAdjust r.a f)
  | .aba => withA (Arithmetic.add r.a r.b false f)
  | .branch condition => if condition.holds f then c.jump address else c
  | .tsx => { c with registers.x := r.sp + 1 }
  | .txs => { c with registers.sp := r.x - 1 }
  | .ins => { c with registers.sp := r.sp + 1 }
  | .des => { c with registers.sp := r.sp - 1 }
  | .psh acc => c.push (r.accumulator acc)
  | .pul acc =>
    let (value, c) := c.pull
    { c with registers := c.registers.setAccumulator acc value }
  | .rts =>
    let (pc, c) := c.pullWord
    c.jump pc
  | .rti => c.pullState
  | .wai => { c.pushState with state := .waiting }
  | .swi =>
    -- the vector is read after the push, which may have reached it
    let c := c.pushState
    { c with registers := { c.registers with
        pc := readWord c.memory swiVector
        ccr := { c.registers.ccr with interruptMask := true } } }
  | .modify m target => c.modify m target address
  | .jmp => c.jump address
  | .combine m acc => c.combine m acc address
  | .sta acc =>
    -- the flags describe the byte that is stored, whatever the address does with it
    let value := r.accumulator acc
    (c.setCodes (f.setLogic value)).store address value
  | .cpx => c.setCodes (f.compareWord r.x (readWord c.memory address))
  | .bsr | .jsr => (c.pushWord r.pc).jump address
  | .lds =>
    let value := readWord c.memory address
    { c with registers := { r with sp := value, ccr := f.setLogicWord value } }
  | .ldx =>
    let value := readWord c.memory address
    { c with registers := { r with x := value, ccr := f.setLogicWord value } }
  | .sts => c.storeWord address r.sp
  | .stx => c.storeWord address r.x

/-- Run an instruction that stands at the program counter, and count its cycles. -/
def execute (c : Cpu M) (i : Instruction) : Cpu M :=
  -- the operand is found before the program counter moves, the operation is done after
  let address := c.operandAddress i.mode
  let c := (c.jump (c.registers.pc + UInt16.ofNat i.length)).perform i.operation address
  { c with cycles := c.cycles + UInt64.ofNat i.cycles }

end Cpu

end Trainer6800
