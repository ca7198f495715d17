import Trainer6800.Cpu.Step
import Trainer6800.InPlace.AddressSpace

/-!
# The processor in place

The processor with its memory in its hands.  What an instruction does with registers alone is what
`Cpu.perform` does; here is the order in which it reads, writes and logs.
-/

namespace Trainer6800.Cpu

open Acting (log within)
open AddressSpaceM

variable {M : Type} {α : Type}

/-- Do something with the memory. -/
def onMemory (a : Acting M α) : Acting (Cpu M) α :=
  within memory (fun memory c => { c with memory }) a

/-- Change the registers. -/
def setRegistersM (f : Registers → Registers) : Acting (Cpu M) Unit :=
  modifyThe (Cpu M) fun c => { c with registers := f c.registers }

variable [AddressSpaceM M]

/-! ## The stack -/

/-- Push a byte: store it, then move the pointer down. -/
def pushM (value : UInt8) : Acting (Cpu M) Unit := do
  onMemory (writeM (← get).registers.sp value)
  setRegistersM fun r => { r with sp := r.sp - 1 }

/-- Pull a byte: move the pointer up, then load. -/
def pullM : Acting (Cpu M) UInt8 := do
  setRegistersM fun r => { r with sp := r.sp + 1 }
  onMemory (readM (← get).registers.sp)

/-- Push a word, low byte first. -/
def pushWordM (value : UInt16) : Acting (Cpu M) Unit := do
  pushM (lowByte value)
  pushM (highByte value)

/-- Pull a word. -/
def pullWordM : Acting (Cpu M) UInt16 := do
  let high ← pullM
  let low ← pullM
  return joinBytes high low

/-- Push the machine state. -/
def pushStateM : Acting (Cpu M) Unit := do
  pushWordM (← get).registers.pc
  pushWordM (← get).registers.x
  pushM (← get).registers.a
  pushM (← get).registers.b
  pushM (← get).registers.ccr.toByte

/-- Pull the machine state again, in the reverse order. -/
def pullStateM : Acting (Cpu M) Unit := do
  let ccr ← pullM
  setRegistersM fun r => { r with ccr := (ConditionCodes.ofByte ccr).fixed }
  let b ← pullM
  setRegistersM fun r => { r with b }
  let a ← pullM
  setRegistersM fun r => { r with a }
  let x ← pullWordM
  setRegistersM fun r => { r with x }
  let pc ← pullWordM
  setRegistersM fun r => { r with pc }

/-! ## Instructions -/

/-- The address that an instruction at the program counter works on. -/
def operandAddressM (mode : AddressingMode) : Acting (Cpu M) UInt16 := do
  let r := (← get).registers
  let argument := r.pc + 1
  match mode with
  | .inherent | .immediate | .immediateWord => return argument
  | .direct => return (← onMemory (readM argument)).toUInt16
  | .indexed => return r.x + (← onMemory (readM argument)).toUInt16
  | .extended => onMemory (readWordM argument)
  | .relative => return r.pc + 2 + signExtend (← onMemory (readM argument))

/-- The byte that is to be modified.  A clear does not read what it clears. -/
def originalM (op : Modification) (address : UInt16) : Acting (Cpu M) UInt8 :=
  if op = .clr then pure 0 else onMemory (readM address)

/-- Modify the byte at an address. -/
def modifyM (op : Modification) (address : UInt16) : Acting (Cpu M) Unit := do
  let value ← originalM op address
  let (result, codes) := op.apply value (← get).registers.ccr
  setRegistersM fun r => { r with ccr := codes }
  if op.writes then
    onMemory (writeM address result)

/-- Combine an accumulator with the byte at an address. -/
def combineM (op : Combination) (acc : Accumulator) (address : UInt16) : Acting (Cpu M) Unit := do
  let value ← onMemory (readM address)
  setRegistersM fun r =>
    let (result, codes) := op.apply (r.accumulator acc) value r.ccr
    { r.setAccumulator acc result with ccr := codes }

/-- Load a word and set the flags from it. -/
def loadWordM (address : UInt16) (put : UInt16 → Registers → Registers) : Acting (Cpu M) Unit := do
  let value ← onMemory (readWordM address)
  setRegistersM fun r => { put value r with ccr := r.ccr.setLogicWord value }

/-- Store a word and set the flags from it. -/
def storeWordM (address value : UInt16) : Acting (Cpu M) Unit := do
  onMemory (writeWordM address value)
  setRegistersM fun r => { r with ccr := r.ccr.setLogicWord value }

variable [AddressSpace M]

/-- Do an operation on an operand address; the program counter is already past the instruction. -/
def performM (op : Operation) (address : UInt16) : Acting (Cpu M) Unit := do
  match op with
  | .nop | .tap | .tpa | .inx | .dex | .clv | .sev | .clc | .sec | .cli | .sei | .sba | .cba | .tab
  | .tba | .daa | .aba | .branch _ | .tsx | .txs | .ins | .des | .jmp | .modify _ .a
  | .modify _ .b =>
    -- nothing but registers
    modifyThe (Cpu M) fun c => c.perform op address
  | .psh acc => pushM ((← get).registers.accumulator acc)
  | .pul acc =>
    let value ← pullM
    setRegistersM fun r => r.setAccumulator acc value
  | .rts =>
    let pc ← pullWordM
    setRegistersM fun r => { r with pc }
  | .rti => pullStateM
  | .wai =>
    pushStateM
    modifyThe (Cpu M) fun c => { c with state := .waiting }
  | .swi =>
    pushStateM
    setRegistersM fun r => { r with ccr := { r.ccr with interruptMask := true } }
    let pc ← onMemory (readWordM swiVector)
    setRegistersM fun r => { r with pc }
    log .cpu .debug (return (← get).softwareInterruptText)
  | .modify m .memory => modifyM m address
  | .combine m acc => combineM m acc address
  | .sta acc =>
    let value := (← get).registers.accumulator acc
    setRegistersM fun r => { r with ccr := r.ccr.setLogic value }
    onMemory (writeM address value)
  | .cpx =>
    let value ← onMemory (readWordM address)
    setRegistersM fun r => { r with ccr := r.ccr.compareWord r.x value }
  | .bsr | .jsr =>
    pushWordM (← get).registers.pc
    setRegistersM fun r => { r with pc := address }
  | .lds => loadWordM address fun value r => { r with sp := value }
  | .ldx => loadWordM address fun value r => { r with x := value }
  | .sts => storeWordM address (← get).registers.sp
  | .stx => storeWordM address (← get).registers.x

/-! ## Steps, resets and interrupts -/

/-- Do one step. -/
def stepM : Acting (Cpu M) (Except InvalidOpcode Nat) := do
  match (← get).state with
  | .halted => return .ok 0
  | .waiting =>
    modifyThe (Cpu M) fun c => { c with cycles := c.cycles + 1 }
    return .ok 1
  | .running =>
    let pc := (← get).registers.pc
    let opcode ← onMemory (readM pc)
    match decode opcode with
    | none =>
      modifyThe (Cpu M) fun c => { c with state := .halted }
      log .cpu .error (pure (invalidOpcodeText ⟨opcode, pc⟩))
      return .error ⟨opcode, pc⟩
    | some i =>
      let address ← operandAddressM i.mode
      setRegistersM fun r => { r with pc := r.pc + UInt16.ofNat i.length }
      performM i.operation address
      modifyThe (Cpu M) fun c => { c with cycles := c.cycles + UInt64.ofNat i.cycles }
      return .ok i.cycles

/-- Mask interrupts and continue at the reset vector. -/
def resetM : Acting (Cpu M) Unit := do
  modifyThe (Cpu M) fun c => { c with
    state := .running
    registers.ccr := { c.registers.ccr.fixed with interruptMask := true } }
  let pc ← onMemory (readWordM resetVector)
  setRegistersM fun r => { r with pc }
  log .cpu .debug (return (← get).resetText)

/-- Reset with all registers and the cycle counter cleared first. -/
def powerOnResetM : Acting (Cpu M) Unit := do
  modifyThe (Cpu M) fun c => { c with registers := { pc := c.registers.pc }, cycles := 0 }
  resetM

/-- Push the machine state, unless `WAI` has already done so. -/
def pushStateOnceM : Acting (Cpu M) Unit := do
  if (← get).state ≠ .waiting then
    pushStateM

/-- Continue at a vector with interrupts masked, the machine state stacked. -/
def interruptM (vector : UInt16) : Acting (Cpu M) Unit := do
  pushStateOnceM
  modifyThe (Cpu M) fun c => { c with
    state := .running
    registers.ccr := { c.registers.ccr with interruptMask := true } }
  let pc ← onMemory (readWordM vector)
  modifyThe (Cpu M) fun c => { c with
    registers.pc := pc
    cycles := c.cycles + UInt64.ofNat interruptCycles }
  log .cpu .debug (return (← get).interruptText vector)

/-- Request a maskable interrupt, and tell whether it is taken. -/
def irqM : Acting (Cpu M) Bool := do
  if (← get).acceptsIrq then
    interruptM irqVector
    return true
  else
    return false

/-- Request a non-maskable interrupt. -/
def nmiM : Acting (Cpu M) Unit := do
  if !(← get).isHalted then
    interruptM nmiVector

end Trainer6800.Cpu
