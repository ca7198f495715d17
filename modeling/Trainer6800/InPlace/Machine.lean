import Trainer6800.InPlace.Bus
import Trainer6800.InPlace.Cpu
import Trainer6800.InPlace.Listing
import Trainer6800.Machine.Mounts
import Trainer6800.Machine.Run
import Trainer6800.Machine.SaveState

/-!
# The trainer in place

The operations of the machine as they are carried out: the machine is changed step by step, and in
between the log is called.
-/

namespace Trainer6800

open Acting (log within)

/-- The configuration of a file, and the defaults where there is no valid one, wherever it is read. -/
def MachineConfig.ofFileOrDefaultM {σ : Type} (path : String) (file : Except FileFault String) :
    Acting σ MachineConfig := do
  match ofFile file with
  | .ok c => return c
  | .error e =>
    log .power .warn (pure (defaultsText path e))
    return {}

namespace Machine

/-- A machine with a monitor, powered off, wherever it is made. -/
def ofMonitorM {σ : Type} (image : List UInt8) (config : MachineConfig) : Acting σ Machine := do
  let bus ← Bus.ofMonitorM image { policy := config.keyPolicy }
  return {
    cpu := { memory := bus }
    config
    breakpoints := .ofList config.breakpoints
    monitorMounted := true }

section Parts

variable {α : Type}

/-- Do something with the processor. -/
def onCpu (a : Acting (Cpu Bus) α) : Acting Machine α :=
  within cpu (fun cpu m => { m with cpu }) a

/-- Do something with the bus. -/
def onBus (a : Acting Bus α) : Acting Machine α :=
  within bus (fun bus m => { m with cpu.memory := bus }) a

end Parts

/-! ## Power and reset -/

/-- Set every byte of memory to zero. -/
def clearRamM : Acting Machine Unit :=
  onBus (Bus.onRam MemoryBlock.clearM)

/-- Clear memory on the way on, if it is to be cleared. -/
def prepareRamM : Acting Machine Unit := do
  if (← get).config.clearRamOnPowerOn then
    clearRamM

/-- Turn the machine on. -/
def powerOnM : Acting Machine Unit := do
  prepareRamM
  onBus (Bus.onDisplay DisplayLatch.blankM)
  onBus (modify fun b => { b with fault := none })
  modify fun m => { m with
    keyQueue := []
    lastFault := none }
  onCpu Cpu.powerOnResetM
  modify fun m => { m with power := .running }
  log .power .info (return (← get).powerOnText)

/-- Turn the machine off. -/
def powerOffM : Acting Machine Unit := do
  let wasOn := (← get).isPowered
  modify fun m => { m with power := .off }
  onBus (Bus.onKeypad Keypad.releaseAllM)
  onBus (Bus.onDisplay DisplayLatch.blankM)
  modify fun m => { m with keyQueue := [] }
  if wasOn then
    log .power .info (pure "power off")

/-- Turn the machine on if it is off, and off if it is on. -/
def powerButtonM : Acting Machine Unit := do
  match (← get).power with
  | .off => powerOnM
  | .running => powerOffM

/-- Reset the processor, keeping memory. -/
def resetM : Acting Machine Unit := do
  if (← get).isPowered then
    onCpu Cpu.resetM
    log .power .info (return (← get).resetText)

/-! ## Keys -/

/-- Press a key. -/
def pressKeyM (key : Key) : Acting Machine Unit := do
  if (← get).isPowered then
    let changed ← onBus (Bus.onKeypad (Keypad.pressM key))
    if changed ∧ key = .reset then
      resetM
  else
    log .keypad .trace (pure (ignoredText key))

/-- Release a key. -/
def releaseKeyM (key : Key) : Acting Machine Unit := do
  if (← get).isPowered then
    let _ ← onBus (Bus.onKeypad (Keypad.releaseM key))

/-- Press or release a key. -/
def handleKeyM : KeyEvent → Acting Machine Unit
  | .press key => pressKeyM key
  | .release key => releaseKeyM key

/-- Do something with the key of a code. -/
def withKeyCode (code : String) (act : Key → Acting Machine Unit) :
    Acting Machine (Except UnknownKey Unit) := do
  match Key.ofText code with
  | .error e => return .error e
  | .ok key =>
    act key
    return .ok ()

/-- Put a key event into the queue. -/
def queueKeyM (event : KeyEvent) : Acting Machine Unit := do
  if (← get).isPowered then
    modify fun m => { m with keyQueue := m.keyQueue ++ [event] }

/-- Handle the queued key events in order. -/
def drainKeysM : Acting Machine Unit := do
  let events := (← get).keyQueue
  modify fun m => { m with keyQueue := [] }
  events.forM handleKeyM

/-! ## Interrupts, breakpoints, programs -/

/-- Request an interrupt, and tell whether it is taken. -/
def irqM : Acting Machine Bool := do
  if (← get).isPowered then
    onCpu Cpu.irqM
  else
    return false

/-- Request a non-maskable interrupt. -/
def nmiM : Acting Machine Unit := do
  if (← get).isPowered then
    onCpu Cpu.nmiM

/-- Remove a breakpoint, and tell whether there was one. -/
def removeBreakpointM (address : UInt16) : Acting Machine Bool := do
  let there := (← get).breakpoints.contains address
  modify fun m => m.removeBreakpoint address
  return there

/-! ## Running -/

/-- Take over the fault that the bus remembers. -/
def takeFaultM : Acting Machine Unit := do
  if let some e := (← get).bus.fault then
    onBus (modify fun b => { b with fault := none })
    modify fun m => { m with lastFault := some (.memory e) }

/-- One step of the processor of a powered machine. -/
def advanceM : Acting Machine (Except InvalidOpcode Nat) := do
  let result ← onCpu Cpu.stepM
  takeFaultM
  match result with
  | .ok n => return .ok n
  | .error e =>
    modify fun m => { m with lastFault := some (.cpu e) }
    return .error e

/-- One step of the machine. -/
def stepM : Acting Machine (Except InvalidOpcode Nat) := do
  if (← get).isPowered then
    advanceM
  else
    return .ok 0

/-- Go on with a run of `budget` cycles after `spent` cycles and `done` instructions. -/
def runFromM (budget spent done : Nat) : Acting Machine RunSummary := do
  if spent < budget then
    match (← get).cpu.state with
    | .halted => return summary spent done .halted
    | .waiting =>
      modify fun m => { m with cpu.cycles := m.cpu.cycles + UInt64.ofNat (budget - spent) }
      return summary budget done .waiting
    | .running =>
      let pc := (← get).cpu.registers.pc
      if 0 < done ∧ (← get).breakpoints.contains pc then
        log .cpu .debug (pure (breakpointText pc))
        return summary spent done (.breakpoint pc)
      else
        match ← advanceM with
        | .error _ => return summary spent done .halted
        -- no running processor takes a step in no time, and so the loop ends
        | .ok n => runFromM budget (spent + max 1 n) (done + 1)
  else
    return summary spent done .budgetExhausted
termination_by budget - spent

/-- Run until `budget` cycles are spent, or something stops the machine before. -/
def runM (budget : Nat) : Acting Machine RunSummary := do
  if (← get).isPowered then
    runFromM budget 0 0
  else
    return summary 0 0 .poweredOff

/-- Handle the queued keys, then run for one tick. -/
def tickM : Acting Machine RunSummary := do
  drainKeysM
  runM (← get).config.cyclesPerTick

/-! ## Images and states -/

/-- Write a program into memory. -/
def loadProgramM (image : ProgramImage) : Acting Machine (Except LoadError LoadReport) :=
  onBus (Bus.loadProgramM image)

/-- Turn the machine off and change its monitor. -/
def changeMonitorM (image : List UInt8) (mounted : Bool) : Acting Machine Unit := do
  powerOffM
  onBus (Bus.loadMonitorM image)
  modify fun m => { m with monitorMounted := mounted }

/-- Mount an image. -/
def mountM (id : String) (image : List UInt8) : Acting Machine (Except UnknownMount Unit) := do
  if id = monitorMount.id then
    changeMonitorM image true
    log .memory .info (pure (mountedText image))
    return .ok ()
  else
    return .error ⟨id⟩

/-- Remove an image. -/
def unmountM (id : String) : Acting Machine (Except UnknownMount Unit) := do
  if id = monitorMount.id then
    changeMonitorM [] false
    return .ok ()
  else
    return .error ⟨id⟩

/-- Load a saved state. -/
def loadStateM (v : Json.Value) : Acting Machine (Except StateError Unit) := do
  match SavedState.ofValue v with
  | .error e => return .error e
  | .ok s =>
    match ← onBus (Bus.onRam (MemoryBlock.loadM 0 s.ram)) with
    | .error e => return .error (.memory e)
    | .ok () =>
      let policy := (← get).config.keyPolicy
      onBus (modify fun b => { b with keypad := { s.keypad with policy }.withoutRepetitions })
      onBus (Bus.onDisplay (DisplayLatch.restoreM s.display))
      modify fun m => { m with
        cpu := m.cpu.restore s.cpu
        power := s.power
        keyQueue := [] }
      log .power .info (return (← get).stateLoadedText)
      return .ok ()

/-! ## Looking -/

/-- The byte that the processor would read at an address. -/
def peekM (address : UInt16) : Acting Machine UInt8 :=
  onBus (Bus.readM address)

/-- The instruction at an address. -/
def disassembleM (address : UInt16) : Acting Machine ListingLine :=
  onBus (ListingLine.ofAddressM address)

end Machine

end Trainer6800
