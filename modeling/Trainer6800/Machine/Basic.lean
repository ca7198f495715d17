import Trainer6800.Cpu.Step
import Trainer6800.Machine.Breakpoints
import Trainer6800.Machine.Config
import Trainer6800.Machine.Image

/-!
# The trainer

A `Machine` is a processor on the trainer's bus, with power, a configuration, breakpoints and a queue
of key events.  It starts powered off.  While it is off nothing runs, and keys and interrupts are
ignored.

This module has the machine's parts and everything except running: power, reset, keys, interrupts,
breakpoints, loading and looking.  Reports of what happens go to the journal of the bus, in order.
-/

namespace Trainer6800

/-- Whether the machine is powered. -/
inductive PowerState where
  | off
  | running
  deriving DecidableEq, Repr

/-- The last thing that went wrong while the machine went on. -/
inductive Fault where
  | cpu (e : InvalidOpcode)
  | memory (e : OutOfRange)
  deriving DecidableEq, Repr

/-- The trainer. -/
structure Machine where
  cpu : Cpu Bus
  power : PowerState := .off
  config : MachineConfig
  breakpoints : Breakpoints
  keyQueue : List KeyEvent := []
  lastFault : Option Fault := none
  monitorMounted : Bool

/-- The text of a fault. -/
def Fault.message : Fault → String
  | cpu e => e.message
  | memory e => e.message

/-- All power states. -/
def PowerState.all : List PowerState :=
  [off, running]

/-- The name of a power state. -/
def PowerState.name : PowerState → String
  | off => "Off"
  | running => "Running"

namespace Machine

/-! ## Parts -/

/-- A machine with a monitor, powered off. -/
def ofMonitor (image : List UInt8) (config : MachineConfig) : Machine where
  cpu := { memory := .ofMonitor image { policy := config.keyPolicy } }
  config
  breakpoints := .ofList config.breakpoints
  monitorMounted := true

/-- A machine without a monitor and with the default configuration. -/
def bare : Machine :=
  { ofMonitor [] {} with monitorMounted := false }

/-- The bus. -/
def bus (m : Machine) : Bus :=
  m.cpu.memory

/-- Change the bus. -/
def updateBus (m : Machine) (f : Bus → Bus) : Machine :=
  { m with cpu.memory := f m.cpu.memory }

/-- Add reports to the journal. -/
def report (m : Machine) (records : List Log.Record) : Machine :=
  m.updateBus (·.report records)

/-- Whether the machine is powered. -/
def isPowered (m : Machine) : Bool :=
  m.power == .running

/-- The address where the processor is, as a report shows it. -/
def pcText (m : Machine) : String :=
  Hex.word m.cpu.registers.pc

/-! ## Power and reset -/

/-- Turn every segment of the display off. -/
def blankDisplay (m : Machine) : Machine :=
  let records := m.bus.display.blankRecords
  (m.updateBus fun b => { b with display := b.display.blank }).report records

/-- Set every byte of memory to zero. -/
def clearRam (m : Machine) : Machine :=
  let records := m.bus.ram.clearRecords
  (m.updateBus fun b => { b with ram := b.ram.clear }).report records

/-- What is said of turning on. -/
def powerOnText (m : Machine) : String :=
  "power on, PC=" ++ m.pcText

/-- Turn the machine on. -/
def powerOn (m : Machine) : Machine :=
  let m := if m.config.clearRamOnPowerOn then m.clearRam else m
  -- keys are released on the way off, not here
  let m := m.blankDisplay
  let m := m.updateBus fun b => { b with fault := none }
  let m := { m with
    keyQueue := []
    lastFault := none
    power := .running
    cpu := m.cpu.powerOnReset }
  m.report [m.cpu.resetRecord, ⟨.power, .info, m.powerOnText⟩]

/-- Turn the machine off.  Keys are released and the display goes dark even if it was off before. -/
def powerOff (m : Machine) : Machine :=
  let wasOn := m.isPowered
  let records := m.bus.keypad.releaseAllRecords
  let m := (m.updateBus fun b => { b with keypad := b.keypad.releaseAll }).report records
  let m := m.blankDisplay
  let m := { m with power := .off, keyQueue := [] }
  if wasOn then m.report [⟨.power, .info, "power off"⟩] else m

/-- Turn the machine on if it is off, and off if it is on. -/
def powerButton (m : Machine) : Machine :=
  if m.isPowered then m.powerOff else m.powerOn

/-- What is said of a reset. -/
def resetText (m : Machine) : String :=
  "reset, PC=" ++ m.pcText

/-- Reset the processor, keeping memory. -/
def reset (m : Machine) : Machine :=
  if m.isPowered then
    let m := { m with cpu := m.cpu.reset }
    m.report [m.cpu.resetRecord, ⟨.power, .info, m.resetText⟩]
  else m

/-! ## Keys -/

/-- Whether a key is held. -/
def isPressed (m : Machine) (key : Key) : Bool :=
  m.bus.keypad.isPressed key

/-- What is said of a key that is pressed while the machine is off. -/
def ignoredText (key : Key) : String :=
  "key " ++ key.code ++ " ignored while off"

/-- Press a key.  RESET resets the processor unless it is held already. -/
def pressKey (m : Machine) (key : Key) : Machine :=
  if m.isPowered then
    let wasHeld := m.isPressed key
    let records := m.bus.keypad.pressRecords key
    -- RESET acts on being pressed, not on being held
    let m := (m.updateBus fun b => { b with keypad := b.keypad.press key }).report records
    if key = .reset ∧ !wasHeld then m.reset else m
  else m.report [⟨.keypad, .trace, ignoredText key⟩]

/-- Release a key. -/
def releaseKey (m : Machine) (key : Key) : Machine :=
  if m.isPowered then
    let records := m.bus.keypad.releaseRecords key
    (m.updateBus fun b => { b with keypad := b.keypad.release key }).report records
  else m

/-- Press the key with a code. -/
def pressKeyCode (m : Machine) (code : String) : Except UnknownKey Machine :=
  (Key.ofText code).map m.pressKey

/-- Release the key with a code. -/
def releaseKeyCode (m : Machine) (code : String) : Except UnknownKey Machine :=
  (Key.ofText code).map m.releaseKey

/-- Press or release a key. -/
def handleKey (m : Machine) : KeyEvent → Machine
  | .press key => m.pressKey key
  | .release key => m.releaseKey key

/-- Put a key event into the queue, for the start of the next tick. -/
def queueKey (m : Machine) (event : KeyEvent) : Machine :=
  if m.isPowered then { m with keyQueue := m.keyQueue ++ [event] } else m

/-- Handle the queued key events in order. -/
def drainKeys (m : Machine) : Machine :=
  m.keyQueue.foldl handleKey { m with keyQueue := [] }

/-! ## Interrupts, breakpoints, programs -/

/-- Whether an interrupt request would be taken now. -/
def acceptsIrq (m : Machine) : Bool :=
  m.isPowered && m.cpu.acceptsIrq

/-- Take an interrupt through a vector. -/
def interrupt (m : Machine) (vector : UInt16) : Machine :=
  let m := { m with cpu := m.cpu.interrupt vector }
  m.report [m.cpu.interruptRecord vector]

/-- Request an interrupt. -/
def irq (m : Machine) : Machine :=
  if m.acceptsIrq then m.interrupt irqVector else m

/-- Request a non-maskable interrupt. -/
def nmi (m : Machine) : Machine :=
  if m.isPowered && !m.cpu.isHalted then m.interrupt nmiVector else m

/-- Set a breakpoint. -/
def addBreakpoint (m : Machine) (address : UInt16) : Machine :=
  { m with breakpoints := m.breakpoints.insert address }

/-- Remove a breakpoint. -/
def removeBreakpoint (m : Machine) (address : UInt16) : Machine :=
  { m with breakpoints := m.breakpoints.erase address }

/-- Continue at an address, also from a halt or a wait. -/
def setPc (m : Machine) (address : UInt16) : Machine :=
  { m with cpu := { m.cpu.jump address with state := .running } }

/-- Write a program into memory. -/
def loadProgram (m : Machine) (image : ProgramImage) : Machine × Except LoadError LoadReport :=
  let (bus, result) := m.cpu.memory.loadProgram image
  ({ m with cpu.memory := bus }, result)

/-! ## Looking -/

/-- What the display shows. -/
def display (m : Machine) : DisplaySnapshot :=
  m.bus.display.snapshot

/-- Follow the display. -/
def subscribe (m : Machine) : Machine :=
  m.updateBus fun b => { b with display := b.display.subscribe }

/-- The byte that the processor would read at an address. -/
def peek (m : Machine) (address : UInt16) : UInt8 :=
  m.bus.read address

/-- How many writes the monitor has refused. -/
def rejectedWrites (m : Machine) : Nat :=
  m.bus.rom.rejectedWrites

end Machine

end Trainer6800
