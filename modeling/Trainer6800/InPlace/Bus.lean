import Trainer6800.InPlace.AddressSpace
import Trainer6800.InPlace.Display
import Trainer6800.InPlace.Keypad
import Trainer6800.InPlace.Memory
import Trainer6800.Machine.Image

/-!
# The bus in place

Reads and writes through the address map with the log at hand.  A write goes to the monitor, or else to
memory, and only when memory has taken it to the display.  Nothing here touches `Bus.journal`: what is
reported goes to the log at once.
-/

namespace Trainer6800.Bus

open Acting (log within)

section Parts

variable {α : Type}

/-- Do something with the memory. -/
def onRam (a : Acting MemoryBlock α) : Acting Bus α :=
  within ram (fun ram b => { b with ram }) a

/-- Do something with the monitor. -/
def onRom (a : Acting MemoryBlock α) : Acting Bus α :=
  within rom (fun rom b => { b with rom }) a

/-- Do something with the keypad. -/
def onKeypad (a : Acting Keypad α) : Acting Bus α :=
  within keypad (fun keypad b => { b with keypad }) a

/-- Do something with the display. -/
def onDisplay (a : Acting DisplayLatch α) : Acting Bus α :=
  within display (fun display b => { b with display }) a

end Parts

/-- A bus with blank memory, a monitor and a keypad, wherever it is made. -/
def ofMonitorM {σ : Type} (image : List UInt8) (keypad : Keypad) : Acting σ Bus := do
  let rom ← MemoryBlock.readOnlyM romSize image
  return { ram := .plain ramSize, rom := rom.placedAt romBase, keypad }

/-- Read through the address map; a byte that nothing answers for is logged, and is `FF`. -/
def readM (address : UInt16) : Acting Bus UInt8 := do
  match (← get).readChecked address with
  | .ok value => return value
  | .error e =>
    log .memory .error (pure (readFailure e))
    return 0xFF

/-- Write through the address map. -/
def writeCheckedM (address : UInt16) (value : UInt8) : Acting Bus (Except OutOfRange Unit) := do
  if (← get).rom.contains address then
    onRom (MemoryBlock.writeM address value)
  else
    match ← onRam (MemoryBlock.writeM address value) with
    | .error e => return .error e
    | .ok () =>
      if inDisplayWindow address then
        onDisplay (DisplayLatch.writeM (lowByte address) value)
      return .ok ()

/-- Write through the address map; a failure is logged and remembered. -/
def writeM (address : UInt16) (value : UInt8) : Acting Bus Unit := do
  match ← writeCheckedM address value with
  | .ok () => return
  | .error e =>
    log .memory .error (pure (writeFailure e))
    modify fun b => { b with fault := some e }

instance : AddressSpaceM Bus := ⟨readM, writeM⟩

/-- Replace the monitor. -/
def loadMonitorM (image : List UInt8) : Acting Bus Unit := do
  let rom ← MemoryBlock.readOnlyM romSize image
  modify fun b => { b with rom := rom.placedAt romBase }

/-- Write bytes one after the other, counting where they go, up to the first that nothing takes. -/
def writeEachM (counts : LoadReport) :
    List (UInt16 × UInt8) → Acting Bus (Except OutOfRange LoadReport)
  | [] => return .ok counts
  | (address, value) :: rest => do
    -- a byte is counted before it is written
    let counts :=
      if (← get).rom.contains address then { counts with rejected := counts.rejected + 1 }
      else { counts with written := counts.written + 1 }
    match ← writeCheckedM address value with
    | .error e => return .error e
    | .ok () => writeEachM counts rest

/-- Write a program. -/
def loadProgramM (image : ProgramImage) : Acting Bus (Except LoadError LoadReport) := do
  match image.writes with
  | .error e => return .error (.overflow e)
  | .ok writes =>
    match ← writeEachM {} writes with
    | .error e => return .error (.unmapped e)
    | .ok counts =>
      log .loader .info (pure (loadedText counts))
      return .ok counts

end Trainer6800.Bus
