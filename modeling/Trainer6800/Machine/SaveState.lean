import Trainer6800.Cpu.Encoding
import Trainer6800.Machine.Basic

/-!
# Saved states

A saved state is a JSON value with the power state, the processor, memory, the display and the
keypad; the monitor, the configuration and the breakpoints are not part of it.  Loading reads all
parts first and changes the machine only if all of them can be used, so a refused state changes
nothing.  The key policy stays that of the configuration, a key is held only once, and queued key
events are dropped.
-/

namespace Trainer6800

open Json

/-- Power states by name. -/
def PowerState.codec : Codec PowerState :=
  Codec.enumeration PowerState.all PowerState.name

/-- The version of saved states. -/
def stateVersion : Nat := 1

/-- What a saved state says it is a state of. -/
def stateSystem : String := "et3400"

/-- Why a saved state cannot be loaded. -/
inductive StateError where
  | version
  | system
  | part (error : Json.Error)
  | memorySize
  | memory (error : OutOfRange)
  deriving DecidableEq, Repr

/-- The text of the error. -/
def StateError.message : StateError → String
  | version => "unsupported save state version"
  | system => "save state is not for the ET-3400"
  | part error => error.message
  | memorySize => "save state RAM size mismatch"
  | memory error => error.message

/-- The parts of a saved state. -/
structure SavedState where
  power : PowerState
  cpu : CpuSnapshot
  ram : List UInt8
  display : DisplaySnapshot
  keypad : Keypad

namespace SavedState

/-- The state as a JSON value. -/
def toValue (s : SavedState) : Value :=
  .sorted <| .object
    [("version", .ofNat stateVersion),
     ("system", .string stateSystem),
     ("power", PowerState.codec.encode s.power),
     ("cpu", CpuSnapshot.codec.encode s.cpu),
     ("ram", (Codec.list Codec.byte).encode s.ram),
     ("display", DisplaySnapshot.codec.encode s.display),
     ("keypad", Keypad.codec.encode s.keypad)]

/-- Decode one part of a state. -/
def part {α : Type} (v : Value) (key : String) (c : Codec α) : Except StateError α :=
  (c.decode (v.get key)).mapError .part

/-- The state that a JSON value stands for. -/
def ofValue (v : Value) : Except StateError SavedState := do
  if (v.get "version").nat? ≠ some stateVersion then .error .version
  if (v.get "system").string? ≠ some stateSystem then .error .system
  let power ← part v "power" PowerState.codec
  let cpu ← part v "cpu" CpuSnapshot.codec
  let ram ← part v "ram" (Codec.list Codec.byte)
  let display ← part v "display" DisplaySnapshot.codec
  let keypad ← part v "keypad" Keypad.codec
  if ram.length ≠ ramSize then .error .memorySize
  return { power, cpu, ram, display, keypad }

end SavedState

namespace Machine

/-- The parts of the machine that are saved. -/
def savedState (m : Machine) : SavedState where
  power := m.power
  cpu := m.cpu.snapshot
  ram := m.bus.ram.content.toList
  display := m.display
  keypad := m.bus.keypad

/-- The saved state of the machine. -/
def saveState (m : Machine) : Value :=
  m.savedState.toValue

/-- What is said of loading a state. -/
def stateLoadedText (m : Machine) : String :=
  "state loaded, PC=" ++ m.pcText

/-- The machine with the parts of a saved state, given its memory. -/
def resume (m : Machine) (s : SavedState) (ram : MemoryBlock) : Machine :=
  -- the policy belongs to the configuration, which a saved state does not change
  let keypad := { s.keypad with policy := m.config.keyPolicy }.withoutRepetitions
  let records := m.bus.display.broadcastRecords
  let m := m.updateBus fun b => { b with ram, keypad, display := b.display.restore s.display }
  let m := { m with cpu := m.cpu.restore s.cpu, power := s.power, keyQueue := [] }
  m.report (records ++ [⟨.power, .info, m.stateLoadedText⟩])

/-- Load a saved state. -/
def loadState (m : Machine) (v : Value) : Except StateError Machine := do
  -- everything that can fail comes before the first change
  let s ← SavedState.ofValue v
  let ram ← (m.bus.ram.load 0 s.ram).mapError .memory
  return m.resume s ram

end Machine

end Trainer6800
