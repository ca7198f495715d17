import Trainer6800.Files
import Trainer6800.Keypad.Encoding

/-!
# Configuration

How a trainer is set up: the key policy, whether memory is cleared at power-on, the clock, and the
breakpoints.  A configuration is a JSON record whose fields all have defaults.  It is valid when the
clock and the number of ticks per second are not zero; only valid configurations are loaded, but a
machine runs with any.
-/

namespace Trainer6800

open Json

/-- The set-up of a trainer. -/
structure MachineConfig where
  keyPolicy : KeyPolicy := .singleKey
  clearRamOnPowerOn : Bool := true
  /-- Processor cycles per second. -/
  clockHz : UInt32 := 1000000
  /-- Scheduling slices per second. -/
  ticksPerSecond : UInt32 := 60
  breakpoints : List UInt16 := []
  deriving DecidableEq, Repr

/-- Why there is no valid configuration. -/
inductive ConfigError where
  | unreadable (fault : FileFault)
  | unparsable (error : Json.Error)
  | clockZero
  | ticksZero
  deriving DecidableEq, Repr

/-- The cause inside a configuration error. -/
def ConfigError.cause : ConfigError → String
  | unreadable fault => fault.message
  | unparsable error => error.message
  | clockZero => "clock_hz must be non-zero"
  | ticksZero => "ticks_per_second must be non-zero"

/-- The text of the error. -/
def ConfigError.message (e : ConfigError) : String :=
  (match e with
    | unreadable _ => "failed to read config: "
    | unparsable _ => "failed to parse config: "
    | clockZero | ticksZero => "invalid config: ") ++ e.cause

namespace MachineConfig

/-- The fields of a configuration with their defaults. -/
def fields : Fields MachineConfig :=
  let d : MachineConfig := {}
  (Fields.field "key_policy" KeyPolicy.codec
    (Fields.field "clear_ram_on_power_on" Codec.bool
      (Fields.field "clock_hz" Codec.doubleWord
        (Fields.field "ticks_per_second" Codec.doubleWord
          (Fields.field "breakpoints" (Codec.list Codec.word) .none (some d.breakpoints))
          (some d.ticksPerSecond))
        (some d.clockHz))
      (some d.clearRamOnPowerOn))
    (some d.keyPolicy)).map
    (fun (keyPolicy, clearRamOnPowerOn, clockHz, ticksPerSecond, breakpoints, _) =>
      { keyPolicy, clearRamOnPowerOn, clockHz, ticksPerSecond, breakpoints })
    fun c => (c.keyPolicy, c.clearRamOnPowerOn, c.clockHz, c.ticksPerSecond, c.breakpoints, ())

/-- Configurations as records. -/
def codec : Codec MachineConfig :=
  Codec.record "struct MachineConfig" fields

/-- The fault of a configuration that is not valid. -/
def validate (c : MachineConfig) : Except ConfigError Unit :=
  if c.clockHz = 0 then .error .clockZero
  else if c.ticksPerSecond = 0 then .error .ticksZero
  else .ok ()

/-- The valid configuration of a text. -/
def ofText (text : String) : Except ConfigError MachineConfig := do
  let c ← (codec.ofText text).mapError .unparsable
  c.validate
  return c

/-- The valid configuration of a file, given its text or why there is none. -/
def ofFile (file : Except FileFault String) : Except ConfigError MachineConfig := do
  ofText (← file.mapError .unreadable)

/-- The configuration of a file, and the defaults where there is no valid one. -/
def ofFileOrDefault (file : Except FileFault String) : MachineConfig :=
  match ofFile file with
  | .ok c => c
  | .error _ => {}

/-- What is said when the defaults are taken in place of a file. -/
def defaultsText (path : String) (e : ConfigError) : String :=
  e.message ++ " (" ++ path ++ "); using defaults"

/-- The text that a configuration is saved as. -/
def fileText (c : MachineConfig) : String :=
  codec.prettyText c

section Files

variable {m : Type → Type} [Monad m] [FileAccess m]

/-- Save a configuration to a file. -/
def save (c : MachineConfig) (path : String) : m (Except FileFault Unit) := do
  match ← FileAccess.create path with
  | .ok _ => FileAccess.write path c.fileText
  | .error fault => return .error fault

/-- Load a configuration from a file. -/
def load (path : String) : m (Except ConfigError MachineConfig) := do
  return ofFile ((← FileAccess.read path).bind textOfBytes)

/-- Load a configuration from a file, or take the defaults if there is no valid one. -/
def loadOrDefault (path : String) : m MachineConfig := do
  return ofFileOrDefault ((← FileAccess.read path).bind textOfBytes)

end Files

/-- Processor cycles in one tick, never less than one. -/
def cyclesPerTick (c : MachineConfig) : Nat :=
  max 1 (c.clockHz.toNat / max 1 c.ticksPerSecond.toNat)

end MachineConfig

end Trainer6800
