import Trainer6800.CommandLine.Address
import Trainer6800.Text.Terminal

/-!
# Arguments

The words of a command line describe one run of the trainer.  A flag is two dashes and a name; its
value follows as the next word, or in the same word behind an equals sign.  A word that starts with a
dash is never a value.  The value of a flag is looked at when the next flag or the end is reached, so a
word that does not belong there is reported first.

Words after `--` would be positional arguments, and there are none.
-/

namespace Trainer6800

/-- A flag. -/
inductive Flag where
  | monitor
  | program
  | start
  | config
  | ticks
  | keys
  | logLevel
  | logFile
  | save
  | quiet
  | help
  deriving DecidableEq, Repr

/-- What a run is to do. -/
structure Arguments where
  monitor : Option String := none
  program : Option String := none
  /-- Where to start the program, if not at the reset vector. -/
  start : Option UInt16 := none
  config : Option String := none
  ticks : Nat := 60
  /-- Codes of the keys to press. -/
  keys : List String := []
  logLevel : String := "warn"
  logFile : Option String := none
  save : String := "state.json"
  quiet : Bool := false
  deriving DecidableEq, Repr

/-- Why the words do not lead to a run. -/
inductive ArgumentStop where
  /-- Nothing is wrong: help was asked for. -/
  | help
  | unexpected (word : String)
  | missingValue (flag : Flag)
  | invalidValue (value : String) (flag : Flag) (cause : String)
  | repeated (flag : Flag)
  | unneededValue (value : String) (flag : Flag)
  deriving DecidableEq, Repr

namespace Flag

/-- All flags, in the order in which help shows them. -/
def all : List Flag :=
  [monitor, program, start, config, ticks, keys, logLevel, logFile, save, quiet, help]

/-- The name of a flag, without its dashes. -/
def name : Flag → String
  | monitor => "monitor"
  | program => "program"
  | start => "start"
  | config => "config"
  | ticks => "ticks"
  | keys => "keys"
  | logLevel => "log-level"
  | logFile => "log-file"
  | save => "save"
  | quiet => "quiet"
  | help => "help"

/-- What the value of a flag is called, if it has one. -/
def valueName? : Flag → Option String
  | monitor => some "MONITOR"
  | program => some "PROGRAM"
  | start => some "START"
  | config => some "CONFIG"
  | ticks => some "TICKS"
  | keys => some "KEYS"
  | logLevel => some "LOG_LEVEL"
  | logFile => some "LOG_FILE"
  | save => some "SAVE"
  | quiet | help => none

/-- A flag as messages show it. -/
def label (f : Flag) : String :=
  "--" ++ f.name ++
    match f.valueName? with
    | some value => " <" ++ value ++ ">"
    | none => ""

/-- What a flag is for. -/
def purpose : Flag → String
  | monitor => "Monitor ROM image (1 KiB, at $FC00)"
  | program => "Program image to load after power-on"
  | start => "Hexadecimal address to start the program at"
  | config => "Machine configuration"
  | ticks => "Number of ticks to run"
  | keys => "Keys to press, separated by commas, one every other tick"
  | logLevel => "Log level: off, error, warn, info, debug, trace"
  | logFile => "File for the log"
  | save => "File for the saved state"
  | quiet => "Do not show the display"
  | help => "Show this text"

/-- The flag of a name. -/
def ofName? (name : String) : Option Flag :=
  all.find? (·.name == name)

/-- Whether a flag may be given more than once. -/
def isRepeatable (f : Flag) : Bool :=
  f == keys

end Flag

namespace ArgumentStop

/-- The text that help shows. -/
def usage : String :=
  "Headless trainer\n\nOptions:\n" ++
    String.join (Flag.all.map fun f => "  " ++ f.label ++ "  " ++ f.purpose ++ "\n")

/-- What the user is told.  A word shows in it as on a terminal, without controls. -/
def message : ArgumentStop → String
  | help => usage
  | unexpected word => "unexpected argument '" ++ Text.shown word ++ "' found"
  | missingValue f => "a value is required for '" ++ f.label ++ "' but none was supplied"
  | invalidValue value f cause =>
    "invalid value '" ++ Text.shown value ++ "' for '" ++ f.label ++ "': " ++ cause
  | repeated f => "the argument '" ++ f.label ++ "' cannot be used multiple times"
  | unneededValue value f =>
    "unexpected value '" ++ Text.shown value ++ "' for '" ++ f.label ++ "' found; no more were expected"

end ArgumentStop

/-! ## Values -/

/-- The largest number of ticks. -/
def maxTicks : Nat := 4294967295

/-- The number of ticks that a text stands for, or what is wrong with it. -/
def readTicks (text : String) : Except String Nat :=
  match Text.readInteger 10 0x7FFFFFFFFFFFFFFF text.toList with
  | .error e => .error e.message
  | .ok n =>
    if 0 ≤ n ∧ n ≤ maxTicks then .ok n.toNat
    else .error (toString n ++ " is not in 0..=" ++ toString maxTicks)

namespace Arguments

/-- Check a path: it must not be empty. -/
def readPath (f : Flag) (value : String) : Except ArgumentStop String :=
  if value.isEmpty then .error (.missingValue f) else .ok value

/-- Use the value of a flag; a flag without values ignores it. -/
def assign (a : Arguments) (f : Flag) (value : String) : Except ArgumentStop Arguments :=
  let path := readPath f value
  match f with
  | .monitor => path.map fun p => { a with monitor := some p }
  | .program => path.map fun p => { a with program := some p }
  | .config => path.map fun p => { a with config := some p }
  | .logFile => path.map fun p => { a with logFile := some p }
  | .save => path.map fun p => { a with save := p }
  | .start =>
    match Address.ofText value with
    | .ok address => .ok { a with start := some address }
    | .error e => .error (.invalidValue value f e.message)
  | .ticks =>
    match readTicks value with
    | .ok n => .ok { a with ticks := n }
    | .error cause => .error (.invalidValue value f cause)
  | .keys => .ok { a with keys := a.keys ++ value.splitOn "," }
  | .logLevel => .ok { a with logLevel := value }
  | .quiet => .ok { a with quiet := true }
  | .help => .error .help

end Arguments

/-! ## Words -/

/-- What a word looks like. -/
inductive WordShape where
  /-- Two dashes and a name, with the text behind an equals sign. -/
  | long (name : String) (value : Option String)
  /-- One dash and at least one letter, of which only the first matters. -/
  | short (letter : Char)
  | plain
  deriving DecidableEq, Repr

/-- What a word looks like. -/
def WordShape.ofWord (word : String) : WordShape :=
  match word.toList with
  | '-' :: '-' :: rest =>
    let name := rest.takeWhile (· != '=')
    match rest.dropWhile (· != '=') with
    | _ :: value => .long (String.ofList name) (some (String.ofList value))
    | [] => .long (String.ofList name) none
  | '-' :: letter :: _ => .short letter
  | _ => .plain

/-- The arguments read so far. -/
structure Draft where
  arguments : Arguments := {}
  /-- Flags whose values have been used. -/
  given : List Flag := []
  /-- A flag whose value has not been used, or not even been seen. -/
  pending : Option (Flag × Option String) := none

namespace Draft

/-- Use a flag and its value. -/
def give (d : Draft) (f : Flag) (value : String) : Except ArgumentStop Draft := do
  -- repetition is refused before the value is looked at
  if d.given.contains f && !f.isRepeatable then .error (.repeated f)
  let arguments ← d.arguments.assign f value
  return { d with arguments, given := f :: d.given }

/-- Use the pending flag. -/
def settle (d : Draft) : Except ArgumentStop Draft :=
  match d.pending with
  | none => .ok d
  | some (f, none) => .error (.missingValue f)
  | some (f, some value) => { d with pending := none }.give f value

/-- Take a flag with the value in its word. -/
def takeFlag (d : Draft) (f : Flag) (value : Option String) : Except ArgumentStop Draft :=
  match f.valueName?, value with
  | some _, some value => do (← d.settle).give f value
  | some _, none => do return { ← d.settle with pending := some (f, none) }
  -- here too, what does not belong comes before what is pending
  | none, some value => .error (.unneededValue value f)
  | none, none => do (← d.settle).give f ""

/-- Take a word. -/
def take (d : Draft) (word : String) : Except ArgumentStop Draft :=
  match WordShape.ofWord word with
  | .long name value =>
    match Flag.ofName? name with
    | some f => d.takeFlag f value
    | none => .error (.unexpected ("--" ++ name))
  | .short letter =>
    if letter = 'h' then d.takeFlag .help none
    else .error (.unexpected (String.ofList ['-', letter]))
  | .plain =>
    match d.pending with
    | some (f, none) => .ok { d with pending := some (f, some word) }
    | _ => .error (.unexpected word)

/-- Take words up to the end. -/
def takeAll (d : Draft) : List String → Except ArgumentStop Draft
  | [] => d.settle
  | word :: rest =>
    if word = "--" then
      match rest with
      | [] => d.settle
      | next :: _ => .error (.unexpected next)
    else do takeAll (← d.take word) rest

end Draft

/-- The arguments that words stand for. -/
def Arguments.ofWords (words : List String) : Except ArgumentStop Arguments := do
  return (← Draft.takeAll {} words).arguments

end Trainer6800
