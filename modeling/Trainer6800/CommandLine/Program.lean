import Trainer6800.CommandLine.Arguments
import Trainer6800.CommandLine.Failure
import Trainer6800.CommandLine.Session
import Trainer6800.Log.Names
import Trainer6800.Machine.Mounts
import Trainer6800.Machine.SaveState

/-!
# The program

From the words of a command line to what is written and the exit status.  The program asks for files
through `FileAccess`, so it is the same program on a disk and in memory; everything between reading and
writing files is a function.

The status is 0 after a run, 1 after a failure and 2 when the words make no sense.
-/

namespace Trainer6800

/-- What a run of the program leaves. -/
structure Outcome where
  status : UInt32
  output : String := ""
  errors : String := ""
  deriving DecidableEq, Repr

/-- The outcome when there is no run. -/
def ArgumentStop.outcome (s : ArgumentStop) : Outcome :=
  match s with
  | .help => { status := 0, output := s.message }
  | _ => { status := 2, errors := "error: " ++ s.message ++ "\n\nFor more information, try '--help'.\n" }

/-- Lines, each with a line end. -/
def joinLines (lines : Array String) : String :=
  lines.foldl (fun text line => text ++ line ++ "\n") ""

namespace Program

/-- A run may fail; what has been written before that stays. -/
abbrev Run (m : Type → Type) := ExceptT Failure (StateT Transcript m)

variable {m : Type → Type} [Monad m]

/-- Go on with a result, or fail. -/
def require {ε α : Type} (failure : ε → Failure) (r : Except ε α) : Run m α :=
  ExceptT.mk (pure (r.mapError failure))

/-- Set the level of the log. -/
def setLevel (a : Arguments) : Run m Unit :=
  match Log.Level.ofName? a.logLevel with
  | some level =>
    modify fun t => { t with logger := { t.logger with settings := { everything := level } } }
  | none => throw (.unknownLevel a.logLevel)

/-- Start or continue the machine where the arguments say. -/
def jumpTo (start : Option UInt16) (machine : Machine) : Machine :=
  match start with
  | some address => machine.setPc address
  | none => machine

variable [FileAccess m]

/-- Open the log file, if there is to be one. -/
def openLogFile (a : Arguments) : Run m Unit := do
  if let some path := a.logFile then
    require (.logFile path) (← FileAccess.openLog (m := m) path)

/-- The configuration of the machine. -/
def readConfig (a : Arguments) : Run m MachineConfig := do
  match a.config with
  | none => return {}
  | some path =>
    let file ← FileAccess.read (m := m) path
    require (.config path) (MachineConfig.ofFile (file.bind textOfBytes))

/-- The machine with its monitor, if there is to be one. -/
def mountMonitor (a : Arguments) (machine : Machine) : Run m Machine := do
  match a.monitor with
  | none => return machine
  | some path =>
    let image ← require (.monitor path) (← FileAccess.read (m := m) path)
    return machine.mountMonitor image.toList

/-- The program, if there is to be one. -/
def readProgram (path : String) : Run m ProgramImage := do
  let file ← FileAccess.read (m := m) path
  let text ← require (.programFile path) (file.bind textOfBytes)
  require (.programText path) (ProgramImage.codec.ofText text)

/-- Load the program, if there is to be one. -/
def loadProgram (a : Arguments) (machine : Machine) : Run m Machine := do
  match a.program with
  | none => return machine
  | some path =>
    let (machine, result) := machine.loadProgram (← readProgram path)
    let _ ← require .load result
    return machine

/-- Everything up to the end of the session: the machine as it is then. -/
def session (a : Arguments) : Run m Machine := do
  setLevel a
  openLogFile a
  let config ← readConfig a
  let keys ← require .key (a.keys.mapM Key.ofText)
  -- the display is followed from before the power comes on, so nothing is missed
  let machine ← mountMonitor a (.ofMonitor [] config)
  let s := (Session.start machine keys (← get)).writeLog
  set s.transcript
  let machine ← loadProgram a s.machine
  let s := ({ s with machine := jumpTo a.start machine }.writeLog).play a.ticks
  let t := s.transcript
  set { t with display := t.display.push s.machine.registersLine }
  return s.machine

/-- Write the log to its file; without a file, it is left for the error channel. -/
def writeLog (a : Arguments) (log : String) : m String := do
  match a.logFile with
  | none => return log
  | some path =>
    unless log.isEmpty do FileAccess.append path log
    return ""

/-- Save the state of the machine. -/
def save (a : Arguments) (machine : Machine) : m (Except Failure Unit) := do
  match ← FileAccess.create a.save with
  | .error fault => return .error (.save a.save fault)
  | .ok _ => return (← FileAccess.write a.save machine.saveState.prettyText).mapError .write

/-- Run the program on the words of a command line. -/
def run (words : List String) : m Outcome := do
  match Arguments.ofWords words with
  | .error stop => return stop.outcome
  | .ok a =>
    let (result, t) ← (session a).run.run {}
    let errors ← writeLog a (joinLines t.log)
    -- the log comes before the report of a failure
    match result with
    | .error f => return { status := 1, errors := errors ++ f.report }
    | .ok machine =>
      let output := if a.quiet then "" else joinLines t.display
      match ← save a machine with
      | .ok _ => return { status := 0, output, errors }
      | .error f => return { status := 1, output, errors := errors ++ f.report }

end Program

end Trainer6800
