import Trainer6800.Machine.Image
import Trainer6800.Machine.Config

/-!
# Failures

Why a run of the program failed, and how that is reported: what could not be done, and below it the
causes, from the outermost to the innermost.
-/

namespace Trainer6800

/-- Why a run failed. -/
inductive Failure where
  | unknownLevel (name : String)
  | logFile (path : String) (fault : FileFault)
  | config (path : String) (error : ConfigError)
  | key (error : UnknownKey)
  | monitor (path : String) (fault : FileFault)
  | programFile (path : String) (fault : FileFault)
  | programText (path : String) (error : Json.Error)
  | load (error : LoadError)
  | save (path : String) (fault : FileFault)
  /-- The file for the state was made, but could not be written. -/
  | write (fault : FileFault)
  deriving DecidableEq, Repr

/-- The text of the error. -/
def LoadError.message : LoadError → String
  | overflow e => e.message
  | unmapped e => "Memory error: " ++ e.message

/-- What a configuration error says, and what the error that it wraps says. -/
def ConfigError.chain (e : ConfigError) : List String :=
  match e with
  | unreadable _ | unparsable _ => [e.message, e.cause]
  | clockZero | ticksZero => [e.message]

namespace Failure

/-- What could not be done. -/
def headline : Failure → String
  | unknownLevel name => "unknown log level: " ++ name
  | logFile path _ => "opening log file " ++ path
  | config path _ => "loading config " ++ path
  | key e => e.message
  | monitor path _ => "reading monitor ROM " ++ path
  | programFile path _ => "reading program " ++ path
  | programText path _ => "parsing program " ++ path
  | load e => e.message
  | save path _ => "creating " ++ path
  | write fault => fault.message

/-- The causes, outermost first. -/
def causes : Failure → List String
  | unknownLevel _ | key _ | write _ => []
  | logFile _ fault | monitor _ fault | programFile _ fault | save _ fault => [fault.message]
  | config _ e => e.chain
  | programText _ e => [e.message]
  | load _ => []

/-- A cause behind its mark, with later lines of it indented as far. -/
def causeText (mark : String) (cause : String) : String :=
  let indent := String.ofList (List.replicate mark.length ' ')
  "\n" ++ mark ++ ("\n" ++ indent).intercalate (cause.splitOn "\n")

/-- The causes as text: a single one is only indented, several are numbered. -/
def causesText : List String → String
  | [] => ""
  | [cause] => "\n\nCaused by:" ++ causeText "    " cause
  | causes =>
    "\n\nCaused by:" ++
      String.join (causes.mapIdx fun i cause => causeText ("    " ++ toString i ++ ": ") cause)

/-- The report of a failure. -/
def report (f : Failure) : String :=
  "Error: " ++ f.headline ++ causesText f.causes ++ "\n"

end Failure

end Trainer6800
