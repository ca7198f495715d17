import Trainer6800.CommandLine.Program

/-!
# Command line

The program on the files of the disk.
-/

namespace Trainer6800

/-- The fault of an error number. -/
def FileFault.ofNumber (number : UInt32) (description : String) : FileFault :=
  -- looking at a file reports the negated number
  match (if 0x80000000 ≤ number then 0 - number else number).toNat with
  | 2 => .notFound
  | 20 => .notDirectory
  | 21 => .isDirectory
  | 28 => .noSpace
  | 36 => .nameTooLong
  | n => .other (description ++ " (os error " ++ toString n ++ ")")

/-- A fault that the system reports. -/
def FileFault.ofError : IO.Error → FileFault
  | .noFileOrDirectory _ number description | .inappropriateType _ number description
  | .invalidArgument _ number description | .resourceExhausted _ number description
  | .permissionDenied _ number description => .ofNumber number description
  | e => .other (toString e)

/-- What an action on a file leads to. -/
def attempt {α : Type} (action : IO α) : IO (Except FileFault α) := do
  match ← action.toBaseIO with
  | .ok a => return .ok a
  | .error e => return .error (.ofError e)

instance : FileAccess IO where
  read path := attempt (IO.FS.readBinFile path)
  openLog path := attempt (discard (IO.FS.Handle.mk path .append))
  append path text := do
    let file ← IO.FS.Handle.mk path .append
    file.putStr text
  create path := attempt (discard (IO.FS.Handle.mk path .write))
  write path text := attempt do
    let file ← IO.FS.Handle.mk path .append
    file.putStr text
    file.flush

end Trainer6800

open Trainer6800 in
/-- Run the program, print what it writes and exit with its status. -/
def main (words : List String) : IO UInt32 := do
  let outcome ← Program.run (m := IO) words
  IO.print outcome.output
  IO.eprint outcome.errors
  return outcome.status
