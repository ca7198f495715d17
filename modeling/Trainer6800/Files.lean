/-!
# Files

What is asked of files goes through `FileAccess`, so that the same functions work on a disk and in
memory.  A request that fails says why, in the words of the system.
-/

namespace Trainer6800

/-- Why a file could not be read or written. -/
inductive FileFault where
  | notFound
  | notDirectory
  | isDirectory
  /-- A path, or a name in it, is longer than the system takes. -/
  | nameTooLong
  /-- There is no room for what is to be written. -/
  | noSpace
  | notText
  /-- Any other fault, in the words of the system. -/
  | other (description : String)
  deriving DecidableEq, Repr

/-- The text of the fault. -/
def FileFault.message : FileFault → String
  | notFound => "No such file or directory (os error 2)"
  | notDirectory => "Not a directory (os error 20)"
  | isDirectory => "Is a directory (os error 21)"
  | nameTooLong => "File name too long (os error 36)"
  | noSpace => "No space left on device (os error 28)"
  | notText => "stream did not contain valid UTF-8"
  | other description => description

/-- Access to files by their paths. -/
class FileAccess (m : Type → Type) where
  /-- The contents of a file. -/
  read : String → m (Except FileFault ByteArray)
  /-- Make sure that there is a file to append to. -/
  openLog : String → m (Except FileFault Unit)
  /-- Append text to a file. -/
  append : String → String → m Unit
  /-- Make a file with nothing in it, or empty the one that is there. -/
  create : String → m (Except FileFault Unit)
  /-- Write text to a file that was made empty. -/
  write : String → String → m (Except FileFault Unit)

/-- The contents of a file as text. -/
def textOfBytes (bytes : ByteArray) : Except FileFault String :=
  match String.fromUTF8? bytes with
  | some text => .ok text
  | none => .error .notText

end Trainer6800
