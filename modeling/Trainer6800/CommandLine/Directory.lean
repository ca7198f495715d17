import Trainer6800.CommandLine.Program

/-!
# Files in memory

A `Directory` is a working directory with files, and the program can be run in one without touching a
disk.  There are no links.  Around it there are the directories above, up to a root that holds a few
directories and two devices; nothing else is known of them.

Paths are followed name by name, and every name but the last must lead to a directory.  A path that
ends in a slash wants a directory even of its last name.
-/

namespace Trainer6800

/-- Where a path begins. -/
inductive Origin where
  | root
  /-- A number of directories above the working directory. -/
  | above (levels : Nat)
  deriving DecidableEq, Repr

/-- Where a file or a directory is: its names from an origin on. -/
structure Place where
  origin : Origin
  names : List String
  deriving DecidableEq, Repr

namespace Place

/-- The working directory. -/
def working : Place :=
  ⟨.above 0, []⟩

/-- The null device: it reads as nothing and keeps nothing. -/
def nullDevice : Place :=
  ⟨.root, ["dev", "null"]⟩

/-- The full device: it has no room for anything. -/
def fullDevice : Place :=
  ⟨.root, ["dev", "full"]⟩

/-- Whether a place is that of a device. -/
def isDevice (place : Place) : Bool :=
  place = nullDevice || place = fullDevice

/-- Directories in the root. -/
def inRoot : List Place :=
  ["dev", "etc", "home", "tmp", "usr", "var"].map fun name => ⟨.root, [name]⟩

/-- The place of a name in a directory. -/
def child (here : Place) (name : String) : Place :=
  { here with names := here.names ++ [name] }

/-- The directory that a place is in; the root is in itself. -/
def parent (here : Place) : Place :=
  match here.names, here.origin with
  | [], .root => here
  | [], .above levels => ⟨.above (levels + 1), []⟩
  | names, origin => ⟨origin, names.dropLast⟩

/-- Whether a place is that of another, or on the way to it. -/
def isOnWayTo (here there : Place) : Bool :=
  here.origin == there.origin && here.names.isPrefixOf there.names

end Place

/-- The most bytes in a name. -/
def maxNameSize : Nat := 255

/-- The most bytes in a path. -/
def maxPathSize : Nat := 4095

/-- A path: where it begins, its names, and whether a slash ends it. -/
structure Path where
  start : Place
  names : List String
  wantsDirectory : Bool
  deriving DecidableEq, Repr

/-- The path of a text; slashes without a name between them count as one. -/
def Path.ofText (text : String) : Except FileFault Path :=
  if text.isEmpty then .error .notFound
  else if maxPathSize < text.utf8ByteSize then .error .nameTooLong
  else .ok
    { start := if text.startsWith "/" then ⟨.root, []⟩ else .working
      names := (text.splitOn "/").filter (!·.isEmpty)
      wantsDirectory := text.endsWith "/" }

/-- Files by their places. -/
structure Directory where
  files : List (Place × ByteArray) := []

namespace Directory

/-- The contents of the file at a place. -/
def file? (d : Directory) (place : Place) : Option ByteArray :=
  if place.isDevice then some .empty else d.files.lookup place

/-- Whether there is a directory at a place: an origin, one in the root, or one on the way to a
file. -/
def isDirectory (d : Directory) (place : Place) : Bool :=
  place.names.isEmpty || Place.inRoot.contains place ||
    d.files.any fun (there, _) => place.isOnWayTo there && place != there

/-- The place of a name in a directory, unless the name is too long to be looked up. -/
def entry (here : Place) (name : String) : Except FileFault Place :=
  if maxNameSize < name.utf8ByteSize then .error .nameTooLong else .ok (here.child name)

/-- Go from a directory to another, by a name. -/
def enter (d : Directory) (here : Place) (name : String) : Except FileFault Place := do
  if name = "." then return here
  if name = ".." then return here.parent
  let place ← entry here name
  if d.isDirectory place then return place
  throw (if (d.file? place).isSome then .notDirectory else .notFound)

/-- Follow names up to the last: the directory that it is in, and the last name.  Without one, or with
one that stands for a directory, the whole is a directory. -/
def follow (d : Directory) (here : Place) : List String → Except FileFault (Place × String)
  | [] => .error .isDirectory
  | [name] => if name = "." ∨ name = ".." then .error .isDirectory else .ok (here, name)
  | name :: rest => do d.follow (← d.enter here name) rest

/-- The contents of a file. -/
def read (d : Directory) (text : String) : Except FileFault ByteArray := do
  let path ← Path.ofText text
  let (here, name) ← d.follow path.start path.names
  let place ← entry here name
  if d.isDirectory place then throw .isDirectory
  match d.file? place with
  | some bytes => if path.wantsDirectory then throw .notDirectory else return bytes
  | none => throw .notFound

/-- The place of a file that is to be written, which need not exist before. -/
def writable (d : Directory) (text : String) : Except FileFault Place := do
  let path ← Path.ofText text
  let (here, name) ← d.follow path.start path.names
  -- a directory is never made, so the last name is not even looked up
  if path.wantsDirectory then throw .isDirectory
  let place ← entry here name
  if d.isDirectory place then throw .isDirectory else return place

/-- A directory in which the file at a place has other contents; a device keeps nothing. -/
def put (d : Directory) (place : Place) (bytes : ByteArray) : Directory :=
  if place.isDevice then d else { files := (place, bytes) :: d.files.filter (·.1 != place) }

/-- Make sure that there is a file to append to. -/
def openLog (d : Directory) (text : String) : Except FileFault Directory := do
  let place ← d.writable text
  return d.put place ((d.file? place).getD .empty)

/-- Make a file with nothing in it, or empty the one that is there. -/
def create (d : Directory) (text : String) : Except FileFault Directory := do
  return d.put (← d.writable text) .empty

/-- Write to the end of a file. -/
def append (d : Directory) (text : String) (bytes : ByteArray) : Except FileFault Directory := do
  let place ← d.writable text
  if place = .fullDevice ∧ bytes.size ≠ 0 then throw .noSpace
  return d.put place ((d.file? place).getD .empty ++ bytes)

/-- Put files into the working directory, by their paths. -/
def ofFiles (files : List (String × ByteArray)) : Directory where
  files := files.map fun (path, bytes) =>
    (⟨Place.working.origin, (path.splitOn "/").filter (!·.isEmpty)⟩, bytes)

/-- Take the directory that an operation leads to as the state; a fault leaves it as it is. -/
def become (change : Directory → Except FileFault Directory) :
    StateM Directory (Except FileFault Unit) :=
  fun d =>
    match change d with
    | .ok d => (.ok (), d)
    | .error fault => (.error fault, d)

instance : FileAccess (StateM Directory) where
  read path := fun d => (d.read path, d)
  openLog path := become (openLog · path)
  append path text := discard (become (append · path text.toUTF8))
  create path := become (create · path)
  write path text := become (append · path text.toUTF8)

end Directory

end Trainer6800
