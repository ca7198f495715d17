import Trainer6800.Machine.Bus

/-!
# Program images

A program comes as single bytes with their addresses, or as a block of bytes from an address on.  It
is written into memory through the bus, so that bytes in the display window reach the display and
bytes in the monitor are refused.  A block that would run past the last address is refused as a
whole.
-/

namespace Trainer6800

open Json

/-- A program. -/
inductive ProgramImage where
  /-- Bytes with their addresses, in the order of writing. -/
  | pairs (bytes : List (UInt16 × UInt8))
  /-- Bytes from an address on. -/
  | block (start : UInt16) (bytes : List UInt8)
  deriving DecidableEq, Repr

/-- A block of `length` bytes that runs past the last address. -/
structure ImageOverflow where
  start : UInt16
  length : Nat
  deriving DecidableEq, Repr

/-- The text of the error. -/
def ImageOverflow.message (e : ImageOverflow) : String :=
  "Program image of " ++ toString e.length ++ " bytes at 0x" ++ Hex.word e.start ++
    " runs past 0xFFFF"

/-- How many bytes went into memory, and how many the monitor refused. -/
structure LoadReport where
  written : UInt64 := 0
  rejected : UInt64 := 0
  deriving DecidableEq, Repr

/-- Load reports as records. -/
def LoadReport.codec : Codec LoadReport :=
  Codec.record "struct LoadReport"
    ((Fields.field "written" Codec.count (Fields.field "rejected" Codec.count .none)).map
      (fun (written, rejected, _) => { written, rejected })
      fun r => (r.written, r.rejected, ()))

namespace ProgramImage

/-- Program images as variants. -/
def codec : Codec ProgramImage :=
  Codec.choice
    [.single "pairs" pairList .pairs,
     .record "struct variant ProgramImage::Block" "block" blockFields
       fun (start, bytes, _) => .block start bytes]
    fun
    | .pairs bytes => .object [("pairs", pairList.encode bytes)]
    | .block start bytes => .object [("block", .object (blockFields.encode (start, bytes, ())))]
where
  pairList : Codec (List (UInt16 × UInt8)) := Codec.list (Codec.pair Codec.word Codec.byte)
  blockFields : Fields (UInt16 × List UInt8 × Unit) :=
    .field "start" Codec.word (.field "bytes" (Codec.list Codec.byte) .none)

/-- The number of bytes. -/
def length : ProgramImage → Nat
  | pairs bytes => bytes.length
  | block _ bytes => bytes.length

/-- The lowest address that gets a byte. -/
def start? : ProgramImage → Option UInt16
  | pairs bytes => (bytes.map (·.1)).min?
  | block start bytes => if bytes.isEmpty then none else some start

/-- Bytes at consecutive addresses. -/
def consecutive : UInt16 → List UInt8 → List (UInt16 × UInt8)
  | _, [] => []
  | address, b :: bs => (address, b) :: consecutive (address + 1) bs

/-- The bytes with their addresses, in the order of writing. -/
def writes : ProgramImage → Except ImageOverflow (List (UInt16 × UInt8))
  | pairs bytes => .ok bytes
  | block start bytes =>
    if 0x10000 < start.toNat + bytes.length then .error ⟨start, bytes.length⟩
    else .ok (consecutive start bytes)

end ProgramImage

/-- Why a program was not loaded. -/
inductive LoadError where
  | overflow (e : ImageOverflow)
  /-- A byte went to an address where there is no memory. -/
  | unmapped (e : OutOfRange)
  deriving DecidableEq, Repr

namespace Bus

/-- Write bytes one after the other, counting where they went, up to the first that nothing
takes. -/
def writeEach (b : Bus) (counts : LoadReport) :
    List (UInt16 × UInt8) → Bus × Except OutOfRange LoadReport
  | [] => (b, .ok counts)
  | (address, value) :: rest =>
    -- a byte for the monitor is taken, refused and counted by it
    if b.takes address then
      let counts :=
        if b.rom.contains address then { counts with rejected := counts.rejected + 1 }
        else { counts with written := counts.written + 1 }
      writeEach (b.deliver address value) counts rest
    else
      let e := b.ram.outOfRange address
      (b, .error e)

/-- What is said of a load. -/
def loadedText (counts : LoadReport) : String :=
  "loaded " ++ toString counts.written.toNat ++ " bytes (" ++ toString counts.rejected.toNat ++
    " rejected by ROM)"

/-- The report of a load. -/
def loadRecord (counts : LoadReport) : Log.Record :=
  ⟨.loader, .info, loadedText counts⟩

/-- Write a program. -/
def loadProgram (b : Bus) (image : ProgramImage) : Bus × Except LoadError LoadReport :=
  match image.writes with
  | .error e => (b, .error (.overflow e))
  | .ok writes =>
    match b.writeEach {} writes with
    | (b, .ok counts) => (b.report [loadRecord counts], .ok counts)
    | (b, .error e) => (b, .error (.unmapped e))

end Bus

end Trainer6800
