import Trainer6800.Json.Codec.Choice

/-!
# What the display shows

Six digits, the leftmost first.  Each is a byte of lit segments, from bit 0 on: `a b c d e f g` and
the decimal point.  `DisplaySnapshot.render` shows the digits as text: a known pattern as its
character, any other as `?`, and a lit decimal point as `.` after it.
-/

namespace Trainer6800

open Json

/-- The lit segments of every digit. -/
structure DisplaySnapshot where
  digits : Vector UInt8 6
  deriving DecidableEq, Repr

/-- Patterns with a character of their own. -/
def glyphs : List (UInt8 × Char) :=
  [(0x00, ' '), (0x3F, '0'), (0x06, '1'), (0x5B, '2'), (0x4F, '3'), (0x66, '4'), (0x6D, '5'),
   (0x7D, '6'), (0x07, '7'), (0x7F, '8'), (0x6F, '9'), (0x77, 'A'), (0x7C, 'b'), (0x39, 'C'),
   (0x5E, 'd'), (0x79, 'E'), (0x71, 'F'), (0x76, 'H'), (0x38, 'L'), (0x73, 'P'), (0x3E, 'U'),
   (0x50, 'r'), (0x5C, 'o'), (0x40, '-')]

/-- The pattern of a digit without its decimal point. -/
def digitShape (segments : UInt8) : UInt8 :=
  segments &&& 0x7F

/-- Whether the decimal point of a digit is lit. -/
def hasPoint (segments : UInt8) : Bool :=
  segments &&& 0x80 != 0

/-- The character of a digit. -/
def glyph (segments : UInt8) : Char :=
  (glyphs.lookup (digitShape segments)).getD '?'

/-- The text of a digit. -/
def digitText (segments : UInt8) : List Char :=
  if hasPoint segments then [glyph segments, '.'] else [glyph segments]

namespace DisplaySnapshot

/-- No segment lit. -/
def blank : DisplaySnapshot :=
  ⟨Vector.replicate 6 0⟩

/-- Whether no segment is lit. -/
def isBlank (s : DisplaySnapshot) : Bool :=
  s.digits.all (· == 0)

/-- The digits as text. -/
def render (s : DisplaySnapshot) : String :=
  String.ofList (s.digits.toList.flatMap digitText)

/-- Snapshots as records. -/
def codec : Codec DisplaySnapshot :=
  Codec.record "struct DisplaySnapshot" (fields)
where
  fields : Fields DisplaySnapshot :=
    (Fields.field "digits" (Codec.vector 6 Codec.byte) .none).map
      (fun (digits, _) => ⟨digits⟩) fun s => (s.digits, ())

end DisplaySnapshot

/-- What observers of the display are told. -/
inductive DisplayEvent where
  /-- The whole display: first of all, and after it has been restored. -/
  | snapshot (shown : DisplaySnapshot)
  /-- One digit has changed. -/
  | digit (index : UInt64) (segments : UInt8)
  deriving DecidableEq, Repr

/-- Display events as variants. -/
def DisplayEvent.codec : Codec DisplayEvent :=
  Codec.choice
    [.single "Snapshot" DisplaySnapshot.codec .snapshot,
     .record "struct variant DisplayEvent::Digit" "Digit" digitFields
       fun (index, segments, _) => .digit index segments]
    fun
    | .snapshot shown => .object [("Snapshot", DisplaySnapshot.codec.encode shown)]
    | .digit index segments =>
      .object [("Digit", .object (digitFields.encode (index, segments, ())))]
where
  digitFields : Fields (UInt64 × UInt8 × Unit) :=
    .field "index" Codec.count (.field "segments" Codec.byte .none)

/-- A display that follows another one, after an event from it. -/
def DisplaySnapshot.apply (s : DisplaySnapshot) : DisplayEvent → DisplaySnapshot
  | .snapshot shown => shown
  | .digit index segments => ⟨s.digits.setIfInBounds index.toNat segments⟩

end Trainer6800
