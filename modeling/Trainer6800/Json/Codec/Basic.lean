import Trainer6800.Json.Parser
import Trainer6800.Json.Printer

/-!
# Codecs

A `Codec` ties a type to JSON in three ways: `encode` gives the JSON value of an element, `read`
reads an element from the front of a text, and `decode` reads one from a JSON value.  Both readings
accept more than `encode` produces (any order of fields, unknown fields, records as arrays), and
they are two functions, not one after the other, because a reader of text stops at the first fault
in the text.

`Codec.DecodesEncoded` is the law that every codec of this library has: decoding an encoded element
gives it back.  The scalars are here; lists, records and choices are built from other codecs in the
modules beside this one.
-/

namespace Trainer6800.Json

/-- How a type is written as JSON and read from it. -/
structure Codec (α : Type) where
  encode : α → Value
  read : Reader α
  decode : Value → Except Error α

namespace Codec

variable {α β : Type}

/-- The element that a whole text stands for. -/
def ofText (c : Codec α) (text : String) : Except Error α :=
  readWhole c.read text

/-- An element as text on one line. -/
def text (c : Codec α) (a : α) : String :=
  (c.encode a).compactText

/-- An element as text with one item a line. -/
def prettyText (c : Codec α) (a : α) : String :=
  (c.encode a).prettyText

/-- Decoding an encoded element gives it back. -/
def DecodesEncoded (c : Codec α) : Prop :=
  ∀ a, c.decode (c.encode a) = .ok a

/-- A codec for another form of the same data. -/
def map (c : Codec α) (f : α → β) (g : β → α) : Codec β where
  encode b := c.encode (g b)
  read cs := (c.read cs).map fun (a, rest) => (f a, rest)
  decode v := (c.decode v).map f

/-- A codec for the elements that pass a check; `f` gives the checked form or says why there is
none. -/
def refine (c : Codec α) (f : α → Except String β) (g : β → α) : Codec β :=
  let check (a : α) : Except Error β := (f a).mapError fun text => .mismatch (.condition text)
  { encode := fun b => c.encode (g b)
    read := fun cs => do
      let (a, rest) ← c.read cs
      return (← check a, rest)
    decode := fun v => do check (← c.decode v) }

theorem DecodesEncoded.map {c : Codec α} (h : c.DecodesEncoded) {f : α → β} {g : β → α}
    (inverse : ∀ b, f (g b) = b) : (c.map f g).DecodesEncoded := by
  intro b
  simp [Codec.map, h (g b), inverse, Except.map]

/-- The natural number that a number is, if it is one below `bound`. -/
def admitNatural (expected : String) (bound : Nat) (n : Number) : Except Error Nat :=
  match n with
  | .int i =>
    if 0 ≤ i ∧ i < bound then .ok i.toNat else .error (.mismatch (.value (.integer i) expected))
  | .float bits => .error (.mismatch (.type (.float bits) expected))

/-- Natural numbers below a bound; `expected` names them in errors. -/
def natural (expected : String) (bound : Nat) : Codec Nat where
  encode := .ofNat
  read cs :=
    match skipBlanks cs with
    | c :: rest =>
      if c = '-' ∨ (decimalDigit? c).isSome then do
        let (n, rest) ← readNumber (c :: rest)
        return (← admitNatural expected bound n, rest)
      else .error (unexpectedText expected (c :: rest))
    | [] => .error (unexpectedText expected [])
  decode
    | .number n => admitNatural expected bound n
    | v => .error (.mismatch (.type v.found expected))

/-- Bytes. -/
def byte : Codec UInt8 :=
  (natural "u8" 0x100).map UInt8.ofNat UInt8.toNat

/-- Words. -/
def word : Codec UInt16 :=
  (natural "u16" 0x10000).map UInt16.ofNat UInt16.toNat

/-- Numbers of 32 bits. -/
def doubleWord : Codec UInt32 :=
  (natural "u32" 0x100000000).map UInt32.ofNat UInt32.toNat

/-- Numbers of 64 bits. -/
def quadWord : Codec UInt64 :=
  (natural "u64" 0x10000000000000000).map UInt64.ofNat UInt64.toNat

/-- Counts and positions. -/
def count : Codec UInt64 :=
  (natural "usize" 0x10000000000000000).map UInt64.ofNat UInt64.toNat

/-- Truth values. -/
def bool : Codec Bool where
  encode := .bool
  read cs :=
    match skipBlanks cs with
    | 't' :: rest => (readWord ['r', 'u', 'e'] rest).map (true, ·)
    | 'f' :: rest => (readWord ['a', 'l', 's', 'e'] rest).map (false, ·)
    | cs => .error (unexpectedText "a boolean" cs)
  decode
    | .bool b => .ok b
    | v => .error (.mismatch (.type v.found "a boolean"))

/-- Strings. -/
def string : Codec String where
  encode := .string
  read cs :=
    match skipBlanks cs with
    | '"' :: rest => readString rest
    | cs => .error (unexpectedText "a string" cs)
  decode
    | .string s => .ok s
    | v => .error (.mismatch (.type v.found "a string"))

theorem natural_decode_encode (expected : String) {bound n : Nat} (h : n < bound) :
    (natural expected bound).decode ((natural expected bound).encode n) = .ok n := by
  simp [natural, Value.ofNat, admitNatural, h]

end Codec

end Trainer6800.Json
