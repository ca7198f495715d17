import Trainer6800.Json.Codec.Record

/-!
# Codecs of choices

An element of a type with several variants is written with the name of its variant: as the name
alone, when the variant holds nothing, and otherwise as an object with one member, whose key is the
name and whose value is what the variant holds.  A variant that holds nothing can also be read from
such an object, with `null` as the value.
-/

namespace Trainer6800.Json

/-- One variant of a type. -/
structure Variant (α : Type) where
  name : String
  /-- The element of the name alone. -/
  bare : Except Error α
  /-- Read what the variant holds. -/
  read : Reader α
  /-- Decode what the variant holds. -/
  decode : Value → Except Error α

namespace Variant

variable {α β : Type}

/-- A variant that holds nothing. -/
def unit (name : String) (a : α) : Variant α where
  name
  bare := .ok a
  read cs :=
    match skipBlanks cs with
    | 'n' :: rest => (readWord ['u', 'l', 'l'] rest).map (a, ·)
    | cs => .error (unexpectedText "unit" cs)
  decode
    | .null => .ok a
    | v => .error (.mismatch (.type v.found "unit"))

/-- A variant that holds one value. -/
def single (name : String) (c : Codec β) (f : β → α) : Variant α where
  name
  bare := .error (.mismatch (.type .unitVariant "newtype variant"))
  read cs := (c.read cs).map fun (b, rest) => (f b, rest)
  decode v := (c.decode v).map f

/-- A variant that holds a record; `title` names the record in errors. -/
def record (title name : String) (fields : Fields β) (f : β → α) : Variant α where
  name
  bare := .error (.mismatch (.type .unitVariant "struct variant"))
  read cs := (fields.read title cs).map fun (b, rest) => (f b, rest)
  decode
    | .object members => (fields.decodeObject members).map f
    | v => .error (.mismatch (.type v.found "struct variant"))

end Variant

namespace Codec

variable {α : Type}

/-- The variant of a name. -/
def findVariant (variants : List (Variant α)) (name : String) : Except Error (Variant α) :=
  match variants.find? (·.name == name) with
  | some v => .ok v
  | Option.none => .error (.mismatch (.unknownVariant name (variants.map (·.name))))

/-- Read the name of a variant, after the brace of the object around it.  An object without members
names no variant. -/
def readVariantName : Reader String := fun cs =>
  match skipBlanks cs with
  | [] => .error (.ended .object)
  | c :: rest =>
    if c = '"' then readString rest
    else if c = '\x7d' then .error (.malformed .expectedValue)
    else .error (.malformed .keyNotString)

/-- Expect the end of the object around a variant. -/
def closeVariant (cs : List Char) : Except Error (List Char) :=
  match skipBlanks cs with
  | [] => .error (.ended .object)
  | c :: rest => if c = '\x7d' then .ok rest else .error (.malformed .expectedValue)

/-- Types with the given variants. -/
def choice (variants : List (Variant α)) (encode : α → Value) : Codec α where
  encode
  read cs :=
    match skipBlanks cs with
    | [] => .error (.ended .value)
    | c :: rest => do
      if c = '"' then
        let (name, rest) ← readString rest
        let variant ← findVariant variants name
        return (← variant.bare, rest)
      else if c = '\x7b' then
        let (name, rest) ← readVariantName rest
        let variant ← findVariant variants name
        let (a, rest) ← variant.read (← readColon rest)
        return (a, ← closeVariant rest)
      else .error (.malformed .expectedValue)
  decode
    | .string name => do (← findVariant variants name).bare
    | .object [(name, v)] => do (← findVariant variants name).decode v
    | .object _ => .error (.mismatch (.value .map "map with a single key"))
    | v => .error (.mismatch (.type v.found "string or map"))

/-- Types whose elements are all named and hold nothing. -/
def enumeration (elements : List α) (name : α → String) : Codec α :=
  choice (elements.map fun a => .unit (name a) a) fun a => .string (name a)

end Codec

end Trainer6800.Json
