import Trainer6800.Json.Codec.Sequence

/-!
# Codecs of records

A record is written as an object with its fields in the order of their declaration.  It is read from
an object with the fields in any order, passing over unknown ones, or from an array with the field
values in order.  A field may have a default for when it is missing.

`Fields` describes the fields of a record, one by one: `Fields.field` puts one field before others.
While a record is read, each field has a place that holds its value or nothing yet; `Fields.State` is
the type of all these places together.
-/

namespace Trainer6800.Json

/-- The place of one field among the places `σ` of all fields. -/
structure Slot (σ : Type) where
  name : String
  /-- Whether the field has a default. -/
  optional : Bool
  /-- Whether the field already has a value. -/
  filled : σ → Bool
  /-- Read the value of the field. -/
  read : σ → Reader σ
  /-- Decode the value of the field. -/
  decode : σ → Value → Except Error σ

/-- The fields of a record with data `α`. -/
structure Fields (α : Type) where
  /-- The places of the values read so far. -/
  State : Type
  /-- No value yet. -/
  empty : State
  slots : List (Slot State)
  /-- The record of the values in their places. -/
  finish : State → Except Error α
  encode : α → Members

namespace Fields

variable {α β : Type}

/-- No fields. -/
def none : Fields Unit where
  State := Unit
  empty := ()
  slots := []
  finish _ := .ok ()
  encode _ := []

/-- One field, and then others. -/
def field (name : String) (c : Codec α) (rest : Fields β) (default : Option α := Option.none) :
    Fields (α × β) where
  State := Option α × rest.State
  empty := (Option.none, rest.empty)
  slots :=
    { name
      optional := default.isSome
      filled := fun s => s.1.isSome
      read := fun s cs => (c.read cs).map fun (a, left) => ((some a, s.2), left)
      decode := fun s v => (c.decode v).map fun a => (some a, s.2) } ::
    rest.slots.map fun slot =>
      { name := slot.name
        optional := slot.optional
        filled := fun s => slot.filled s.2
        read := fun s cs => (slot.read s.2 cs).map fun (t, left) => ((s.1, t), left)
        decode := fun s v => (slot.decode s.2 v).map fun t => (s.1, t) }
  finish s :=
    match s.1.or default with
    | some a => (rest.finish s.2).map (a, ·)
    | Option.none => .error (.mismatch (.missingField name))
  encode p := (name, c.encode p.1) :: rest.encode p.2

/-- The fields of another form of the same data. -/
def map (f : Fields α) (g : α → β) (h : β → α) : Fields β where
  State := f.State
  empty := f.empty
  slots := f.slots
  finish s := (f.finish s).map g
  encode b := f.encode (h b)

/-- The place of a field by name. -/
def slot? (f : Fields α) (name : String) : Option (Slot f.State) :=
  f.slots.find? (·.name == name)

/-- What a record is called in an error about its number of fields. -/
def expected (f : Fields α) (title : String) : String :=
  let n := f.slots.length
  title ++ " with " ++ toString n ++ (if n = 1 then " element" else " elements")

/-- Read the fields from an array, from number `i` on.  The array may end early where the fields
left have defaults. -/
def readPositions (f : Fields α) (title : String) :
    Nat → List (Slot f.State) → f.State → Reader f.State
  | _, [], s, cs => (closeArray cs).map (s, ·)
  | i, slot :: slots, s, cs => do
    match ← nextElement (i == 0) cs with
    | .close rest =>
      if slot.optional then return (s, rest) else .error (tooShort i)
    | .item text =>
      let (s, rest) ← slot.read s text
      readPositions f title (i + 1) slots s rest
where
  tooShort (i : Nat) : Error := Codec.tooShort i (f.expected title)

/-- Read a member of the object that a record is. -/
def readMember (f : Fields α) (name : String) (s : f.State) : Reader f.State := fun cs =>
  match f.slot? name with
  | some slot => do
    if slot.filled s then .error (.mismatch (.duplicateField name))
    else slot.read s (← readColon cs)
  | Option.none => do
    return (s, ← skipValue (← readColon cs))

/-- Read a record from an array or an object. -/
def read (f : Fields α) (title : String) : Reader α := fun cs =>
  match skipBlanks cs with
  | '[' :: rest => do
    let (s, rest) ← f.readPositions title 0 f.slots f.empty rest
    return (← f.finish s, rest)
  | '\x7b' :: rest => do
    let (s, rest) ← readMembers f.readMember f.empty rest
    return (← f.finish s, rest)
  | cs => .error (unexpectedText title cs)

/-- Decode the fields from the elements of an array, from number `i` on, with what is left. -/
def decodePositions (f : Fields α) (title : String) :
    Nat → List (Slot f.State) → f.State → List Value → Except Error (f.State × List Value)
  | _, [], s, vs => .ok (s, vs)
  | i, slot :: _, s, [] =>
    if slot.optional then .ok (s, []) else .error (Codec.tooShort i (f.expected title))
  | i, slot :: slots, s, v :: vs => do
    decodePositions f title (i + 1) slots (← slot.decode s v) vs

/-- Decode the members of an object in order. -/
def decodeMembers (f : Fields α) : f.State → Members → Except Error f.State
  | s, [] => .ok s
  | s, (name, v) :: rest =>
    match f.slot? name with
    | some slot => do
      if slot.filled s then .error (.mismatch (.duplicateField name))
      else decodeMembers f (← slot.decode s v) rest
    | Option.none => decodeMembers f s rest

/-- Decode a record from the members of an object. -/
def decodeObject (f : Fields α) (members : Members) : Except Error α := do
  f.finish (← f.decodeMembers f.empty members)

/-- Decode a record from an array or an object. -/
def decode (f : Fields α) (title : String) : Value → Except Error α
  | .array vs => do
    let (s, rest) ← f.decodePositions title 0 f.slots f.empty vs
    let a ← f.finish s
    if rest.isEmpty then return a else .error (Codec.tooLong vs.length)
  | .object members => f.decodeObject members
  | v => .error (.mismatch (.type v.found title))

end Fields

/-- Records with the given fields; `title` names the record in errors. -/
def Codec.record {α : Type} (title : String) (f : Fields α) : Codec α where
  encode a := .object (f.encode a)
  read := f.read title
  decode := f.decode title

end Trainer6800.Json
