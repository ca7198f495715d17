import Trainer6800.Decimal.Shortest

/-!
# JSON values

A number is an integer, if it is written as one and fits 64 bits, or a floating-point number.  The
members of an object are kept in the order in which they were put there: an encoded record has its
fields in the order of their declaration, and a value read from text has its keys sorted
(`Value.sorted` brings any value into that form).
-/

namespace Trainer6800.Json

/-- A number. -/
inductive Number where
  /-- An integer from `-2^63` up to `2^64 - 1`. -/
  | int (value : Int)
  /-- The bits of a 64-bit floating-point number. -/
  | float (bits : UInt64)
  deriving DecidableEq, Repr

/-- A JSON value. -/
inductive Value where
  | null
  | bool (value : Bool)
  | number (value : Number)
  | string (value : String)
  | array (elements : List Value)
  | object (members : List (String × Value))

/-- Lists of object members. -/
abbrev Members := List (String × Value)

namespace Value

/-- A natural number as a value. -/
def ofNat (n : Nat) : Value :=
  .number (.int n)

/-- A byte as a value. -/
def ofByte (b : UInt8) : Value :=
  ofNat b.toNat

/-- A word as a value. -/
def ofWord (w : UInt16) : Value :=
  ofNat w.toNat

/-- The value of a member; `null` when the value is no object or has no such member. -/
def get (v : Value) (key : String) : Value :=
  match v with
  | .object members => (members.lookup key).getD .null
  | _ => .null

/-- The natural number that a value is. -/
def nat? : Value → Option Nat
  | .number (.int i) => if 0 ≤ i then some i.toNat else none
  | _ => none

/-- The string that a value is. -/
def string? : Value → Option String
  | .string s => some s
  | _ => none

end Value

/-- Put a member into a list sorted by key; a later member replaces an earlier one. -/
def Members.put (key : String) (value : Value) : Members → Members
  | [] => [(key, value)]
  | (k, v) :: rest =>
    if key = k then (key, value) :: rest
    else if key < k then (key, value) :: (k, v) :: rest
    else (k, v) :: Members.put key value rest

mutual

/-- The value with the members of every object sorted by key. -/
def Value.sorted : Value → Value
  | .array elements => .array (sortedElements elements)
  | .object members => .object (sortedMembers members)
  | .null => .null
  | .bool b => .bool b
  | .number n => .number n
  | .string s => .string s

/-- Every element sorted. -/
def sortedElements : List Value → List Value
  | [] => []
  | v :: vs => v.sorted :: sortedElements vs

/-- Every member sorted, and put in the order of the keys. -/
def sortedMembers : Members → Members
  | [] => []
  | (k, v) :: rest => Members.put k v.sorted (sortedMembers rest)

end

end Trainer6800.Json
