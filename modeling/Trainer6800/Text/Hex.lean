import Trainer6800.Word

/-!
# Hexadecimal text

Numbers in messages and listings are upper-case hexadecimal of a fixed width: two digits for a
byte, four for a word.  The value of a digit character, of either case, is here too, since the
readers of keys and addresses share it.
-/

namespace Trainer6800.Hex

/-- The upper-case digit of a number below sixteen (of its last hexadecimal digit otherwise). -/
def digit (n : Nat) : Char :=
  let d := n % 16
  if d < 10 then Char.ofNat (48 + d) else Char.ofNat (55 + d)

/-- The value of a hexadecimal digit of either case. -/
def digitValue? (c : Char) : Option Nat :=
  let n := c.toNat
  if 48 ≤ n ∧ n ≤ 57 then some (n - 48)
  else if 65 ≤ n ∧ n ≤ 70 then some (n - 55)
  else if 97 ≤ n ∧ n ≤ 102 then some (n - 87)
  else none

/-- The two digits of a byte. -/
def byteDigits (b : UInt8) : List Char :=
  [digit (b.toNat / 16), digit b.toNat]

/-- The four digits of a word. -/
def wordDigits (w : UInt16) : List Char :=
  byteDigits (highByte w) ++ byteDigits (lowByte w)

/-- A byte as two upper-case digits. -/
def byte (b : UInt8) : String :=
  String.ofList (byteDigits b)

/-- A word as four upper-case digits. -/
def word (w : UInt16) : String :=
  String.ofList (wordDigits w)

/-- The bytes that a string of digit pairs stands for; `none` unless every character is a digit
and their number is even. -/
def bytes? : List Char → Option (List UInt8)
  | [] => some []
  | [_] => none
  | high :: low :: rest => do
    let h ← digitValue? high
    let l ← digitValue? low
    let bs ← bytes? rest
    return UInt8.ofNat (16 * h + l) :: bs

end Trainer6800.Hex
