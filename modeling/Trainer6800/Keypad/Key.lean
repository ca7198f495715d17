import Trainer6800.Text.Blank
import Trainer6800.Text.Hex
import Trainer6800.Text.Quoted

/-!
# Keys

The trainer has sixteen data keys, one for each hexadecimal digit, and RESET.  The data keys sit in
a scan matrix of three rows; RESET is wired to the processor's reset line.

| row | bit 0 | bit 1 | bit 2 | bit 3 | bit 4 | bit 5 |
|-----|-------|-------|-------|-------|-------|-------|
| 0   | D     | A     | 7     | 4     | 1     | 0     |
| 1   | E     | B     | 8     | 5     | 2     |       |
| 2   | F     | C     | 9     | 6     | 3     |       |

A key's code is its digit, or `RESET`.  Codes are read in either case and with blanks around them.
-/

namespace Trainer6800

/-- A key of the trainer. -/
inductive Key where
  | data (digit : Fin 16)
  | reset
  deriving DecidableEq, Repr

/-- A text that is no key code. -/
structure UnknownKey where
  text : String
  deriving DecidableEq, Repr

/-- The text of the error. -/
def UnknownKey.message (e : UnknownKey) : String :=
  "unknown key code: " ++ Text.quoted e.text

namespace Key

/-- All keys, data keys first. -/
def all : List Key :=
  (List.finRange 16).map data ++ [reset]

/-- The code of a key. -/
def code : Key → String
  | data digit => String.ofList [Hex.digit digit]
  | reset => "RESET"

/-- The key of a digit. -/
def ofDigit? (n : Nat) : Option Key :=
  if h : n < 16 then some (data ⟨n, h⟩) else none

/-- The digit of a data key. -/
def digit? : Key → Option (Fin 16)
  | data digit => some digit
  | reset => none

/-- Row and bit of a data key in the scan matrix. -/
def position? : Key → Option (Nat × Nat)
  | data digit =>
    match digit.val with
    | 0xD => some (0, 0)
    | 0xA => some (0, 1)
    | 0x7 => some (0, 2)
    | 0x4 => some (0, 3)
    | 0x1 => some (0, 4)
    | 0x0 => some (0, 5)
    | 0xE => some (1, 0)
    | 0xB => some (1, 1)
    | 0x8 => some (1, 2)
    | 0x5 => some (1, 3)
    | 0x2 => some (1, 4)
    | 0xF => some (2, 0)
    | 0xC => some (2, 1)
    | 0x9 => some (2, 2)
    | 0x6 => some (2, 3)
    | _ => some (2, 4)
  | reset => none

/-- Every data key has a place in the matrix. -/
@[simp] theorem isSome_position?_data (digit : Fin 16) : (data digit).position?.isSome = true := by
  revert digit
  decide

/-- RESET has none. -/
@[simp] theorem position?_reset : reset.position? = none :=
  rfl

/-- The key of a code without blanks around it. -/
def ofCode? (code : List Char) : Option Key :=
  if code.map Char.toLower = ['r', 'e', 's', 'e', 't'] then some reset
  else
    match code with
    | [c] => (Hex.digitValue? c).bind ofDigit?
    | _ => none

/-- The key of a code. -/
def ofText (text : String) : Except UnknownKey Key :=
  match ofCode? (Text.trimBlanks text.toList) with
  | some key => .ok key
  | none => .error ⟨text⟩

end Key

end Trainer6800
