import Trainer6800.Text.Hex

/-!
# Numerals

A numeral is a sign, which may be left out, and at least one digit of some base, and nothing else.  Its
digits are taken from the left; the first one that is no digit of the base, or that makes the number
leave its range, decides what the error is.
-/

namespace Trainer6800.Text

/-- Why a text is no numeral. -/
inductive NumeralError where
  | empty
  | invalidDigit
  | tooLarge
  | tooSmall
  deriving DecidableEq, Repr

/-- The text of the error. -/
def NumeralError.message : NumeralError → String
  | empty => "cannot parse integer from empty string"
  | invalidDigit => "invalid digit found in string"
  | tooLarge => "number too large to fit in target type"
  | tooSmall => "number too small to fit in target type"

/-- The value of a digit of a base, which is at most sixteen. -/
def digitOf? (base : Nat) (c : Char) : Option Nat :=
  (Hex.digitValue? c).filter (· < base)

/-- Append digits to a number, as long as it stays within `bound`; `excess` is the error when it does
not. -/
def appendDigits (base bound : Nat) (excess : NumeralError) :
    Nat → List Char → Except NumeralError Nat
  | value, [] => .ok value
  | value, c :: cs =>
    match digitOf? base c with
    | none => .error .invalidDigit
    | some d =>
      if bound < value * base + d then .error excess
      else appendDigits base bound excess (value * base + d) cs

/-- The number that digits make, at least one of them. -/
def readDigits (base bound : Nat) (excess : NumeralError) (digits : List Char) :
    Except NumeralError Nat :=
  if digits.isEmpty then .error .invalidDigit else appendDigits base bound excess 0 digits

/-- The natural number up to `bound` that a text stands for; a plus sign may come first. -/
def readNatural (base bound : Nat) : List Char → Except NumeralError Nat
  | [] => .error .empty
  | '+' :: digits => readDigits base bound .tooLarge digits
  | digits => readDigits base bound .tooLarge digits

/-- The integer from `-bound - 1` up to `bound` that a text stands for. -/
def readInteger (base bound : Nat) : List Char → Except NumeralError Int
  | '-' :: digits => (readDigits base (bound + 1) .tooSmall digits).map fun n => -(n : Int)
  | text => (readNatural base bound text).map fun n => (n : Int)

end Trainer6800.Text
