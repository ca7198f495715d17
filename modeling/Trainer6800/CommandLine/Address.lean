import Trainer6800.Text.Numeral
import Trainer6800.Text.Quoted

/-!
# Addresses on the command line

An address is written in hexadecimal.  It may be marked as such, by any number of dollar signs in
front and then any number of `0x`.
-/

namespace Trainer6800

/-- A text that is no address. -/
structure InvalidAddress where
  text : String
  cause : Text.NumeralError
  deriving DecidableEq, Repr

/-- The text of the error. -/
def InvalidAddress.message (e : InvalidAddress) : String :=
  "invalid address " ++ Text.quoted e.text ++ ": " ++ e.cause.message

namespace Address

/-- A text without the `0x` in front of it. -/
def dropMarks : List Char → List Char
  | '0' :: 'x' :: rest => dropMarks rest
  | text => text

/-- The part of an address that has to be a numeral. -/
def numeral (text : List Char) : List Char :=
  dropMarks (text.dropWhile (· == '$'))

/-- The address that a text stands for. -/
def ofText (text : String) : Except InvalidAddress UInt16 :=
  match Text.readNatural 16 0xFFFF (numeral text.toList) with
  | .ok n => .ok (UInt16.ofNat n)
  | .error cause => .error ⟨text, cause⟩

end Address

end Trainer6800
