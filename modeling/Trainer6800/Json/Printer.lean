import Trainer6800.Json.Value
import Trainer6800.Text.Quoted

/-!
# Writing JSON text

Two layouts: `compact` without any blanks, and `pretty` with one item a line, two spaces of indent
for each level, and empty arrays and objects on one line.  Strings escape the quote, the backslash
and the controls, and nothing else.
-/

namespace Trainer6800.Json

/-- A digit of an escape. -/
private def escapeDigit (n : Nat) : Char :=
  (Nat.digitChar n)

/-- A character inside a JSON string. -/
def escapeChar (c : Char) : List Char :=
  match c with
  | '"' => ['\\', '"']
  | '\\' => ['\\', '\\']
  | '\x08' => ['\\', 'b']
  | '\x0c' => ['\\', 'f']
  | '\n' => ['\\', 'n']
  | '\r' => ['\\', 'r']
  | '\t' => ['\\', 't']
  | c =>
    let n := c.toNat
    if n < 0x20 then ['\\', 'u', '0', '0', escapeDigit (n / 16), escapeDigit (n % 16)] else [c]

/-- A string as JSON text. -/
def stringText (s : String) : List Char :=
  '"' :: s.toList.flatMap escapeChar ++ ['"']

/-- A number as JSON text. -/
def Number.text : Number → List Char
  | .int i => (toString i).toList
  | .float bits => (Decimal.floatText bits).toList

mutual

/-- A value without blanks. -/
def Value.compact : Value → List Char
  | .null => "null".toList
  | .bool b => (if b then "true" else "false").toList
  | .number n => n.text
  | .string s => stringText s
  | .array [] => ['[', ']']
  | .array (v :: vs) => '[' :: v.compact ++ compactElements vs ++ [']']
  | .object [] => ['\x7b', '\x7d']
  | .object ((k, v) :: rest) =>
    '\x7b' :: stringText k ++ ':' :: v.compact ++ compactMembers rest ++ ['\x7d']

/-- The elements after the first, each behind a comma. -/
def compactElements : List Value → List Char
  | [] => []
  | v :: vs => ',' :: v.compact ++ compactElements vs

/-- The members after the first, each behind a comma. -/
def compactMembers : Members → List Char
  | [] => []
  | (k, v) :: rest => ',' :: stringText k ++ ':' :: v.compact ++ compactMembers rest

end

/-- A new line at an indent level. -/
def newLine (level : Nat) : List Char :=
  '\n' :: List.replicate (2 * level) ' '

mutual

/-- A value with one item a line, its first line at an indent level. -/
def Value.prettyAt (level : Nat) : Value → List Char
  | .array [] => ['[', ']']
  | .array (v :: vs) =>
    '[' :: newLine (level + 1) ++ v.prettyAt (level + 1) ++ prettyElements (level + 1) vs ++
      newLine level ++ [']']
  | .object [] => ['\x7b', '\x7d']
  | .object ((k, v) :: rest) =>
    '\x7b' :: newLine (level + 1) ++ stringText k ++ ':' :: ' ' :: v.prettyAt (level + 1) ++
      prettyMembers (level + 1) rest ++ newLine level ++ ['\x7d']
  | .null => "null".toList
  | .bool b => (if b then "true" else "false").toList
  | .number n => n.text
  | .string s => stringText s

/-- The elements after the first, each on a line of its own behind a comma. -/
def prettyElements (level : Nat) : List Value → List Char
  | [] => []
  | v :: vs => ',' :: newLine level ++ v.prettyAt level ++ prettyElements level vs

/-- The members after the first, each on a line of its own behind a comma. -/
def prettyMembers (level : Nat) : Members → List Char
  | [] => []
  | (k, v) :: rest =>
    ',' :: newLine level ++ stringText k ++ ':' :: ' ' :: v.prettyAt level ++ prettyMembers level rest

end

/-- The text of a value without blanks. -/
def Value.compactText (v : Value) : String :=
  String.ofList v.compact

/-- The text of a value with one item a line. -/
def Value.prettyText (v : Value) : String :=
  String.ofList (v.prettyAt 0)

end Trainer6800.Json
