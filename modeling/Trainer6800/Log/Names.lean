import Trainer6800.Log.Record

/-!
# Names of levels and categories

Names are read in any case.  A level also has a short name or a number, a category may have a second
name.  Folding the case of a text turns one character outside the Latin alphabet into a letter of it:
the Kelvin sign becomes a `k`.
-/

namespace Trainer6800.Log

/-- The lower-case form of a character, as far as names can tell. -/
def foldChar (c : Char) : Char :=
  if c = '\u212a' then 'k' else c.toLower

/-- The lower-case form of a text, as far as names can tell. -/
def foldCase (text : String) : String :=
  String.ofList (text.toList.map foldChar)

/-- The level of a name. -/
def Level.ofName? (text : String) : Option Level :=
  match foldCase text with
  | "off" | "0" => some .off
  | "error" | "err" | "1" => some .error
  | "warn" | "warning" | "2" => some .warn
  | "info" | "3" => some .info
  | "debug" | "4" => some .debug
  | "trace" | "5" => some .trace
  | _ => none

/-- The category of a name. -/
def Category.ofName? (text : String) : Option Category :=
  match foldCase text with
  | "cpu" => some .cpu
  | "memory" | "mem" => some .memory
  | "keypad" | "keys" => some .keypad
  | "display" => some .display
  | "power" => some .power
  | "loader" => some .loader
  | _ => none

end Trainer6800.Log
