/-!
# Log records

Every component reports what it does as records: a category, a level and a text.  Which records reach a
reader depends on the settings (`Trainer6800.Log.Settings`) and on the limit
(`Trainer6800.Log.Limiter`).

The operations on values give their records back, or put them into a journal.  The operations in place call
the log themselves (`Trainer6800.Log.Book`), and may be refused a line at every call.
-/

namespace Trainer6800.Log

/-- How important a record is, from the most to the least.  `off` is no level of a record: as a
setting it admits nothing. -/
inductive Level where
  | off
  | error
  | warn
  | info
  | debug
  | trace
  deriving DecidableEq, Repr

/-- The component a record comes from. -/
inductive Category where
  | cpu
  | memory
  | keypad
  | display
  | power
  | loader
  deriving DecidableEq, Repr

/-- One reported event. -/
structure Record where
  category : Category
  level : Level
  text : String
  deriving DecidableEq, Repr

namespace Level

/-- The verbosity of a level; a setting admits the levels up to its own. -/
def rank : Level → Nat
  | off => 0
  | error => 1
  | warn => 2
  | info => 3
  | debug => 4
  | trace => 5

/-- The name of a level. -/
def name : Level → String
  | off => "Off"
  | error => "Error"
  | warn => "Warn"
  | info => "Info"
  | debug => "Debug"
  | trace => "Trace"

end Level

namespace Category

/-- Every category, in the order in which settings list them. -/
def all : List Category :=
  [cpu, memory, keypad, display, power, loader]

/-- The name of a category, as log lines show it. -/
def name : Category → String
  | cpu => "Cpu"
  | memory => "Memory"
  | keypad => "Keypad"
  | display => "Display"
  | power => "Power"
  | loader => "Loader"

theorem mem_all (c : Category) : c ∈ all := by
  cases c <;> decide

end Category

/-- The line of a message: its category in brackets, then the text. -/
def line (category : Category) (text : String) : String :=
  "[" ++ category.name ++ "] " ++ text

/-- The line that a record becomes. -/
def Record.line (r : Record) : String :=
  Log.line r.category r.text

end Trainer6800.Log
