import Trainer6800.Log.Record

/-!
# Which records are admitted

There is a level for everything and one for each category.  The level of a category counts unless it
is `off`; then the level for everything does.
-/

namespace Trainer6800.Log

/-- One value for each category. -/
structure PerCategory (α : Type) where
  cpu : α
  memory : α
  keypad : α
  display : α
  power : α
  loader : α
  deriving DecidableEq, Repr

namespace PerCategory

variable {α : Type}

/-- The same value for every category. -/
def const (a : α) : PerCategory α :=
  ⟨a, a, a, a, a, a⟩

/-- The value for a category. -/
def get (p : PerCategory α) : Category → α
  | .cpu => p.cpu
  | .memory => p.memory
  | .keypad => p.keypad
  | .display => p.display
  | .power => p.power
  | .loader => p.loader

/-- Change the value for a category. -/
def set (p : PerCategory α) (c : Category) (a : α) : PerCategory α :=
  match c with
  | .cpu => { p with cpu := a }
  | .memory => { p with memory := a }
  | .keypad => { p with keypad := a }
  | .display => { p with display := a }
  | .power => { p with power := a }
  | .loader => { p with loader := a }

theorem get_set (p : PerCategory α) (c d : Category) (a : α) :
    (p.set c a).get d = if d = c then a else p.get d := by
  cases c <;> cases d <;> rfl

end PerCategory

/-- The levels in force. -/
structure Settings where
  everything : Level := .off
  category : PerCategory Level := .const .off
  deriving DecidableEq, Repr

namespace Settings

/-- The level that counts for a category. -/
def effective (s : Settings) (c : Category) : Level :=
  match s.category.get c with
  | .off => s.everything
  | level => level

/-- Whether a record of a category and level is admitted. -/
def admits (s : Settings) (c : Category) (level : Level) : Bool :=
  level ≠ .off && level.rank ≤ (s.effective c).rank

/-- Change the level of a category. -/
def setCategory (s : Settings) (c : Category) (level : Level) : Settings :=
  { s with category := s.category.set c level }

/-- Change the level for everything. -/
def setEverything (s : Settings) (level : Level) : Settings :=
  { s with everything := level }

/-- Turn everything off. -/
def reset (s : Settings) : Settings :=
  Category.all.foldl (fun s c => s.setCategory c .off) (s.setEverything .off)

/-- The lines of the admitted records, in order. -/
def lines (s : Settings) (records : List Record) : List String :=
  (records.filter fun r => s.admits r.category r.level).map Record.line

end Settings

end Trainer6800.Log
