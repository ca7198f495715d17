import Trainer6800.Json.Parser
import Trainer6800.Json.Printer
import Trainer6800.Proofs.Json.Lexeme
import Trainer6800.Proofs.Json.Members

/-!
# Layouts

The two printers differ in the blanks they put between the words of a value, and in nothing else.  A
`Layout` is a choice of these blanks, `Value.lay` prints a value with it, and the compact and the
pretty text are two of its instances.  What a reader makes of a text is shown once for every layout.

The reader is shown the text of a value with something behind it.  Only a number has to know what
that is (`EndsNumber`): all other values show by themselves where they end.
-/

namespace Trainer6800.Json

/-- Nothing but blanks. -/
def Blank (cs : List Char) : Prop :=
  ∀ c ∈ cs, isBlank c = true

/-- The blanks between the words of a value. -/
structure Layout where
  /-- In front of every item and of the closing bracket, by the level of the indent. -/
  line : Nat → List Char
  /-- Between a colon and the value after it. -/
  gap : List Char
  blankLine : ∀ level, Blank (line level)
  blankGap : Blank gap

namespace Layout

/-- No blanks. -/
def compact : Layout where
  line _ := []
  gap := []
  blankLine := by
    intro level c h
    cases h
  blankGap := by
    intro c h
    cases h

/-- Every item on a line of its own. -/
def pretty : Layout where
  line := newLine
  gap := [' ']
  blankLine := by
    intro level c h
    rcases List.mem_cons.mp h with rfl | space
    · rfl
    · rw [List.eq_of_mem_replicate space]
      rfl
  blankGap := by
    intro c h
    rw [List.mem_singleton.mp h]
    rfl

end Layout

mutual

/-- A value with the blanks of a layout. -/
def Value.lay (l : Layout) (level : Nat) : Value → List Char
  | .array [] => ['[', ']']
  | .array (v :: vs) =>
    '[' :: l.line (level + 1) ++ v.lay l (level + 1) ++ layElements l (level + 1) vs ++
      l.line level ++ [']']
  | .object [] => ['\x7b', '\x7d']
  | .object ((k, v) :: rest) =>
    '\x7b' :: l.line (level + 1) ++ stringText k ++ ':' :: l.gap ++ v.lay l (level + 1) ++
      layMembers l (level + 1) rest ++ l.line level ++ ['\x7d']
  | .null => "null".toList
  | .bool b => (if b then "true" else "false").toList
  | .number n => n.text
  | .string s => stringText s

/-- The elements after the first. -/
def layElements (l : Layout) (level : Nat) : List Value → List Char
  | [] => []
  | v :: vs => ',' :: l.line level ++ v.lay l level ++ layElements l level vs

/-- The members after the first. -/
def layMembers (l : Layout) (level : Nat) : Members → List Char
  | [] => []
  | (k, v) :: rest =>
    ',' :: l.line level ++ stringText k ++ ':' :: l.gap ++ v.lay l level ++ layMembers l level rest

end

mutual

theorem compact_eq_lay (level : Nat) : (v : Value) → v.compact = v.lay .compact level
  | .null => rfl
  | .bool b => rfl
  | .number n => rfl
  | .string s => rfl
  | .array [] => rfl
  | .array (v :: vs) => by
    rw [Value.compact, Value.lay, compact_eq_lay (level + 1) v,
      compactElements_eq_lay (level + 1) vs]
    simp only [Layout.compact, List.cons_append, List.nil_append, List.append_nil]
  | .object [] => rfl
  | .object ((k, v) :: rest) => by
    rw [Value.compact, Value.lay, compact_eq_lay (level + 1) v,
      compactMembers_eq_lay (level + 1) rest]
    simp only [Layout.compact, List.append_assoc, List.cons_append, List.nil_append]

theorem compactElements_eq_lay (level : Nat) :
    (vs : List Value) → compactElements vs = layElements .compact level vs
  | [] => rfl
  | v :: vs => by
    rw [compactElements, layElements, compact_eq_lay level v, compactElements_eq_lay level vs]
    rfl

theorem compactMembers_eq_lay (level : Nat) :
    (ms : Members) → compactMembers ms = layMembers .compact level ms
  | [] => rfl
  | (k, v) :: rest => by
    rw [compactMembers, layMembers, compact_eq_lay level v, compactMembers_eq_lay level rest]
    simp only [Layout.compact, List.append_assoc, List.cons_append, List.nil_append]

end

mutual

theorem prettyAt_eq_lay (level : Nat) : (v : Value) → v.prettyAt level = v.lay .pretty level
  | .null => rfl
  | .bool b => rfl
  | .number n => rfl
  | .string s => rfl
  | .array [] => rfl
  | .array (v :: vs) => by
    rw [Value.prettyAt, Value.lay, prettyAt_eq_lay (level + 1) v,
      prettyElements_eq_lay (level + 1) vs]
    rfl
  | .object [] => rfl
  | .object ((k, v) :: rest) => by
    rw [Value.prettyAt, Value.lay, prettyAt_eq_lay (level + 1) v,
      prettyMembers_eq_lay (level + 1) rest]
    simp only [Layout.pretty, List.append_assoc, List.cons_append, List.nil_append]

theorem prettyElements_eq_lay (level : Nat) :
    (vs : List Value) → prettyElements level vs = layElements .pretty level vs
  | [] => rfl
  | v :: vs => by
    rw [prettyElements, layElements, prettyAt_eq_lay level v, prettyElements_eq_lay level vs]
    rfl

theorem prettyMembers_eq_lay (level : Nat) :
    (ms : Members) → prettyMembers level ms = layMembers .pretty level ms
  | [] => rfl
  | (k, v) :: rest => by
    rw [prettyMembers, layMembers, prettyAt_eq_lay level v, prettyMembers_eq_lay level rest]
    simp only [Layout.pretty, List.append_assoc, List.cons_append, List.nil_append]

end

end Trainer6800.Json
