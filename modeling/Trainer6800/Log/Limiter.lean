import Trainer6800.Log.Settings

/-!
# Limiting the rate of lines

Within one second each category may write a limited number of lines.  What is over the limit is
dropped and counted.  The first drop in a category is announced at once; later ones are announced
together, just before the next line that the category writes.  The time between two messages is not
part of the model: everything here happens within one second.

A message comes as a computation of its text, which is only carried out if the message is written.  The
counts have no bound; each call adds at most one to them, so that sixty-four bits would hold them for as
many calls as they can count.
-/

namespace Trainer6800.Log

/-- What a category has written and dropped. -/
structure Window where
  written : Nat := 0
  /-- Drops that have not been announced. -/
  pending : Nat := 0
  /-- Whether any drop has been announced. -/
  announced : Bool := false
  deriving DecidableEq, Repr

/-- What becomes of a message. -/
structure Verdict where
  written : Bool
  /-- A number of drops to announce first. -/
  announce : Option Nat
  deriving DecidableEq, Repr

/-- Offer a message to a category that may write `limit` lines. -/
def Window.offer (w : Window) (limit : Nat) : Verdict × Window :=
  if w.written < limit then
    -- after a raised limit, old drops are announced before the line
    if w.pending = 0 then (⟨true, none⟩, { w with written := w.written + 1 })
    else (⟨true, some w.pending⟩, ⟨w.written + 1, 0, true⟩)
  -- the first drop is announced at once, so that a flood does not go unnoticed
  else if w.announced then (⟨false, none⟩, { w with pending := w.pending + 1 })
  else (⟨false, some (w.pending + 1)⟩, { w with pending := 0, announced := true })

/-- A logger: the levels in force, the limit, and what each category has written. -/
structure Logger where
  settings : Settings := {}
  limit : Nat := 60
  windows : PerCategory Window := .const {}
  deriving DecidableEq, Repr

/-- The announcement of drops. -/
def dropText (count : Nat) : String :=
  "WARNING: Rate limit exceeded, " ++ toString count ++ " log message(s) dropped in the last second"

namespace Logger

/-- What becomes of a record, and the logger after it.  A record that the settings do not admit is
not even counted. -/
def offer (l : Logger) (r : Record) : Verdict × Logger :=
  if l.settings.admits r.category r.level then
    let (verdict, window) := (l.windows.get r.category).offer l.limit
    (verdict, { l with windows := l.windows.set r.category window })
  else (⟨false, none⟩, l)

/-- The lines that a record leads to. -/
def linesOf (r : Record) (v : Verdict) : List String :=
  (match v.announce with
    | some count => [line r.category (dropText count)]
    | none => []) ++
  if v.written then [r.line] else []

/-- What becomes of a call, and the logger after it: the text does not count. -/
def judge (l : Logger) (c : Category) (level : Level) : Verdict × Logger :=
  l.offer ⟨c, level, ""⟩

/-- Call the logger.  Only if the message is to be written, its text is made. -/
def log {σ : Type} (l : Logger) (c : Category) (level : Level) (message : StateM σ String) :
    StateM σ (List String × Logger) := do
  let (verdict, l') := l.judge c level
  let text ← if verdict.written then message else pure ""
  return (linesOf ⟨c, level, text⟩ verdict, l')

/-- Offer a record, and put the lines that it leads to after others. -/
def write (state : Array String × Logger) (r : Record) : Array String × Logger :=
  let (verdict, l) := state.2.offer r
  (state.1.appendList (linesOf r verdict), l)

/-- The lines that records lead to, one after the other, and the logger after them. -/
def writeAll (l : Logger) (records : Array Record) : Array String × Logger :=
  records.foldl write (#[], l)

end Logger

end Trainer6800.Log
