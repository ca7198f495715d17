import Trainer6800.Log.Limiter

/-!
# A log in use

The parts of a program share one log, and call it in the midst of what they do.  A `Book` is that log
at one moment: the logger, the lines that have been written, and how time is going to pass between the
calls to come, which is up to the world.

`Acting σ α` is an operation on a part `σ` of the program that has the log at hand.  Nothing in this
type keeps an operation from looking at the log, or the text of a message from changing the part; that
none of the trainer's operations depends on the log has to be shown of each.
-/

namespace Trainer6800

namespace Log

/-- What has come to lie more than a second back when a category is called again. -/
structure Elapsed where
  /-- How many of the lines that it has written. -/
  expired : Nat := 0
  /-- Whether the last announcement of drops is among them. -/
  forgotten : Bool := false
  deriving DecidableEq, Repr

/-- A category when time has passed. -/
def Window.elapse (w : Window) (e : Elapsed) : Window :=
  { w with written := w.written - e.expired, announced := w.announced && !e.forgotten }

/-- A logger when time has passed for a category. -/
def Logger.elapse (l : Logger) (c : Category) (e : Elapsed) : Logger :=
  { l with windows := l.windows.set c ((l.windows.get c).elapse e) }

/-- A log in use. -/
structure Book where
  logger : Logger := {}
  /-- What has been written, oldest first. -/
  lines : Array String := #[]
  /-- What has elapsed before each of the calls, be they made already or to come. -/
  elapsed : Nat → Elapsed := fun _ => {}
  /-- How many calls have been made. -/
  calls : Nat := 0

namespace Book

/-- The logger at the moment of the next call. -/
def present (b : Book) (c : Category) : Logger :=
  b.logger.elapse c (b.elapsed b.calls)

/-- The log after a call. -/
def turn (b : Book) (logger : Logger) (lines : List String) : Book :=
  { b with logger, lines := b.lines.appendList lines, calls := b.calls + 1 }

end Book

end Log

/-- An operation on a part of a program that logs. -/
abbrev Acting (σ α : Type) :=
  StateT σ (StateM Log.Book) α

namespace Acting

variable {σ τ α : Type}

/-- Call the log.  The text of the message is made from the part, if it is wanted. -/
def log (c : Log.Category) (level : Log.Level) (message : StateM σ String) : Acting σ Unit :=
  fun s b =>
    let called := ((b.present c).log c level message).run s
    (((), called.2), b.turn called.1.2 called.1.1)

/-- Do an operation on a part of the part. -/
def within (get : σ → τ) (put : τ → σ → σ) (a : Acting τ α) : Acting σ α :=
  fun s b =>
    let done := a (get s) b
    ((done.1.1, put done.1.2 s), done.2)

end Acting

end Trainer6800
