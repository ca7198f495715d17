import Mathlib.Data.List.Induction
import Trainer6800.Proofs.LastSetting
import Trainer6800.Proofs.Log.Unhindered

/-!
# Calling a logger

A program calls its logger with a category, a level and a computation that makes the text of a message.
The logger decides before there is a text (`Logger.judge`), and the computation, which may look at the
program and change it, is run only for a message that is written (`Logger.log`).  When the texts are at
hand, this comes to the same as to write records (`Logging.foldl_act_reports`).

Six categories share a logger, its levels and its limit, and these may be changed between any two calls.
Which levels and which limit are in force is told by the history: those that were set last
(`Logger.admits_after_iff`, `Logger.limit_after`).  Everything else that a logger has belongs to one
category, and is not touched by a call in another one (`Logger.agreesOn_log`).
-/

namespace Trainer6800.Log

/-! ## Calls -/

/-- The settings are then those of a new logger. -/
theorem Settings.reset_eq (s : Settings) : s.reset = {} :=
  rfl

/-- What is done to a logger.  The text of a message is made from the state `σ` of the program around
the logger, and making it may change that state. -/
inductive LoggerAction (σ : Type) where
  | setEverything (level : Level)
  | setCategory (category : Category) (level : Level)
  | reset
  | setLimit (limit : Nat)
  | log (category : Category) (level : Level) (message : StateM σ String)

variable {σ : Type} {c d : Category} {level : Level} {message : StateM σ String} {limit : Nat}

namespace Logger

theorem offer_eq_judge (l : Logger) (r : Record) : l.offer r = l.judge r.category r.level :=
  rfl

/-- The logger after an action. -/
def act (l : Logger) : LoggerAction σ → Logger
  | .setEverything level => { l with settings := l.settings.setEverything level }
  | .setCategory c level => { l with settings := l.settings.setCategory c level }
  | .reset => { l with settings := l.settings.reset }
  | .setLimit limit => { l with limit }
  | .log c level _ => (l.judge c level).2

/-- A new logger after some actions. -/
def after (history : List (LoggerAction σ)) : Logger :=
  history.foldl act {}

end Logger

/-- A program that logs: the logger, the lines that have been written, and the rest of its state. -/
structure Logging (σ : Type) where
  logger : Logger := {}
  lines : List String := []
  world : σ

namespace Logging

/-- The program after an action on its logger. -/
def act (p : Logging σ) : LoggerAction σ → Logging σ
  | .log c level message =>
    let ((lines, logger), world) := (p.logger.log c level message).run p.world
    ⟨logger, p.lines ++ lines, world⟩
  | a => { p with logger := p.logger.act a }

/-- A program with a new logger after some actions. -/
def after (s : σ) (history : List (LoggerAction σ)) : Logging σ :=
  history.foldl act { world := s }

end Logging

/-! ## The settings of a history -/

namespace LoggerAction

/-- The level for everything that an action sets, if it sets one. -/
def everything? : LoggerAction σ → Option Level
  | setEverything level => some level
  | reset => some .off
  | setCategory _ _ | setLimit _ | log _ _ _ => none

/-- The level of a category that an action sets, if it sets one. -/
def level? (c : Category) : LoggerAction σ → Option Level
  | setCategory d level => if c = d then some level else none
  | reset => some .off
  | setEverything _ | setLimit _ | log _ _ _ => none

/-- The limit that an action sets, if it sets one. -/
def limit? : LoggerAction σ → Option Nat
  | setLimit limit => some limit
  | setEverything _ | setCategory _ _ | reset | log _ _ _ => none

end LoggerAction

/-- The level for everything, as it was set last. -/
def everythingIn (history : List (LoggerAction σ)) : Level :=
  (lastSetting? LoggerAction.everything? history).getD .off

/-- The level of a category, as it was set last. -/
def levelIn (history : List (LoggerAction σ)) (c : Category) : Level :=
  (lastSetting? (LoggerAction.level? c) history).getD .off

/-- The limit that was set last. -/
def limitIn (history : List (LoggerAction σ)) : Nat :=
  (lastSetting? LoggerAction.limit? history).getD 60

/-- A call is considered: its level is not off, and not above the one of its category or, if that is off,
the one for everything. -/
def Considered (history : List (LoggerAction σ)) (c : Category) (level : Level) : Prop :=
  level ≠ .off ∧ level.rank ≤
    (if levelIn history c = .off then everythingIn history else levelIn history c).rank

instance (history : List (LoggerAction σ)) (c : Category) (level : Level) :
    Decidable (Considered history c level) :=
  inferInstanceAs (Decidable (_ ∧ _))

variable {history before before' : List (LoggerAction σ)}

/-! ## What one call does -/

namespace Logger

variable {l : Logger}

theorem after_concat (history : List (LoggerAction σ)) (a : LoggerAction σ) :
    after (history ++ [a]) = (after history).act a :=
  List.foldl_concat ..

theorem judge_of_admits (admitted : l.settings.admits c level = true) :
    l.judge c level = (((l.windows.get c).offer l.limit).1,
      { l with windows := l.windows.set c ((l.windows.get c).offer l.limit).2 }) := by
  rw [judge, offer, if_pos admitted]

theorem judge_of_not_admits (suppressed : ¬ l.settings.admits c level = true) :
    l.judge c level = (⟨false, none⟩, l) := by
  rw [judge, offer, if_neg suppressed]

theorem limit_judge (l : Logger) (c : Category) (level : Level) :
    (l.judge c level).2.limit = l.limit := by
  unfold judge offer
  split
  · rfl
  · rfl

/-- A call changes the window of its own category only. -/
theorem window_judge_of_ne (l : Logger) (level : Level) (other : c ≠ d) :
    (l.judge d level).2.windows.get c = l.windows.get c := by
  unfold judge offer
  split
  · show (l.windows.set d _).get c = _
    rw [PerCategory.get_set, if_neg other]
  · rfl

theorem log_of_written (written : (l.judge c level).1.written = true) (s : σ) :
    (l.log c level message).run s =
      ((linesOf ⟨c, level, (message.run s).1⟩ (l.judge c level).1, (l.judge c level).2),
        (message.run s).2) := by
  simp only [log, written, if_true]
  rfl

theorem log_of_not_written (unwritten : ¬ (l.judge c level).1.written = true) (s : σ) :
    (l.log c level message).run s =
      ((linesOf ⟨c, level, ""⟩ (l.judge c level).1, (l.judge c level).2), s) := by
  simp only [log, unwritten]
  rfl

/-- With the text at hand, to call the logger is to offer it the record. -/
theorem log_pure (l : Logger) (r : Record) (s : σ) :
    (l.log r.category r.level (pure r.text)).run s =
      ((linesOf r (l.offer r).1, (l.offer r).2), s) := by
  rw [offer_eq_judge]
  by_cases written : (l.judge r.category r.level).1.written = true
  · rw [log_of_written written]
    rfl
  · rw [log_of_not_written written, linesOf, linesOf, if_neg written, if_neg written]

end Logger

namespace Logging

variable {p : Logging σ}

theorem act_of_written (written : (p.logger.judge c level).1.written = true) :
    p.act (.log c level message) =
      ⟨(p.logger.judge c level).2,
        p.lines ++ Logger.linesOf ⟨c, level, (message.run p.world).1⟩ (p.logger.judge c level).1,
        (message.run p.world).2⟩ := by
  rw [act, Logger.log_of_written written]

theorem act_of_not_written (unwritten : ¬ (p.logger.judge c level).1.written = true) :
    p.act (.log c level message) =
      ⟨(p.logger.judge c level).2,
        p.lines ++ Logger.linesOf ⟨c, level, ""⟩ (p.logger.judge c level).1, p.world⟩ := by
  rw [act, Logger.log_of_not_written unwritten]

/-- The logger does not depend on the texts. -/
theorem logger_act (p : Logging σ) (a : LoggerAction σ) : (p.act a).logger = p.logger.act a := by
  cases a with
  | log c level message =>
    by_cases written : (p.logger.judge c level).1.written = true
    · rw [act_of_written written]
      rfl
    · rw [act_of_not_written written]
      rfl
  | setEverything level => rfl
  | setCategory c level => rfl
  | reset => rfl
  | setLimit limit => rfl

/-- Records are reported by calls that have their texts at hand. -/
theorem foldl_act_reports (p : Logging σ) (records : List Record) :
    records.foldl (fun p r => p.act (.log r.category r.level (pure r.text))) p =
      let written := records.foldl Logger.write (p.lines.toArray, p.logger)
      ⟨written.2, written.1.toList, p.world⟩ := by
  induction records generalizing p with
  | nil => rfl
  | cons r rest ih =>
    have first : p.act (.log r.category r.level (pure r.text)) =
        ⟨(p.logger.offer r).2, p.lines ++ Logger.linesOf r (p.logger.offer r).1, p.world⟩ := by
      rw [act, Logger.log_pure]
    have same : Logger.write (p.lines.toArray, p.logger) r =
        ((p.lines ++ Logger.linesOf r (p.logger.offer r).1).toArray, (p.logger.offer r).2) := by
      show (p.lines.toArray.appendList (Logger.linesOf r (p.logger.offer r).1),
        (p.logger.offer r).2) = _
      rw [Array.appendList_eq_append, List.toArray_appendList]
    rw [List.foldl_cons, List.foldl_cons, ih, first, same]

theorem after_concat (s : σ) (history : List (LoggerAction σ)) (a : LoggerAction σ) :
    after s (history ++ [a]) = (after s history).act a :=
  List.foldl_concat ..

theorem logger_after (s : σ) (history : List (LoggerAction σ)) :
    (after s history).logger = Logger.after history := by
  induction history using List.reverseRecOn with
  | nil => rfl
  | append_singleton history a ih =>
    rw [after_concat, logger_act, ih, Logger.after_concat]

end Logging

/-! ## The levels and the limit -/

namespace Logger

theorem everything_after (history : List (LoggerAction σ)) :
    (after history).settings.everything = everythingIn history := by
  refine getD_lastSetting?_foldl (fun l : Logger => l.settings.everything) (fun _ => True)
    (fun _ _ _ => trivial) ?_ trivial history
  intro l a _
  cases a with
  | log d level message => exact congrArg (·.everything) (settings_offer l _)
  | setEverything level => rfl
  | setCategory d level => rfl
  | reset => rfl
  | setLimit limit => rfl

theorem category_after (history : List (LoggerAction σ)) (c : Category) :
    (after history).settings.category.get c = levelIn history c := by
  have start : ({} : Logger).settings.category.get c = .off := by cases c <;> rfl
  rw [levelIn, ← start]
  refine getD_lastSetting?_foldl (fun l : Logger => l.settings.category.get c) (fun _ => True)
    (fun _ _ _ => trivial) ?_ trivial history
  intro l a _
  cases a with
  | log d level message => exact congrArg (·.category.get c) (settings_offer l _)
  | setEverything level => rfl
  | setCategory d level =>
    show (l.settings.category.set d level).get c = _
    rw [PerCategory.get_set, LoggerAction.level?]
    split
    · rfl
    · rfl
  | reset =>
    show l.settings.reset.category.get c = .off
    rw [Settings.reset_eq]
    exact start
  | setLimit limit => rfl

theorem limit_after (history : List (LoggerAction σ)) : (after history).limit = limitIn history := by
  refine getD_lastSetting?_foldl (fun l : Logger => l.limit) (fun _ => True)
    (fun _ _ _ => trivial) ?_ trivial history
  intro l a _
  cases a with
  | log d level message => exact limit_judge l d level
  | setEverything level => rfl
  | setCategory d level => rfl
  | reset => rfl
  | setLimit limit => rfl

/-- The settings admit the calls that are considered by the history. -/
theorem admits_after_iff (history : List (LoggerAction σ)) (c : Category) (level : Level) :
    (after history).settings.admits c level = true ↔ Considered history c level := by
  have effective : (after history).settings.effective c =
      if levelIn history c = .off then everythingIn history else levelIn history c := by
    rw [Settings.effective, category_after, everything_after]
    cases levelIn history c <;> rfl
  rw [Settings.admits, effective, Bool.and_eq_true, decide_eq_true_iff, decide_eq_true_iff,
    Considered]

end Logger

/-! ## Categories do not meet -/

namespace Logger

/-- Two loggers that can not be told apart by calls in a category. -/
structure AgreesOn (c : Category) (l l' : Logger) : Prop where
  settings : l.settings = l'.settings
  limit : l.limit = l'.limit
  window : l.windows.get c = l'.windows.get c

variable {l l' : Logger}

/-- A call in another category, or one that is suppressed, is not noticed. -/
theorem agreesOn_log (message : StateM σ String) (apart : c ≠ d ∨ ¬ Considered before d level) :
    AgreesOn c (after (before ++ [.log d level message])) (after before) := by
  rw [after_concat]
  refine ⟨settings_offer _ _, limit_judge _ d level, ?_⟩
  show ((after before).judge d level).2.windows.get c = _
  rcases apart with other | suppressed
  · exact window_judge_of_ne _ level other
  · rw [judge_of_not_admits (mt (admits_after_iff ..).mp suppressed)]

/-- A considered call is offered to the window of its category. -/
theorem window_log (considered : Considered before c level) :
    (after (before ++ [.log c level message])).windows.get c =
      (((after before).windows.get c).offer (after before).limit).2 := by
  rw [after_concat]
  show ((after before).judge c level).2.windows.get c = _
  rw [judge_of_admits ((admits_after_iff ..).mpr considered)]
  show ((after before).windows.set c _).get c = _
  rw [PerCategory.get_set, if_pos rfl]

namespace AgreesOn

theorem judge (h : AgreesOn c l l') (level : Level) :
    (l.judge c level).1 = (l'.judge c level).1 := by
  by_cases admitted : l.settings.admits c level = true
  · rw [judge_of_admits admitted, judge_of_admits (h.settings ▸ admitted), h.window, h.limit]
  · rw [judge_of_not_admits admitted, judge_of_not_admits (h.settings ▸ admitted)]

/-- Whatever is done to both, they keep to agree. -/
theorem act (h : AgreesOn c l l') (a : LoggerAction σ) : AgreesOn c (l.act a) (l'.act a) := by
  obtain ⟨settings, limit, window⟩ := h
  cases a with
  | log d level message =>
    refine ⟨?_, ?_, ?_⟩
    · exact (settings_offer l _).trans (settings.trans (settings_offer l' _).symm)
    · exact (limit_judge l d level).trans (limit.trans (limit_judge l' d level).symm)
    · show (l.judge d level).2.windows.get c = (l'.judge d level).2.windows.get c
      by_cases admitted : l.settings.admits d level = true
      · rw [judge_of_admits admitted, judge_of_admits (settings ▸ admitted)]
        show (l.windows.set d _).get c = (l'.windows.set d _).get c
        rw [PerCategory.get_set, PerCategory.get_set, limit]
        split
        · rename_i here
          rw [← here, window]
        · exact window
      · rw [judge_of_not_admits admitted, judge_of_not_admits (settings ▸ admitted)]
        exact window
  | setEverything level => exact ⟨congrArg (·.setEverything level) settings, limit, window⟩
  | setCategory d level => exact ⟨congrArg (·.setCategory d level) settings, limit, window⟩
  | reset => exact ⟨congrArg (·.reset) settings, limit, window⟩
  | setLimit limit => exact ⟨settings, rfl, window⟩

theorem after (agree : AgreesOn c (after before) (after before'))
    (later : List (LoggerAction σ)) :
    AgreesOn c (after (before ++ later)) (after (before' ++ later)) := by
  induction later using List.reverseRecOn with
  | nil =>
    rw [List.append_nil, List.append_nil]
    exact agree
  | append_singleton later a ih =>
    rw [← List.append_assoc, ← List.append_assoc, after_concat, after_concat]
    exact ih.act a

end AgreesOn

end Logger

end Trainer6800.Log
