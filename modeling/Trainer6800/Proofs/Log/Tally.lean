import Trainer6800.Proofs.Log.Calling

/-!
# Counting what is dropped

A considered call writes its message if its category has written fewer than the limit, and otherwise it
is dropped.  A category reports its drops in two ways: the first one at once, the others together with
the next message that it writes.

`Window.Tallies` relates what a category remembers to three counts of its past: the messages, the drops
and the drops that have been announced.  They fix the next verdict (`Window.Tallies.verdict`), and each
offer keeps them so (`Window.Tallies.offer`).  Over any history that gives `Logging.drops_accounted`: no
drop is announced twice or forgotten, and what happens in one category is not noticed in another.
-/

namespace Trainer6800.Log

variable {σ : Type} {c d : Category} {level : Level} {message : StateM σ String} {limit : Nat}

/-! ## Fates -/

/-- What becomes of a call: whether it is considered, and the verdict of the logger. -/
structure Fate where
  considered : Bool
  verdict : Verdict
  deriving DecidableEq, Repr

/-- The fate of an action, if it is a call in a category. -/
def LoggerAction.fate? (c : Category) (before : List (LoggerAction σ)) :
    LoggerAction σ → Option Fate
  | log d level _ =>
    if c = d then some ⟨Considered before c level, ((Logger.after before).judge c level).1⟩ else none
  | setEverything _ | setCategory _ _ | reset | setLimit _ => none

/-- The fates of the calls in a category among some actions that come after others. -/
def fatesFrom (c : Category) (before : List (LoggerAction σ)) : List (LoggerAction σ) → List Fate
  | [] => []
  | a :: later => (a.fate? c before).toList ++ fatesFrom c (before ++ [a]) later

/-- The fates of the calls in a category in a history. -/
def fates (c : Category) (history : List (LoggerAction σ)) : List Fate :=
  fatesFrom c [] history

/-- How many messages have been written. -/
def messages (fates : List Fate) : Nat :=
  fates.countP fun fate => fate.verdict.written

/-- How many considered calls have not written their message. -/
def drops (fates : List Fate) : Nat :=
  fates.countP fun fate => fate.considered && !fate.verdict.written

/-- How many drops the warnings have announced, all together. -/
def announced : List Fate → Nat
  | [] => 0
  | fate :: rest => fate.verdict.announce.getD 0 + announced rest

/-- How many drops in a category are left to announce. -/
def pending (c : Category) (history : List (LoggerAction σ)) : Nat :=
  ((Logger.after history).windows.get c).pending

variable {history before before' later : List (LoggerAction σ)}

theorem fatesFrom_append (c : Category) (before first later : List (LoggerAction σ)) :
    fatesFrom c before (first ++ later) =
      fatesFrom c before first ++ fatesFrom c (before ++ first) later := by
  induction first generalizing before with
  | nil => rw [List.append_nil, List.nil_append, fatesFrom, List.nil_append]
  | cons a rest ih =>
    rw [List.cons_append, fatesFrom, fatesFrom, ih, List.append_assoc, List.append_assoc,
      List.singleton_append]

theorem fates_append (c : Category) (history later : List (LoggerAction σ)) :
    fates c (history ++ later) = fates c history ++ fatesFrom c history later := by
  rw [fates, fatesFrom_append, List.nil_append, fates]

theorem fates_concat (c : Category) (history : List (LoggerAction σ)) (a : LoggerAction σ) :
    fates c (history ++ [a]) = fates c history ++ (a.fate? c history).toList := by
  rw [fates_append, fatesFrom, fatesFrom, List.append_nil]

section Counts

variable (first later : List Fate) (verdict : Verdict)

theorem messages_append : messages (first ++ later) = messages first + messages later :=
  List.countP_append

theorem drops_append : drops (first ++ later) = drops first + drops later :=
  List.countP_append

theorem announced_append : announced (first ++ later) = announced first + announced later := by
  induction first with
  | nil => rw [List.nil_append, announced, Nat.zero_add]
  | cons fate rest ih => rw [List.cons_append, announced, announced, ih, Nat.add_assoc]

theorem messages_considered : messages [⟨true, verdict⟩] = if verdict.written then 1 else 0 := by
  rw [messages, List.countP_singleton]

theorem drops_considered : drops [⟨true, verdict⟩] = if verdict.written then 0 else 1 := by
  rw [drops, List.countP_singleton]
  cases verdict.written with
  | false => rfl
  | true => rfl

theorem announced_considered : announced [⟨true, verdict⟩] = verdict.announce.getD 0 := by
  rw [announced, announced, Nat.add_zero]

end Counts

/-- Histories after which the loggers agree lead to the same fates. -/
theorem fatesFrom_congr (agree : Logger.AgreesOn c (Logger.after before) (Logger.after before'))
    (later : List (LoggerAction σ)) : fatesFrom c before later = fatesFrom c before' later := by
  induction later generalizing before before' with
  | nil => rfl
  | cons a rest ih =>
    have same : a.fate? c before = a.fate? c before' := by
      cases a with
      | log d level message =>
        have considered : Considered before c level ↔ Considered before' c level := by
          rw [← Logger.admits_after_iff, ← Logger.admits_after_iff, agree.settings]
        rw [LoggerAction.fate?, LoggerAction.fate?, agree.judge level,
          decide_eq_decide.mpr considered]
      | setEverything level => rfl
      | setCategory d level => rfl
      | reset => rfl
      | setLimit limit => rfl
    rw [fatesFrom, fatesFrom, same, ih (agree.after [a])]

/-! ## What a category remembers -/

/-- A number of drops to announce, if there are any. -/
def due (count : Nat) : Option Nat :=
  if count = 0 then none else some count

/-- A category has written some messages, and of all its drops some have been announced. -/
structure Window.Tallies (w : Window) (messages announced drops : Nat) : Prop where
  written : w.written = messages
  pending : announced + w.pending = drops
  announced : w.announced = true ↔ 0 < drops

namespace Window.Tallies

variable {w : Window} {messages announced drops : Nat}

theorem fresh : ({} : Window).Tallies 0 0 0 where
  written := rfl
  pending := rfl
  announced := ⟨nofun, nofun⟩

/-- With room the message is written, and the drops that are pending are due; without room it is dropped,
and the first drop is due at once. -/
theorem verdict (h : w.Tallies messages announced drops) (limit : Nat) :
    (w.offer limit).1 =
      if messages < limit then ⟨true, due w.pending⟩ else ⟨false, due (if drops = 0 then 1 else 0)⟩ := by
  have total := h.pending
  unfold Window.offer
  rw [h.written]
  split
  · split
    · rename_i idle
      rw [due, if_pos idle]
    · rename_i behind
      rw [due, if_neg behind]
  · split
    · rename_i told
      have before : drops ≠ 0 := Nat.ne_of_gt (h.announced.mp told)
      rw [if_neg before, due, if_pos rfl]
    · rename_i untold
      have before : drops = 0 := Nat.eq_zero_of_not_pos (mt h.announced.mpr untold)
      have idle : w.pending = 0 := by omega
      rw [if_pos before, due, if_neg Nat.one_ne_zero, idle]

/-- Nothing is pending after a message. -/
theorem pending_of_room (h : w.Tallies messages announced drops) (room : messages < limit) :
    (w.offer limit).2.pending = 0 := by
  unfold Window.offer
  rw [h.written, if_pos room]
  split
  · rename_i idle
    exact idle
  · rfl

/-- An offer is counted once: as a message, or as a drop. -/
theorem offer (h : w.Tallies messages announced drops) (limit : Nat) :
    (w.offer limit).2.Tallies
      (messages + if (w.offer limit).1.written then 1 else 0)
      (announced + (w.offer limit).1.announce.getD 0)
      (drops + if (w.offer limit).1.written then 0 else 1) := by
  obtain ⟨written, pending, told⟩ := h
  unfold Window.offer
  split
  · split
    · exact ⟨congrArg (· + 1) written, pending, told⟩
    · refine ⟨congrArg (· + 1) written, pending, iff_of_true rfl ?_⟩
      show 0 < drops
      omega
  · split
    · rename_i before
      refine ⟨written, ?_, iff_of_true before (Nat.succ_pos _)⟩
      show announced + (w.pending + 1) = drops + 1
      omega
    · refine ⟨written, ?_, iff_of_true rfl (Nat.succ_pos _)⟩
      show announced + (w.pending + 1) = drops + 1
      omega

end Window.Tallies

/-! ## The counts of a history -/

namespace LoggerAction

/-- A considered call is offered to the window of its category. -/
theorem fate?_of_considered (considered : Considered before c level) :
    (log c level message).fate? c before =
      some ⟨true, (((Logger.after before).windows.get c).offer (Logger.after before).limit).1⟩ := by
  rw [fate?, if_pos rfl, Logger.judge_of_admits ((Logger.admits_after_iff ..).mpr considered),
    decide_eq_true considered]

theorem fate?_of_not_considered (suppressed : ¬ Considered before c level) :
    (log c level message).fate? c before = some ⟨false, false, none⟩ := by
  rw [fate?, if_pos rfl, Logger.judge_of_not_admits (mt (Logger.admits_after_iff ..).mp suppressed),
    decide_eq_false suppressed]

/-- A call in another category, or one that is suppressed, counts nowhere. -/
theorem uncounted (message : StateM σ String) (apart : c ≠ d ∨ ¬ Considered before d level) :
    messages ((log d level message).fate? c before).toList = 0 ∧
      announced ((log d level message).fate? c before).toList = 0 ∧
      drops ((log d level message).fate? c before).toList = 0 := by
  by_cases here : c = d
  · subst here
    rw [fate?_of_not_considered (apart.resolve_left (absurd rfl))]
    exact ⟨rfl, rfl, rfl⟩
  · rw [fate?, if_neg here]
    exact ⟨rfl, rfl, rfl⟩

end LoggerAction

open LoggerAction

/-- What a category remembers agrees with the counts of its past. -/
theorem tallies_after (history : List (LoggerAction σ)) (c : Category) :
    ((Logger.after history).windows.get c).Tallies (messages (fates c history))
      (announced (fates c history)) (drops (fates c history)) := by
  induction history using List.reverseRecOn with
  | nil =>
    have start : ({} : Logger).windows.get c = {} := by cases c <;> rfl
    exact start ▸ Window.Tallies.fresh
  | append_singleton history a ih =>
    rw [fates_concat, messages_append, announced_append, drops_append]
    cases a with
    | log d level message =>
      by_cases apart : c ≠ d ∨ ¬ Considered history d level
      · obtain ⟨unwritten, untold, kept⟩ := uncounted message apart
        rw [unwritten, untold, kept, (Logger.agreesOn_log message apart).window]
        exact ih
      · obtain ⟨rfl, considered⟩ : c = d ∧ Considered history d level := by
          simpa only [not_or, not_not] using apart
        rw [fate?_of_considered considered, Option.toList_some, messages_considered,
          announced_considered, drops_considered, Logger.window_log considered]
        exact ih.offer (Logger.after history).limit
    | setEverything level => exact Logger.after_concat history _ ▸ ih
    | setCategory d level => exact Logger.after_concat history _ ▸ ih
    | reset => exact Logger.after_concat history _ ▸ ih
    | setLimit limit => exact Logger.after_concat history _ ▸ ih

/-- What a category counts is at most one for each call, so that numbers of sixty-four bits would do. -/
theorem toNat_counts (history : List (LoggerAction σ)) (c : Category)
    (few : history.length < UInt64.size) :
    (UInt64.ofNat ((Logger.after history).windows.get c).written).toNat =
        ((Logger.after history).windows.get c).written ∧
      (UInt64.ofNat (pending c history)).toNat = pending c history := by
  have one (w : Window) (limit : Nat) :
      (w.offer limit).2.written ≤ w.written + 1 ∧ (w.offer limit).2.pending ≤ w.pending + 1 := by
    unfold Window.offer
    split
    · split
      · exact ⟨Nat.le_refl _, Nat.le_succ _⟩
      · exact ⟨Nat.le_refl _, Nat.zero_le _⟩
    · split
      · exact ⟨Nat.le_succ _, Nat.le_refl _⟩
      · exact ⟨Nat.le_succ _, Nat.zero_le _⟩
  have bound : ((Logger.after history).windows.get c).written ≤ history.length ∧
      ((Logger.after history).windows.get c).pending ≤ history.length := by
    clear few
    induction history using List.reverseRecOn with
    | nil =>
      have start : ({} : Logger).windows.get c = {} := by cases c <;> rfl
      exact ⟨start ▸ Nat.le_refl _, start ▸ Nat.le_refl _⟩
    | append_singleton history a ih =>
      have kept {w : Window} (same : w = (Logger.after history).windows.get c) :
          w.written ≤ history.length + 1 ∧ w.pending ≤ history.length + 1 :=
        same ▸ ⟨Nat.le_succ_of_le ih.1, Nat.le_succ_of_le ih.2⟩
      rw [List.length_append, List.length_singleton]
      cases a with
      | log d level message =>
        by_cases apart : c ≠ d ∨ ¬ Considered history d level
        · exact kept (Logger.agreesOn_log message apart).window
        · obtain ⟨rfl, considered⟩ : c = d ∧ Considered history d level := by
            simpa only [not_or, not_not] using apart
          rw [Logger.window_log considered]
          have offered := one ((Logger.after history).windows.get c) (Logger.after history).limit
          exact ⟨Nat.le_trans offered.1 (Nat.succ_le_succ ih.1),
            Nat.le_trans offered.2 (Nat.succ_le_succ ih.2)⟩
      | setEverything level => exact kept (Logger.after_concat history _ ▸ rfl)
      | setCategory d level => exact kept (Logger.after_concat history _ ▸ rfl)
      | reset => exact kept (Logger.after_concat history _ ▸ rfl)
      | setLimit limit => exact kept (Logger.after_concat history _ ▸ rfl)
  exact ⟨UInt64.toNat_ofNat_of_lt' (Nat.lt_of_le_of_lt bound.1 few),
    UInt64.toNat_ofNat_of_lt' (Nat.lt_of_le_of_lt bound.2 few)⟩

/-- The verdict on a considered call follows from the counts. -/
theorem judge_after (considered : Considered history c level) :
    ((Logger.after history).judge c level).1 =
      if messages (fates c history) < limitIn history then ⟨true, due (pending c history)⟩
      else ⟨false, due (if drops (fates c history) = 0 then 1 else 0)⟩ := by
  rw [Logger.judge_of_admits ((Logger.admits_after_iff ..).mpr considered),
    (tallies_after history c).verdict, Logger.limit_after, pending]

theorem written_after_iff (history : List (LoggerAction σ)) (c : Category) (level : Level) :
    ((Logger.after history).judge c level).1.written = true ↔
      Considered history c level ∧ messages (fates c history) < limitIn history := by
  by_cases considered : Considered history c level
  · rw [judge_after considered, and_iff_right considered]
    split
    · rename_i room
      exact iff_of_true rfl room
    · rename_i full
      exact iff_of_false Bool.false_ne_true full
  · rw [Logger.judge_of_not_admits (mt (Logger.admits_after_iff ..).mp considered)]
    exact iff_of_false Bool.false_ne_true fun both => considered both.1

/-- Whether or not a call is made after a history makes no difference to a category: the calls in it that
come later have the same fates, and in the end the counts are the same. -/
structure Unnoticed (c : Category) (history : List (LoggerAction σ)) (a : LoggerAction σ)
    (later : List (LoggerAction σ)) : Prop where
  sameFates : fatesFrom c (history ++ [a]) later = fatesFrom c history later
  sameMessages : messages (fates c (history ++ a :: later)) = messages (fates c (history ++ later))
  sameAnnounced : announced (fates c (history ++ a :: later)) = announced (fates c (history ++ later))
  sameDrops : drops (fates c (history ++ a :: later)) = drops (fates c (history ++ later))
  samePending : pending c (history ++ a :: later) = pending c (history ++ later)

/-- What adds nothing to a count and does not change what comes later can be left out. -/
theorem count_insert {count : List Fate → Nat} {a : LoggerAction σ}
    (additive : ∀ first later, count (first ++ later) = count first + count later)
    (nothing : count (a.fate? c history).toList = 0)
    (same : fatesFrom c (history ++ [a]) later = fatesFrom c history later) :
    count (fates c (history ++ a :: later)) = count (fates c (history ++ later)) := by
  rw [fates_append, fates_append, fatesFrom, same, additive, additive, additive, nothing,
    Nat.zero_add]

theorem unnoticed_log (message : StateM σ String) (apart : c ≠ d ∨ ¬ Considered history d level)
    (later : List (LoggerAction σ)) : Unnoticed c history (.log d level message) later := by
  have agree := Logger.agreesOn_log message apart
  have same := fatesFrom_congr agree later
  obtain ⟨unwritten, untold, kept⟩ := uncounted message apart
  refine ⟨same, ?_, ?_, ?_, ?_⟩
  · exact count_insert messages_append unwritten same
  · exact count_insert announced_append untold same
  · exact count_insert drops_append kept same
  · rw [pending, pending, List.append_cons, (agree.after later).window]

/-! ## Any history -/

/-- The announcement of some drops; without any there is none. -/
def announcement (c : Category) (count : Nat) : List String :=
  if count = 0 then [] else [line c (dropText count)]

theorem linesOf_due (r : Record) (written : Bool) (count : Nat) :
    Logger.linesOf r ⟨written, due count⟩ =
      announcement r.category count ++ if written then [r.line] else [] := by
  rw [Logger.linesOf, announcement, due]
  by_cases none : count = 0
  · rw [if_pos none, if_pos none]
  · rw [if_neg none, if_neg none]

namespace Logging

/-- The next call writes its message: before it come the drops that are pending, and its text is made. -/
structure Writes (s : σ) (history : List (LoggerAction σ)) (c : Category) (level : Level)
    (message : StateM σ String) : Prop where
  lines : (after s (history ++ [.log c level message])).lines =
    (after s history).lines ++
      (announcement c (pending c history) ++ [line c (message.run (after s history).world).1])
  world : (after s (history ++ [.log c level message])).world =
    (message.run (after s history).world).2
  fates : fates c (history ++ [.log c level message]) =
    fates c history ++ [⟨true, true, due (pending c history)⟩]
  pending : pending c (history ++ [.log c level message]) = 0

/-- The next call is dropped: only the first drop is announced, and its text is not made. -/
structure Drops (s : σ) (history : List (LoggerAction σ)) (c : Category) (level : Level)
    (message : StateM σ String) : Prop where
  lines : (after s (history ++ [.log c level message])).lines =
    (after s history).lines ++ announcement c (if drops (fates c history) = 0 then 1 else 0)
  world : (after s (history ++ [.log c level message])).world = (after s history).world
  fates : fates c (history ++ [.log c level message]) =
    fates c history ++ [⟨true, false, due (if drops (fates c history) = 0 then 1 else 0)⟩]

/-- A suppressed call leaves everything as it is. -/
theorem after_of_suppressed (s : σ) (message : StateM σ String)
    (suppressed : ¬ Considered history c level) :
    after s (history ++ [.log c level message]) = after s history := by
  have judged : (after s history).logger.judge c level =
      (⟨false, none⟩, (after s history).logger) := by
    rw [logger_after]
    exact Logger.judge_of_not_admits (mt (Logger.admits_after_iff ..).mp suppressed)
  rw [after_concat, act_of_not_written (by rw [judged]; exact Bool.false_ne_true), judged]
  show (⟨_, _ ++ [], _⟩ : Logging σ) = _
  rw [List.append_nil]

theorem writes_of_room (s : σ) (message : StateM σ String) (considered : Considered history c level)
    (room : messages (fates c history) < limitIn history) :
    Writes s history c level message := by
  have judged := judge_after considered
  rw [if_pos room] at judged
  have acted : after s (history ++ [.log c level message]) = _ :=
    (after_concat s history _).trans (act_of_written (by rw [logger_after, judged]))
  rw [logger_after, judged, linesOf_due] at acted
  refine ⟨by rw [acted]; rfl, by rw [acted], ?_, ?_⟩
  · rw [fates_concat, fate?, if_pos rfl, judged, decide_eq_true considered]
    rfl
  · rw [Log.pending, Logger.window_log considered]
    exact (tallies_after history c).pending_of_room (Logger.limit_after history ▸ room)

theorem drops_of_full (s : σ) (message : StateM σ String) (considered : Considered history c level)
    (full : limitIn history ≤ messages (fates c history)) :
    Drops s history c level message := by
  have judged := judge_after considered
  rw [if_neg (Nat.not_lt.mpr full)] at judged
  have acted : after s (history ++ [.log c level message]) = _ :=
    (after_concat s history _).trans
      (act_of_not_written (by rw [logger_after, judged]; exact Bool.false_ne_true))
  rw [logger_after, judged, linesOf_due] at acted
  refine ⟨?_, by rw [acted], ?_⟩
  · rw [acted]
    exact congrArg _ (List.append_nil _)
  · rw [fates_concat, fate?, if_pos rfl, judged, decide_eq_true considered]
    rfl

/-- What is known of a program that logs after a history, and of the calls that come next. -/
structure Accounted (s : σ) (history : List (LoggerAction σ)) : Prop where
  logger : (after s history).logger = Logger.after history
  considered : ∀ c level,
    (Logger.after history).settings.admits c level = true ↔ Considered history c level
  written : ∀ c level, ((Logger.after history).judge c level).1.written = true ↔
    Considered history c level ∧ messages (fates c history) < limitIn history
  /-- Every drop has been announced once, or it is still pending. -/
  conserved : ∀ c, announced (fates c history) + pending c history = drops (fates c history)
  suppresses : ∀ c level message, ¬ Considered history c level →
    after s (history ++ [.log c level message]) = after s history
  writes : ∀ c level message, Considered history c level →
    messages (fates c history) < limitIn history → Writes s history c level message
  dropped : ∀ c level message, Considered history c level →
    limitIn history ≤ messages (fates c history) → Drops s history c level message
  unnoticed : ∀ c d level message later, c ≠ d ∨ ¬ Considered history d level →
    Unnoticed c history (.log d level message) later

/-- However the calls are mixed and the settings changed, what becomes of each call follows from the
history, and no drop is lost: it has been announced, or it is still pending. -/
theorem drops_accounted (s : σ) (history : List (LoggerAction σ)) : Accounted s history where
  logger := logger_after s history
  considered := Logger.admits_after_iff history
  written := written_after_iff history
  conserved := fun c => (tallies_after history c).pending
  suppresses := fun _ _ message suppressed => after_of_suppressed s message suppressed
  writes := fun _ _ message considered room => writes_of_room s message considered room
  dropped := fun _ _ message considered full => drops_of_full s message considered full
  unnoticed := fun _ _ _ message later apart => unnoticed_log message apart later

/-- Of four considered calls one finds room.  The first drop is announced at once, the two others when the
limit has been raised. -/
example :
    (after () [.setEverything .info, .setLimit 1, .log .cpu .info (pure "a"), .log .cpu .warn (pure "b"),
        .log .cpu .info (pure "c"), .log .cpu .debug (pure "d"), .log .cpu .error (pure "e"),
        .setLimit 2, .log .cpu .info (pure "f")]).lines =
      [line .cpu "a", line .cpu (dropText 1), line .cpu (dropText 2), line .cpu "f"] := by
  rfl

end Logging

end Trainer6800.Log
