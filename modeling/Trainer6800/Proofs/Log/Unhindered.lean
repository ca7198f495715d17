import Trainer6800.Log.Book

/-!
# Logging below the limit

What a log shows depends on the levels, and on the limit of the rate at which lines are written.  As
long as the limit is not reached, only the levels count: the lines are those of the records that the
settings admit (`Book.lines_enter`), and with all levels at `trace` that is every record.

The limit is one of lines within a second.  Time passes as the book has it, and it is only asked that
each record that is to be written finds room at its moment (`Book.Unhindered`); it does so in any case
when there are not too many records for a single second.
-/

namespace Trainer6800.Log

namespace Settings

/-- Whether every category is at `trace`, be it by its own level or by the level for everything. -/
def ShowsAll (s : Settings) : Prop :=
  ∀ c, s.effective c = .trace

theorem lines_append (s : Settings) (first later : List Record) :
    s.lines (first ++ later) = s.lines first ++ s.lines later := by
  simp only [lines, List.filter_append, List.map_append]

/-- Only what is no report at all is kept back when everything is shown. -/
theorem ShowsAll.admits_iff {s : Settings} (all : s.ShowsAll) (c : Category) (level : Level) :
    s.admits c level = true ↔ level ≠ .off := by
  rw [admits, all c]
  cases level <;> decide

/-- The lines under some settings are, among the lines with everything shown, those of the records
that the settings admit. -/
theorem ShowsAll.lines_eq {t : Settings} (all : t.ShowsAll) (s : Settings) (records : List Record) :
    ∃ written : List Record, written.Sublist records ∧ t.lines records = written.map Record.line ∧
      s.lines records = s.lines written := by
  refine ⟨records.filter fun r => t.admits r.category r.level, List.filter_sublist, rfl, ?_⟩
  have stricter (r : Record) (admitted : s.admits r.category r.level = true) :
      t.admits r.category r.level = true := by
    rw [all.admits_iff]
    simp only [admits, Bool.and_eq_true, decide_eq_true_eq] at admitted
    exact admitted.1
  rw [lines, lines, List.filter_filter]
  refine congrArg (List.map Record.line) (List.filter_congr fun r _ => ?_)
  cases admitted : s.admits r.category r.level with
  | false => rfl
  | true => rw [stricter r admitted, Bool.and_self]

end Settings

/-- A category with room, and nothing to announce, writes the next line and counts it. -/
theorem Window.offer_of_room {w : Window} {limit : Nat} (room : w.written < limit)
    (none : w.pending = 0) : w.offer limit = (⟨true, .none⟩, { w with written := w.written + 1 }) := by
  rw [offer, if_pos room, if_pos none]

namespace Logger

/-- Whether a category may write another line in the present second. -/
def HasRoom (l : Logger) (c : Category) : Prop :=
  (l.windows.get c).written < l.limit

/-- No line has been dropped without an announcement. -/
def NoneDropped (l : Logger) : Prop :=
  ∀ c, (l.windows.get c).pending = 0

variable {l : Logger}

@[simp]
theorem settings_offer (l : Logger) (r : Record) : (l.offer r).2.settings = l.settings := by
  unfold offer
  split <;> rfl

/-- A record that finds room is written as it is, if the settings admit it. -/
theorem offer_unhindered (none : l.NoneDropped) {r : Record}
    (room : l.settings.admits r.category r.level → l.HasRoom r.category) :
    linesOf r (l.offer r).1 = l.settings.lines [r] ∧ (l.offer r).2.NoneDropped := by
  unfold offer
  by_cases admitted : l.settings.admits r.category r.level = true
  · simp only [if_pos admitted, Window.offer_of_room (room admitted) (none r.category)]
    refine ⟨by simp [linesOf, Settings.lines, admitted], fun c => ?_⟩
    simp only [PerCategory.get_set]
    split
    · exact none r.category
    · exact none c
  · simp only [if_neg admitted]
    exact ⟨by simp [linesOf, Settings.lines, admitted], none⟩

/-! ## Within one second -/

/-- How many of the records a category would write. -/
def demand (l : Logger) (records : List Record) (c : Category) : Nat :=
  records.countP fun r => r.category = c ∧ l.settings.admits r.category r.level

/-- The records can all be written in the present second. -/
def Fits (l : Logger) (records : List Record) : Prop :=
  ∀ c, (l.windows.get c).written + l.demand records c ≤ l.limit

/-- If the records fit, the first finds room, and the others still fit when it has been written. -/
theorem Fits.cons {r : Record} {records : List Record} (fits : l.Fits (r :: records))
    (none : l.NoneDropped) :
    (l.settings.admits r.category r.level → l.HasRoom r.category) ∧
      (l.offer r).2.Fits records := by
  have room (admitted : l.settings.admits r.category r.level = true) : l.HasRoom r.category := by
    have := fits r.category
    rw [demand, List.countP_cons_of_pos (by simp [admitted])] at this
    show _ < _
    omega
  refine ⟨room, fun c => ?_⟩
  have fitsHere := fits c
  unfold offer
  by_cases admitted : l.settings.admits r.category r.level = true
  · simp only [if_pos admitted, Window.offer_of_room (room admitted) (none r.category), demand,
      PerCategory.get_set]
    by_cases here : c = r.category
    · rw [demand, List.countP_cons_of_pos (by simp [admitted, here])] at fitsHere
      subst here
      rw [if_pos rfl]
      show _ + 1 + _ ≤ _
      omega
    · rw [demand, List.countP_cons_of_neg (by simp [Ne.symm here])] at fitsHere
      rw [if_neg here]
      exact fitsHere
  · rw [demand, List.countP_cons_of_neg (by simp [admitted])] at fitsHere
    simp only [if_neg admitted]
    exact fitsHere

/-- Time makes room. -/
theorem Fits.elapse {records : List Record} (fits : l.Fits records) (c : Category) (e : Elapsed) :
    (l.elapse c e).Fits records := by
  intro d
  refine Nat.le_trans (Nat.add_le_add_right ?_ _) (fits d)
  rw [Logger.elapse, PerCategory.get_set]
  split
  · rename_i here
    exact here ▸ Nat.sub_le _ _
  · exact Nat.le_refl _

/-- Time drops nothing. -/
theorem NoneDropped.elapse (none : l.NoneDropped) (c : Category) (e : Elapsed) :
    (l.elapse c e).NoneDropped := by
  intro d
  rw [Logger.elapse, PerCategory.get_set]
  split
  · exact none c
  · exact none d

end Logger

/-! ## Books -/

namespace Book

/-- The log after a record. -/
def write (b : Book) (r : Record) : Book :=
  let (verdict, logger) := (b.present r.category).offer r
  b.turn logger (Logger.linesOf r verdict)

/-- The log after records. -/
def enter (b : Book) (records : List Record) : Book :=
  records.foldl write b

/-- Each of the records that is to be written finds room when its turn comes. -/
def HasRoomFor (b : Book) : List Record → Prop
  | [] => True
  | r :: rest =>
    (b.logger.settings.admits r.category r.level → (b.present r.category).HasRoom r.category) ∧
      (b.write r).HasRoomFor rest

/-- The limit is not reached: nothing has been dropped, and nothing has to be. -/
structure Unhindered (b : Book) (records : List Record) : Prop where
  none : b.logger.NoneDropped
  room : b.HasRoomFor records

variable {b : Book} {records : List Record}

theorem enter_append (b : Book) (first later : List Record) :
    b.enter (first ++ later) = (b.enter first).enter later :=
  List.foldl_append

/-- Below the limit, a record is written if the settings admit it. -/
theorem write_unhindered {r : Record} (none : b.logger.NoneDropped)
    (room : b.logger.settings.admits r.category r.level → (b.present r.category).HasRoom r.category) :
    (b.write r).lines.toList = b.lines.toList ++ b.logger.settings.lines [r] ∧
      (b.write r).logger.settings = b.logger.settings ∧ (b.write r).logger.NoneDropped := by
  obtain ⟨lines, kept⟩ := Logger.offer_unhindered (none.elapse r.category _) room
  refine ⟨?_, Logger.settings_offer (b.present r.category) r, kept⟩
  show (b.lines.appendList (Logger.linesOf r ((b.present r.category).offer r).1)).toList = _
  rw [Array.appendList_eq_append, Array.toList_appendList, present, lines]
  rfl

/-- Below the limit, the lines are those of the records that the settings admit. -/
theorem lines_enter (unhindered : b.Unhindered records) :
    (b.enter records).lines.toList = b.lines.toList ++ b.logger.settings.lines records := by
  obtain ⟨none, room⟩ := unhindered
  induction records generalizing b with
  | nil => exact (List.append_nil _).symm
  | cons r rest ih =>
    obtain ⟨lines, settings, kept⟩ := write_unhindered none room.1
    refine (ih kept room.2).trans ?_
    rw [lines, settings, List.append_assoc, ← Settings.lines_append]
    rfl

/-- If all records could be written within one second, the limit is not reached. -/
theorem unhindered_of_fits (fits : b.logger.Fits records) (none : b.logger.NoneDropped) :
    b.Unhindered records := by
  refine ⟨none, ?_⟩
  induction records generalizing b with
  | nil => exact trivial
  | cons r rest ih =>
    obtain ⟨room, later⟩ := (fits.elapse r.category (b.elapsed b.calls)).cons (none.elapse r.category _)
    exact ⟨room, ih later (write_unhindered none room).2.2⟩

end Book

end Trainer6800.Log
