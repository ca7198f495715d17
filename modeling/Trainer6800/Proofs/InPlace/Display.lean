import Trainer6800.InPlace.Display
import Trainer6800.Proofs.InPlace.Does

/-!
# The display latch in place
-/

namespace Trainer6800.DisplayLatch

open Acting

variable (l : DisplayLatch)

/-- The observers that leave the list are those that had closed. -/
theorem length_broadcast (event : DisplayEvent) :
    l.observers.length - (l.broadcast event).observers.length =
      (l.observers.filter fun o => !o.isOpen).length := by
  have split := List.length_eq_length_filter_add (fun o : Observer => o.isOpen) (l := l.observers)
  have left : (l.broadcast event).observers.length = (l.observers.filter (·.isOpen)).length :=
    List.length_map _
  omega

theorem does_broadcastM (event : DisplayEvent) :
    (broadcastM event).Does l () (l.broadcast event) l.broadcastRecords := by
  unfold broadcastM broadcastRecords
  refine .quiet (.get l) (.quiet (.modify _ l) (.quiet (.get _) ?_))
  dsimp only
  rw [l.length_broadcast event]
  split
  · rename_i closed
    rw [if_neg (Nat.ne_of_gt closed)]
    exact .log rfl
  · rename_i none
    rw [if_pos (Nat.eq_zero_of_not_pos none)]
    exact .pure _ _

theorem does_setDigitM (index : Fin 6) (segments : UInt8) :
    (setDigitM index segments).Does l () (l.setDigit index segments)
      (l.setDigitRecords index segments) :=
  .quiet (.modify _ l) ((Does.log rfl).bind (does_broadcastM _ _))

theorem does_writeM (offset value : UInt8) :
    (writeM offset value).Does l () (l.write offset value) (l.writeRecords offset value) := by
  unfold writeM write writeRecords
  cases wiredDigit? offset with
  | none => exact .log rfl
  | some index =>
    have seen : l.digits.get index = l.digits[index] := rfl
    refine .quiet (.get l) ?_
    dsimp only
    rw [seen]
    by_cases same : latchedDigit l.digits[index] offset value = l.digits[index]
    · rw [if_neg fun new => new same, if_pos same, if_pos same]
      exact .pure _ l
    · rw [if_pos same, if_neg same, if_neg same]
      exact l.does_setDigitM index _

theorem does_blankDigitM (index : Fin 6) :
    (blankDigitM index).Does l () (l.blankDigit index) (l.blankDigitRecords index) := by
  have seen : l.digits.get index = l.digits[index] := rfl
  unfold blankDigitM blankDigit blankDigitRecords
  refine .quiet (.get l) ?_
  rw [seen]
  by_cases dark : l.digits[index] = 0
  · rw [if_neg fun lit => lit dark, if_pos dark, if_pos dark]
    exact .pure _ l
  · rw [if_pos dark, if_neg dark, if_neg dark]
    exact l.does_setDigitM index 0

/-- Some digits are turned off, one after the other, and the reports come after others. -/
theorem does_forM_blankDigitM (indices : List (Fin 6)) (records : List Log.Record) :
    ∃ later, (indices.foldl (fun (l, records) i => (l.blankDigit i, records ++ l.blankDigitRecords i))
        (l, records)) = (indices.foldl blankDigit l, records ++ later) ∧
      (indices.forM blankDigitM).Does l () (indices.foldl blankDigit l) later := by
  induction indices generalizing l records with
  | nil => exact ⟨[], by rw [List.append_nil]; rfl, .pure _ l⟩
  | cons i rest ih =>
    obtain ⟨later, reported, does⟩ := ih (l.blankDigit i) (records ++ l.blankDigitRecords i)
    refine ⟨l.blankDigitRecords i ++ later, ?_, (l.does_blankDigitM i).bind does⟩
    rw [List.foldl_cons, List.foldl_cons, reported, List.append_assoc]

theorem does_blankM : blankM.Does l () l.blank l.blankRecords := by
  obtain ⟨later, reported, does⟩ := l.does_forM_blankDigitM (List.finRange 6) []
  rw [blankRecords, reported]
  exact does

theorem does_restoreM (shown : DisplaySnapshot) :
    (restoreM shown).Does l () (l.restore shown) l.broadcastRecords :=
  .quiet (.modify _ l) (does_broadcastM _ _)

end Trainer6800.DisplayLatch
