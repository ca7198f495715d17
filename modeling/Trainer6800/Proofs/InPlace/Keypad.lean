import Trainer6800.InPlace.Keypad
import Trainer6800.Proofs.InPlace.Does

/-!
# The keypad in place

A press and a release in place leave the keypad that they make of the value, and return whether that is
another one.
-/

namespace Trainer6800.Keypad

open Acting

variable (k : Keypad) (key : Key)

theorem does_pressM : (pressM key).Does k (!k.isPressed key) (k.press key) (k.pressRecords key) := by
  unfold pressM press pressRecords
  refine .quiet (.get k) ?_
  cases k.isPressed key with
  | true => exact .pure _ k
  | false => exact .quiet (.set k _) ((Does.log rfl).bind (.pure _ _))

theorem does_releaseM :
    (releaseM key).Does k (k.isPressed key) (k.release key) (k.releaseRecords key) := by
  unfold releaseM releaseRecords
  refine .quiet (.get k) ?_
  cases held : k.isPressed key with
  | true => exact .quiet (.set k _) ((Does.log rfl).bind (.pure _ _))
  | false =>
    have absent : key ∉ k.held := by
      rw [← List.contains_iff_mem, Bool.not_eq_true]
      exact held
    have same : k.release key = k := by rw [release, List.erase_of_not_mem absent]
    rw [same]
    exact .pure _ k

theorem does_releaseAllM : releaseAllM.Does k () k.releaseAll k.releaseAllRecords := by
  unfold releaseAllM releaseAllRecords
  refine .quiet (.get k) ?_
  cases k.held.isEmpty with
  | true => exact .set k _
  | false => exact (Does.log rfl).bind (.set k _)

end Trainer6800.Keypad
