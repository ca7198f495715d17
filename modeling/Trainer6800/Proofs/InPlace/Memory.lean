import Trainer6800.InPlace.Memory
import Trainer6800.Proofs.InPlace.Does
import Trainer6800.Proofs.Memory.Update

/-!
# Memory blocks in place

The operations in place give what the operations on values give, leave the same block, and log what these
report.  An update that fails leaves the block as it was: here this is a fact about an operation that
holds the block in its hands, and could have changed some of it first.
-/

namespace Trainer6800.MemoryBlock

open Acting

variable (b : MemoryBlock)

/-- Try an update in place. -/
def attemptM : BlockUpdate → Acting MemoryBlock (Except OutOfRange Unit)
  | .write address value => writeM address value
  | .load address bytes => loadM address bytes
  | .clear => do
    clearM
    return .ok ()

/-- The report of an update. -/
def attemptRecords : BlockUpdate → List Log.Record
  | .write address value => b.writeRecords address value
  | .load address bytes => b.loadRecords address bytes
  | .clear => b.clearRecords

theorem does_readOnlyM {σ : Type} (s : σ) (size : Nat) (image : List UInt8) :
    (readOnlyM size image).Does s (readOnly size image) s (readOnlyRecords size image) := by
  unfold readOnlyM readOnlyRecords
  split
  · exact (Does.log rfl).bind (.pure _ s)
  · exact .pure _ s

/-- What a block that is written to stores, or refuses. -/
theorem does_writeM (address : UInt16) (value : UInt8) :
    (writeM address value).Does b ((b.write address value).map fun _ => ())
      (b.update (.write address value)) (b.writeRecords address value) := by
  unfold writeM
  refine .quiet (.get b) ?_
  rw [update, attempt, write, writeRecords]
  by_cases inside : b.contains address = true
  · rw [if_pos inside, if_pos inside]
    cases access : b.access with
    | plain =>
      rw [if_neg (by simp)]
      simp only [store, access]
      exact .quiet (.set b _) (.pure _ _)
    | readOnly =>
      rw [if_pos ⟨inside, rfl⟩]
      simp only [store, access]
      exact .quiet (.set b _) ((Does.log rfl).bind (.pure _ _))
  · rw [if_neg inside, if_neg inside, if_neg fun both => inside both.1]
    exact .pure _ b

theorem does_clearM : clearM.Does b () b.clear b.clearRecords := by
  unfold clearM clear clearRecords
  refine .quiet (.get b) ?_
  cases b.access with
  | plain => exact .set b _
  | readOnly => exact .quiet (.set b _) (Does.log rfl)

/-- A load that is to blame for an address changes nothing and is not reported. -/
theorem does_fault {address : UInt16} {bytes : List UInt8} {e : OutOfRange}
    (fault : b.loadFault? address bytes.length = some e) :
    (pure (.error e) : Acting MemoryBlock (Except OutOfRange Unit)).Does b
      ((b.load address bytes).map fun _ => ()) (b.update (.load address bytes))
      (b.loadRecords address bytes) := by
  have silent : b.loadRecords address bytes = [] := by
    refine if_neg fun all => ?_
    rw [fault] at all
    cases all.2.2
  rw [silent, update, attempt, load, fault]
  exact .pure _ b

/-- The checks come one after the other, and all of them before the first change. -/
theorem does_loadM (address : UInt16) (bytes : List UInt8) :
    (loadM address bytes).Does b ((b.load address bytes).map fun _ => ())
      (b.update (.load address bytes)) (b.loadRecords address bytes) := by
  unfold loadM
  by_cases nothing : bytes = []
  · subst nothing
    have silent : b.loadRecords address [] = [] := if_neg fun all => all.2.1 rfl
    rw [silent]
    exact .pure _ b
  · have some : bytes.length ≠ 0 := mt List.length_eq_zero_iff.mp nothing
    have full : ¬ bytes.isEmpty = true := mt List.isEmpty_iff.mp nothing
    rw [if_neg full]
    refine .quiet (.get b) ?_
    cases inside : b.contains address with
    | false =>
      rw [if_neg Bool.false_ne_true]
      exact b.does_fault (by rw [loadFault?, if_neg some, inside]; rfl)
    | true =>
      have begins := (contains_iff_covers.mp inside).1
      rw [if_pos rfl]
      dsimp only
      by_cases long : b.size < b.index address + bytes.length
      · have last : b.base.toNat + (b.index address + bytes.length) - 1 =
            address.toNat + bytes.length - 1 := by
          unfold index
          omega
        rw [if_pos long, last]
        refine b.does_fault ?_
        rw [loadFault?, if_neg some, inside, Bool.not_true, if_neg Bool.false_ne_true,
          if_neg (Nat.not_le.mpr long)]
      · have fits : b.loadFault? address bytes.length = none := by
          rw [loadFault?, if_neg some, inside, Bool.not_true, if_neg Bool.false_ne_true,
            if_pos (Nat.not_lt.mp long)]
        rw [if_neg long, update, attempt, load, loadRecords, fits]
        dsimp only
        rw [if_neg full]
        cases access : b.access with
        | plain =>
          rw [if_neg fun all => by cases all.1]
          simp only [store, access]
          exact .quiet (.set b _) (.pure _ _)
        | readOnly =>
          rw [if_pos ⟨rfl, nothing, rfl⟩]
          simp only [store, access]
          exact .quiet (.set b _) ((Does.log rfl).bind (.pure _ _))

/-- An update in place is the update of the value. -/
theorem does_attemptM (u : BlockUpdate) :
    (attemptM u).Does b ((b.attempt u).map fun _ => ()) (b.update u) (b.attemptRecords u) := by
  cases u with
  | write address value => exact b.does_writeM address value
  | load address bytes => exact b.does_loadM address bytes
  | clear =>
    rw [← List.append_nil (b.attemptRecords .clear)]
    exact b.does_clearM.bind (.pure _ _)

/-- An update in place that fails leaves the block as it was, and logs nothing. -/
theorem does_attemptM_error {u : BlockUpdate} {e : OutOfRange} (failed : b.attempt u = .error e) :
    (attemptM u).Does b (.error e) b [] := by
  have does := b.does_attemptM u
  have silent : b.attemptRecords u = [] := by
    cases u with
    | write address value =>
      refine if_neg fun both => ?_
      rw [attempt, write, if_pos both.1] at failed
      cases failed
    | load address bytes =>
      refine if_neg fun all => ?_
      rw [attempt, load, all.2.2] at failed
      cases failed
    | clear => cases failed
  rwa [update, failed, silent] at does

end Trainer6800.MemoryBlock
