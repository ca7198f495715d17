import Trainer6800.Proofs.Memory.Shape

/-!
# Updates of a block

A byte is written to a block, a run of bytes is loaded, or the whole is cleared.  Whether such an update
succeeds depends on the addresses that it is for and on those that the block has, and these never change
(`BlockUpdate.Fits`).  An update that fails leaves the block as it is; one that succeeds leaves at each
address of a block that can be written the byte that it has for that address, and changes nothing but a
count in a block that can not.
-/

namespace Trainer6800

/-- What may be done to a block. -/
inductive BlockUpdate where
  | write (address : UInt16) (value : UInt8)
  | load (address : UInt16) (bytes : List UInt8)
  | clear
  deriving DecidableEq, Repr

namespace BlockUpdate

/-- All addresses that the update is for are among the `size` addresses from `base` on.  To load nothing
is for no address. -/
def Fits (base : UInt16) (size : Nat) : BlockUpdate → Prop
  | .write address _ => base.toNat ≤ address.toNat ∧ address.toNat < base.toNat + size
  | .load address bytes =>
    bytes = [] ∨ base.toNat ≤ address.toNat ∧ address.toNat + bytes.length ≤ base.toNat + size
  | .clear => True

instance (base : UInt16) (size : Nat) : DecidablePred (Fits base size)
  | .write _ _ => inferInstanceAs (Decidable (_ ∧ _))
  | .load _ _ => inferInstanceAs (Decidable (_ ∨ _))
  | .clear => inferInstanceAs (Decidable True)

/-- Whether there is anything to change at all. -/
def isChange : BlockUpdate → Bool
  | .load _ bytes => !bytes.isEmpty
  | .write _ _ | .clear => true

/-- The byte that the update has for an address. -/
def byteAt? (address : UInt16) : BlockUpdate → Option UInt8
  | .write start value => if start = address then some value else none
  | .load start bytes =>
    if start.toNat ≤ address.toNat then bytes[address.toNat - start.toNat]? else none
  | .clear => some 0

/-- The byte that the update leaves at an address, if it succeeds and has one for it. -/
def stored? (base : UInt16) (size : Nat) (address : UInt16) (u : BlockUpdate) : Option UInt8 :=
  if u.Fits base size then u.byteAt? address else none

end BlockUpdate

namespace MemoryBlock

/-- Try an update. -/
def attempt (b : MemoryBlock) : BlockUpdate → Except OutOfRange MemoryBlock
  | .write address value => b.write address value
  | .load address bytes => b.load address bytes
  | .clear => .ok b.clear

/-- What an update makes of a block if it fits. -/
def perform (b : MemoryBlock) : BlockUpdate → MemoryBlock
  | .write address value => b.store address [value]
  | .load address bytes => if bytes.isEmpty then b else b.store address bytes
  | .clear => b.clear

/-- The block after an update has been tried. -/
def update (b : MemoryBlock) (u : BlockUpdate) : MemoryBlock :=
  match b.attempt u with
  | .ok b' => b'
  | .error _ => b

variable {b : MemoryBlock} {access : Access} {base : UInt16} {size : Nat} {u : BlockUpdate}

namespace HasShape

/-- A load fits when no byte of it is to blame. -/
theorem load_fits_iff (h : b.HasShape access base size) {address : UInt16} {bytes : List UInt8} :
    (BlockUpdate.load address bytes).Fits base size ↔ b.loadFault? address bytes.length = none := by
  obtain ⟨-, rfl, rfl⟩ := h
  have empty : bytes.length = 0 ↔ bytes = [] := List.length_eq_zero_iff
  show bytes = [] ∨ b.base.toNat ≤ address.toNat ∧
    address.toNat + bytes.length ≤ b.base.toNat + b.size ↔ _
  rcases b.loadFault?_cases address bytes.length with
    ⟨fits, found⟩ | ⟨some, outside, found⟩ | ⟨some, inside, long, found⟩
  · refine iff_of_true (fits.imp empty.mp fun fits => ⟨fits.1.1, fits.2⟩) found
  · rw [found]
    refine iff_of_false ?_ nofun
    rintro (rfl | ⟨start, last⟩)
    · exact some rfl
    · exact outside ⟨start, by omega⟩
  · rw [found]
    refine iff_of_false ?_ nofun
    rintro (rfl | ⟨-, last⟩)
    · exact some rfl
    · omega

theorem attempt_of_fits (h : b.HasShape access base size) (fits : u.Fits base size) :
    b.attempt u = .ok (b.perform u) := by
  cases u with
  | write address value =>
    have inside : b.contains address = true := by
      rw [contains_iff_covers, h.covers_iff]
      exact fits
    rw [attempt, MemoryBlock.write, if_pos inside]
    rfl
  | load address bytes =>
    rw [attempt, MemoryBlock.load, h.load_fits_iff.mp fits]
    rfl
  | clear => rfl

/-- An update that does not fit fails, and tells the size of the block. -/
theorem attempt_of_not_fits (h : b.HasShape access base size) (unfit : ¬ u.Fits base size) :
    ∃ address, b.attempt u = .error ⟨address, size⟩ := by
  have sized (address : UInt16) : b.outOfRange address = ⟨address, size⟩ := by
    rw [outOfRange, MemoryBlock.size, h.size]
  cases u with
  | write address value =>
    have outside : ¬ b.contains address = true := by
      rw [contains_iff_covers, h.covers_iff]
      exact unfit
    exact ⟨address, by rw [attempt, MemoryBlock.write, if_neg outside, sized]⟩
  | load address bytes =>
    rcases b.loadFault?_cases address bytes.length with
      ⟨-, found⟩ | ⟨-, -, found⟩ | ⟨-, -, -, found⟩
    · exact absurd (h.load_fits_iff.mpr found) unfit
    · exact ⟨_, by rw [attempt, MemoryBlock.load, found, sized]⟩
    · exact ⟨_, by rw [attempt, MemoryBlock.load, found, sized]⟩
  | clear => exact absurd trivial unfit

theorem attempt_eq_ok_iff (h : b.HasShape access base size) :
    (∃ b', b.attempt u = .ok b') ↔ u.Fits base size := by
  by_cases fits : u.Fits base size
  · exact iff_of_true ⟨_, h.attempt_of_fits fits⟩ fits
  · obtain ⟨address, failed⟩ := h.attempt_of_not_fits fits
    rw [failed]
    exact iff_of_false nofun fits

theorem update_eq (h : b.HasShape access base size) (u : BlockUpdate) :
    b.update u = if u.Fits base size then b.perform u else b := by
  by_cases fits : u.Fits base size
  · rw [update, h.attempt_of_fits fits, if_pos fits]
  · obtain ⟨address, failed⟩ := h.attempt_of_not_fits fits
    rw [update, failed, if_neg fits]

theorem perform (h : b.HasShape access base size) (u : BlockUpdate) :
    (b.perform u).HasShape access base size := by
  cases u with
  | write address value => exact h.store address [value]
  | load address bytes =>
    rw [MemoryBlock.perform]
    split
    · exact h
    · exact h.store address bytes
  | clear => exact h.clear

theorem update (h : b.HasShape access base size) (u : BlockUpdate) :
    (b.update u).HasShape access base size := by
  rw [h.update_eq]
  split
  · exact h.perform u
  · exact h

/-- In a block that can be written, an address takes the byte that the update has for it. -/
theorem fetch_perform (h : b.HasShape .plain base size) (fits : u.Fits base size) {address : UInt16}
    (inside : b.Covers address) :
    (b.perform u).fetch address = (u.byteAt? address).getD (b.fetch address) := by
  cases u with
  | write start value =>
    show (b.store start [value]).fetch address = _
    rw [h.fetch_store fits.1 [value] inside, BlockUpdate.byteAt?]
    by_cases here : start = address
    · subst here
      rw [if_pos (Nat.le_refl _), if_pos rfl, Nat.sub_self]
      rfl
    · have apart : start.toNat ≠ address.toNat := fun same => here (UInt16.toNat_inj.mp same)
      rw [if_neg here]
      split
      · rw [List.getElem?_eq_none (by rw [List.length_singleton]; omega)]
      · rfl
  | load start bytes =>
    rw [BlockUpdate.byteAt?, MemoryBlock.perform]
    cases bytes with
    | nil => simp
    | cons value rest =>
      have start_le := (fits.resolve_left (List.cons_ne_nil _ _)).1
      rw [if_neg (by simp), h.fetch_store start_le _ inside]
      split
      · rfl
      · rfl
  | clear =>
    show b.clear.fetch address = 0
    have cleared : b.clear = { b with content := Array.replicate b.size 0 } := by
      unfold MemoryBlock.clear
      split
      · rfl
      · rename_i refuses
        rw [h.access] at refuses
        cases refuses
    rw [cleared, fetch, Array.getD_eq_getD_getElem?, Array.getElem?_replicate]
    split
    · rfl
    · rfl

/-- The last byte stored at an address is the one that is there. -/
theorem fetch_update (h : b.HasShape .plain base size) (u : BlockUpdate) {address : UInt16}
    (inside : b.Covers address) :
    (b.update u).fetch address = (u.stored? base size address).getD (b.fetch address) := by
  rw [h.update_eq, BlockUpdate.stored?]
  by_cases fits : u.Fits base size
  · rw [if_pos fits, if_pos fits, h.fetch_perform fits inside]
  · rw [if_neg fits, if_neg fits, Option.getD_none]

/-- A block that can not be written keeps its bytes and counts what would have changed them. -/
theorem update_readOnly (h : b.HasShape .readOnly base size) (u : BlockUpdate) :
    b.update u = if u.Fits base size ∧ u.isChange then b.reject else b := by
  have refuses (address : UInt16) (bytes : List UInt8) : b.store address bytes = b.reject := by
    rw [MemoryBlock.store, h.access]
  rw [h.update_eq]
  by_cases fits : u.Fits base size
  · rw [if_pos fits]
    cases u with
    | write address value => rw [MemoryBlock.perform, refuses, if_pos ⟨fits, rfl⟩]
    | load address bytes =>
      rw [MemoryBlock.perform, refuses, BlockUpdate.isChange]
      cases bytes with
      | nil => simp
      | cons value rest => simp [fits]
    | clear => rw [MemoryBlock.perform, MemoryBlock.clear, h.access, if_pos ⟨fits, rfl⟩]
  · rw [if_neg fits, if_neg fun both => fits both.1]

end HasShape

end MemoryBlock

end Trainer6800
