import Trainer6800.Proofs.InPlace.Memory
import Trainer6800.Proofs.LastSetting

/-!
# What has been done to a block

A block of memory is made once, and then it is updated any number of times.  After that a block that can
be written reads at each address what was stored there last, and a block that can not still has its image,
and has counted what it refused (`MemoryBlock.updates_kept`).  Both follow from what one update does: to
the byte at one address, and to the count.
-/

namespace Trainer6800

namespace MemoryBlock

variable {b : MemoryBlock} {access : Access} {base : UInt16} {size : Nat}

/-- The block after some updates have been tried. -/
def updateAll (b : MemoryBlock) (updates : List BlockUpdate) : MemoryBlock :=
  updates.foldl update b

theorem HasShape.updateAll (h : b.HasShape access base size) (updates : List BlockUpdate) :
    (b.updateAll updates).HasShape access base size := by
  induction updates generalizing b with
  | nil => exact h
  | cons u rest ih => exact ih (h.update u)

/-- The block has `size` bytes from `base` on, and no others can be read or written. -/
structure Answers (b : MemoryBlock) (access : Access) (base : UInt16) (size : Nat) : Prop where
  shape : b.HasShape access base size
  contains : ∀ address, b.contains address = true ↔
    base.toNat ≤ address.toNat ∧ address.toNat < base.toNat + size
  read : ∀ address, (∃ value, b.read address = .ok value) ↔
    base.toNat ≤ address.toNat ∧ address.toNat < base.toNat + size
  write : ∀ address value, (∃ b', b.write address value = .ok b') ↔
    base.toNat ≤ address.toNat ∧ address.toNat < base.toNat + size
  succeeds : ∀ u, (∃ b', b.attempt u = .ok b') ↔ u.Fits base size
  /-- What fails changes nothing, though it has the block in its hands, and logs nothing. -/
  fails : ∀ u e, b.attempt u = .error e →
    e.size = size ∧ b.update u = b ∧ (attemptM u).Does b (.error e) b []

/-- A block that can be written shows at each address the last byte that was stored there. -/
structure ShowsStored (b : MemoryBlock) (base : UInt16) (size : Nat) (updates : List BlockUpdate) :
    Prop extends b.Answers .plain base size where
  shows : ∀ address : UInt16, base.toNat ≤ address.toNat → address.toNat < base.toNat + size →
    b.read address =
      .ok ((lastSetting? (BlockUpdate.stored? base size address) updates).getD 0)

/-- A block that can not be written shows its image. -/
structure ShowsImage (b : MemoryBlock) (base : UInt16) (size : Nat) (image : List UInt8)
    (updates : List BlockUpdate) : Prop extends b.Answers .readOnly base size where
  content : b.content.toList = (image ++ List.replicate size 0).take size
  shows : ∀ address : UInt16, base.toNat ≤ address.toNat → address.toNat < base.toNat + size →
    b.read address = .ok (image.getD (address.toNat - base.toNat) 0)
  rejected : b.rejectedWrites = updates.countP fun u => u.Fits base size ∧ u.isChange

theorem HasShape.read_eq (h : b.HasShape access base size) {address : UInt16}
    (first : base.toNat ≤ address.toNat) (last : address.toNat < base.toNat + size) :
    b.read address = .ok (b.fetch address) := by
  rw [MemoryBlock.read, if_pos (contains_iff_covers.mpr ((h.covers_iff address).mpr ⟨first, last⟩))]

theorem HasShape.answers (h : b.HasShape access base size) : b.Answers access base size where
  shape := h
  contains := fun address => contains_iff_covers.trans (h.covers_iff address)
  read := by
    intro address
    rw [← h.covers_iff, ← contains_iff_covers, MemoryBlock.read]
    split
    · rename_i inside
      exact iff_of_true ⟨_, rfl⟩ inside
    · rename_i outside
      exact iff_of_false nofun outside
  write := fun address value => h.attempt_eq_ok_iff (u := .write address value)
  succeeds := fun u => h.attempt_eq_ok_iff
  fails := by
    intro u e failed
    by_cases fits : u.Fits base size
    · rw [h.attempt_of_fits fits] at failed
      cases failed
    · obtain ⟨address, failed'⟩ := h.attempt_of_not_fits fits
      rw [failed'] at failed
      cases failed
      exact ⟨rfl, by rw [h.update_eq, if_neg fits], b.does_attemptM_error failed'⟩

/-- What was there before the first update counts as stored. -/
theorem HasShape.fetch_updateAll (h : b.HasShape .plain base size) (updates : List BlockUpdate)
    {address : UInt16} (first : base.toNat ≤ address.toNat)
    (last : address.toNat < base.toNat + size) :
    (b.updateAll updates).fetch address =
      (lastSetting? (BlockUpdate.stored? base size address) updates).getD (b.fetch address) :=
  getD_lastSetting?_foldl (fun b : MemoryBlock => b.fetch address) (·.HasShape .plain base size)
    (fun _ u h => h.update u) (fun _ u h => h.fetch_update u ((h.covers_iff address).mpr ⟨first, last⟩))
    h updates

theorem HasShape.updateAll_readOnly (h : b.HasShape .readOnly base size)
    (updates : List BlockUpdate) :
    b.updateAll updates =
      { b with rejectedWrites :=
          b.rejectedWrites + updates.countP fun u => u.Fits base size ∧ u.isChange } := by
  induction updates generalizing b with
  | nil => rfl
  | cons u rest ih =>
    show (b.update u).updateAll rest = _
    rw [ih (h.update u), h.update_readOnly, List.countP_cons]
    split
    · rename_i changes
      rw [if_pos (decide_eq_true changes), Nat.add_comm _ 1, ← Nat.add_assoc]
      rfl
    · rename_i idle
      rw [if_neg (mt of_decide_eq_true idle)]
      rfl

/-- An update adds at most one to the count of refusals. -/
theorem rejectedWrites_update_le (b : MemoryBlock) (u : BlockUpdate) :
    (b.update u).rejectedWrites ≤ b.rejectedWrites + 1 := by
  have stored (address : UInt16) (bytes : List UInt8) :
      (b.store address bytes).rejectedWrites ≤ b.rejectedWrites + 1 := by
    unfold store
    split
    · exact Nat.le_succ _
    · exact Nat.le_refl _
  have shape : b.HasShape b.access b.base b.size := ⟨rfl, rfl, rfl⟩
  rw [shape.update_eq]
  split
  · cases u with
    | write address value => exact stored address [value]
    | load address bytes =>
      show (if bytes.isEmpty then b else b.store address bytes).rejectedWrites ≤ _
      split
      · exact Nat.le_succ _
      · exact stored address bytes
    | clear =>
      show b.clear.rejectedWrites ≤ _
      unfold clear
      split
      · exact Nat.le_succ _
      · exact Nat.le_refl _
  · exact Nat.le_succ _

/-- So the count of a new block is that of a counter of sixty-four bits, as long as there have been fewer
updates than such a counter can count. -/
theorem toNat_rejectedWrites (b : MemoryBlock) (new : b.rejectedWrites = 0) (updates : List BlockUpdate)
    (few : updates.length < UInt64.size) :
    (UInt64.ofNat (b.updateAll updates).rejectedWrites).toNat = (b.updateAll updates).rejectedWrites := by
  have counted (b : MemoryBlock) :
      (b.updateAll updates).rejectedWrites ≤ b.rejectedWrites + updates.length := by
    clear few
    induction updates generalizing b with
    | nil => exact Nat.le_refl _
    | cons u rest ih =>
      have first := b.rejectedWrites_update_le u
      have later : ((b.update u).updateAll rest).rejectedWrites ≤ _ := ih (b.update u)
      rw [List.length_cons]
      show ((b.update u).updateAll rest).rejectedWrites ≤ _
      omega
  have bound := counted b
  rw [new, Nat.zero_add] at bound
  exact UInt64.toNat_ofNat_of_lt' (Nat.lt_of_le_of_lt bound few)

/-- Before the first update there is nothing but zeros. -/
theorem fetch_plain (size : Nat) (base address : UInt16) :
    ((plain size).placedAt base).fetch address = 0 := by
  show (Array.replicate size 0).getD _ 0 = 0
  rw [Array.getD_eq_getD_getElem?, Array.getElem?_replicate]
  split
  · rfl
  · rfl

/-- Blocks are faithful, wherever they lie and however large they are.  After any updates a block that
can be written shows what was stored last, and one that can not shows its image and has counted what it
refused. -/
theorem updates_kept (base : UInt16) (size : Nat) (image : List UInt8) (updates : List BlockUpdate) :
    (((plain size).placedAt base).updateAll updates).ShowsStored base size updates ∧
      (((readOnly size image).placedAt base).updateAll updates).ShowsImage base size image updates := by
  have ram : ((plain size).placedAt base).HasShape .plain base size :=
    ⟨rfl, rfl, Array.size_replicate⟩
  have rom := hasShape_readOnly size image base
  have ram' := ram.updateAll updates
  have rom' := rom.updateAll updates
  have counted := rom.updateAll_readOnly updates
  have content : (((readOnly size image).placedAt base).updateAll updates).content.toList =
      (image ++ List.replicate size 0).take size := by
    rw [counted]
    exact content_readOnly size image
  refine ⟨⟨ram'.answers, ?_⟩, ⟨rom'.answers, content, ?_, ?_⟩⟩
  · intro address first last
    rw [ram'.read_eq first last, ram.fetch_updateAll updates first last, fetch_plain]
  · intro address first last
    rw [rom'.read_eq first last, fetch, index, rom'.base, getD_of_image content (by omega)]
  · rw [counted]
    exact Nat.zero_add _

end MemoryBlock

end Trainer6800
