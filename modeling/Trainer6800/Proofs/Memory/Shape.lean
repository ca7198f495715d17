import Trainer6800.Memory.Block

/-!
# The shape of a block

Access, base address and size are fixed when a block is made: storing, loading and clearing change
what is in it, or refuse to, but never its shape.  `MemoryBlock.HasShape` is the shape, and each
operation has one lemma that says so.

The shape decides which addresses a block has (`MemoryBlock.Covers`), and with them whether a load fits.
In a block that can be written, each address reads what was stored there and is otherwise as before
(`HasShape.fetch_store`).  A load of as many bytes as the block has leaves nothing of what was in it before.
-/

namespace Trainer6800

@[simp] theorem size_putBytes (content : Array UInt8) (index : Nat) (bytes : List UInt8) :
    (putBytes content index bytes).size = content.size := by
  induction bytes generalizing content index with
  | nil => rfl
  | cons b bs ih => rw [putBytes, ih, Array.size_setIfInBounds]

/-- Bytes replace as many bytes as they are, here those between `before` and the end. -/
theorem putBytes_append (before after bytes : List UInt8) (size : bytes.length = after.length) :
    putBytes (before ++ after).toArray before.length bytes = (before ++ bytes).toArray := by
  induction bytes generalizing before after with
  | nil =>
    rw [List.eq_nil_of_length_eq_zero size.symm]
    rfl
  | cons b bs ih =>
    cases after with
    | nil => cases size
    | cons old after =>
      have set : (before ++ old :: after).toArray.setIfInBounds before.length b =
          (before ++ [b] ++ after).toArray := by
        rw [List.setIfInBounds_toArray, List.set_append_right _ _ (Nat.le_refl _), Nat.sub_self]
        simp only [List.set_cons_zero, List.append_assoc, List.singleton_append]
      have rest := ih (before ++ [b]) after (Nat.succ.inj size)
      rw [List.length_append, List.length_singleton] at rest
      rw [putBytes, set, rest, List.append_assoc, List.singleton_append]

/-- Bytes that have been put into an array are found from the index on, as far as the array goes; the
others are as before. -/
theorem getElem?_putBytes (content : Array UInt8) (index : Nat) (bytes : List UInt8) (k : Nat) :
    (putBytes content index bytes)[k]? =
      if k < content.size ∧ index ≤ k ∧ k < index + bytes.length then bytes[k - index]?
      else content[k]? := by
  induction bytes generalizing content index with
  | nil =>
    have outside : ¬ (k < content.size ∧ index ≤ k ∧ k < index + ([] : List UInt8).length) := by
      rw [List.length_nil]
      omega
    rw [putBytes, if_neg outside]
  | cons b bs ih =>
    rw [putBytes, ih, Array.size_setIfInBounds, Array.getElem?_setIfInBounds]
    grind

namespace MemoryBlock

/-- The address is one of those that the block has. -/
def Covers (b : MemoryBlock) (address : UInt16) : Prop :=
  b.base.toNat ≤ address.toNat ∧ address.toNat < b.base.toNat + b.size

theorem contains_iff_covers {b : MemoryBlock} {address : UInt16} :
    b.contains address = true ↔ b.Covers address := by
  rw [contains, Covers, Bool.and_eq_true, decide_eq_true_eq, decide_eq_true_eq,
    UInt16.le_iff_toNat_le]
  omega

/-- A load fits if it is of nothing, or if it begins in the block and does not go past its end.
Otherwise the address to blame is the first one, or the last if the first is in the block. -/
theorem loadFault?_cases (b : MemoryBlock) (address : UInt16) (count : Nat) :
    (count = 0 ∨ b.Covers address ∧ address.toNat + count ≤ b.base.toNat + b.size) ∧
        b.loadFault? address count = none ∨
      count ≠ 0 ∧ ¬ b.Covers address ∧
        b.loadFault? address count = some (b.outOfRange address) ∨
      count ≠ 0 ∧ b.Covers address ∧ b.base.toNat + b.size < address.toNat + count ∧
        b.loadFault? address count =
          some (b.outOfRange (UInt16.ofNat (min (address.toNat + count - 1) 0xFFFF))) := by
  have covers : b.contains address = true ↔ b.Covers address := contains_iff_covers
  rw [loadFault?]
  by_cases nothing : count = 0
  · rw [if_pos nothing]
    exact .inl ⟨.inl nothing, rfl⟩
  · rw [if_neg nothing]
    cases inside : b.contains address with
    | false =>
      rw [inside] at covers
      exact .inr (.inl ⟨nothing, mt covers.mpr Bool.false_ne_true, rfl⟩)
    | true =>
      have begins := covers.mp inside
      have place : b.index address + count ≤ b.size ↔
          address.toNat + count ≤ b.base.toNat + b.size := by
        have := begins.1
        rw [index]
        omega
      rw [Bool.not_true, if_neg Bool.false_ne_true]
      by_cases fits : b.index address + count ≤ b.size
      · rw [if_pos fits]
        exact .inl ⟨.inr ⟨begins, place.mp fits⟩, rfl⟩
      · rw [if_neg fits]
        exact .inr (.inr ⟨nothing, begins, Nat.not_le.mp (mt place.mpr fits), rfl⟩)

/-- What a block allows, and the addresses it has. -/
structure HasShape (b : MemoryBlock) (access : Access) (base : UInt16) (size : Nat) : Prop where
  access : b.access = access
  base : b.base = base
  size : b.content.size = size

variable {b : MemoryBlock} {access : Access} {base : UInt16} {size : Nat}

theorem hasShape_plain (size : Nat) : (plain size).HasShape .plain 0 size :=
  ⟨rfl, rfl, Array.size_replicate⟩

theorem hasShape_readOnly (size : Nat) (image : List UInt8) (base : UInt16) :
    ((readOnly size image).placedAt base).HasShape .readOnly base size := by
  refine ⟨rfl, rfl, ?_⟩
  show (putBytes (Array.replicate size 0) 0 image).size = size
  rw [size_putBytes, Array.size_replicate]

theorem HasShape.store (h : b.HasShape access base size) (address : UInt16) (bytes : List UInt8) :
    (b.store address bytes).HasShape access base size := by
  unfold MemoryBlock.store
  split
  · exact ⟨h.access, h.base, by rw [← h.size]; exact size_putBytes _ _ _⟩
  · exact { h with }

theorem HasShape.clear (h : b.HasShape access base size) : b.clear.HasShape access base size := by
  unfold MemoryBlock.clear
  split
  · exact ⟨h.access, h.base, Array.size_replicate.trans h.size⟩
  · exact { h with }

theorem HasShape.load (h : b.HasShape access base size) {b' : MemoryBlock} {address : UInt16}
    {bytes : List UInt8} (loads : b.load address bytes = .ok b') :
    b'.HasShape access base size := by
  unfold MemoryBlock.load at loads
  split at loads
  · cases loads
  · cases loads
    split
    · exact h
    · exact h.store address bytes

/-- An address lies in a block when it is not before its base and not too far after it. -/
theorem HasShape.contains_iff (h : b.HasShape access base size) (address : UInt16) :
    b.contains address = true ↔ base.toNat ≤ address.toNat ∧ address.toNat - base.toNat < size := by
  simp only [contains, MemoryBlock.size, h.base, h.size, Bool.and_eq_true, decide_eq_true_eq,
    UInt16.le_iff_toNat_le]

theorem HasShape.covers_iff (h : b.HasShape access base size) (address : UInt16) :
    b.Covers address ↔ base.toNat ≤ address.toNat ∧ address.toNat < base.toNat + size := by
  rw [Covers, h.base, MemoryBlock.size, h.size]

/-- Bytes stored in a block replace those at their places. -/
theorem HasShape.store_eq_putBytes (h : b.HasShape .plain base size) (address : UInt16)
    (bytes : List UInt8) :
    b.store address bytes = { b with content := putBytes b.content (b.index address) bytes } := by
  unfold MemoryBlock.store
  split
  · rfl
  · rename_i refuses
    rw [h.access] at refuses
    cases refuses

/-- Stored bytes are read from their address on, and what is before or after them has not changed. -/
theorem HasShape.fetch_store (h : b.HasShape .plain base size) {address : UInt16}
    (start : base.toNat ≤ address.toNat) (bytes : List UInt8) {other : UInt16}
    (inside : b.Covers other) :
    (b.store address bytes).fetch other =
      if address.toNat ≤ other.toNat then
        (bytes[other.toNat - address.toNat]?).getD (b.fetch other)
      else b.fetch other := by
  obtain ⟨first, last⟩ := (h.covers_iff other).mp inside
  have content := h.size
  have places : b.index address = address.toNat - base.toNat ∧
      b.index other = other.toNat - base.toNat := by
    rw [index, index, h.base]
    exact ⟨rfl, rfl⟩
  have same : (b.store address bytes).index other = b.index other := by
    rw [index, index, (h.store address bytes).base, h.base]
  rw [fetch, fetch, same, h.store_eq_putBytes, Array.getD_eq_getD_getElem?,
    Array.getD_eq_getD_getElem?, getElem?_putBytes]
  by_cases after : address.toNat ≤ other.toNat
  · rw [if_pos after]
    by_cases stored : other.toNat - address.toNat < bytes.length
    · have place : b.index other - b.index address = other.toNat - address.toNat := by omega
      rw [if_pos (by omega), place, List.getElem?_eq_getElem stored, Option.getD_some,
        Option.getD_some]
    · rw [if_neg (by omega), List.getElem?_eq_none (by omega), Option.getD_none]
  · rw [if_neg after, if_neg (by omega)]

/-- The bytes of a block that is made from an image. -/
theorem content_readOnly (size : Nat) (image : List UInt8) :
    (readOnly size image).content.toList = (image ++ List.replicate size 0).take size := by
  refine List.ext_getElem? fun k => ?_
  have found := getElem?_putBytes (Array.replicate size 0) 0 image k
  rw [Array.size_replicate, Nat.zero_add, Nat.sub_zero] at found
  rw [Array.getElem?_toList]
  show (putBytes (Array.replicate size 0) 0 image)[k]? = _
  rw [found, List.getElem?_take, List.getElem?_append, Array.getElem?_replicate,
    List.getElem?_replicate]
  grind

/-- Bytes past the end of the image are zero. -/
theorem getD_of_image {content : Array UInt8} {size : Nat} {image : List UInt8}
    (filled : content.toList = (image ++ List.replicate size 0).take size) {k : Nat}
    (inside : k < size) : content.getD k 0 = image.getD k 0 := by
  rw [Array.getD_eq_getD_getElem?, ← Array.getElem?_toList, filled, List.getElem?_take,
    List.getElem?_append, List.getElem?_replicate, List.getD_eq_getElem?_getD]
  grind

/-- A load of the whole block replaces all that was in it. -/
theorem HasShape.load_whole (h : b.HasShape .plain 0 size) (room : 0 < size) {bytes : List UInt8}
    (whole : bytes.length = size) : b.load 0 bytes = .ok { b with content := bytes.toArray } := by
  have inside : b.contains 0 = true := (h.contains_iff 0).mpr ⟨Nat.le_refl _, room⟩
  have first : b.index 0 = 0 := by
    rw [index, h.base]
    rfl
  have fits : b.loadFault? 0 bytes.length = none := by
    rw [loadFault?, if_neg (by omega), inside, first, if_neg (by decide), if_pos]
    have size := h.size
    show 0 + bytes.length ≤ b.content.size
    omega
  have filled : ¬ bytes.isEmpty = true := by
    rw [List.isEmpty_iff_length_eq_zero, whole]
    exact Nat.ne_of_gt room
  have put : putBytes b.content 0 bytes = bytes.toArray :=
    putBytes_append [] b.content.toList bytes (whole.trans h.size.symm)
  rw [MemoryBlock.load, fits]
  show Except.ok (if bytes.isEmpty then b else b.store 0 bytes) = _
  rw [if_neg filled, MemoryBlock.store]
  split
  · show Except.ok { b with content := putBytes b.content (b.index 0) bytes } = _
    rw [first, put]
  · rename_i refuses
    rw [h.access] at refuses
    cases refuses

end MemoryBlock

end Trainer6800
