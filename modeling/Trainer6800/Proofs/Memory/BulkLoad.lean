import Trainer6800.Proofs.Memory.History

/-!
# Loading is writing

Bytes can be put into a block all at once, by a load, or one after the other.  A load works on places in
the block and a write on addresses, which end at `FFFF`; in a block that does not go past the last
address the two come to the same.  A load succeeds just when every byte has an address of the block, and
then it is those writes (`MemoryBlock.load_is_writing`).

Bytes written one after the other may fail halfway.  A load that fails has written none of them, and its
error tells which address is to blame.
-/

namespace Trainer6800

namespace MemoryBlock

/-- Write bytes one after the other, from an address on, until one fails. -/
def writeFrom (b : MemoryBlock) (address : Nat) : List UInt8 → Except OutOfRange MemoryBlock
  | [] => .ok b
  | value :: rest =>
    match b.write (UInt16.ofNat address) value with
    | .ok b' => b'.writeFrom (address + 1) rest
    | .error e => .error e

variable {b : MemoryBlock} {base : UInt16} {size : Nat}

/-- In a block that ends at or before the last address, bytes that fit are written as they are loaded. -/
theorem HasShape.writeFrom_eq (h : b.HasShape .plain base size) (top : base.toNat + size ≤ 65536)
    {address : Nat} {bytes : List UInt8} (first : base.toNat ≤ address)
    (last : address + bytes.length ≤ base.toNat + size) :
    b.writeFrom address bytes =
      .ok { b with content := putBytes b.content (address - base.toNat) bytes } := by
  induction bytes generalizing b address with
  | nil => rfl
  | cons value rest ih =>
    rw [List.length_cons] at last
    have same : (UInt16.ofNat address).toNat = address := by
      rw [UInt16.toNat_ofNat']
      omega
    have written : b.write (UInt16.ofNat address) value =
        .ok (b.store (UInt16.ofNat address) [value]) := by
      refine h.attempt_of_fits (u := .write (UInt16.ofNat address) value) ?_
      show base.toNat ≤ (UInt16.ofNat address).toNat ∧ _
      omega
    have stored := h.store_eq_putBytes (UInt16.ofNat address) [value]
    have place : b.index (UInt16.ofNat address) = address - base.toNat := by
      rw [index, h.base, same]
    rw [place] at stored
    have later : address + 1 - base.toNat = address - base.toNat + 1 := by omega
    rw [writeFrom, written]
    show (b.store (UInt16.ofNat address) [value]).writeFrom (address + 1) rest = _
    rw [ih (h.store _ _) (by omega) (by omega), stored, later]
    rfl

/-- A load fails with what `loadFault?` finds. -/
theorem load_eq_error_iff {address : UInt16} {bytes : List UInt8} {e : OutOfRange} :
    b.load address bytes = .error e ↔ b.loadFault? address bytes.length = some e := by
  rw [load]
  cases b.loadFault? address bytes.length with
  | none => simp only [reduceCtorEq]
  | some fault => rw [Except.error.injEq, Option.some.injEq]

/-- A load fits if each of its bytes has an address, and the block has it. -/
theorem HasShape.load_fits_iff_contains (h : b.HasShape .plain base size)
    (top : base.toNat + size ≤ 0x10000) {address : UInt16} {bytes : List UInt8} :
    (BlockUpdate.load address bytes).Fits base size ↔
      bytes = [] ∨ ∀ i < bytes.length, address.toNat + i ≤ 0xFFFF ∧
        b.contains (UInt16.ofNat (address.toNat + i)) = true := by
  refine or_congr_right' fun some => ?_
  have long : 0 < bytes.length := List.length_pos_iff.mpr some
  constructor
  · rintro ⟨first, last⟩ i inside
    have below : address.toNat + i ≤ 0xFFFF := by omega
    refine ⟨below, contains_iff_covers.mpr ((h.covers_iff _).mpr ?_)⟩
    rw [UInt16.toNat_ofNat_of_lt' (Nat.lt_succ_of_le below)]
    omega
  · intro all
    have inside (i : Nat) (hi : i < bytes.length) :
        base.toNat ≤ address.toNat + i ∧ address.toNat + i < base.toNat + size := by
      obtain ⟨below, contained⟩ := all i hi
      rw [contains_iff_covers, h.covers_iff,
        UInt16.toNat_ofNat_of_lt' (Nat.lt_succ_of_le below)] at contained
      exact contained
    -- the first byte and the last one bound all others
    have first := inside 0 long
    have last := inside (bytes.length - 1) (Nat.sub_lt long Nat.one_pos)
    exact ⟨first.1, by omega⟩

/-- A load of bytes at an address does what writing them one after the other does, or nothing. -/
structure LoadsAsWritten (b : MemoryBlock) (address : UInt16) (bytes : List UInt8) : Prop where
  succeeds : (∃ b', b.load address bytes = .ok b') ↔
    bytes = [] ∨ ∀ i < bytes.length, address.toNat + i ≤ 0xFFFF ∧
      b.contains (UInt16.ofNat (address.toNat + i)) = true
  written : ∀ b', b.load address bytes = .ok b' → b.writeFrom address.toNat bytes = .ok b'
  /-- The error tells the size of the block, and names the first address if it is outside.  Otherwise it
  names that of the last byte, which is outside, or the last address there is if the bytes go past it. -/
  fails : ∀ e, b.load address bytes = .error e → e.size = b.size ∧
    (b.contains address = false ∧ e.address = address ∨
      b.contains address = true ∧ address.toNat + bytes.length ≤ 0x10000 ∧
        e.address.toNat = address.toNat + bytes.length - 1 ∧ b.contains e.address = false ∨
      b.contains address = true ∧ 0x10000 < address.toNat + bytes.length ∧ e.address = 0xFFFF)
  /-- Nothing has been stored, not even when the bytes are stored in place. -/
  unchanged : ∀ e, b.load address bytes = .error e →
    b.update (.load address bytes) = b ∧ (loadM address bytes).Does b (.error e) b []

/-- In a block that can be written and does not go past the last address, to load is to write. -/
theorem load_is_writing (writable : b.access = .plain) (top : b.base.toNat + b.size ≤ 0x10000)
    (address : UInt16) (bytes : List UInt8) : b.LoadsAsWritten address bytes := by
  have h : b.HasShape .plain b.base b.size := ⟨writable, rfl, rfl⟩
  have succeeds := h.attempt_eq_ok_iff (u := .load address bytes)
  refine ⟨succeeds.trans (h.load_fits_iff_contains top), ?_, ?_, ?_⟩
  · intro b' loaded
    have fits := succeeds.mp ⟨b', loaded⟩
    have performed : b.load address bytes = .ok _ := h.attempt_of_fits fits
    rw [performed] at loaded
    cases loaded
    cases bytes with
    | nil => rfl
    | cons value rest =>
      obtain ⟨first, last⟩ := fits.resolve_left (List.cons_ne_nil _ _)
      rw [h.writeFrom_eq top first last]
      exact congrArg Except.ok (h.store_eq_putBytes address (value :: rest)).symm
  · intro e failed
    rw [load_eq_error_iff] at failed
    rcases b.loadFault?_cases address bytes.length with
      ⟨-, found⟩ | ⟨some, outside, found⟩ | ⟨some, inside, long, found⟩
    · rw [found] at failed
      cases failed
    · rw [found] at failed
      cases failed
      refine ⟨rfl, .inl ⟨?_, rfl⟩⟩
      rw [← Bool.not_eq_true, contains_iff_covers]
      exact outside
    · rw [found] at failed
      cases failed
      have inside := contains_iff_covers.mpr inside
      refine ⟨rfl, .inr ?_⟩
      by_cases below : address.toNat + bytes.length ≤ 0x10000
      · have named : (UInt16.ofNat (min (address.toNat + bytes.length - 1) 0xFFFF)).toNat =
            address.toNat + bytes.length - 1 := by
          rw [UInt16.toNat_ofNat']
          omega
        refine .inl ⟨inside, below, named, ?_⟩
        rw [← Bool.not_eq_true, contains_iff_covers, Covers]
        show ¬ (_ ∧ (UInt16.ofNat (min (address.toNat + bytes.length - 1) 0xFFFF)).toNat < _)
        omega
      · have last : min (address.toNat + bytes.length - 1) 0xFFFF = 0xFFFF := by omega
        exact .inr ⟨inside, Nat.not_le.mp below, by rw [last]; rfl⟩
  · intro e failed
    exact (h.answers.fails (.load address bytes) e failed).2

/-- A block of eight bytes up to the last address.  Three bytes fit below the end, and then one does not:
the address to blame would be `10000`. -/
theorem load_is_writing_atTop :
    let b := (plain 8).placedAt 0xFFF8
    b.access = .plain ∧ b.base.toNat + b.size ≤ 0x10000 ∧
      (∃ b', b.load 0xFFFD [1, 2, 3] = .ok b' ∧ b.writeFrom 0xFFFD [1, 2, 3] = .ok b') ∧
      ∃ e, b.load 0xFFFE [1, 2, 3] = .error e ∧ e = ⟨0xFFFF, 8⟩ ∧
        b.update (.load 0xFFFE [1, 2, 3]) = b := by
  intro b
  have writable : b.access = .plain := rfl
  have top : b.base.toNat + b.size ≤ 0x10000 := by decide
  have fits := load_is_writing writable top 0xFFFD [1, 2, 3]
  have long := load_is_writing writable top 0xFFFE [1, 2, 3]
  obtain ⟨b', loaded⟩ := fits.succeeds.mpr (.inr (by decide))
  have failed : b.load 0xFFFE [1, 2, 3] = .error ⟨0xFFFF, 8⟩ := rfl
  exact ⟨writable, top, ⟨b', loaded, fits.written b' loaded⟩, _, failed, rfl, (long.unchanged _ failed).1⟩

end MemoryBlock

end Trainer6800
