import Trainer6800.InPlace.Listing
import Trainer6800.Proofs.InPlace.Tracks

/-!
# Address spaces in place

What it takes for a memory in place to be followed: its reads give what the memory as a value gives, its
writes lead to what it becomes, and what is logged meanwhile is noted in the value.  Then words are read
and written alike, and instructions are listed alike.
-/

namespace Trainer6800

open Acting AddressSpace AddressSpaceM
open Log (Record)

variable {M : Type} {R : M → M → List Record → Prop} {note : M → List Record → M}

/-- A memory in place does what the memory as a value does, and `note` is what becomes of the value when
something is logged. -/
structure MemoryFollows [AddressSpace M] [AddressSpaceM M] (R : M → M → List Record → Prop)
    (note : M → List Record → M) : Prop where
  reads : ∀ address, Tracks R (readM address) fun m => (read m address, m)
  writes : ∀ address value, Tracks R (writeM address value) fun m => ((), write m address value)
  notes : ∀ {m w : M} {before : List Record} (records : List Record), R m w before →
    R (note m records) w (before ++ records)

namespace MemoryFollows

variable [AddressSpace M] [AddressSpaceM M]

theorem readWord (h : MemoryFollows R note) (address : UInt16) :
    Tracks R (readWordM address) fun m => (AddressSpace.readWord m address, m) :=
  fun m w before follows =>
    .bind (h.reads address m w before follows) fun w before follows =>
      .bind (h.reads (address + 1) m w before follows) fun _ _ follows => .pure follows

theorem writeWord (h : MemoryFollows R note) (address value : UInt16) :
    Tracks R (writeWordM address value) fun m => ((), AddressSpace.writeWord m address value) :=
  fun m w before follows =>
    .bind (h.writes address (highByte value) m w before follows)
      (h.writes (address + 1) (lowByte value) _)

theorem operandText (h : MemoryFollows R note) (address : UInt16) (mode : AddressingMode) :
    Tracks R (ListingLine.operandTextM address mode) fun m =>
      (ListingLine.operandText m address mode, m) := by
  intro m w before follows
  cases mode with
  | inherent => exact .pure follows
  | immediate | direct | indexed | relative =>
    exact .bind (h.reads _ m w before follows) fun _ _ follows => .pure follows
  | immediateWord | extended =>
    exact .bind (h.readWord _ m w before follows) fun _ _ follows => .pure follows

theorem ofAddress (h : MemoryFollows R note) (address : UInt16) :
    Tracks R (ListingLine.ofAddressM address) fun m => (ListingLine.ofAddress m address, m) := by
  intro m w before follows
  refine .bind (h.reads address m w before follows) fun w before follows => ?_
  dsimp only [ListingLine.ofAddress] at follows ⊢
  cases decode (read m address) with
  | none => exact .pure follows
  | some i =>
    exact .bind (h.operandText address i.mode m w before follows) fun _ _ follows => .pure follows

end MemoryFollows

namespace FlatMemory

theorem does_readM (m : FlatMemory) (address : UInt16) :
    (readM address).Does m (m.read address) m [] :=
  .quiet (.get m) (.pure _ m)

/-- Flat memory in place is the memory as a value, and it logs nothing. -/
theorem memoryFollows : MemoryFollows (fun m w _ => w = m) fun (m : FlatMemory) _ => m where
  reads address m w before same := by
    subst same
    exact .of_quiet (w.does_readM address) rfl
  writes address value m w before same := by
    subst same
    exact .of_quiet (.modify _ w) rfl
  notes _ same := same

end FlatMemory

end Trainer6800
