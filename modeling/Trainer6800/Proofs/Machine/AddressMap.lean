import Trainer6800.Proofs.Memory.Cells

/-!
# The address map

Four things answer to the addresses of the trainer, and a write is not always for the one that is read.
Memory takes every byte below the monitor: those under the keypad, where it is never read, and those in
the display window, where the latch gets them as well.  The monitor takes none, and counts what it
refuses.  `Bus.Took` says this of one write, part by part and address by address; above all, no write
changes what another address reads.

`Bus.Shows` says of a bus what its addresses read after any writes to it: memory the byte that was
written there last (`lastWritten?`), the keypad its scan byte and the monitor its own byte, whatever was
written there.  It follows from the one write by induction (`Bus.writes_mapped`).
-/

namespace Trainer6800

open AddressSpace

/-! ## The last write -/

/-- The byte that was written to an address last, if one was. -/
def lastWritten? (bytes : List (UInt16 × UInt8)) (address : UInt16) : Option UInt8 :=
  bytes.reverse.lookup address

/-- The first of the writes counts as what was there before the others. -/
theorem getD_lastWritten?_cons (w : UInt16 × UInt8) (bytes : List (UInt16 × UInt8))
    (address : UInt16) (old : UInt8) :
    (lastWritten? (w :: bytes) address).getD old =
      (lastWritten? bytes address).getD (if address = w.1 then w.2 else old) := by
  have first : [w].lookup address = if address = w.1 then some w.2 else none := by
    rw [List.lookup_cons]
    by_cases here : address = w.1
    · rw [if_pos here, here, beq_self_eq_true]
    · rw [if_neg here, beq_false_of_ne here]
      rfl
  rw [lastWritten?, List.reverse_cons, List.lookup_append, first, ← lastWritten?]
  cases lastWritten? bytes address with
  | some value => rfl
  | none =>
    rw [Option.none_or, Option.getD_none]
    split
    · rfl
    · rfl

namespace Bus

/-! ## One write -/

/-- The second bus is the first one after a byte has been written to an address. -/
structure Took (b : Bus) (address : UInt16) (value : UInt8) (b' : Bus) : Prop where
  /-- Memory stores what is written below the monitor. -/
  ram : b'.ram = if address < 0xFC00 then
      { b.ram with content := b.ram.content.setIfInBounds address.toNat value }
    else b.ram
  /-- The monitor counts what is written to it. -/
  rom : b'.rom = if 0xFC00 ≤ address then
      { b.rom with rejectedWrites := b.rom.rejectedWrites + 1 }
    else b.rom
  /-- The low byte of an address in the display window selects a segment. -/
  display : b'.display = if 0xC100 ≤ address ∧ address ≤ 0xC1FF then
      b.display.write (lowByte address) value
    else b.display
  keypad : b'.keypad = b.keypad
  fault : b'.fault = b.fault
  elsewhere : ∀ other, other ≠ address → b'.read other = b.read other

namespace Fitted

variable {b : Bus} {address : UInt16}

/-- Memory begins at address zero, so the address is the place of the byte. -/
theorem ram_store (h : b.Fitted) (address : UInt16) (value : UInt8) :
    b.ram.store address [value] =
      { b.ram with content := b.ram.content.setIfInBounds address.toNat value } := by
  have place : b.ram.index address = address.toNat := by
    rw [MemoryBlock.index, h.ram.base]
    rfl
  rw [h.ram.store_eq, place]

theorem took (h : b.Fitted) (address : UInt16) (value : UInt8) :
    b.Took address value (b.write address value) := by
  by_cases below : address < 0xFC00
  · have notAbove : ¬ 0xFC00 ≤ address := UInt16.not_le.mpr below
    obtain ⟨journal, written⟩ := h.write_memory below value
    refine ⟨?_, ?_, ?_, ?_, ?_, fun other apart => h.read_write_of_ne below value apart⟩
    · rw [written, if_pos below, h.ram_store]
    · rw [written, if_neg notAbove]
    · rw [written]
      simp only [inDisplayWindow, Bool.and_eq_true, decide_eq_true_eq]
    · rw [written]
    · rw [written]
  · have above : 0xFC00 ≤ address := UInt16.not_lt.mp below
    have notShown : ¬ (0xC100 ≤ address ∧ address ≤ 0xC1FF) := by
      rintro ⟨-, last⟩
      exact absurd (UInt16.le_trans above last) (by decide)
    obtain ⟨journal, written⟩ := h.write_above above value
    rw [written]
    refine ⟨?_, ?_, ?_, rfl, rfl, fun other apart => rfl⟩
    · rw [if_neg below]
    · rw [if_pos above]
      rfl
    · rw [if_neg notShown]

/-- A write to any address, as memory shows it. -/
theorem read_write (h : b.Fitted) (cell : IsCell address) (w : UInt16 × UInt8) :
    (b.write w.1 w.2).read address = if address = w.1 then w.2 else b.read address := by
  by_cases here : address = w.1
  · rw [if_pos here]
    subst here
    exact storage.read_self h cell w.2
  · rw [if_neg here]
    exact (h.took w.1 w.2).elsewhere address here

/-- A write to any address, as memory keeps it. -/
theorem stored_write (h : b.Fitted) (below : address < romBase) (w : UInt16 × UInt8) :
    (b.write w.1 w.2).ram.content.getD address.toNat 0 =
      if address = w.1 then w.2 else b.ram.content.getD address.toNat 0 := by
  rw [(h.took w.1 w.2).ram]
  by_cases here : address = w.1
  · subst here
    have place : w.1.toNat < b.ram.content.size := by
      rw [h.ram.size]
      exact UInt16.lt_iff_toNat_lt.mp below
    rw [if_pos (show w.1 < 0xFC00 from below), if_pos rfl, Array.getD_eq_getD_getElem?,
      Array.getElem?_setIfInBounds_self_of_lt place, Option.getD_some]
  · have apart : w.1.toNat ≠ address.toNat := fun same => here (UInt16.toNat_inj.mp same).symm
    rw [if_neg here]
    split
    · rw [Array.getD_eq_getD_getElem?, Array.getElem?_setIfInBounds_ne apart,
        Array.getD_eq_getD_getElem?]
    · rfl

end Fitted

/-! ## Any number of writes -/

/-- The second bus is the first one after some bytes have been written to it. -/
structure Shows (b : Bus) (bytes : List (UInt16 × UInt8)) (b' : Bus) : Prop where
  /-- Memory shows what was written last. -/
  memory : ∀ address < 0xFC00, ¬ (0xC000 ≤ address ∧ address ≤ 0xC0FF) →
    b'.read address = (lastWritten? bytes address).getD (b.read address)
  /-- The keypad shows the keys, whatever was written over them. -/
  keys : ∀ address, 0xC000 ≤ address → address ≤ 0xC0FF →
    b'.read address = b.keypad.scan (lowByte address &&& 7)
  /-- The monitor shows its bytes, whatever was written over them. -/
  monitor : ∀ address, 0xFC00 ≤ address →
    b'.read address = b.rom.content.getD (address.toNat - 0xFC00) 0
  /-- Memory also keeps what was written last under the keypad, where it does not show. -/
  stored : ∀ address < 0xFC00, b'.ram.content.getD address.toNat 0 =
    (lastWritten? bytes address).getD (b.ram.content.getD address.toNat 0)
  rejected : b'.rom.rejectedWrites =
    b.rom.rejectedWrites + bytes.countP fun w => 0xFC00 ≤ w.1
  display : b'.display =
    (bytes.filter fun w => 0xC100 ≤ w.1 && w.1 ≤ 0xC1FF).foldl
      (fun l w => l.write (lowByte w.1) w.2) b.display
  keypad : b'.keypad = b.keypad
  fault : b'.fault = b.fault

variable {b : Bus}

/-- Whatever a write does to its own address, it does nothing to the others. -/
theorem separate : Separate Fitted where
  kept := fun h address value => h.write_any address value
  elsewhere := fun {_} h {address other} apart value => (h.took address value).elsewhere other apart

/-- What comes first is the base of what comes after it: each part of the bus takes the first write, and
shows it unless a later write does. -/
theorem Fitted.shows (h : b.Fitted) (bytes : List (UInt16 × UInt8)) :
    b.Shows bytes (writeBytes b bytes) := by
  induction bytes generalizing b with
  | nil =>
    exact {
      memory := fun address below noKeys => rfl
      keys := fun address first last => read_keypad (by simp [inKeypadWindow, first, last])
      monitor := fun address above => h.read_monitor above
      stored := fun address below => rfl
      rejected := rfl
      display := rfl
      keypad := rfl
      fault := rfl }
  | cons w rest ih =>
    have took := h.took w.1 w.2
    have later := ih (h.write_any w.1 w.2)
    exact {
      memory := fun address below noKeys => by
        have cell : IsCell address := ⟨below, by simpa [inKeypadWindow] using noKeys⟩
        rw [getD_lastWritten?_cons, ← h.read_write cell w]
        exact later.memory address below noKeys
      keys := fun address first last => by
        rw [← took.keypad]
        exact later.keys address first last
      monitor := fun address above => by
        have same : (b.write w.1 w.2).rom.content = b.rom.content := by
          rw [took.rom]
          split
          · rfl
          · rfl
        rw [← same]
        exact later.monitor address above
      stored := fun address below => by
        rw [getD_lastWritten?_cons, ← h.stored_write below w]
        exact later.stored address below
      rejected := by
        have first : (b.write w.1 w.2).rom.rejectedWrites =
            b.rom.rejectedWrites + if 0xFC00 ≤ w.1 then 1 else 0 := by
          rw [took.rom]
          split
          · rfl
          · rfl
        rw [List.countP_cons, Nat.add_comm _ (ite _ _ _), ← Nat.add_assoc]
        simp only [decide_eq_true_eq]
        rw [← first]
        exact later.rejected
      display := by
        rw [List.filter_cons]
        by_cases shown : 0xC100 ≤ w.1 ∧ w.1 ≤ 0xC1FF
        · have first := took.display
          rw [if_pos shown] at first
          rw [if_pos (by simpa using shown), List.foldl_cons, ← first]
          exact later.display
        · have first := took.display
          rw [if_neg shown] at first
          rw [if_neg (by simpa using shown), ← first]
          exact later.display
      keypad := later.keypad.trans took.keypad
      fault := later.fault.trans took.fault }

/-- Writes have the effect the address map gives them, on a trainer's bus: this is what every address
reads after any of them, and what one more of them does. -/
theorem writes_mapped (fitted : b.Fitted) (bytes : List (UInt16 × UInt8)) :
    b.Shows bytes (writeBytes b bytes) ∧
      ∀ address value, (writeBytes b bytes).Took address value
        ((writeBytes b bytes).write address value) :=
  ⟨fitted.shows bytes, (separate.writeBytes fitted bytes).1.took⟩

/-- One write to each kind of address, and a second one to the first of them. -/
theorem writes_mapped_each_kind :
    let b := ofMonitor [0x7E] {}
    let b' := writeBytes b [(0x0000, 1), (0xC006, 2), (0xC166, 3), (0xFC00, 4), (0x0000, 5)]
    b.Fitted ∧ b'.read 0x0000 = 5 ∧ b'.read 0xC006 = b.keypad.scan 6 ∧ b'.read 0xC166 = 3 ∧
      b'.read 0xFC00 = b.read 0xFC00 ∧ b'.ram.content.getD (0xC006 : UInt16).toNat 0 = 2 ∧
      b'.rom.rejectedWrites = b.rom.rejectedWrites + 1 ∧
      b'.display = b.display.write 0x66 3 ∧ (b'.write 0xC166 6).read 0x0000 = 5 := by
  intro b b'
  have fitted : b.Fitted := fitted_ofMonitor [0x7E] {}
  obtain ⟨shows, took⟩ := writes_mapped fitted
    [(0x0000, 1), (0xC006, 2), (0xC166, 3), (0xFC00, 4), (0x0000, 5)]
  have zero : b'.read 0x0000 = 5 := shows.memory 0x0000 (by decide) (by decide)
  have scanned := shows.keys 0xC006 (by decide) (by decide)
  have hidden : b'.ram.content.getD (0xC006 : UInt16).toNat 0 = 2 := by
    rw [shows.stored 0xC006 (by decide)]
    exact Option.getD_some
  have refused : b'.rom.rejectedWrites = b.rom.rejectedWrites + 1 := by
    rw [shows.rejected]
    exact congrArg (b.rom.rejectedWrites + ·) (by decide)
  have same := (shows.monitor 0xFC00 (by decide)).trans (fitted.read_monitor (by decide)).symm
  have memory : b'.read 0xC166 = 3 := shows.memory 0xC166 (by decide) (by decide)
  exact ⟨fitted, zero, scanned, memory, same, hidden, refused, shows.display,
    ((took 0xC166 6).elsewhere 0x0000 (by decide)).trans zero⟩

end Bus

end Trainer6800
