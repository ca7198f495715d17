import Trainer6800.Machine.Bus
import Trainer6800.Memory.Flat
import Trainer6800.Proofs.Memory.Shape

/-!
# Cells

Not every address of an address space is a cell of memory, one that reads what was last written there:
an address may belong to a keypad, or to a block that refuses writes.  `AddressSpace.Storage` says which
addresses of which spaces are cells.  A byte written to a cell is read back from there and changes what
is read at no other address, and after any writes to cells they are still cells.

On flat memory every address is a cell (`FlatMemory.storage`); on the trainer's bus those addresses are
that lie in memory and not under the keypad (`Bus.storage`).  What a program does to cells follows from
the two laws alone, so whatever is shown of cells holds of both.
-/

namespace Trainer6800

namespace AddressSpace

variable {M : Type} [AddressSpace M]

/-- The space after bytes have been written, one after the other. -/
def writeBytes (m : M) (bytes : List (UInt16 × UInt8)) : M :=
  bytes.foldl (fun m w => write m w.1 w.2) m

@[simp] theorem writeBytes_nil (m : M) : writeBytes m [] = m :=
  rfl

@[simp] theorem writeBytes_cons (m : M) (address : UInt16) (value : UInt8)
    (bytes : List (UInt16 × UInt8)) :
    writeBytes m ((address, value) :: bytes) = writeBytes (write m address value) bytes :=
  rfl

/-- In a space with the property `P`, the addresses of `cell` are cells of memory. -/
structure Storage (P : M → Prop) (cell : UInt16 → Prop) : Prop where
  kept : ∀ {m address}, P m → cell address → ∀ value, P (write m address value)
  read_self : ∀ {m address}, P m → cell address → ∀ value,
    read (write m address value) address = value
  read_other : ∀ {m address}, P m → cell address → ∀ value {other}, other ≠ address →
    read (write m address value) other = read m other

namespace Storage

variable {P : M → Prop} {cell : UInt16 → Prop} {m : M} {bytes : List (UInt16 × UInt8)}

/-- Where nothing was written, nothing has changed. -/
theorem read_writeBytes_of_notMem (hS : Storage P cell) (h : P m)
    (cells : ∀ w ∈ bytes, cell w.1) {address : UInt16} (apart : address ∉ bytes.map Prod.fst) :
    read (writeBytes m bytes) address = read m address := by
  induction bytes generalizing m with
  | nil => rfl
  | cons w rest ih =>
    rw [List.map_cons, List.mem_cons, not_or] at apart
    have inside := cells w List.mem_cons_self
    have first := hS.read_other h inside w.2 apart.1
    have later := ih (hS.kept h inside w.2) (fun w' hw => cells w' (List.mem_cons_of_mem _ hw)) apart.2
    exact later.trans first

theorem kept_writeBytes (hS : Storage P cell) (h : P m) (cells : ∀ w ∈ bytes, cell w.1) :
    P (writeBytes m bytes) := by
  induction bytes generalizing m with
  | nil => exact h
  | cons w rest ih =>
    rw [List.forall_mem_cons] at cells
    exact ih (hS.kept h cells.1 w.2) cells.2

/-- If no address is written twice, every byte can be read where it was written. -/
theorem read_writeBytes_of_mem (hS : Storage P cell) (h : P m) (cells : ∀ w ∈ bytes, cell w.1)
    (once : (bytes.map Prod.fst).Nodup) {address : UInt16} {value : UInt8}
    (written : (address, value) ∈ bytes) : read (writeBytes m bytes) address = value := by
  induction bytes generalizing m with
  | nil => cases written
  | cons w rest ih =>
    rw [List.map_cons, List.nodup_cons] at once
    have inside := cells w List.mem_cons_self
    have kept := hS.kept h inside w.2
    have cells' : ∀ w' ∈ rest, cell w'.1 := fun w' hw => cells w' (List.mem_cons_of_mem _ hw)
    rcases List.mem_cons.mp written with rfl | later
    -- nothing is written there any more, so the byte stays
    · exact (hS.read_writeBytes_of_notMem kept cells' once.1).trans (hS.read_self h inside value)
    · exact ih kept cells' once.2 later

end Storage

/-- In a space with the property `P`, a write changes what is read at no other address, whatever becomes
of its own. -/
structure Separate (P : M → Prop) : Prop where
  kept : ∀ {m}, P m → ∀ address value, P (write m address value)
  elsewhere : ∀ {m}, P m → ∀ {address other}, other ≠ address → ∀ value,
    read (write m address value) other = read m other

/-- Where nothing was written, nothing has changed, be the other addresses cells or not. -/
theorem Separate.writeBytes {P : M → Prop} (hS : Separate P) {m : M} (h : P m)
    (bytes : List (UInt16 × UInt8)) :
    P (writeBytes m bytes) ∧ ∀ address ∉ bytes.map Prod.fst,
      read (AddressSpace.writeBytes m bytes) address = read m address := by
  induction bytes generalizing m with
  | nil => exact ⟨h, fun _ _ => rfl⟩
  | cons w rest ih =>
    obtain ⟨kept, same⟩ := ih (hS.kept h w.1 w.2)
    refine ⟨kept, fun address apart => ?_⟩
    rw [List.map_cons, List.mem_cons, not_or] at apart
    exact (same address apart.2).trans (hS.elsewhere h apart.1 w.2)

end AddressSpace

open AddressSpace

/-- Memory holds bytes one behind the other, from an address on. -/
def HoldsBytes {M : Type} [AddressSpace M] (m : M) : UInt16 → List UInt8 → Prop
  | _, [] => True
  | address, b :: bytes => read m address = b ∧ HoldsBytes m (address + 1) bytes

/-- What is written beside the bytes leaves them where they are. -/
theorem HoldsBytes.write {M : Type} [AddressSpace M] {P : M → Prop} {cell : UInt16 → Prop}
    (hS : Storage P cell) {m : M} (h : P m) {address first : UInt16} (inside : cell address)
    (value : UInt8) {bytes : List UInt8} (holds : HoldsBytes m first bytes)
    (apart : ∀ i < bytes.length, first + UInt16.ofNat i ≠ address) :
    HoldsBytes (AddressSpace.write m address value) first bytes := by
  induction bytes generalizing first with
  | nil => trivial
  | cons b rest ih =>
    obtain ⟨here, behind⟩ := holds
    have beside : first ≠ address := by
      have start := apart 0 (Nat.zero_lt_succ _)
      rwa [show UInt16.ofNat 0 = 0 from rfl, UInt16.add_zero] at start
    refine ⟨(hS.read_other h inside value beside).trans here, ih behind fun i below => ?_⟩
    have later := apart (i + 1) (Nat.succ_lt_succ below)
    rwa [Nat.add_comm i 1, UInt16.ofNat_add, ← UInt16.add_assoc] at later

/-! ## Flat memory -/

/-- All of a flat memory is cells. -/
theorem FlatMemory.storage : Storage (fun _ : FlatMemory => True) fun _ => True where
  kept := fun _ _ _ => trivial
  read_self := fun {m address} _ _ value => m.read_write_self address value
  read_other := fun {m _} _ _ value _ apart => m.read_write_of_ne value apart.symm

theorem FlatMemory.separate : Separate fun _ : FlatMemory => True where
  kept := fun _ _ _ => trivial
  elsewhere := fun {m} _ {_ _} apart value => m.read_write_of_ne value apart.symm

theorem FlatMemory.read_filled (value : UInt8) (address : UInt16) :
    AddressSpace.read (filled value) address = value := by
  show (filled value).read address = value
  simp [read, filled]

/-! ## Blocks -/

namespace MemoryBlock

variable {b : MemoryBlock} {base : UInt16} {size : Nat} {address : UInt16}

/-- A byte stored in a block replaces the one at its place. -/
theorem HasShape.store_eq (h : b.HasShape .plain base size) (address : UInt16) (value : UInt8) :
    b.store address [value] =
      { b with content := b.content.setIfInBounds (b.index address) value } :=
  h.store_eq_putBytes address [value]

theorem HasShape.fetch_store_self (h : b.HasShape .plain base size) (inside : b.contains address)
    (value : UInt8) : (b.store address [value]).fetch address = value := by
  have start := ((h.contains_iff address).mp inside).1
  rw [h.fetch_store start [value] (contains_iff_covers.mp inside), if_pos (Nat.le_refl _),
    Nat.sub_self]
  rfl

theorem HasShape.fetch_store_of_ne (h : b.HasShape .plain base size) (inside : b.contains address)
    (value : UInt8) {other : UInt16} (inside' : b.contains other) (apart : other ≠ address) :
    (b.store address [value]).fetch other = b.fetch other := by
  have start := ((h.contains_iff address).mp inside).1
  have apart' : other.toNat ≠ address.toNat := fun e => apart (UInt16.toNat_inj.mp e)
  rw [h.fetch_store start [value] (contains_iff_covers.mp inside')]
  split
  · rw [List.getElem?_eq_none (by rw [List.length_singleton]; omega), Option.getD_none]
  · rfl

end MemoryBlock

/-! ## The bus -/

namespace Bus

/-- Bytes are for memory, the display and the monitor. -/
theorem deliver_keeps (b : Bus) (address : UInt16) (value : UInt8) :
    (b.deliver address value).keypad = b.keypad ∧ (b.deliver address value).fault = b.fault := by
  unfold deliver
  split
  · exact ⟨rfl, rfl⟩
  · split
    · exact ⟨rfl, rfl⟩
    · exact ⟨rfl, rfl⟩

/-- The monitor has its place.  Memory may be any block. -/
def Monitored (b : Bus) : Prop :=
  b.rom.HasShape .readOnly romBase romSize

namespace Monitored

variable {b : Bus} {address : UInt16}

theorem contains_iff (h : b.Monitored) (address : UInt16) :
    b.rom.contains address = true ↔ romBase ≤ address := by
  have last := address.toNat_lt
  have bottom : romBase.toNat = 0xFC00 := rfl
  rw [MemoryBlock.HasShape.contains_iff h, UInt16.le_iff_toNat_le, bottom, romSize]
  omega

/-- The addresses of the monitor read its bytes, even if memory has bytes for them as well. -/
theorem readChecked (h : b.Monitored) (above : romBase ≤ address) :
    b.readChecked address = .ok (b.rom.content.getD (address.toNat - 0xFC00) 0) := by
  have inRom := (h.contains_iff address).mpr above
  have noKeys : ¬ inKeypadWindow address = true := by
    intro keys
    have last := of_decide_eq_true (Bool.and_eq_true_iff.mp keys).2
    exact absurd (UInt16.le_trans above last) (by decide)
  rw [Bus.readChecked, if_neg noKeys, if_pos inRom, MemoryBlock.read, if_pos inRom]
  show Except.ok (b.rom.content.getD (address.toNat - b.rom.base.toNat) 0) = _
  rw [MemoryBlock.HasShape.base h]
  rfl

end Monitored

/-- The two blocks are the memory and the monitor of a trainer. -/
structure Fitted (b : Bus) : Prop where
  ram : b.ram.HasShape .plain 0 ramSize
  rom : b.rom.HasShape .readOnly romBase romSize

theorem fitted_ofMonitor (image : List UInt8) (keypad : Keypad) : (ofMonitor image keypad).Fitted where
  ram := MemoryBlock.hasShape_plain ramSize
  rom := MemoryBlock.hasShape_readOnly romSize image romBase

/-- The address lies in memory, and the keypad does not hide it. -/
def IsCell (address : UInt16) : Prop :=
  address < romBase ∧ inKeypadWindow address = false

theorem read_keypad {b : Bus} {address : UInt16} (keys : inKeypadWindow address) :
    b.read address = b.keypad.scan (lowByte address &&& 7) := by
  rw [Bus.read, readChecked, if_pos keys]

namespace Fitted

variable {b : Bus} {address : UInt16}

theorem rom_contains_iff (h : b.Fitted) (address : UInt16) :
    b.rom.contains address = true ↔ romBase ≤ address :=
  Monitored.contains_iff h.rom address

theorem ram_contains_iff (h : b.Fitted) (address : UInt16) :
    b.ram.contains address = true ↔ address < romBase := by
  have bottom : romBase.toNat = 0xFC00 := rfl
  rw [h.ram.contains_iff, UInt16.lt_iff_toNat_lt, bottom, ramSize]
  show 0 ≤ address.toNat ∧ address.toNat - 0 < 0xFC00 ↔ _
  omega

/-- Below the monitor a write goes into memory, and in the display window to the latch as well. -/
theorem write_memory (h : b.Fitted) (below : address < romBase) (value : UInt8) :
    ∃ journal, b.write address value =
      { b with
        ram := b.ram.store address [value]
        display := if inDisplayWindow address then b.display.write (lowByte address) value
          else b.display
        journal } := by
  have inRam := (h.ram_contains_iff address).mpr below
  have notInRom : ¬ b.rom.contains address = true := by
    rw [h.rom_contains_iff]
    exact UInt16.not_le.mpr below
  have takes : b.takes address = true := by
    rw [Bus.takes, inRam, Bool.or_true]
  rw [Bus.write, if_pos takes, deliver, if_neg notInRom]
  split
  · exact ⟨_, rfl⟩
  · exact ⟨_, rfl⟩

/-- Of the display it is often enough that a write may change it. -/
theorem write_below (h : b.Fitted) (below : address < romBase) (value : UInt8) :
    ∃ display journal, b.write address value =
      { b with ram := b.ram.store address [value], display, journal } :=
  ⟨_, h.write_memory below value⟩

theorem write (h : b.Fitted) (below : address < romBase) (value : UInt8) :
    (b.write address value).Fitted := by
  obtain ⟨display, journal, written⟩ := h.write_below below value
  rw [written]
  exact ⟨h.ram.store address [value], h.rom⟩

/-- What is written to the monitor is refused, and leaves a report. -/
theorem write_above (h : b.Fitted) (above : romBase ≤ address) (value : UInt8) :
    ∃ journal, b.write address value = { b with rom := b.rom.reject, journal } := by
  have inRom := (h.rom_contains_iff address).mpr above
  have takes : b.takes address = true := by
    rw [Bus.takes, inRom, Bool.true_or]
  have refuses : b.rom.store address [value] = b.rom.reject := by
    rw [MemoryBlock.store, h.rom.access]
  rw [Bus.write, if_pos takes, deliver, if_pos inRom, refuses]
  exact ⟨_, rfl⟩

/-- A trainer's bus is one after any write. -/
theorem write_any (h : b.Fitted) (address : UInt16) (value : UInt8) :
    (b.write address value).Fitted := by
  by_cases below : address < romBase
  · exact h.write below value
  · obtain ⟨journal, written⟩ := h.write_above (UInt16.not_lt.mp below) value
    rw [written]
    exact ⟨h.ram, { h.rom with }⟩

theorem read_below (h : b.Fitted) (cell : IsCell address) : b.read address = b.ram.fetch address := by
  have inRam := (h.ram_contains_iff address).mpr cell.1
  have notInRom : ¬ b.rom.contains address = true := by
    rw [h.rom_contains_iff]
    exact UInt16.not_le.mpr cell.1
  rw [Bus.read, readChecked, cell.2, if_neg Bool.false_ne_true, if_neg notInRom, MemoryBlock.read,
    if_pos inRam]

/-- The addresses of the monitor read its bytes. -/
theorem read_monitor (h : b.Fitted) (above : romBase ≤ address) :
    b.read address = b.rom.content.getD (address.toNat - 0xFC00) 0 := by
  rw [Bus.read, Monitored.readChecked h.rom above]

/-- A byte in memory is read nowhere but at its own address. -/
theorem read_write_of_ne (h : b.Fitted) (below : address < romBase) (value : UInt8) {other : UInt16}
    (apart : other ≠ address) : (b.write address value).read other = b.read other := by
  by_cases cell : IsCell other
  · rw [(h.write below value).read_below cell, h.read_below cell]
    obtain ⟨display, journal, written⟩ := h.write_below below value
    rw [written]
    exact h.ram.fetch_store_of_ne ((h.ram_contains_iff address).mpr below) value
      ((h.ram_contains_iff other).mpr cell.1) apart
  -- what is no cell is answered by the keypad or the monitor, and neither has changed
  · obtain ⟨display, journal, written⟩ := h.write_below below value
    rw [written]
    unfold Bus.read readChecked
    by_cases keys : inKeypadWindow other = true
    · rw [if_pos keys, if_pos keys]
    · have inRom : b.rom.contains other = true := by
        rw [h.rom_contains_iff]
        refine UInt16.not_lt.mp fun below => cell ⟨below, ?_⟩
        simpa using keys
      rw [if_neg keys, if_neg keys]
      simp only [inRom, if_true]

end Fitted

/-- A trainer's bus has cells wherever its memory is not hidden. -/
theorem storage : Storage Fitted IsCell where
  kept := fun h cell value => h.write cell.1 value
  read_self := by
    intro b address h cell value
    have after : (b.write address value).Fitted := h.write cell.1 value
    show (b.write address value).read address = value
    rw [after.read_below cell]
    obtain ⟨display, journal, written⟩ := h.write_below cell.1 value
    rw [written]
    exact h.ram.fetch_store_self ((h.ram_contains_iff address).mpr cell.1) value
  read_other := fun h cell value _ apart => h.read_write_of_ne cell.1 value apart

end Bus

end Trainer6800
