import Trainer6800.Proofs.InPlace.Bus

/-!
# Addresses that nothing answers to

A trainer's memory fills the addresses below the monitor.  A bus with another block for memory, of any
size and at any base, may have addresses there that belong to nothing, and its memory may run under the
keypad, under the monitor, or past the last address.

An access fails at just the addresses that belong to nothing (`Bus.Monitored.takes_eq_false_iff`).  A
write that fails has no effect but that its error is remembered, not even on the display when the address
lies in its window (`Bus.write_failed`), so after any accesses the fault is the error of the last write
that failed (`Bus.fault_accessAll`).  What the checked interface reports and what the processor sees are
the same in all cases (`Bus.failures_harmless`).
-/

namespace Trainer6800

/-- One use of a bus by the processor. -/
inductive BusAccess where
  | read (address : UInt16)
  | write (address : UInt16) (value : UInt8)
  deriving DecidableEq, Repr

namespace Bus

variable {b : Bus} {address : UInt16} {value : UInt8}

/-! ## Where an access fails -/

/-- The address belongs neither to the monitor nor to memory. -/
theorem Monitored.takes_eq_false_iff (h : b.Monitored) :
    b.takes address = false ↔ address < 0xFC00 ∧ ¬ b.ram.Covers address := by
  rw [takes, Bool.or_eq_false_iff, ← Bool.not_eq_true, ← Bool.not_eq_true, h.contains_iff,
    UInt16.not_le, MemoryBlock.contains_iff_covers]
  rfl

theorem writeChecked_eq_error_iff {e : OutOfRange} :
    b.writeChecked address value = .error e ↔
      b.takes address = false ∧ e = b.ram.outOfRange address := by
  unfold writeChecked
  cases b.takes address with
  | false => simp [eq_comm]
  | true => simp

/-- The keypad answers before anything else does. -/
theorem readChecked_eq_error_iff {e : OutOfRange} :
    b.readChecked address = .error e ↔
      inKeypadWindow address = false ∧ b.takes address = false ∧ e = b.ram.outOfRange address := by
  unfold readChecked takes MemoryBlock.read
  cases inKeypadWindow address with
  | true => simp
  | false =>
    cases b.rom.contains address with
    | true => simp
    | false =>
      cases b.ram.contains address with
      | true => simp
      | false => simp [eq_comm]

/-! ## One access -/

/-- A write that fails leaves its error, and a report. -/
theorem write_failed (fails : b.takes address = false) (value : UInt8) :
    ∃ journal, b.write address value =
      { b with fault := some (b.ram.outOfRange address), journal } := by
  rw [write, fails]
  exact ⟨_, rfl⟩

/-- A write that succeeds is the same through both interfaces. -/
theorem write_of_writeChecked {b' : Bus} (written : b.writeChecked address value = .ok b') :
    b.write address value = b' := by
  unfold writeChecked at written
  split at written
  · rename_i takes
    cases written
    rw [write, if_pos takes]
  · cases written

theorem fault_of_writeChecked {b' : Bus} (written : b.writeChecked address value = .ok b') :
    b'.fault = b.fault := by
  unfold writeChecked at written
  split at written
  · cases written
    exact (b.deliver_keeps address value).2
  · cases written

theorem Monitored.write (h : b.Monitored) (address : UInt16) (value : UInt8) :
    (b.write address value).Monitored := by
  unfold Bus.write deliver
  split
  · split
    · exact MemoryBlock.HasShape.store h address [value]
    · split
      · exact h
      · exact h
  · exact h

/-! ## Any number of accesses -/

/-- The bus after an access.  A read that fails leaves a report. -/
def access (b : Bus) : BusAccess → Bus
  | .read address => b.report (b.readRecords address)
  | .write address value => b.write address value

/-- The bus after some accesses. -/
def accessAll (b : Bus) (accesses : List BusAccess) : Bus :=
  accesses.foldl access b

/-- The error of an access, if it is a write that fails. -/
def failure? (b : Bus) : BusAccess → Option OutOfRange
  | .read _ => none
  | .write address value =>
    match b.writeChecked address value with
    | .ok _ => none
    | .error e => some e

/-- The errors of the writes that fail in the course of some accesses. -/
def failures (b : Bus) : List BusAccess → List OutOfRange
  | [] => []
  | a :: later => (b.failure? a).toList ++ (b.access a).failures later

theorem Monitored.access (h : b.Monitored) (a : BusAccess) : (b.access a).Monitored := by
  cases a with
  | read address => exact h
  | write address value => exact h.write address value

theorem Monitored.accessAll (h : b.Monitored) (accesses : List BusAccess) :
    (b.accessAll accesses).Monitored := by
  induction accesses generalizing b with
  | nil => exact h
  | cons a later ih => exact ih (h.access a)

theorem fault_access (b : Bus) (a : BusAccess) :
    (b.access a).fault = (b.failure? a).or b.fault := by
  cases a with
  | read address => rfl
  | write address value =>
    show (b.write address value).fault = _
    cases written : b.writeChecked address value with
    | ok b' =>
      simp only [failure?, written, Option.none_or]
      rw [write_of_writeChecked written, fault_of_writeChecked written]
    | error e =>
      simp only [failure?, written, Option.some_or]
      obtain ⟨fails, rfl⟩ := writeChecked_eq_error_iff.mp written
      obtain ⟨journal, left⟩ := write_failed fails value
      rw [left]

/-- Each failure takes the place of the one before it. -/
theorem fault_accessAll (b : Bus) (accesses : List BusAccess) :
    (b.accessAll accesses).fault = (b.failures accesses).getLast?.or b.fault := by
  induction accesses generalizing b with
  | nil => rfl
  | cons a later ih =>
    have last : (b.failure? a).toList.getLast? = b.failure? a := by
      cases b.failure? a <;> rfl
    rw [failures, List.getLast?_append, Option.or_assoc, last, ← fault_access]
    exact ih (b.access a)

/-- An access that fails does no harm on this bus, and is told in the same way through both
interfaces. -/
structure Harmless (b : Bus) : Prop where
  write_error : ∀ address value e, b.writeChecked address value = .error e ↔
    address < 0xFC00 ∧ ¬ b.ram.Covers address ∧ e = ⟨address, b.ram.size⟩
  /-- All is as before, the display together with what its observers have been sent. -/
  write_failed : ∀ address value e, b.writeChecked address value = .error e →
    ∃ journal, b.write address value = { b with fault := some e, journal }
  /-- In place a write has gone through the bus before it fails, and has done nothing on its way. -/
  write_failed_inPlace : ∀ address value e, b.writeChecked address value = .error e →
    (writeCheckedM address value).Does b (.error e) b [] ∧
      (writeM address value).Does b () { b with fault := some e }
        [⟨.memory, .error, writeFailure e⟩]
  write_succeeded : ∀ address value b', b.writeChecked address value = .ok b' →
    b.write address value = b' ∧ b'.fault = b.fault
  read_error : ∀ address e, b.readChecked address = .error e ↔
    ¬ (0xC000 ≤ address ∧ address ≤ 0xC0FF) ∧ address < 0xFC00 ∧ ¬ b.ram.Covers address ∧
      e = ⟨address, b.ram.size⟩
  read_failed : ∀ address e, b.readChecked address = .error e → b.read address = 0xFF
  read_succeeded : ∀ address value, b.readChecked address = .ok value → b.read address = value
  /-- The monitor answers even where memory runs under it. -/
  monitor : ∀ address, 0xFC00 ≤ address →
    b.readChecked address = .ok (b.rom.content.getD (address.toNat - 0xFC00) 0)

theorem Monitored.harmless (h : b.Monitored) : b.Harmless where
  write_error := by
    intro address value e
    rw [writeChecked_eq_error_iff, h.takes_eq_false_iff, and_assoc]
    rfl
  write_failed := by
    intro address value e failed
    obtain ⟨fails, rfl⟩ := writeChecked_eq_error_iff.mp failed
    exact Bus.write_failed fails value
  write_failed_inPlace := by
    intro address value e failed
    obtain ⟨fails, rfl⟩ := writeChecked_eq_error_iff.mp failed
    have nowhere : ¬ b.takes address = true := by rw [fails]; exact Bool.false_ne_true
    exact ⟨does_writeCheckedM_of_not_takes nowhere value, does_writeM_of_not_takes nowhere value⟩
  write_succeeded := fun address value b' written =>
    ⟨write_of_writeChecked written, fault_of_writeChecked written⟩
  read_error := by
    intro address e
    rw [readChecked_eq_error_iff, h.takes_eq_false_iff, and_assoc, ← Bool.not_eq_true, inKeypadWindow,
      Bool.and_eq_true, decide_eq_true_eq, decide_eq_true_eq]
    rfl
  read_failed := by
    intro address e failed
    rw [read, failed]
  read_succeeded := by
    intro address value answered
    rw [read, answered]
  monitor := fun address above => h.readChecked above

/-- At any time, whatever block the memory is, an access that fails does no harm, and the fault is the
error of the last write that failed. -/
theorem failures_harmless (monitored : b.Monitored) (accesses : List BusAccess) :
    (b.accessAll accesses).Harmless ∧
      (b.accessAll accesses).fault = (b.failures accesses).getLast?.or b.fault :=
  ⟨(monitored.accessAll accesses).harmless, b.fault_accessAll accesses⟩

/-- Memory that begins under the keypad and ends in the display window.  One write to the window finds no
memory, a later one does. -/
def shortMemory : Bus :=
  { ofMonitor [0x7E] {} with ram := (MemoryBlock.plain 0x40).placedAt 0xC0F0 }

theorem failures_harmless_shortMemory :
    shortMemory.Monitored ∧
      (shortMemory.accessAll [.write 0xC166 1, .read 0x0000, .write 0xC116 1]).fault =
        some ⟨0xC166, 0x40⟩ ∧
      (∃ journal, shortMemory.write 0xC166 1 =
        { shortMemory with fault := some ⟨0xC166, 0x40⟩, journal }) ∧
      shortMemory.read 0x0000 = 0xFF := by
  have monitored : shortMemory.Monitored := MemoryBlock.hasShape_readOnly romSize [0x7E] romBase
  have harmless : shortMemory.Harmless := (failures_harmless monitored []).1
  have fault := (failures_harmless monitored [.write 0xC166 1, .read 0x0000, .write 0xC116 1]).2
  have outside (address : UInt16) (apart : ¬ (0xC0F0 ≤ address.toNat ∧ address.toNat < 0xC130)) :
      ¬ shortMemory.ram.Covers address :=
    apart
  have failed : shortMemory.writeChecked 0xC166 1 = .error ⟨0xC166, 0x40⟩ :=
    (harmless.write_error _ _ _).mpr ⟨by decide, outside _ (by decide), rfl⟩
  have unread : shortMemory.readChecked 0x0000 = .error ⟨0x0000, 0x40⟩ :=
    (harmless.read_error _ _).mpr ⟨by decide, by decide, outside _ (by decide), rfl⟩
  have errors : shortMemory.failures [.write 0xC166 1, .read 0x0000, .write 0xC116 1] =
      [⟨0xC166, 0x40⟩] := by
    decide +kernel
  refine ⟨monitored, ?_, harmless.write_failed _ _ _ failed, harmless.read_failed _ _ unread⟩
  rw [fault, errors]
  rfl

end Bus

end Trainer6800
