import Trainer6800.Display.Latch
import Trainer6800.Proofs.LastSetting
import Trainer6800.Word

/-!
# The segments of the display

A write to the latch is for one segment of one digit, or for none, and says whether it is lit.
`LatchWrite.Addresses` reads from the offset which segment that is.  The segments of a digit are bits of
one byte, and a write puts the whole byte back, so it has to be shown that the other bits stay: a segment
is lit after a write as the write says, if it is for it, and otherwise as before (`lit_write`).

So after any writes each segment is as the last of the writes for it has left it
(`DisplayLatch.segments_written`).  As the segments make up the display, writes for different segments
can change places.
-/

namespace Trainer6800

/-- A part of a digit that is lit or dark. -/
inductive Segment where
  | a | b | c | d | e | f | g | point
  deriving DecidableEq, Repr

namespace Segment

/-- The bit of a digit that is set when the segment is lit. -/
def bit : Segment → Nat
  | a => 0
  | b => 1
  | c => 2
  | d => 3
  | e => 4
  | f => 5
  | g => 6
  | point => 7

theorem bit_lt (s : Segment) : s.bit < 8 := by
  cases s <;> decide

/-- Every bit belongs to a segment. -/
theorem exists_bit_eq {i : Nat} (low : i < 8) : ∃ s : Segment, s.bit = i := by
  have all : ∀ i : Fin 8, ∃ s ∈ [a, b, c, d, e, f, g, point], s.bit = i := by decide
  obtain ⟨s, -, same⟩ := all ⟨i, low⟩
  exact ⟨s, same⟩

/-- The segments in the order of the numbers that select them. -/
def selectable : List Segment :=
  [g, f, e, d, c, b, a, point]

end Segment

/-- Whether a segment of a digit is lit. -/
def DisplaySnapshot.lit (shown : DisplaySnapshot) (digit : Fin 6) (segment : Segment) : Bool :=
  (shown.digits.get digit).toNat.testBit segment.bit

/-- A display is its segments. -/
theorem DisplaySnapshot.eq_of_lit_eq {s t : DisplaySnapshot}
    (same : ∀ digit segment, s.lit digit segment = t.lit digit segment) : s = t := by
  have digits : s.digits = t.digits := by
    refine Vector.ext fun i inside => ?_
    apply eq_of_testBit_eq
    intro bit low
    obtain ⟨segment, rfl⟩ := Segment.exists_bit_eq low
    exact same ⟨i, inside⟩ segment
  cases s
  cases t
  exact congrArg DisplaySnapshot.mk digits

/-! ## One write -/

/-- A write to the latch. -/
structure LatchWrite where
  offset : UInt8
  value : UInt8
  deriving DecidableEq, Repr

namespace LatchWrite

/-- The slot that a write is for: bits 4 to 6 of its offset. -/
def slot (w : LatchWrite) : Nat :=
  (w.offset >>> 4 &&& 7).toNat

/-- The number that selects the segment: bits 0 to 2 of the offset. -/
def selector (w : LatchWrite) : Nat :=
  (w.offset &&& 7).toNat

/-- The write is for a segment of a digit.  Slots count from the right. -/
def Addresses (w : LatchWrite) (digit : Fin 6) (segment : Segment) : Prop :=
  w.slot = 6 - digit ∧ Segment.selectable[w.selector]? = some segment

instance (w : LatchWrite) (digit : Fin 6) (segment : Segment) :
    Decidable (w.Addresses digit segment) :=
  inferInstanceAs (Decidable (_ ∧ _))

/-- Whether the segment is to be lit: bit 0 of the value. -/
def lights (w : LatchWrite) : Bool :=
  w.value &&& 1 == 1

/-- The write with all bits cleared that are for nothing. -/
def essential (w : LatchWrite) : LatchWrite :=
  ⟨w.offset &&& 0x77, w.value &&& 1⟩

/-- What the write makes of a segment, if it is for it. -/
def setting? (digit : Fin 6) (segment : Segment) (w : LatchWrite) : Option Bool :=
  if w.Addresses digit segment then some w.lights else none

theorem slot_eq (w : LatchWrite) : w.slot = w.offset.toNat / 16 % 8 := by
  rw [slot, UInt8.toNat_and, UInt8.toNat_shiftRight, Nat.shiftRight_eq_div_pow]
  exact Nat.and_two_pow_sub_one_eq_mod _ 3

theorem selector_eq (w : LatchWrite) : w.selector = w.offset.toNat % 8 := by
  rw [selector, UInt8.toNat_and]
  exact Nat.and_two_pow_sub_one_eq_mod _ 3

theorem slot_essential (w : LatchWrite) : w.essential.slot = w.slot := by
  simp only [slot, essential, UInt8.toNat_and, UInt8.toNat_shiftRight, Nat.shiftRight_and_distrib,
    Nat.and_assoc]
  rfl

theorem selector_essential (w : LatchWrite) : w.essential.selector = w.selector := by
  simp only [selector, essential, UInt8.and_assoc]
  rfl

/-- Bit 0 is set unless it is clear. -/
theorem lights_eq (w : LatchWrite) : (w.value &&& 1 != 0) = w.lights := by
  have low : w.value.toNat &&& 1 = w.value.toNat % 2 := Nat.and_two_pow_sub_one_eq_mod _ 1
  rw [lights, Bool.eq_iff_iff, bne_iff_ne, beq_iff_eq, ne_eq, ← UInt8.toNat_inj, ← UInt8.toNat_inj,
    UInt8.toNat_and]
  show ¬ w.value.toNat &&& 1 = 0 ↔ w.value.toNat &&& 1 = 1
  omega

/-- The latch has wired the slots from the left. -/
theorem wiredDigit?_eq_some_iff (w : LatchWrite) (digit : Fin 6) :
    wiredDigit? w.offset = some digit ↔ w.slot = 6 - digit := by
  have all : ∀ n : Fin 256, ∀ digit : Fin 6,
      wiredDigit? (UInt8.ofFin n) = some digit ↔ n.val / 16 % 8 = 6 - digit := by
    decide +kernel
  rw [slot_eq]
  exact all w.offset.toFin digit

theorem wiredDigit?_eq_none_iff (w : LatchWrite) :
    wiredDigit? w.offset = none ↔ w.slot = 0 ∨ w.slot = 7 := by
  have all : ∀ n : Fin 256, wiredDigit? (UInt8.ofFin n) = none ↔
      n.val / 16 % 8 = 0 ∨ n.val / 16 % 8 = 7 := by
    decide +kernel
  rw [slot_eq]
  exact all w.offset.toFin

/-- The pattern of the selected segment has its bit and no other. -/
theorem testBit_selectedSegment (w : LatchWrite) (segment : Segment) :
    (selectedSegment w.offset).toNat.testBit segment.bit =
      decide (Segment.selectable[w.selector]? = some segment) := by
  have all : ∀ n : Fin 256, ∀ segment ∈ Segment.selectable,
      (selectedSegment (UInt8.ofFin n)).toNat.testBit segment.bit =
        decide (Segment.selectable[n.val % 8]? = some segment) := by
    decide +kernel
  rw [selector_eq]
  exact all w.offset.toFin segment (by cases segment <;> decide)

/-- In a digit a write changes the bit of its segment and leaves the others. -/
theorem testBit_latchedDigit (w : LatchWrite) (old : UInt8) (segment : Segment) :
    (latchedDigit old w.offset w.value).toNat.testBit segment.bit =
      if Segment.selectable[w.selector]? = some segment then w.lights
      else old.toNat.testBit segment.bit := by
  rw [latchedDigit, lights_eq]
  cases w.lights with
  | true =>
    rw [if_pos rfl, UInt8.toNat_or, Nat.testBit_or, testBit_selectedSegment]
    by_cases here : Segment.selectable[w.selector]? = some segment <;> simp [here]
  | false =>
    rw [if_neg Bool.false_ne_true, UInt8.toNat_and, Nat.testBit_and, testBit_not _ segment.bit_lt,
      testBit_selectedSegment]
    by_cases here : Segment.selectable[w.selector]? = some segment <;> simp [here]

end LatchWrite

namespace DisplayLatch

/-- A digit that is not changed might as well be put back. -/
theorem digits_written (l : DisplayLatch) (offset value : UInt8) :
    (l.write offset value).digits =
      (wiredDigit? offset).elim l.digits fun index =>
        l.digits.set index (latchedDigit (l.digits.get index) offset value) index.isLt := by
  rw [write]
  cases wiredDigit? offset with
  | none => rfl
  | some index =>
    dsimp only
    split
    · rename_i same
      have kept : latchedDigit (l.digits.get index) offset value = l.digits.get index := same
      rw [Option.elim_some, kept]
      exact (Vector.set_getElem_self index.isLt).symm
    · rfl

/-- A write changes the digit that it is for and no other. -/
theorem get_write (l : DisplayLatch) (w : LatchWrite) (digit : Fin 6) :
    (l.write w.offset w.value).digits.get digit =
      if w.slot = 6 - digit then latchedDigit (l.digits.get digit) w.offset w.value
      else l.digits.get digit := by
  have wired := w.wiredDigit?_eq_some_iff digit
  rw [digits_written]
  cases found : wiredDigit? w.offset with
  | none =>
    rw [found] at wired
    rw [if_neg (mt wired.mpr nofun), Option.elim_none]
  | some index =>
    rw [found, Option.some.injEq] at wired
    by_cases here : index = digit
    · subst here
      rw [if_pos (wired.mp rfl)]
      exact Vector.getElem_set_self _
    · have apart : index.val ≠ digit.val := fun same => here (Fin.ext same)
      rw [if_neg (mt wired.mpr here)]
      exact Vector.getElem_set_ne index.isLt digit.isLt apart

/-- A write makes its segment lit or dark, and leaves all others as they are. -/
theorem lit_write (l : DisplayLatch) (w : LatchWrite) (digit : Fin 6) (segment : Segment) :
    (l.write w.offset w.value).snapshot.lit digit segment =
      (w.setting? digit segment).getD (l.snapshot.lit digit segment) := by
  show ((l.write w.offset w.value).digits.get digit).toNat.testBit segment.bit = _
  rw [get_write, LatchWrite.setting?]
  by_cases slot : w.slot = 6 - digit
  · rw [if_pos slot, LatchWrite.testBit_latchedDigit]
    by_cases here : Segment.selectable[w.selector]? = some segment
    · rw [if_pos here, if_pos (show w.Addresses digit segment from ⟨slot, here⟩), Option.getD_some]
    · rw [if_neg here, if_neg fun addressed : w.Addresses digit segment => here addressed.2]
      rfl
  · rw [if_neg slot, if_neg fun addressed : w.Addresses digit segment => slot addressed.1]
    rfl

/-- To a slot that is not wired nothing is written. -/
theorem write_unwired (l : DisplayLatch) {w : LatchWrite} (unwired : w.slot = 0 ∨ w.slot = 7) :
    l.write w.offset w.value = l := by
  rw [write, w.wiredDigit?_eq_none_iff.mpr unwired]

/-- All of a write that matters is its slot, its selector and bit 0 of its value. -/
theorem write_essential (l : DisplayLatch) (w : LatchWrite) :
    l.write w.essential.offset w.essential.value = l.write w.offset w.value := by
  have digit : wiredDigit? w.essential.offset = wiredDigit? w.offset := by
    refine Option.ext fun digit => ?_
    rw [LatchWrite.wiredDigit?_eq_some_iff, LatchWrite.wiredDigit?_eq_some_iff,
      LatchWrite.slot_essential]
  have segment : selectedSegment w.essential.offset = selectedSegment w.offset := by
    rw [selectedSegment, selectedSegment, ← LatchWrite.selector_eq, ← LatchWrite.selector_eq,
      LatchWrite.selector_essential]
  have value : w.essential.value &&& 1 = w.value &&& 1 := by
    rw [LatchWrite.essential, UInt8.and_assoc]
    rfl
  have latched (old : UInt8) : latchedDigit old w.essential.offset w.essential.value =
      latchedDigit old w.offset w.value := by
    rw [latchedDigit, latchedDigit, segment, value]
  unfold write
  rw [digit]
  split
  · rfl
  · rw [latched]

/-! ## Any number of writes -/

/-- The latch after some writes. -/
def writeAll (l : DisplayLatch) (writes : List LatchWrite) : DisplayLatch :=
  writes.foldl (fun l w => l.write w.offset w.value) l

theorem lit_writeAll (l : DisplayLatch) (writes : List LatchWrite) (digit : Fin 6)
    (segment : Segment) :
    (l.writeAll writes).snapshot.lit digit segment =
      (lastSetting? (LatchWrite.setting? digit segment) writes).getD
        (l.snapshot.lit digit segment) :=
  getD_lastSetting?_foldl (fun l : DisplayLatch => l.snapshot.lit digit segment) (fun _ => True)
    (fun _ _ _ => trivial) (fun l w _ => l.lit_write w digit segment) trivial writes

/-- Writes that come to the same for each segment come to the same display. -/
theorem snapshot_writeAll_congr {first second : List LatchWrite}
    (same : ∀ digit segment, lastSetting? (LatchWrite.setting? digit segment) first =
      lastSetting? (LatchWrite.setting? digit segment) second) (l : DisplayLatch) :
    (l.writeAll first).snapshot = (l.writeAll second).snapshot := by
  apply DisplaySnapshot.eq_of_lit_eq
  intro digit segment
  rw [lit_writeAll, lit_writeAll, same]

theorem writeAll_essential (l : DisplayLatch) (writes : List LatchWrite) :
    l.writeAll (writes.map LatchWrite.essential) = l.writeAll writes := by
  induction writes generalizing l with
  | nil => rfl
  | cons w rest ih =>
    show (l.write w.essential.offset w.essential.value).writeAll (rest.map LatchWrite.essential) = _
    rw [write_essential, ih]
    rfl

/-- The second latch is the first one after some writes. -/
structure Written (l : DisplayLatch) (writes : List LatchWrite) (l' : DisplayLatch) : Prop where
  /-- A segment is as the last write for it says. -/
  last : ∀ before w after digit segment, writes = before ++ w :: after →
    w.Addresses digit segment → (∀ later ∈ after, ¬ later.Addresses digit segment) →
    (l'.snapshot.lit digit segment = true ↔ w.value &&& 1 = 1)
  /-- A segment that no write is for is as it was. -/
  untouched : ∀ digit segment, (∀ w ∈ writes, ¬ w.Addresses digit segment) →
    l'.snapshot.lit digit segment = l.snapshot.lit digit segment
  /-- Two of the slots have no digit. -/
  unwired : ∀ w : LatchWrite, w.slot = 0 ∨ w.slot = 7 → l'.write w.offset w.value = l'
  /-- Neither bits 3 and 7 of the offsets matter nor bits 1 to 7 of the values. -/
  essential : ∀ others : List LatchWrite,
    others.map LatchWrite.essential = writes.map LatchWrite.essential → l.writeAll others = l'
  /-- Two writes that are not for the same segment can change places. -/
  commute : ∀ v w later,
    (∀ digit segment, ¬ (v.Addresses digit segment ∧ w.Addresses digit segment)) →
    (l'.writeAll (v :: w :: later)).snapshot = (l'.writeAll (w :: v :: later)).snapshot

/-- After any writes, each segment of the display is as the last write for it has left it. -/
theorem segments_written (l : DisplayLatch) (writes : List LatchWrite) :
    l.Written writes (l.writeAll writes) where
  last := by
    rintro before w after digit segment rfl addressed last
    have sets : w.setting? digit segment = some w.lights := if_pos addressed
    have unset : ∀ later ∈ after, later.setting? digit segment = none :=
      fun later mem => if_neg (last later mem)
    rw [lit_writeAll, lastSetting?_of_last sets unset, Option.getD_some, LatchWrite.lights, beq_iff_eq]
  untouched := by
    intro digit segment untouched
    have unset : ∀ w ∈ writes, w.setting? digit segment = none :=
      fun w mem => if_neg (untouched w mem)
    rw [lit_writeAll, lastSetting?_eq_none_iff.mpr unset, Option.getD_none]
  unwired := fun w unwired => write_unwired _ unwired
  essential := by
    intro others same
    rw [← writeAll_essential, same, writeAll_essential]
  commute := by
    intro v w later apart
    apply snapshot_writeAll_congr
    intro digit segment
    apply lastSetting?_swap
    by_cases first : v.Addresses digit segment
    · exact .inr (if_neg fun second => apart digit segment ⟨first, second⟩)
    · exact .inl (if_neg first)

end DisplayLatch

end Trainer6800
