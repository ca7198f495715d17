import Trainer6800.Keypad.Basic

/-!
# The scan byte

A read of the keypad selects rows of the matrix, a row taking part when its bit of the address is zero,
and gives a byte in which a column that an active key connects to such a row is zero.
`Keypad.Contact` says this of one column, and `Keypad.testBit_scan_eq_false_iff` that it is all there is
in the byte.

So the byte depends on the set of active data keys alone, and as no two keys have the same place, three
reads that select one row each tell that set.
-/

namespace Trainer6800

/-! ## Bytes -/

/-- It is enough to know which bits are zero. -/
theorem eq_of_testBit_eq_false_iff {a b : UInt8}
    (same : ∀ i < 8, a.toNat.testBit i = false ↔ b.toNat.testBit i = false) : a = b := by
  apply eq_of_testBit_eq
  intro i low
  rw [Bool.eq_iff_iff, ← Bool.not_eq_false, ← Bool.not_eq_false, same i low]

/-! ## The matrix -/

namespace Key

/-- The places of the matrix have three rows and six columns. -/
theorem bounds_position? {key : Key} {row column : Nat} (place : key.position? = some (row, column)) :
    row < 3 ∧ column < 6 := by
  cases key with
  | reset => cases place
  | data digit =>
    have all : ∀ digit : Fin 16, ∀ place ∈ (data digit).position?, place.1 < 3 ∧ place.2 < 6 := by
      decide
    exact all digit _ place

/-- Two keys do not share a place. -/
theorem position?_inj {digit other : Fin 16}
    (same : (data digit).position? = (data other).position?) : digit = other := by
  revert digit other
  decide

/-- The low bits of an address that selects one row. -/
def rowSelect : Nat → UInt8
  | 0 => 6
  | 1 => 5
  | _ => 3

/-- It selects no other. -/
theorem testBit_rowSelect {row other : Nat} (hrow : row < 3) (hother : other < 3) :
    (rowSelect row).toNat.testBit other = false ↔ other = row := by
  have all : ∀ row other : Fin 3, (rowSelect row).toNat.testBit other = false ↔ other = row := by
    decide
  simpa [Fin.ext_iff] using all ⟨row, hrow⟩ ⟨other, hother⟩

end Key

namespace Keypad

/-- An active data key connects the column to a row that takes part. -/
def Contact (k : Keypad) (select : UInt8) (column : Nat) : Prop :=
  ∃ digit row, .data digit ∈ k.active ∧ (Key.data digit).position? = some (row, column) ∧
    select.toNat.testBit row = false

variable {k k' : Keypad}

/-- Whether an active key pulls a bit of the scan byte to zero. -/
def pulls (select : UInt8) (bit : Nat) (key : Key) : Bool :=
  match key.position? with
  | some (row, column) => column == bit && !select.toNat.testBit row
  | none => false

theorem pulls_eq_true_iff {select : UInt8} {column : Nat} {key : Key} :
    pulls select column key = true ↔
      ∃ row, key.position? = some (row, column) ∧ select.toNat.testBit row = false := by
  unfold pulls
  split
  · rename_i row column' place
    rw [Bool.and_eq_true, beq_iff_eq, Bool.not_eq_true', place]
    constructor
    · rintro ⟨rfl, selected⟩
      exact ⟨row, rfl, selected⟩
    · rintro ⟨row', same, selected⟩
      cases same
      exact ⟨rfl, selected⟩
  · rename_i none
    simp [none]

theorem any_pulls_iff {select : UInt8} {column : Nat} :
    k.active.any (pulls select column) = true ↔ k.Contact select column := by
  rw [List.any_eq_true]
  constructor
  · rintro ⟨key, active, pulled⟩
    obtain ⟨row, place, selected⟩ := pulls_eq_true_iff.mp pulled
    cases key with
    | reset => cases place
    | data digit => exact ⟨digit, row, active, place, selected⟩
  · rintro ⟨digit, row, active, place, selected⟩
    exact ⟨.data digit, active, pulls_eq_true_iff.mpr ⟨row, place, selected⟩⟩

/-- The columns that are not wired have no contact. -/
theorem not_contact {select : UInt8} {column : Nat} (beyond : 6 ≤ column) :
    ¬ k.Contact select column := by
  rintro ⟨digit, row, -, place, -⟩
  exact absurd (Key.bounds_position? place).2 (Nat.not_lt.mpr beyond)

theorem testBit_mask {bit : Nat} (low : bit < 8) {i : Nat} (hi : i < 8) :
    (mask bit).toNat.testBit i = (bit == i) := by
  have all : ∀ bit i : Fin 8, (mask bit).toNat.testBit i = (bit.val == i.val) := by
    decide +kernel
  exact all ⟨bit, low⟩ ⟨i, hi⟩

theorem and_mask_eq_zero_iff {a : UInt8} {bit : Nat} (low : bit < 8) :
    a &&& mask bit = 0 ↔ a.toNat.testBit bit = false := by
  have same (i : Nat) (hi : i < 8) :
      (a &&& mask bit).toNat.testBit i = (a.toNat.testBit i && bit == i) := by
    rw [UInt8.toNat_and, Nat.testBit_and, testBit_mask low hi]
  constructor
  · intro zero
    have here := same bit low
    rwa [zero, beq_self_eq_true, Bool.and_true, UInt8.toNat_zero, Nat.zero_testBit, eq_comm] at here
  · intro clear
    apply eq_of_testBit_eq
    intro i hi
    rw [same i hi, UInt8.toNat_zero, Nat.zero_testBit, Bool.and_eq_false_iff]
    by_cases here : bit = i
    · exact .inl (here ▸ clear)
    · exact .inr (beq_eq_false_iff_ne.mpr here)

/-- One key clears a bit, or leaves it. -/
theorem testBit_pull (select value : UInt8) (key : Key) {column : Nat} (low : column < 8) :
    (pull select value key).toNat.testBit column =
      (value.toNat.testBit column && !pulls select column key) := by
  unfold pull pulls
  cases place : key.position? with
  | none =>
    dsimp only
    rw [Bool.not_false, Bool.and_true]
  | some position =>
    obtain ⟨row, bit⟩ := position
    obtain ⟨hrow, hbit⟩ := Key.bounds_position? place
    have selected : select &&& mask row = 0 ↔ select.toNat.testBit row = false :=
      and_mask_eq_zero_iff (Nat.lt_trans hrow (by decide))
    dsimp only
    split
    · rename_i here
      rw [UInt8.toNat_and, Nat.testBit_and, testBit_not _ low,
        testBit_mask (Nat.lt_trans hbit (by decide)) low, selected.mp here, Bool.not_false,
        Bool.and_true]
    · rename_i elsewhere
      rw [Bool.not_eq_false _ |>.mp (mt selected.mpr elsewhere), Bool.not_true, Bool.and_false,
        Bool.not_false, Bool.and_true]

/-- All keys together clear the bits that one of them clears. -/
theorem testBit_foldl_pull (select value : UInt8) (keys : List Key) {column : Nat}
    (low : column < 8) :
    (keys.foldl (pull select) value).toNat.testBit column =
      (value.toNat.testBit column && !keys.any (pulls select column)) := by
  induction keys generalizing value with
  | nil => rw [List.foldl_nil, List.any_nil, Bool.not_false, Bool.and_true]
  | cons key rest ih =>
    rw [List.foldl_cons, ih, testBit_pull _ _ _ low, List.any_cons, Bool.not_or, Bool.and_assoc]

/-- Every bit is told by the active keys, whatever their order. -/
theorem testBit_scan (k : Keypad) (select : UInt8) {column : Nat} (low : column < 8) :
    (k.scan select).toNat.testBit column = !k.active.any (pulls select column) := by
  have full : ∀ i : Fin 8, (0xFF : UInt8).toNat.testBit i = true := by decide
  rw [scan, testBit_foldl_pull _ _ _ low, full ⟨column, low⟩, Bool.true_and]

/-- A column reads as zero when there is a contact. -/
theorem testBit_scan_eq_false_iff (k : Keypad) (select : UInt8) {column : Nat} (low : column < 8) :
    (k.scan select).toNat.testBit column = false ↔ k.Contact select column := by
  rw [testBit_scan k select low, Bool.not_eq_false', any_pulls_iff]

/-- A row takes part in a read of two selections at once when it takes part in either. -/
theorem contact_and {s t : UInt8} {column : Nat} :
    k.Contact (s &&& t) column ↔ k.Contact s column ∨ k.Contact t column := by
  simp only [Contact, UInt8.toNat_and, Nat.testBit_and, Bool.and_eq_false_iff, and_or_left, exists_or]

theorem scan_and (k : Keypad) (s t : UInt8) : k.scan (s &&& t) = k.scan s &&& k.scan t := by
  apply eq_of_testBit_eq_false_iff
  intro column low
  rw [UInt8.toNat_and, Nat.testBit_and, Bool.and_eq_false_iff, testBit_scan_eq_false_iff k _ low,
    testBit_scan_eq_false_iff k _ low, testBit_scan_eq_false_iff k _ low, contact_and]

/-- The same data keys are active on both keypads, in whatever order and however often. -/
def SameActive (k k' : Keypad) : Prop :=
  ∀ digit, .data digit ∈ k.active ↔ .data digit ∈ k'.active

theorem SameActive.scan_eq (same : k.SameActive k') (select : UInt8) :
    k.scan select = k'.scan select := by
  apply eq_of_testBit_eq_false_iff
  intro column low
  rw [testBit_scan_eq_false_iff k _ low, testBit_scan_eq_false_iff k' _ low]
  simp only [Contact, same _]

/-- A read that selects one row tells of each key in the row whether it is active. -/
theorem mem_active_iff_testBit (k : Keypad) {digit : Fin 16} {row column : Nat}
    (place : (Key.data digit).position? = some (row, column)) :
    .data digit ∈ k.active ↔ (k.scan (Key.rowSelect row)).toNat.testBit column = false := by
  obtain ⟨hrow, hcolumn⟩ := Key.bounds_position? place
  rw [testBit_scan_eq_false_iff k _ (Nat.lt_of_lt_of_le hcolumn (by decide))]
  constructor
  · intro active
    exact ⟨digit, row, active, place, (Key.testBit_rowSelect hrow hrow).mpr rfl⟩
  · rintro ⟨other, row', active, place', selected⟩
    -- the row is the one that was selected, so the place is that of the key
    have same := (Key.testBit_rowSelect hrow (Key.bounds_position? place').1).mp selected
    subst same
    rwa [Key.position?_inj (place.trans place'.symm)]

/-- The scan byte tells which data keys are active, and nothing else. -/
structure ScanEncodes (k : Keypad) : Prop where
  /-- A bit is zero when an active data key lies in its column, in a row that takes part. -/
  bit : ∀ select, ∀ column < 8, (k.scan select).toNat.testBit column = false ↔
    ∃ digit row, .data digit ∈ k.active ∧ (Key.data digit).position? = some (row, column) ∧
      select.toNat.testBit row = false
  unwired : ∀ select, (k.scan select).toNat.testBit 6 = true ∧ (k.scan select).toNat.testBit 7 = true
  and : ∀ s t, k.scan (s &&& t) = k.scan s &&& k.scan t
  /-- Nothing else about the active keys matters. -/
  same : ∀ k' : Keypad, k.SameActive k' → ∀ select, k.scan select = k'.scan select
  /-- Three reads tell the active data keys. -/
  three : ∀ k' : Keypad, k.scan 6 = k'.scan 6 → k.scan 5 = k'.scan 5 → k.scan 3 = k'.scan 3 →
    k.SameActive k'

theorem scan_encodes (k : Keypad) : k.ScanEncodes where
  bit := fun select column low => testBit_scan_eq_false_iff k select low
  unwired := by
    have high {column : Nat} (low : column < 8) (beyond : 6 ≤ column) (select : UInt8) :
        (k.scan select).toNat.testBit column = true := by
      rw [← Bool.not_eq_false, testBit_scan_eq_false_iff k select low]
      exact not_contact beyond
    intro select
    exact ⟨high (by decide) (by decide) select, high (by decide) (by decide) select⟩
  and := k.scan_and
  same := fun k' same => same.scan_eq
  three := by
    intro k' six five three digit
    obtain ⟨⟨row, column⟩, place⟩ := Option.isSome_iff_exists.mp (Key.isSome_position?_data digit)
    have rows : k.scan (Key.rowSelect row) = k'.scan (Key.rowSelect row) := by
      unfold Key.rowSelect
      split
      · exact six
      · exact five
      · exact three
    rw [k.mem_active_iff_testBit place, k'.mem_active_iff_testBit place, rows]

end Keypad

end Trainer6800
