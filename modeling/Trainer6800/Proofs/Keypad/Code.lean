import Trainer6800.Keypad.Key

/-!
# Texts that name a key

A text names a key when it is the key's code, apart from blanks around it and from the case of its
letters.  `Key.ofText` reads just these texts, each as the key it names (`Key.ofText_eq_ok_iff`), and
refuses all others (`Key.ofText_eq_error_iff`).
-/

namespace Trainer6800

namespace Hex

theorem toNat_toLower (c : Char) :
    c.toLower.toNat = if 65 ≤ c.toNat ∧ c.toNat ≤ 90 then c.toNat + 32 else c.toNat := by
  have bounds : (c.val ≥ 'A'.val ∧ c.val ≤ 'Z'.val) ↔ 65 ≤ c.toNat ∧ c.toNat ≤ 90 := by
    simp only [ge_iff_le, UInt32.le_iff_toNat_le]
    exact Iff.rfl
  unfold Char.toLower
  split
  · rename_i capital
    have small : c.val.toNat ≤ 90 := (bounds.mp capital).2
    rw [if_pos (bounds.mp capital)]
    show (c.val + 32).toNat = c.val.toNat + 32
    rw [UInt32.toNat_add]
    exact Nat.mod_eq_of_lt (Nat.lt_of_le_of_lt (Nat.add_le_add_right small 32) (by decide))
  · rename_i other
    rw [if_neg (mt bounds.mpr other)]

theorem toNat_digit {n : Nat} (below : n < 16) :
    (digit n).toNat = if n < 10 then 48 + n else 55 + n := by
  have all : ∀ n : Fin 16, (digit n).toNat = if n.val < 10 then 48 + n.val else 55 + n.val := by
    decide
  exact all ⟨n, below⟩

/-- The characters with the value of a digit are the digit in either case. -/
theorem toLower_eq_digit_iff {c : Char} {n : Nat} (below : n < 16) :
    c.toLower = (digit n).toLower ↔ digitValue? c = some n := by
  rw [← Char.toNat_inj, toNat_toLower, toNat_toLower, toNat_digit below]
  unfold digitValue?
  grind

end Hex

namespace Key

/-- The text is the code of the key, apart from blanks around it and from the case of its letters. -/
def Names (text : String) (key : Key) : Prop :=
  (Text.trimBlanks text.toList).map Char.toLower = key.code.toList.map Char.toLower

theorem ofDigit?_eq_some_iff {n : Nat} {key : Key} :
    ofDigit? n = some key ↔ ∃ digit : Fin 16, digit.val = n ∧ key = data digit := by
  unfold ofDigit?
  split
  · rename_i below
    constructor
    · intro h
      exact ⟨⟨n, below⟩, rfl, (Option.some.inj h).symm⟩
    · rintro ⟨digit, rfl, rfl⟩
      rfl
  · rename_i above
    constructor
    · intro h
      cases h
    · rintro ⟨digit, rfl, -⟩
      exact absurd digit.isLt above

theorem code_reset : reset.code.toList.map Char.toLower = ['r', 'e', 's', 'e', 't'] :=
  rfl

theorem code_data (digit : Fin 16) :
    (data digit).code.toList.map Char.toLower = [(Hex.digit digit).toLower] := by
  rw [code, String.toList_ofList]
  rfl

/-- A code that is not RESET is a single digit. -/
theorem ofCode?_of_ne_reset {cs : List Char} (other : cs.map Char.toLower ≠ ['r', 'e', 's', 'e', 't'])
    {key : Key} :
    ofCode? cs = some key ↔ ∃ (c : Char) (digit : Fin 16),
      cs = [c] ∧ c.toLower = (Hex.digit digit).toLower ∧ key = data digit := by
  unfold ofCode?
  rw [if_neg other]
  constructor
  · intro h
    split at h
    · rename_i c
      obtain ⟨n, value, key⟩ := Option.bind_eq_some_iff.mp h
      obtain ⟨digit, rfl, rfl⟩ := ofDigit?_eq_some_iff.mp key
      exact ⟨c, digit, rfl, (Hex.toLower_eq_digit_iff digit.isLt).mpr value, rfl⟩
    · cases h
  · rintro ⟨c, digit, rfl, same, rfl⟩
    have value := (Hex.toLower_eq_digit_iff digit.isLt).mp same
    exact Option.bind_eq_some_iff.mpr ⟨digit, value, ofDigit?_eq_some_iff.mpr ⟨digit, rfl, rfl⟩⟩

theorem ofCode?_eq_some_iff {cs : List Char} {key : Key} :
    ofCode? cs = some key ↔ cs.map Char.toLower = key.code.toList.map Char.toLower := by
  by_cases isReset : cs.map Char.toLower = ['r', 'e', 's', 'e', 't']
  · have read : ofCode? cs = some reset := by
      unfold ofCode?
      rw [if_pos isReset]
    rw [read, isReset]
    cases key with
    | reset => simp [code_reset]
    | data digit => simp [code_data]
  · rw [ofCode?_of_ne_reset isReset]
    cases key with
    | reset =>
      rw [code_reset]
      simp [isReset]
    | data digit =>
      rw [code_data, List.map_eq_singleton_iff]
      constructor
      · rintro ⟨c, digit', rfl, same, key⟩
        cases key
        exact ⟨c, rfl, same⟩
      · rintro ⟨c, rfl, same⟩
        exact ⟨c, digit, rfl, same, rfl⟩

/-- A text reads as the key that it names. -/
theorem ofText_eq_ok_iff {text : String} {key : Key} : ofText text = .ok key ↔ Names text key := by
  rw [Names, ← ofCode?_eq_some_iff, ofText]
  cases ofCode? (Text.trimBlanks text.toList) with
  | some k => simp
  | none => simp

/-- A text that names no key is refused, and the error has all of it. -/
theorem ofText_eq_error_iff {text : String} {e : UnknownKey} :
    ofText text = .error e ↔ (∀ key, ¬ Names text key) ∧ e = ⟨text⟩ := by
  simp only [Names, ← ofCode?_eq_some_iff, ofText]
  cases ofCode? (Text.trimBlanks text.toList) with
  | some k => simp
  | none => simp [eq_comm]

end Key

end Trainer6800
