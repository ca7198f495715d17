import Trainer6800.Json.Lexeme
import Trainer6800.Json.Printer

/-!
# Printed numbers and strings read back

The two words of JSON that carry data.  A natural number is printed with as many digits as it needs,
so its first digit is no zero unless it is the only one, and a reader that meets these digits before
something that is no part of a number takes all of them.  A string is printed character by character,
each as itself or as an escape, and the reader undoes one escape at a time.
-/

namespace Trainer6800.Json

/-! ## Digits -/

theorem decimalDigit?_of_isDigit {c : Char} (h : c.isDigit = true) :
    decimalDigit? c = some (c.toNat - 48) := by
  have bounds : 48 ≤ c.toNat ∧ c.toNat ≤ 57 := by
    simpa [Char.isDigit, UInt32.le_iff_toNat_le] using h
  simp only [decimalDigit?, if_pos bounds]

/-- Digits only make a number larger. -/
theorem le_ofDigitChars (cs : List Char) (n : Nat) : n ≤ Nat.ofDigitChars 10 cs n := by
  induction cs generalizing n with
  | nil => exact Nat.le_of_eq Nat.ofDigitChars_nil.symm
  | cons c cs ih =>
    rw [Nat.ofDigitChars_cons]
    have := ih (10 * n + (c.toNat - '0'.toNat))
    omega

/-- All digits are taken if the number they make is within the limit. -/
theorem takeDigits_append {limit n : Nat} {cs rest : List Char} (digits : ∀ c ∈ cs, c.isDigit = true)
    (fits : Nat.ofDigitChars 10 cs n ≤ limit) (ends : startsWithDigit rest = false) :
    takeDigits limit n (cs ++ rest) = (Nat.ofDigitChars 10 cs n, cs.length, rest) := by
  induction cs generalizing n with
  | nil =>
    rw [Nat.ofDigitChars_nil, List.nil_append]
    cases rest with
    | nil => rfl
    | cons c rest =>
      have none : decimalDigit? c = .none := by simpa [startsWithDigit] using ends
      simp only [takeDigits, none, List.length_nil]
  | cons c cs ih =>
    have digit := decimalDigit?_of_isDigit (digits c List.mem_cons_self)
    rw [Nat.ofDigitChars_cons] at fits
    have zero : '0'.toNat = 48 := rfl
    rw [zero] at fits
    have within : 10 * n + (c.toNat - 48) ≤ limit := Nat.le_trans (le_ofDigitChars cs _) fits
    have taken := ih (fun d hd => digits d (List.mem_cons_of_mem c hd)) fits
    rw [List.cons_append, takeDigits, digit]
    simp only [if_pos within, taken, List.length_cons, Nat.ofDigitChars_cons, zero]

/-- The first digit of a positive number is not zero. -/
theorem head_toDigits_ne_zero {n : Nat} (h : 0 < n) {c : Char} {cs : List Char}
    (digits : Nat.toDigits 10 n = c :: cs) : c ≠ '0' := by
  induction n using Nat.strongRecOn generalizing cs with
  | ind n ih =>
    by_cases small : n < 10
    · rw [Nat.toDigits_of_lt_base small] at digits
      cases digits
      have all : ∀ k : Fin 10, 0 < k.val → k.val.digitChar ≠ '0' := by decide
      exact all ⟨n, small⟩ h
    · have front := Nat.toDigits_of_base_le (b := 10) (by omega) (Nat.le_of_not_lt small)
      rw [digits] at front
      cases higher : Nat.toDigits 10 (n / 10) with
      | nil => exact absurd higher Nat.toDigits_ne_nil
      | cons d ds =>
        rw [higher] at front
        cases front
        exact ih (n / 10) (by omega) (by omega) higher

/-! ## Numbers -/

/-- What cannot be the continuation of a number. -/
def EndsNumber : List Char → Prop
  | [] => True
  | c :: _ => decimalDigit? c = none ∧ c ≠ '.' ∧ c ≠ 'e' ∧ c ≠ 'E'

theorem EndsNumber.startsWithDigit {rest : List Char} (h : EndsNumber rest) :
    startsWithDigit rest = false := by
  cases rest with
  | nil => rfl
  | cons c rest =>
    rw [Json.startsWithDigit, h.1]
    rfl

theorem EndsNumber.readAfterInteger {rest : List Char} (h : EndsNumber rest) (n : Nat) :
    readAfterInteger false n rest = .ok (.int n, rest) := by
  unfold Json.readAfterInteger
  split
  · exact absurd rfl h.2.1
  · exact absurd rfl h.2.2.1
  · exact absurd rfl h.2.2.2
  · rfl

theorem readUnsigned_digits {c : Char} {cs rest : List Char} (leading : c ≠ '0')
    (digits : ∀ d ∈ c :: cs, d.isDigit = true)
    (fits : Nat.ofDigitChars 10 (c :: cs) 0 ≤ maxSignificand) (ends : EndsNumber rest) :
    readUnsigned false (c :: (cs ++ rest)) = .ok (.int (Nat.ofDigitChars 10 (c :: cs) 0), rest) := by
  have first := decimalDigit?_of_isDigit (digits c List.mem_cons_self)
  have value : Nat.ofDigitChars 10 (c :: cs) 0 = Nat.ofDigitChars 10 cs (c.toNat - 48) := by
    rw [Nat.ofDigitChars_cons]
    congr 1
    show 10 * 0 + (c.toNat - 48) = c.toNat - 48
    omega
  rw [value] at fits ⊢
  have taken := takeDigits_append (fun d hd => digits d (List.mem_cons_of_mem c hd)) fits
    ends.startsWithDigit
  unfold readUnsigned
  split
  · rename_i h
    cases h
  · rename_i h
    cases h
    exact absurd rfl leading
  · rename_i h
    cases h
    simp only [first, taken, ends.startsWithDigit]
    exact ends.readAfterInteger _

/-- A printed natural number is read back, wherever it stands. -/
theorem readNumber_toDigits {n : Nat} (fits : n ≤ maxSignificand) {rest : List Char}
    (ends : EndsNumber rest) : readNumber (Nat.toDigits 10 n ++ rest) = .ok (.int n, rest) := by
  by_cases zero : n = 0
  · subst zero
    rw [Nat.toDigits_zero]
    show (if startsWithDigit rest then _ else readAfterInteger false 0 rest) = _
    rw [ends.startsWithDigit]
    exact ends.readAfterInteger 0
  · have digits : ∀ c ∈ Nat.toDigits 10 n, c.isDigit = true :=
      fun c hc => Nat.isDigit_of_mem_toDigits (by omega) (by omega) hc
    have value : Nat.ofDigitChars 10 (Nat.toDigits 10 n) 0 = n := Nat.ofDigitChars_ten_toDigits
    cases written : Nat.toDigits 10 n with
    | nil => exact absurd written Nat.toDigits_ne_nil
    | cons c cs =>
      rw [written] at digits value
      have leading : c ≠ '0' := head_toDigits_ne_zero (Nat.pos_of_ne_zero zero) written
      have unsigned : c ≠ '-' := by
        rintro rfl
        exact absurd (digits '-' List.mem_cons_self) (by decide)
      have read := readUnsigned_digits leading digits (by rw [value]; exact fits) ends
      rw [value] at read
      unfold readNumber
      split
      · rename_i h
        cases h
        exact absurd rfl unsigned
      · exact read

/-! ## Strings -/

/-- A character that stands for itself is taken as it is. -/
theorem readStringFrom_plain {c : Char} (quote : c ≠ '"') (backslash : c ≠ '\\')
    (control : ¬ c.toNat < 0x20) (taken rest : List Char) :
    readStringFrom taken (c :: rest) = readStringFrom (c :: taken) rest := by
  rw [readStringFrom, if_neg quote, if_neg backslash, if_neg control]

/-- An escape is taken as its character. -/
theorem readStringFrom_escape {cs rest : List Char} {c : Char}
    (escape : readEscape cs = .ok (c, rest)) (taken : List Char) :
    readStringFrom taken ('\\' :: cs) = readStringFrom (c :: taken) rest := by
  rw [readStringFrom]
  rw [if_neg (by decide), if_pos rfl]
  split
  · rename_i h
    rw [escape] at h
    cases h
    rfl
  · rename_i h
    rw [escape] at h
    cases h

/-- The two digits of a control character in an escape are those of its code. -/
theorem readEscape_control {n : Nat} (h : n < 0x20) (rest : List Char) :
    readEscape ('u' :: '0' :: '0' :: (n / 16).digitChar :: (n % 16).digitChar :: rest) =
      .ok (Char.ofNat n, rest) := by
  have digits : ∀ k : Fin 16, Hex.digitValue? k.val.digitChar = some k.val := by decide
  have high : Hex.digitValue? (n / 16).digitChar = some (n / 16) := digits ⟨n / 16, by omega⟩
  have low : Hex.digitValue? (n % 16).digitChar = some (n % 16) := digits ⟨n % 16, by omega⟩
  have zero : Hex.digitValue? '0' = some 0 := by decide
  have whole : ((16 * 0 + 0) * 16 + n / 16) * 16 + n % 16 = n := by omega
  have notTrailing : isTrailing n = false := by
    simp only [isTrailing, Bool.and_eq_false_iff, decide_eq_false_iff_not]
    omega
  have notLeading : isLeading n = false := by
    simp only [isLeading, Bool.and_eq_false_iff, decide_eq_false_iff_not]
    omega
  show readUnicode _ = _
  simp only [readUnicode, readUnit, high, low, zero, whole, bind, Except.bind, notTrailing,
    notLeading]
  rfl

/-- One printed character is read back. -/
theorem readStringFrom_escapeChar (c : Char) (taken rest : List Char) :
    readStringFrom taken (escapeChar c ++ rest) = readStringFrom (c :: taken) rest := by
  unfold escapeChar
  split
  · exact readStringFrom_escape rfl taken
  · exact readStringFrom_escape rfl taken
  · exact readStringFrom_escape rfl taken
  · exact readStringFrom_escape rfl taken
  · exact readStringFrom_escape rfl taken
  · exact readStringFrom_escape rfl taken
  · exact readStringFrom_escape rfl taken
  · rename_i quote backslash _ _ _ _ _
    by_cases control : c.toNat < 0x20
    · simp only [if_pos control]
      have escape := readEscape_control control rest
      rw [Char.ofNat_toNat] at escape
      exact readStringFrom_escape escape taken
    · simp only [if_neg control]
      exact readStringFrom_plain quote backslash control taken rest

/-- A printed string is read back, from behind its opening quote. -/
theorem readString_escaped (s : String) (rest : List Char) :
    readString (s.toList.flatMap escapeChar ++ '"' :: rest) = .ok (s, rest) := by
  have all (cs taken : List Char) :
      readStringFrom taken (cs.flatMap escapeChar ++ '"' :: rest) =
        .ok (String.ofList (taken.reverse ++ cs), rest) := by
    induction cs generalizing taken with
    | nil =>
      rw [List.flatMap_nil, List.nil_append, readStringFrom, if_pos rfl, List.append_nil]
    | cons c cs ih =>
      rw [List.flatMap_cons, List.append_assoc, readStringFrom_escapeChar, ih,
        List.reverse_cons, List.append_assoc, List.singleton_append]
  rw [readString, all, List.reverse_nil, List.nil_append, String.ofList_toList]

end Trainer6800.Json
