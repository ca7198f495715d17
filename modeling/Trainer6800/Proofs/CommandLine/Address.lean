import Mathlib.Data.List.Forall2
import Mathlib.Data.Nat.Digits.Defs
import Trainer6800.CommandLine.Address
import Trainer6800.Proofs.Keypad.Code

/-!
# Texts of addresses

An address is written as a hexadecimal number, with a plus sign in front of it or not, behind any number of
dollar signs and then any number of `0x` (`Address.Denotes`).  `Address.ofText` takes the marks away from
the front as long as there are any.  This can take nothing that belongs to the number, because neither a
dollar sign nor an `x` is a digit; so `Address.ofText` reads just these texts, and each as the number it
denotes, as long as this is the number of an address.
-/

namespace Trainer6800

/-- The character is a hexadecimal digit of either case, with this value. -/
def IsHexDigit (c : Char) (value : Nat) : Prop :=
  "0123456789abcdef".toList[value]? = some c.toLower

/-- The characters are hexadecimal digits, and together they are the digits of a number. -/
def IsHexNumber (digits : List Char) (n : Nat) : Prop :=
  ∃ values, List.Forall₂ IsHexDigit digits values ∧ Nat.ofDigits 16 values.reverse = n

/-! ## Digits -/

theorem isHexDigit_iff {c : Char} {value : Nat} :
    IsHexDigit c value ↔ Hex.digitValue? c = some value := by
  have all : ∀ d : Fin 16, "0123456789abcdef".toList[d.val]? = some (Hex.digit d).toLower := by decide
  by_cases below : value < 16
  · rw [← Hex.toLower_eq_digit_iff below, IsHexDigit, all ⟨value, below⟩, Option.some_inj, eq_comm]
  · have beyond : "0123456789abcdef".toList[value]? = none := by
      rw [List.getElem?_eq_none_iff]
      exact Nat.le_of_not_lt below
    rw [IsHexDigit, beyond]
    unfold Hex.digitValue?
    grind

theorem digitOf?_sixteen (c : Char) : Text.digitOf? 16 c = Hex.digitValue? c := by
  unfold Text.digitOf? Hex.digitValue?
  grind

/-- Digits are appended to a number one by one. -/
theorem foldl_eq_ofDigits (values : List Nat) (start : Nat) :
    values.foldl (fun n d => n * 16 + d) start =
      start * 16 ^ values.length + Nat.ofDigits 16 values.reverse := by
  induction values generalizing start with
  | nil => simp
  | cons d rest ih =>
    rw [List.foldl_cons, ih, List.reverse_cons, Nat.ofDigits_append, Nat.ofDigits_singleton,
      List.length_reverse, List.length_cons, pow_succ]
    ring

theorem le_foldl (values : List Nat) (start : Nat) :
    start ≤ values.foldl (fun n d => n * 16 + d) start := by
  rw [foldl_eq_ofDigits]
  exact Nat.le_add_right_of_le (Nat.le_mul_of_pos_right start (Nat.pow_pos (by decide)))

namespace Text

/-- A number with more digits is read if they are digits and it stays within its bound. -/
theorem appendDigits_eq_ok_iff {bound start n : Nat} {excess : NumeralError} {cs : List Char}
    (within : start ≤ bound) :
    appendDigits 16 bound excess start cs = .ok n ↔
      n ≤ bound ∧ ∃ values, List.Forall₂ IsHexDigit cs values ∧
        values.foldl (fun n d => n * 16 + d) start = n := by
  induction cs generalizing start with
  | nil =>
    constructor
    · intro read
      cases read
      exact ⟨within, [], .nil, rfl⟩
    · rintro ⟨-, values, digits, rfl⟩
      cases digits
      rfl
  | cons c cs ih =>
    rw [appendDigits, digitOf?_sixteen]
    cases digit : Hex.digitValue? c with
    | none =>
      refine iff_of_false nofun ?_
      rintro ⟨-, values, digits, -⟩
      cases digits with
      | cons first rest =>
        rw [isHexDigit_iff.mp first] at digit
        cases digit
    | some d =>
      have first {d' : Nat} : IsHexDigit c d' ↔ d' = d := by
        rw [isHexDigit_iff, digit, Option.some_inj, eq_comm]
      simp only
      by_cases above : bound < start * 16 + d
      · rw [if_pos above]
        refine iff_of_false nofun ?_
        rintro ⟨small, values, digits, rfl⟩
        cases digits with
        | cons own rest =>
          cases first.mp own
          exact absurd small (Nat.not_le_of_lt (Nat.lt_of_lt_of_le above (le_foldl _ _)))
      · rw [if_neg above, ih (Nat.le_of_not_lt above)]
        refine and_congr_right fun _ => ?_
        constructor
        · rintro ⟨values, digits, made⟩
          exact ⟨d :: values, .cons (first.mpr rfl) digits, made⟩
        · rintro ⟨values, digits, made⟩
          cases digits with
          | cons own rest =>
            cases first.mp own
            exact ⟨_, rest, made⟩

theorem readDigits_eq_ok_iff {bound n : Nat} {excess : NumeralError} {cs : List Char} :
    readDigits 16 bound excess cs = .ok n ↔ n ≤ bound ∧ cs ≠ [] ∧ IsHexNumber cs n := by
  unfold readDigits
  cases cs with
  | nil => simp
  | cons c cs =>
    rw [if_neg (by simp), appendDigits_eq_ok_iff (Nat.zero_le bound)]
    simp only [foldl_eq_ofDigits, Nat.zero_mul, Nat.zero_add, ne_eq, reduceCtorEq, not_false_eq_true,
      true_and, IsHexNumber]

end Text

/-! ## Signs and marks -/

/-- The text is a number with a plus sign in front of it or not. -/
def IsNumeral (text : List Char) (n : Nat) : Prop :=
  ∃ sign digits, text = sign ++ digits ∧ (sign = [] ∨ sign = ['+']) ∧ digits ≠ [] ∧ IsHexNumber digits n

/-- The characters that are digits are neither a sign nor part of a mark. -/
theorem not_isHexDigit {c : Char} (other : c = '+' ∨ c = '$' ∨ c = 'x') (value : Nat) :
    ¬ IsHexDigit c value := by
  rw [isHexDigit_iff]
  rcases other with rfl | rfl | rfl
  · exact nofun
  · exact nofun
  · exact nofun

theorem IsHexNumber.isHexDigit {digits : List Char} {n : Nat} (h : IsHexNumber digits n) {c : Char}
    (mem : c ∈ digits) : ∃ value, IsHexDigit c value := by
  obtain ⟨values, digits, -⟩ := h
  induction digits with
  | nil => cases mem
  | cons first rest ih =>
    rcases List.mem_cons.mp mem with rfl | later
    · exact ⟨_, first⟩
    · exact ih later

theorem Text.readNatural_cons {bound : Nat} {c : Char} (other : c ≠ '+') (cs : List Char) :
    readNatural 16 bound (c :: cs) = readDigits 16 bound .tooLarge (c :: cs) := by
  rw [readNatural]
  · exact nofun
  · rintro digits same
    cases same
    exact other rfl

theorem Text.readNatural_eq_ok_iff {bound n : Nat} {text : List Char} :
    readNatural 16 bound text = .ok n ↔ n ≤ bound ∧ IsNumeral text n := by
  cases text with
  | nil =>
    refine iff_of_false nofun ?_
    rintro ⟨-, sign, digits, split, -, some, -⟩
    exact some (List.append_eq_nil_iff.mp split.symm).2
  | cons c cs =>
    by_cases plus : c = '+'
    · subst plus
      rw [readNatural, readDigits_eq_ok_iff]
      refine and_congr_right fun _ => ⟨?_, ?_⟩
      · rintro ⟨some, number⟩
        exact ⟨['+'], cs, rfl, .inr rfl, some, number⟩
      · rintro ⟨sign, digits, split, rfl | rfl, some, number⟩
        · rw [List.nil_append] at split
          subst split
          obtain ⟨value, digit⟩ := number.isHexDigit List.mem_cons_self
          exact absurd digit (not_isHexDigit (.inl rfl) value)
        · cases split
          exact ⟨some, number⟩
    · rw [readNatural_cons plus, readDigits_eq_ok_iff]
      refine and_congr_right fun _ => ⟨?_, ?_⟩
      · rintro ⟨some, number⟩
        exact ⟨[], c :: cs, rfl, .inl rfl, some, number⟩
      · rintro ⟨sign, digits, split, rfl | rfl, some, number⟩
        · rw [List.nil_append] at split
          exact ⟨split ▸ some, split ▸ number⟩
        · cases split
          exact absurd rfl plus

namespace Address

/-- Any number of marks of the two kinds. -/
def marks (dollars others : Nat) : List Char :=
  List.replicate dollars '$' ++ (List.replicate others ['0', 'x']).flatten

/-- The text denotes a number: behind its marks it is a numeral. -/
def Denotes (text : List Char) (n : Nat) : Prop :=
  ∃ dollars others rest, text = marks dollars others ++ rest ∧ IsNumeral rest n

theorem exists_replicate_dropMarks (text : List Char) :
    ∃ others, text = (List.replicate others ['0', 'x']).flatten ++ dropMarks text := by
  fun_induction dropMarks text with
  | case1 rest ih =>
    obtain ⟨others, split⟩ := ih
    exact ⟨others + 1, congrArg (['0', 'x'] ++ ·) split⟩
  | case2 text other => exact ⟨0, rfl⟩

/-- Everything in front of the numeral is a mark. -/
theorem exists_marks_append (text : List Char) :
    ∃ dollars others, text = marks dollars others ++ numeral text := by
  have dollars : text.takeWhile (· == '$') =
      List.replicate (text.takeWhile (· == '$')).length '$' :=
    List.eq_replicate_of_mem fun c mem => beq_iff_eq.mp (List.all_eq_true.mp List.all_takeWhile c mem)
  obtain ⟨others, split⟩ := exists_replicate_dropMarks (text.dropWhile (· == '$'))
  refine ⟨(text.takeWhile (· == '$')).length, others, ?_⟩
  rw [marks, ← dollars, List.append_assoc, numeral, ← split, List.takeWhile_append_dropWhile]

/-- The characters of a numeral are a sign or digits. -/
theorem mem_numeral {text : List Char} {n : Nat} (h : IsNumeral text n) {c : Char} (mem : c ∈ text) :
    c = '+' ∨ ∃ value, IsHexDigit c value := by
  obtain ⟨sign, digits, rfl, sign, -, number⟩ := h
  rcases List.mem_append.mp mem with inSign | inDigits
  · rcases sign with rfl | rfl
    · cases inSign
    · exact .inl (List.mem_singleton.mp inSign)
  · exact .inr (number.isHexDigit inDigits)

theorem dropMarks_append (others : Nat) (rest : List Char) :
    dropMarks ((List.replicate others ['0', 'x']).flatten ++ rest) = dropMarks rest := by
  induction others with
  | zero => rfl
  | succ others ih => exact ih

/-- A numeral does not begin with a mark, so that only the marks in front of it are taken away. -/
theorem numeral_marks_append {text : List Char} {n : Nat} (h : IsNumeral text n) (dollars others : Nat) :
    numeral (marks dollars others ++ text) = text := by
  have plain {c : Char} (mem : c ∈ text) : c ≠ '$' ∧ c ≠ 'x' := by
    rcases mem_numeral h mem with rfl | ⟨value, digit⟩
    · decide
    · refine ⟨?_, ?_⟩
      · rintro rfl
        exact not_isHexDigit (.inr (.inl rfl)) value digit
      · rintro rfl
        exact not_isHexDigit (.inr (.inr rfl)) value digit
  have notDollar : text.dropWhile (· == '$') = text := by
    cases text with
    | nil => rfl
    | cons c cs => exact List.dropWhile_cons_of_neg (by simpa using (plain List.mem_cons_self).1)
  have notMark : dropMarks text = text := by
    cases text with
    | nil => rfl
    | cons c cs =>
      rw [dropMarks]
      rintro rest same
      cases same
      exact (plain (List.mem_cons_of_mem _ List.mem_cons_self)).2 rfl
  have dollarsGone : (marks dollars others ++ text).dropWhile (· == '$') =
      (List.replicate others ['0', 'x']).flatten ++ text := by
    have all : ∀ c ∈ List.replicate dollars '$', (c == '$') = true := fun c mem =>
      beq_iff_eq.mpr (List.eq_of_mem_replicate mem)
    rw [marks, List.append_assoc, List.dropWhile_append_of_pos all]
    cases others with
    | zero => exact notDollar
    | succ others => rfl
  rw [numeral, dollarsGone, dropMarks_append, notMark]

/-- A text is read if it denotes a number that an address can have. -/
theorem ofText_eq_ok_iff {text : String} {address : UInt16} :
    ofText text = .ok address ↔ Denotes text.toList address.toNat := by
  have numbered : (∃ n, Text.readNatural 16 0xFFFF (numeral text.toList) = .ok n ∧
      UInt16.ofNat n = address) ↔ IsNumeral (numeral text.toList) address.toNat := by
    constructor
    · rintro ⟨n, read, rfl⟩
      obtain ⟨small, numeral⟩ := Text.readNatural_eq_ok_iff.mp read
      rwa [UInt16.toNat_ofNat_of_lt' (Nat.lt_succ_of_le small)]
    · intro numeral
      exact ⟨address.toNat, Text.readNatural_eq_ok_iff.mpr ⟨Nat.le_of_lt_succ address.toNat_lt, numeral⟩,
        UInt16.ofNat_toNat⟩
  have read : ofText text = .ok address ↔ ∃ n,
      Text.readNatural 16 0xFFFF (numeral text.toList) = .ok n ∧ UInt16.ofNat n = address := by
    unfold ofText
    cases Text.readNatural 16 0xFFFF (numeral text.toList) with
    | ok n => simp
    | error cause => simp
  rw [read, numbered]
  constructor
  · intro behind
    obtain ⟨dollars, others, split⟩ := exists_marks_append text.toList
    exact ⟨dollars, others, _, split, behind⟩
  · rintro ⟨dollars, others, rest, split, behind⟩
    rwa [split, numeral_marks_append behind]

/-- What is not read is reported together with the text. -/
theorem exists_error {text : String} (refused : ∀ address, ofText text ≠ .ok address) :
    ∃ cause, ofText text = .error ⟨text, cause⟩ := by
  cases read : Text.readNatural 16 0xFFFF (numeral text.toList) with
  | ok n => exact absurd (by rw [ofText, read]) (refused (UInt16.ofNat n))
  | error cause => exact ⟨cause, by rw [ofText, read]⟩

end Address

/-! ## Numbers written out -/

theorem IsHexNumber.append_digit {digits : List Char} {n value : Nat} {c : Char}
    (number : IsHexNumber digits n) (digit : IsHexDigit c value) :
    IsHexNumber (digits ++ [c]) (value + 16 * n) := by
  obtain ⟨values, digits, rfl⟩ := number
  refine ⟨values ++ [value], List.rel_append digits (.cons digit .nil), ?_⟩
  rw [List.reverse_append, List.reverse_singleton, List.singleton_append, Nat.ofDigits_cons]

/-- Zeros in front do not change a number. -/
theorem IsHexNumber.zeros {digits : List Char} {n : Nat} (number : IsHexNumber digits n) (zeros : Nat) :
    IsHexNumber (List.replicate zeros '0' ++ digits) n := by
  induction zeros with
  | zero => exact number
  | succ zeros ih =>
    obtain ⟨values, digits, value⟩ := ih
    refine ⟨0 :: values, .cons (isHexDigit_iff.mpr rfl) digits, ?_⟩
    rw [List.reverse_cons, Nat.ofDigits_append, value, Nat.ofDigits_singleton, Nat.mul_zero, Nat.add_zero]

/-- The digits of a number are read as this number, however each digit is spelled. -/
theorem isHexNumber_hexDigits {spelled : Char → Char}
    (same : ∀ d : Fin 16, IsHexDigit (spelled (Nat.digitChar d)) d) (n : Nat) :
    IsHexNumber ((Text.hexDigits n).map spelled) n := by
  unfold Text.hexDigits
  induction n using Nat.strongRecOn with
  | ind n ih =>
    by_cases single : n < 16
    · rw [Nat.toDigits_of_lt_base single]
      exact ⟨[n], .cons (same ⟨n, single⟩) .nil, Nat.ofDigits_singleton⟩
    · have some : 16 ≤ n := Nat.le_of_not_lt single
      have smaller : n / 16 < n := Nat.div_lt_self (by omega) (by decide)
      have last : IsHexDigit (spelled (Nat.digitChar (n % 16))) (n % 16) :=
        same ⟨n % 16, Nat.mod_lt n (by decide)⟩
      rw [Nat.toDigits_of_base_le (by decide) some, List.map_append, List.map_singleton]
      simpa only [Nat.mod_add_div] using (ih _ smaller).append_digit last

namespace Address

theorem exists_ofText_eq_ok_iff {text : String} {n : Nat} :
    (∃ address, ofText text = .ok address ∧ address.toNat = n) ↔ Denotes text.toList n ∧ n ≤ 65535 := by
  constructor
  · rintro ⟨address, read, rfl⟩
    exact ⟨ofText_eq_ok_iff.mp read, Nat.le_of_lt_succ address.toNat_lt⟩
  · rintro ⟨denotes, small⟩
    have own : (UInt16.ofNat n).toNat = n := UInt16.toNat_ofNat_of_lt' (Nat.lt_succ_of_le small)
    exact ⟨UInt16.ofNat n, ofText_eq_ok_iff.mpr (by rwa [own]), own⟩

/-- An address is read however it is marked and its digits are spelled, and with any number of zeros in
front. -/
theorem ofText_hexDigits {mark : String} {dollars others : Nat} {spelled : Char → Char}
    (marked : mark.toList = marks dollars others)
    (same : ∀ d : Fin 16, IsHexDigit (spelled (Nat.digitChar d)) d) (address : UInt16) (zeros : Nat) :
    ofText (mark ++ String.ofList
      (List.replicate zeros '0' ++ (Text.hexDigits address.toNat).map spelled)) = .ok address := by
  have some : List.replicate zeros '0' ++ (Text.hexDigits address.toNat).map spelled ≠ [] := by
    intro none
    exact Nat.toDigits_ne_nil (List.map_eq_nil_iff.mp (List.append_eq_nil_iff.mp none).2)
  refine ofText_eq_ok_iff.mpr ⟨dollars, others, _, ?_, [], _, rfl, .inl rfl, some,
    (isHexNumber_hexDigits same _).zeros zeros⟩
  rw [String.toList_append, String.toList_ofList, marked, List.nil_append]

/-- **The texts that are read.**  A text is read as a number just when it denotes it and the number is at
most `65535`; every other text is an error.  Among the texts that are read are those that a number is
commonly written as: plain, behind a dollar sign or behind `0x`, with any number of leading zeros and in
either case. -/
theorem read_iff_denotes :
    (∀ (text : String) (n : Nat),
      (∃ address, ofText text = .ok address ∧ address.toNat = n) ↔ Denotes text.toList n ∧ n ≤ 65535) ∧
    (∀ text : String, (¬ ∃ n, Denotes text.toList n ∧ n ≤ 65535) →
      ∃ cause, ofText text = .error ⟨text, cause⟩) ∧
    ∀ (address : UInt16) (zeros : Nat), ∀ mark ∈ ["", "$", "0x"], ∀ spelled ∈ [id, Char.toUpper],
      ofText (mark ++ String.ofList
        (List.replicate zeros '0' ++ (Text.hexDigits address.toNat).map spelled)) = .ok address := by
  refine ⟨fun text n => exists_ofText_eq_ok_iff, fun text other => ?_,
    fun address zeros mark marked spelled case => ?_⟩
  · exact exists_error fun address read =>
      other ⟨address.toNat, exists_ofText_eq_ok_iff.mp ⟨address, read, rfl⟩⟩
  · have front : ∃ dollars others, mark.toList = marks dollars others := by
      simp only [List.mem_cons, List.not_mem_nil, or_false] at marked
      rcases marked with rfl | rfl | rfl
      · exact ⟨0, 0, rfl⟩
      · exact ⟨1, 0, rfl⟩
      · exact ⟨0, 1, rfl⟩
    have same : ∀ d : Fin 16, IsHexDigit (spelled (Nat.digitChar d)) d := by
      simp only [List.mem_cons, List.not_mem_nil, or_false] at case
      unfold IsHexDigit
      rcases case with rfl | rfl
      · decide
      · decide
    obtain ⟨dollars, others, front⟩ := front
    exact ofText_hexDigits front same address zeros

/-- The monitor's first address behind marks of both kinds, a number one beyond the last address, and the
monitor's first address as it is commonly written. -/
theorem read_iff_denotes_monitor :
    Denotes "$$0x+00fC00".toList 0xFC00 ∧
    (∃ address, ofText "$$0x+00fC00" = .ok address ∧ address.toNat = 0xFC00) ∧
    (∃ cause, ofText "0x10000" = .error ⟨"0x10000", cause⟩) ∧
    ofText "$FC00" = .ok 0xFC00 := by
  have digits : List.Forall₂ IsHexDigit "00fC00".toList [0, 0, 15, 12, 0, 0] := by
    repeat' apply List.Forall₂.cons
    all_goals first | exact .nil | exact isHexDigit_iff.mpr (by decide)
  have denotes : Denotes "$$0x+00fC00".toList 0xFC00 :=
    ⟨2, 1, "+00fC00".toList, by decide, ['+'], "00fC00".toList, by decide, .inr rfl, by decide, _, digits,
      by decide⟩
  refine ⟨denotes, (read_iff_denotes.1 _ _).mpr ⟨denotes, by decide⟩, read_iff_denotes.2.1 _ ?_, ?_⟩
  · rintro ⟨n, denotes⟩
    obtain ⟨address, read, -⟩ := (read_iff_denotes.1 _ _).mpr denotes
    have tooLarge : ofText "0x10000" = .error ⟨"0x10000", .tooLarge⟩ := by decide
    rw [tooLarge] at read
    cases read
  · exact read_iff_denotes.2.2 0xFC00 0 "$" (by decide) Char.toUpper
      (List.mem_cons_of_mem _ List.mem_cons_self)

end Address

end Trainer6800
