import Mathlib.Data.List.DropRight
import Mathlib.Data.List.Forall2
import Trainer6800.Machine.Basic
import Trainer6800.Proofs.Keypad.Code
import Trainer6800.Proofs.Machine.SavedState
import Trainer6800.Proofs.Results

/-!
# Spellings of keys

A text spells a key when what is left of it without the blanks at its ends is the key's code, letter by
letter and in either case (`Key.Spells`).  This is said without the function that takes the blanks away
and without the one that makes letters small; that these two do the same is `Text.isTrimmed_iff` and
`sameLetter_iff`.

A text is taken for a key in several places: by itself, in a command to press or release a key, and in
JSON.  All of them take the spellings of a key for this key and nothing else for any key, and what they
refuse they report with all of the text, blanks included (`Key.spellings_read`).
-/

namespace Trainer6800

/-! ## Blanks and letters -/

namespace Text

/-- The second text is the first one without the blanks at its ends. -/
structure IsTrimmed (text inner : List Char) : Prop where
  split : ∃ before after, text = before ++ inner ++ after ∧ ∀ c ∈ before ++ after, c ∈ blanks
  first : ∀ c ∈ inner.head?, c ∉ blanks
  last : ∀ c ∈ inner.getLast?, c ∉ blanks

theorem isBlank_iff {c : Char} : isBlank c = true ↔ c ∈ blanks := by
  simp [isBlank]

/-- Of blanks and a text that does not begin with one only the text is left. -/
theorem dropWhile_isBlank {before rest : List Char} (blank : ∀ c ∈ before, c ∈ blanks)
    (stops : ∀ c ∈ rest.head?, c ∉ blanks) : (before ++ rest).dropWhile isBlank = rest := by
  rw [List.dropWhile_append_of_pos fun c mem => isBlank_iff.mpr (blank c mem)]
  cases rest with
  | nil => rfl
  | cons c cs =>
    have other : ¬ isBlank c = true := mt isBlank_iff.mp (stops c rfl)
    rw [List.dropWhile_cons_of_neg other]

/-- What is left does not begin with a blank. -/
theorem head?_dropWhile_isBlank (text : List Char) : ∀ c ∈ (text.dropWhile isBlank).head?, c ∉ blanks := by
  intro c first
  have stopped := List.head?_dropWhile_not isBlank text
  rw [Option.mem_def.mp first] at stopped
  rw [← isBlank_iff, stopped]
  exact Bool.false_ne_true

theorem isTrimmed_trimBlanks (text : List Char) : IsTrimmed text (trimBlanks text) := by
  have inner : trimBlanks text = (text.dropWhile isBlank).rdropWhile isBlank := rfl
  refine ⟨⟨text.takeWhile isBlank, (text.dropWhile isBlank).rtakeWhile isBlank, ?_, ?_⟩, ?_, ?_⟩
  · rw [inner, List.append_assoc, List.rdropWhile_append_rtakeWhile, List.takeWhile_append_dropWhile]
  · intro c mem
    rcases List.mem_append.mp mem with front | back
    · exact isBlank_iff.mp (List.mem_takeWhile_imp front)
    · exact isBlank_iff.mp (List.mem_rtakeWhile_imp back)
  · intro c first
    apply head?_dropWhile_isBlank text
    obtain ⟨behind, joined⟩ := List.rdropWhile_prefix isBlank (l := text.dropWhile isBlank)
    obtain ⟨cs, shape⟩ := List.head?_eq_some_iff.mp first
    rw [← joined, ← inner, shape]
    rfl
  · intro c last
    rw [trimBlanks, List.getLast?_reverse] at last
    exact head?_dropWhile_isBlank _ c last

/-- Taking away the blanks at the ends leaves one text, and this is it. -/
theorem isTrimmed_iff {text inner : List Char} : IsTrimmed text inner ↔ trimBlanks text = inner := by
  constructor
  · rintro ⟨⟨before, after, rfl, blank⟩, first, last⟩
    have front : ∀ c ∈ before, c ∈ blanks := fun c mem => blank c (List.mem_append_left _ mem)
    have back : ∀ c ∈ after, c ∈ blanks := fun c mem => blank c (List.mem_append_right _ mem)
    cases inner with
    | nil =>
      have all : ∀ c ∈ before ++ after, isBlank c = true := fun c mem => isBlank_iff.mpr (blank c mem)
      rw [List.append_nil, trimBlanks, List.dropWhile_eq_nil_iff.mpr all]
      rfl
    | cons c cs =>
      have starts : ∀ d ∈ ((c :: cs) ++ after).head?, d ∉ blanks := first
      have ends : ∀ d ∈ (c :: cs).reverse.head?, d ∉ blanks := by
        rwa [List.head?_reverse]
      have behind : ∀ d ∈ after.reverse, d ∈ blanks := fun d mem => back d (List.mem_reverse.mp mem)
      rw [trimBlanks, List.append_assoc, dropWhile_isBlank front starts, List.reverse_append,
        dropWhile_isBlank behind ends, List.reverse_reverse]
  · rintro rfl
    exact isTrimmed_trimBlanks text

end Text

/-- The characters are the same, or they are the two cases of one of the letters from `a` to `z`. -/
def SameLetter (c d : Char) : Prop :=
  c = d ∨ ∃ n < 26, (c.toNat = 65 + n ∧ d.toNat = 97 + n) ∨ (c.toNat = 97 + n ∧ d.toNat = 65 + n)

theorem sameLetter_iff {c d : Char} : SameLetter c d ↔ c.toLower = d.toLower := by
  rw [SameLetter, ← Char.toNat_inj, ← Char.toNat_inj, Hex.toNat_toLower, Hex.toNat_toLower]
  constructor
  · rintro (same | ⟨n, small, ⟨first, second⟩ | ⟨first, second⟩⟩)
    · rw [same]
    · split_ifs <;> omega
    · split_ifs <;> omega
  · intro same
    by_cases equal : c.toNat = d.toNat
    · exact .inl equal
    · refine .inr ?_
      split_ifs at same with capital capital'
      · omega
      · exact ⟨c.toNat - 65, by omega, .inl (by omega)⟩
      · exact ⟨d.toNat - 65, by omega, .inr (by omega)⟩
      · omega

theorem forall₂_sameLetter_iff {cs ds : List Char} :
    List.Forall₂ SameLetter cs ds ↔ cs.map Char.toLower = ds.map Char.toLower := by
  have letters : SameLetter = fun c d => c.toLower = d.toLower := by
    funext c d
    exact propext sameLetter_iff
  rw [letters, ← List.forall₂_eq_eq_eq, List.forall₂_map_left_iff, List.forall₂_map_right_iff]

namespace Key

/-! ## Spellings -/

/-- The text is the key's code in letters of either case, apart from blanks at its ends. -/
def Spells (text : String) (key : Key) : Prop :=
  ∃ inner, Text.IsTrimmed text.toList inner ∧ List.Forall₂ SameLetter inner key.code.toList

theorem spells_iff_names {text : String} {key : Key} : Spells text key ↔ Names text key := by
  constructor
  · rintro ⟨inner, trimmed, letters⟩
    rw [Names, Text.isTrimmed_iff.mp trimmed]
    exact forall₂_sameLetter_iff.mp letters
  · intro names
    exact ⟨_, Text.isTrimmed_trimBlanks _, forall₂_sameLetter_iff.mpr names⟩

theorem ofText_eq_ok_iff_spells {text : String} {key : Key} :
    ofText text = .ok key ↔ Spells text key := by
  rw [spells_iff_names, ofText_eq_ok_iff]

theorem ofText_eq_error_iff_spells {text : String} {e : UnknownKey} :
    ofText text = .error e ↔ (∀ key, ¬ Spells text key) ∧ e = ⟨text⟩ := by
  simp only [spells_iff_names, ofText_eq_error_iff]

/-- A text is read as one key, so it spells no other. -/
theorem Spells.unique {text : String} {key key' : Key} (first : Spells text key)
    (second : Spells text key') : key = key' := by
  have read := ofText_eq_ok_iff_spells.mpr first
  rw [ofText_eq_ok_iff_spells.mpr second] at read
  exact (Except.ok.inj read).symm

/-! ## Wherever a key is expected -/

/-- A reading of texts takes the spellings of a key for this key, and refuses every other text with all
of it. -/
structure ReadsSpellings {α : Type} (read : String → Except UnknownKey α) (result : Key → α) : Prop where
  taken : ∀ text key, Spells text key → read text = .ok (result key)
  refused : ∀ text, (∀ key, ¬ Spells text key) → read text = .error ⟨text⟩

theorem readsSpellings_map {α : Type} (result : Key → α) :
    ReadsSpellings (fun text => (ofText text).map result) result where
  taken text key spelled := by
    rw [ofText_eq_ok_iff_spells.mpr spelled]
    rfl
  refused text unspelled := by
    rw [ofText_eq_error_iff_spells.mpr ⟨unspelled, rfl⟩]
    rfl

/-- JSON gives a key just where it gives a string that spells it, as a value or as a document, and what is
wrong with another string is said with all of it. -/
structure GivenByStrings : Prop where
  value : ∀ v key, codec.decode v = .ok key ↔ ∃ text, v = .string text ∧ Spells text key
  document : ∀ json key,
    codec.ofText json = .ok key ↔ ∃ text, Json.Codec.string.ofText json = .ok text ∧ Spells text key
  valueRefused : ∀ text, (∀ key, ¬ Spells text key) →
    codec.decode (.string text) = .error (.mismatch (.condition (UnknownKey.message ⟨text⟩)))
  documentRefused : ∀ json text, Json.Codec.string.ofText json = .ok text → (∀ key, ¬ Spells text key) →
    codec.ofText json = .error (.mismatch (.condition (UnknownKey.message ⟨text⟩)))

theorem givenByStrings : GivenByStrings where
  value v key := by
    rw [codec, Json.Codec.decode_refine_eq_ok_iff]
    simp only [mapError_eq_ok_iff, ofText_eq_ok_iff_spells]
    constructor
    · rintro ⟨text, given, spelled⟩
      cases v with
      | string s =>
        cases given
        exact ⟨text, rfl, spelled⟩
      | _ => cases given
    · rintro ⟨text, rfl, spelled⟩
      exact ⟨text, rfl, spelled⟩
  document json key := by
    rw [codec, Json.Codec.ofText_refine_eq_ok_iff]
    simp only [mapError_eq_ok_iff, ofText_eq_ok_iff_spells]
  valueRefused text unspelled := by
    show (((ofText text).mapError UnknownKey.message).mapError _) = _
    rw [ofText_eq_error_iff_spells.mpr ⟨unspelled, rfl⟩]
    rfl
  documentRefused json text given unspelled := by
    apply Json.Codec.ofText_refine_eq_error given
    rw [ofText_eq_error_iff_spells.mpr ⟨unspelled, rfl⟩]
    rfl

/-- **The texts that are keys.**  A text is read as a key just when it spells it, and every other text is
refused as it stands.  The same texts press and release keys and are keys in JSON, and no text spells two
keys. -/
theorem spellings_read :
    (∀ (text : String) (key : Key), ofText text = .ok key ↔ Spells text key) ∧
    (∀ (text : String) (e : UnknownKey),
      ofText text = .error e ↔ (∀ key, ¬ Spells text key) ∧ e = ⟨text⟩) ∧
    (∀ m : Machine, ReadsSpellings m.pressKeyCode m.pressKey ∧
      ReadsSpellings m.releaseKeyCode m.releaseKey) ∧
    GivenByStrings ∧
    ∀ (text : String) (key key' : Key), Spells text key → Spells text key' → key = key' :=
  ⟨fun _ _ => ofText_eq_ok_iff_spells, fun _ _ => ofText_eq_error_iff_spells,
    fun m => ⟨readsSpellings_map m.pressKey, readsSpellings_map m.releaseKey⟩, givenByStrings,
    fun _ _ _ first second => first.unique second⟩

/-- RESET between two of the wide blanks, and a digit of another script, which is no digit here. -/
theorem spellings_read_wide :
    let reset := "\u3000rEsEt\u0085"
    let other := " \uff11\t"
    Spells reset .reset ∧ (∀ key, ¬ Spells other key) ∧
      Machine.bare.pressKeyCode reset = .ok (Machine.bare.pressKey .reset) ∧
      Machine.bare.releaseKeyCode other = .error ⟨other⟩ ∧
      codec.decode (.string reset) = .ok .reset ∧
      codec.decode (.string other) = .error (.mismatch (.condition (UnknownKey.message ⟨other⟩))) ∧
      ∀ key, Spells reset key → key = .reset := by
  intro reset other
  have spelled : Spells reset .reset := (spellings_read.1 reset .reset).mp (by decide)
  have unspelled : ∀ key, ¬ Spells other key := ((spellings_read.2.1 other ⟨other⟩).mp (by decide)).1
  obtain ⟨-, -, machine, json, one⟩ := spellings_read
  exact ⟨spelled, unspelled, (machine .bare).1.taken reset .reset spelled,
    (machine .bare).2.refused other unspelled, (json.value _ _).mpr ⟨reset, rfl, spelled⟩,
    json.valueRefused other unspelled, fun key also => one reset key .reset also spelled⟩

end Key

end Trainer6800
