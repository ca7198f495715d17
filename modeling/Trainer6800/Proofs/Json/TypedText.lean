import Trainer6800.Proofs.Json.Codec
import Trainer6800.Proofs.Results

/-!
# Typed text

A codec reads its elements straight from text, without a value in between: from behind what was read
before, field by field and element by element.  `Codec.Lossless` says that it finds its way through the
text of an encoded element, in any layout and whatever comes behind it, and that it is faithful on
values.  Again this is shown once for each way of building a codec: for scalars, lists, vectors and
pairs here, for records and choices in `Codec.lossless_record` and `Codec.lossless_choice`.
-/

namespace Trainer6800.Json

/-- Printed elements are read back, and encoded elements decode. -/
structure Codec.Lossless {α : Type} (c : Codec α) : Prop extends c.Faithful where
  /-- Blanks in front of an element do not matter. -/
  skips : ∀ {b : List Char}, Blank b → ∀ cs, c.read (b ++ cs) = c.read cs
  starts : ∀ a (l : Layout) level rest, StartsItem ((c.encode a).lay l level ++ rest)
  reads : ∀ a (l : Layout) level {rest}, EndsNumber rest →
    c.read ((c.encode a).lay l level ++ rest) = .ok (a, rest)

namespace Codec

variable {α β : Type}

/-! ## What values start with -/

theorem startsItem_array (vs : List Value) (l : Layout) (level : Nat) (rest : List Char) :
    StartsItem ((Value.array vs).lay l level ++ rest) := by
  cases vs with
  | nil => exact ⟨rfl, by decide⟩
  | cons v vs =>
    simp only [Value.lay, List.cons_append]
    exact ⟨rfl, by decide⟩

theorem startsItem_object (ms : Members) (l : Layout) (level : Nat) (rest : List Char) :
    StartsItem ((Value.object ms).lay l level ++ rest) := by
  cases ms with
  | nil => exact ⟨rfl, by decide⟩
  | cons m ms =>
    simp only [Value.lay, List.cons_append]
    exact ⟨rfl, by decide⟩

/-! ## Scalars and strings -/

theorem natural_read_lay {expected : String} {bound n : Nat} (fits : bound ≤ maxSignificand + 1)
    (below : n < bound) (l : Layout) (level : Nat) {rest : List Char} (ends : EndsNumber rest) :
    (natural expected bound).read ((Value.ofNat n).lay l level ++ rest) = .ok (n, rest) := by
  have read := readNumber_toDigits (show n ≤ maxSignificand by omega) ends
  obtain ⟨c, cs, digits, digit⟩ := exists_toDigits_eq_cons n
  rw [digits, List.cons_append] at read
  rw [Value.ofNat, Value.lay, natural_text, digits, List.cons_append]
  simp only [natural, skipBlanks_cons (isBlank_of_isDigit digit)]
  rw [if_pos (.inr (by rw [decimalDigit?_of_isDigit digit]; rfl)), read]
  simp [bind, Except.bind, admitNatural, below, pure, Except.pure]

/-- Numbers of at most 64 bits. -/
theorem lossless_natural {expected : String} {bound : Nat} {f : Nat → α} {g : α → Nat}
    (fits : bound ≤ maxSignificand + 1) (below : ∀ a, g a < bound) (inverse : ∀ a, f (g a) = a) :
    ((natural expected bound).map f g).Lossless where
  toFaithful := faithful_natural fits below inverse
  skips blank cs := by
    simp only [Codec.map, natural, skipBlanks_append blank]
  starts a l level rest := by
    have plain : (Value.ofNat (g a)).Plain := .natural (by have := below a; omega)
    exact plain.startsItem l level rest
  reads a l level rest ends := by
    show ((natural expected bound).read ((Value.ofNat (g a)).lay l level ++ rest)).map _ = _
    rw [natural_read_lay fits (below a) l level ends]
    show Except.ok (f (g a), rest) = _
    rw [inverse]

theorem lossless_byte : byte.Lossless :=
  lossless_natural (by decide) UInt8.toNat_lt fun _ => UInt8.ofNat_toNat

theorem lossless_word : word.Lossless :=
  lossless_natural (by decide) UInt16.toNat_lt fun _ => UInt16.ofNat_toNat

theorem lossless_doubleWord : doubleWord.Lossless :=
  lossless_natural (by decide) UInt32.toNat_lt fun _ => UInt32.ofNat_toNat

theorem lossless_quadWord : quadWord.Lossless :=
  lossless_natural (by decide) UInt64.toNat_lt fun _ => UInt64.ofNat_toNat

theorem lossless_count : count.Lossless :=
  lossless_natural (by decide) UInt64.toNat_lt fun _ => UInt64.ofNat_toNat

theorem lossless_bool : bool.Lossless where
  plain := .bool
  decodes _ := rfl
  skips blank cs := by
    simp only [bool, skipBlanks_append blank]
  starts b l level rest := (Value.Plain.bool b).startsItem l level rest
  reads b l level rest ends := by
    cases b with
    | false => rfl
    | true => rfl

theorem lossless_string : string.Lossless where
  toFaithful := faithful_string
  skips blank cs := by
    simp only [string, skipBlanks_append blank]
  starts s l level rest := (Value.Plain.string s).startsItem l level rest
  reads s l level rest ends := by
    show string.read (stringText s ++ rest) = _
    rw [stringText_append]
    simp only [string, skipBlanks_cons (show isBlank '"' = false from rfl)]
    exact readString_escaped s rest

/-- A check that what was checked passes again. -/
theorem Lossless.refine {c : Codec α} (h : c.Lossless) {f : α → Except String β} {g : β → α}
    (passes : ∀ b, f (g b) = .ok b) : (c.refine f g).Lossless where
  toFaithful := h.toFaithful.refine passes
  skips blank cs := by
    simp only [Codec.refine, h.skips blank]
  starts b := h.starts (g b)
  reads b l level rest ends := by
    show (c.read ((c.encode (g b)).lay l level ++ rest)).bind _ = _
    rw [h.reads (g b) l level ends]
    show ((f (g b)).mapError _).bind _ = _
    rw [passes]
    rfl

/-! ## Lists, vectors and pairs -/

theorem Lossless.readsItem {c : Codec α} (h : c.Lossless) (l : Layout) (level : Nat) (a : α) :
    l.ReadsItem level c.read a (c.encode a) :=
  ⟨h.starts a l level, h.reads a l level⟩

theorem Lossless.list {c : Codec α} (h : c.Lossless) : (list c).Lossless where
  toFaithful := h.toFaithful.list
  skips blank cs := by
    simp only [Codec.list, skipBlanks_append blank]
  starts as l level rest := startsItem_array _ l level rest
  reads as l level rest ends := by
    obtain ⟨text, laid, read⟩ := readElements_lay
      (fun a (_ : a ∈ as) => h.readsItem l (level + 1) a) rest
    show (Codec.list c).read ((Value.array (as.map c.encode)).lay l level ++ rest) = _
    rw [laid]
    simp only [Codec.list, skipBlanks_cons (show isBlank '[' = false from rfl)]
    exact read

theorem closeArray_append {b : List Char} (blank : Blank b) (rest : List Char) :
    closeArray (b ++ ']' :: rest) = .ok rest := by
  rw [closeArray, skipBlanks_append blank, skipBlanks_cons rfl]
  rfl

/-- One more element of a vector. -/
theorem readExactly_item {c : Codec α} {expected : String} {i n : Nat}
    {cs text behind rest : List Char} {a : α} {as : List α} (length : as.length = n)
    (next : nextElement (i == 0) cs = .ok (.item text)) (read : c.read text = .ok (a, behind))
    (later : readExactly c expected (i + 1) n behind = .ok (⟨as.toArray, length⟩, rest)) :
    readExactly c expected i (n + 1) cs = .ok (⟨(a :: as).toArray, by simp [length]⟩, rest) := by
  rw [readExactly, next]
  show (c.read text).bind _ = _
  rw [read]
  show (readExactly c expected (i + 1) n behind).bind _ = _
  rw [later]
  refine congrArg (fun v => Except.ok (v, rest)) ?_
  refine Vector.toArray_inj.mp ?_
  exact (List.toArray_cons a as).symm

/-- The elements of a vector after the first. -/
theorem readExactly_lay {c : Codec α} (h : c.Lossless) (l : Layout) (level outer : Nat)
    (expected : String) (i : Nat) (as : List α) (rest : List Char) :
    readExactly c expected (i + 1) as.length
        (layElements l level (as.map c.encode) ++ (l.line outer ++ ']' :: rest)) =
      .ok (⟨as.toArray, rfl⟩, l.line outer ++ ']' :: rest) := by
  induction as generalizing i with
  | nil => rfl
  | cons a as ih =>
    simp only [List.map_cons, layElements, List.cons_append, List.append_assoc]
    have next := nextElement_later (l.blankLine level)
      (h.starts a l level (layElements l level (as.map c.encode) ++ (l.line outer ++ ']' :: rest)))
    have here := h.reads a l level (endsNumber_elements l level outer (as.map c.encode) rest)
    exact readExactly_item rfl next here (ih (i + 1))

theorem Lossless.vector {c : Codec α} (h : c.Lossless) (n : Nat) : (vector n c).Lossless where
  toFaithful := h.toFaithful.vector n
  skips blank cs := by
    simp only [Codec.vector, skipBlanks_append blank]
  starts as l level rest := startsItem_array _ l level rest
  reads as l level rest ends := by
    obtain ⟨⟨as⟩, size⟩ := as
    cases size
    show (Codec.vector as.length c).read ((Value.array (as.map c.encode)).lay l level ++ rest) = _
    cases as with
    | nil => rfl
    | cons a as =>
      simp only [List.map_cons, Value.lay, List.cons_append, List.append_assoc, List.nil_append]
      have next := nextElement_first (l.blankLine (level + 1)) (h.starts a l (level + 1)
        (layElements l (level + 1) (as.map c.encode) ++ (l.line level ++ ']' :: rest)))
      have here := h.reads a l (level + 1)
        (endsNumber_elements l (level + 1) level (as.map c.encode) rest)
      have later := readExactly_lay h l (level + 1) level
        ("an array of length " ++ toString (a :: as).length) 0 as rest
      simp only [Codec.vector, skipBlanks_cons (show isBlank '[' = false from rfl)]
      show (readExactly c _ 0 (as.length + 1) _).bind _ = _
      rw [readExactly_item (i := 0) rfl next here later]
      show (closeArray _).bind _ = _
      rw [closeArray_append (l.blankLine level)]
      rfl

/-! ### Pairs -/

theorem decode_pair {c : Codec α} {d : Codec β} {p : α × β} {v w : Value}
    (first : c.decode v = .ok p.1) (second : d.decode w = .ok p.2) :
    (pair c d).decode (.array [v, w]) = .ok p := by
  show (c.decode v).bind _ = _
  rw [first]
  show (d.decode w).bind _ = _
  rw [second]
  rfl

theorem Lossless.pair {c : Codec α} {d : Codec β} (hc : c.Lossless) (hd : d.Lossless) :
    (pair c d).Lossless where
  plain p := by
    refine .array ?_
    intro v mem
    simp only [sortedElements, List.mem_cons, List.not_mem_nil, or_false] at mem
    rcases mem with rfl | rfl
    · exact hc.plain p.1
    · exact hd.plain p.2
  decodes p := decode_pair (hc.decodes p.1) (hd.decodes p.2)
  skips blank cs := by
    simp only [Codec.pair, skipBlanks_append blank]
  starts p l level rest := startsItem_array _ l level rest
  reads p l level rest ends := by
    obtain ⟨a, b⟩ := p
    let closing := l.line level ++ ']' :: rest
    let behind := ',' :: (l.line (level + 1) ++ ((d.encode b).lay l (level + 1) ++ closing))
    have text : (Value.array [c.encode a, d.encode b]).lay l level ++ rest =
        '[' :: (l.line (level + 1) ++ ((c.encode a).lay l (level + 1) ++ behind)) := by
      simp only [behind, closing, Value.lay, layElements, List.cons_append, List.append_assoc,
        List.nil_append]
    have start := nextElement_first (l.blankLine (level + 1)) (hc.starts a l (level + 1) behind)
    have first : c.read ((c.encode a).lay l (level + 1) ++ behind) = .ok (a, behind) :=
      hc.reads a l (level + 1) ⟨rfl, by decide, by decide, by decide⟩
    have next := nextElement_later (l.blankLine (level + 1)) (hd.starts b l (level + 1) closing)
    have second : d.read ((d.encode b).lay l (level + 1) ++ closing) = .ok (b, closing) :=
      hd.reads b l (level + 1) (endsNumber_elements l (level + 1) level [] rest)
    show (Codec.pair c d).read ((Value.array [c.encode a, d.encode b]).lay l level ++ rest) = _
    rw [text]
    simp only [Codec.pair, skipBlanks_cons (show isBlank '[' = false from rfl), start]
    show (c.read _).bind _ = _
    rw [first]
    show (nextElement false behind).bind _ = _
    rw [next]
    show (d.read _).bind _ = _
    rw [second]
    show (closeArray closing).bind _ = _
    rw [closeArray_append (l.blankLine level)]
    rfl

/-! ## Whole texts -/

/-- The text of an element, in either layout, gives the element, and so does its value, whose members are
in the order of their keys. -/
def RoundTrips (c : Codec α) : Prop :=
  ∀ a, c.ofText (c.text a) = .ok a ∧ c.ofText (c.prettyText a) = .ok a ∧
    c.decode (c.encode a).sorted = .ok a

theorem Lossless.ofText_lay {c : Codec α} (h : c.Lossless) (a : α) (l : Layout) :
    c.ofText (String.ofList ((c.encode a).lay l 0)) = .ok a := by
  have read : c.read ((c.encode a).lay l 0 ++ []) = .ok (a, []) := h.reads a l 0 trivial
  rw [List.append_nil] at read
  rw [ofText, readWhole, String.toList_ofList, read]
  rfl

theorem Lossless.roundTrips {c : Codec α} (h : c.Lossless) : c.RoundTrips := by
  intro a
  refine ⟨?_, ?_, h.decodes a⟩
  · rw [text, Value.compactText, compact_eq_lay 0]
    exact h.ofText_lay a .compact
  · rw [prettyText, Value.prettyText, prettyAt_eq_lay 0]
    exact h.ofText_lay a .pretty

/-! ## Checked elements -/

section Checked

variable {c : Codec α} {f : α → Except String β} {g : β → α}

theorem ofText_eq_ok_iff {text : String} {a : α} :
    c.ofText text = .ok a ↔ ∃ rest, c.read text.toList = .ok (a, rest) ∧ skipBlanks rest = [] := by
  rw [show c.ofText text = (c.read text.toList).bind _ from rfl, bind_eq_ok_iff]
  constructor
  · rintro ⟨⟨a', rest⟩, front, ends⟩
    dsimp only at ends
    split at ends
    · rename_i nothing
      cases ends
      exact ⟨rest, front, nothing⟩
    · cases ends
  · rintro ⟨rest, front, nothing⟩
    refine ⟨(a, rest), front, ?_⟩
    simp only [nothing]
    rfl

theorem decode_refine_eq_ok_iff {v : Value} {b : β} :
    (c.refine f g).decode v = .ok b ↔ ∃ a, c.decode v = .ok a ∧ f a = .ok b := by
  rw [show (c.refine f g).decode v = (c.decode v).bind _ from rfl, bind_eq_ok_iff]
  simp only [mapError_eq_ok_iff]

theorem read_refine_eq_ok_iff {cs rest : List Char} {b : β} :
    (c.refine f g).read cs = .ok (b, rest) ↔ ∃ a, c.read cs = .ok (a, rest) ∧ f a = .ok b := by
  rw [show (c.refine f g).read cs = (c.read cs).bind _ from rfl, bind_eq_ok_iff]
  constructor
  · rintro ⟨⟨a, rest'⟩, front, checked⟩
    obtain ⟨b', passes, same⟩ := bind_eq_ok_iff.mp checked
    cases same
    exact ⟨a, front, mapError_eq_ok_iff.mp passes⟩
  · rintro ⟨a, front, passes⟩
    exact ⟨(a, rest), front, bind_eq_ok_iff.mpr ⟨b, mapError_eq_ok_iff.mpr passes, rfl⟩⟩

theorem ofText_refine_eq_ok_iff {text : String} {b : β} :
    (c.refine f g).ofText text = .ok b ↔ ∃ a, c.ofText text = .ok a ∧ f a = .ok b := by
  simp only [ofText_eq_ok_iff, read_refine_eq_ok_iff]
  constructor
  · rintro ⟨rest, ⟨a, front, passes⟩, nothing⟩
    exact ⟨a, ⟨rest, front, nothing⟩, passes⟩
  · rintro ⟨a, ⟨rest, front, nothing⟩, passes⟩
    exact ⟨rest, ⟨a, front, passes⟩, nothing⟩

/-- An element that does not pass is refused with the reason. -/
theorem ofText_refine_eq_error {text reason : String} {a : α} (given : c.ofText text = .ok a)
    (refused : f a = .error reason) :
    (c.refine f g).ofText text = .error (.mismatch (.condition reason)) := by
  obtain ⟨rest, front, -⟩ := ofText_eq_ok_iff.mp given
  show ((c.read text.toList).bind _).bind _ = _
  rw [front]
  show (((f a).mapError _).bind _).bind _ = _
  rw [refused]
  rfl

end Checked

end Codec

end Trainer6800.Json
