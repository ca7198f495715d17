import Trainer6800.Proofs.Display.Segments

/-!
# The display as text

The text of the display has a character for each digit, and a point behind the character if the decimal
point of the digit is lit.  So its length is not always the same, but it can be read from the left without
a mistake, since no digit is shown by a point: a point belongs to the character in front of it
(`head?_behindGlyph`, `exists_cut`).

Each known glyph has a character of its own, and a question mark stands for all others.  So a digit can be
told from its character if its glyph is known, and the display from its text if this holds of every digit
(`DisplaySnapshot.text_identifies`).
-/

namespace Trainer6800

/-- The characters that stand for digits. -/
def glyphCharacters : List Char :=
  '?' :: glyphs.map Prod.snd

/-- Whether a character stands for a digit. -/
def isGlyphCharacter (c : Char) : Bool :=
  glyphCharacters.contains c

/-- Apart from its decimal point the digit is a known glyph. -/
def IsLegible (segments : UInt8) : Prop :=
  digitShape segments ∈ glyphs.map Prod.fst

instance (segments : UInt8) : Decidable (IsLegible segments) :=
  inferInstanceAs (Decidable (_ ∈ _))

/-- The character stands for the digit: it is the character of its glyph, or a question mark if the glyph
is not known. -/
def IsGlyphOf (c : Char) (segments : UInt8) : Prop :=
  (digitShape segments, c) ∈ glyphs ∨ c = '?' ∧ ¬ IsLegible segments

/-! ## One digit -/

theorem isGlyphOf_glyph (segments : UInt8) : IsGlyphOf (glyph segments) segments := by
  rw [glyph]
  cases found : glyphs.lookup (digitShape segments) with
  | some c =>
    obtain ⟨before, after, split, -⟩ := List.lookup_eq_some_iff.mp found
    refine .inl ?_
    rw [split, Option.getD_some]
    simp
  | none =>
    refine .inr ⟨rfl, fun legible => ?_⟩
    obtain ⟨p, known, shape⟩ := List.mem_map.mp legible
    have other := List.lookup_eq_none_iff.mp found p known
    simp [shape] at other

theorem isGlyphCharacter_glyph (segments : UInt8) : isGlyphCharacter (glyph segments) = true := by
  rw [isGlyphCharacter, List.contains_iff_mem, glyphCharacters, List.mem_cons]
  rcases isGlyphOf_glyph segments with known | ⟨unknown, -⟩
  · exact .inr (List.mem_map_of_mem known)
  · exact .inl unknown

theorem isGlyphCharacter_point : isGlyphCharacter '.' = false := by
  decide

/-- A point stands for no digit. -/
theorem glyph_ne_point (segments : UInt8) : glyph segments ≠ '.' := by
  intro point
  have shown := isGlyphCharacter_glyph segments
  rw [point, isGlyphCharacter_point] at shown
  exact Bool.false_ne_true shown

/-- A character is that of one glyph only, and a question mark is of none. -/
theorem digitShape_eq_of_glyph_eq {d e : UInt8} (legible : IsLegible d) (same : glyph d = glyph e) :
    digitShape d = digitShape e := by
  have distinct : ∀ p ∈ glyphs, ∀ q ∈ glyphs, p.2 = q.2 → p.1 = q.1 := by decide
  have known : ∀ p ∈ glyphs, p.2 ≠ '?' := by decide
  rcases isGlyphOf_glyph d with own | ⟨-, illegible⟩
  · rcases isGlyphOf_glyph e with other | ⟨question, -⟩
    · exact distinct _ own _ other same
    · exact absurd (same.trans question) (known _ own)
  · exact absurd legible illegible

theorem hasPoint_eq (segments : UInt8) : hasPoint segments = segments.toNat.testBit Segment.point.bit := by
  have all : ∀ n : Fin 256, hasPoint (UInt8.ofFin n) = n.val.testBit 7 := by decide +kernel
  exact all segments.toFin

/-- A digit is its shape and its decimal point. -/
theorem eq_of_shape_eq {d e : UInt8} (shape : digitShape d = digitShape e) (point : hasPoint d = hasPoint e) :
    d = e := by
  have all : ∀ n : Fin 256, UInt8.ofFin n =
      digitShape (UInt8.ofFin n) ||| if hasPoint (UInt8.ofFin n) then 0x80 else 0 := by
    decide +kernel
  have whole (segments : UInt8) : segments = digitShape segments ||| if hasPoint segments then 0x80 else 0 :=
    all segments.toFin
  rw [whole d, whole e, shape, point]

/-! ## Several digits -/

/-- The text of digits. -/
def rowText (digits : List UInt8) : List Char :=
  digits.flatMap digitText

/-- What stands behind the character of a digit: its point, if it is lit, and the digits after it. -/
def behindGlyph (segments : UInt8) (rest : List UInt8) : List Char :=
  (if hasPoint segments then ['.'] else []) ++ rowText rest

theorem rowText_cons (d : UInt8) (rest : List UInt8) :
    rowText (d :: rest) = glyph d :: behindGlyph d rest := by
  rw [rowText, List.flatMap_cons, digitText, behindGlyph]
  split <;> rfl

/-- The text of digits does not begin with a point. -/
theorem head?_rowText (digits : List UInt8) : (rowText digits).head? ≠ some '.' := by
  cases digits with
  | nil => exact nofun
  | cons d rest =>
    rw [rowText_cons]
    simpa using glyph_ne_point d

/-- So a point behind a character is that of its digit. -/
theorem head?_behindGlyph (d : UInt8) (rest : List UInt8) :
    (behindGlyph d rest).head? = some '.' ↔ hasPoint d = true := by
  have next := head?_rowText rest
  rw [behindGlyph]
  cases hasPoint d with
  | true => simp
  | false => simpa using next

theorem eq_of_behindGlyph_eq {d e : UInt8} {ds es : List UInt8}
    (same : behindGlyph d ds = behindGlyph e es) : hasPoint d = hasPoint e ∧ rowText ds = rowText es := by
  have point : hasPoint d = hasPoint e := by
    rw [Bool.eq_iff_iff, ← head?_behindGlyph d ds, ← head?_behindGlyph e es, same]
  rw [behindGlyph, behindGlyph, point] at same
  exact ⟨point, List.append_cancel_left same⟩

/-- Legible digits can be told from their text. -/
theorem eq_of_rowText_eq {ds es : List UInt8} (legible : ∀ d ∈ ds, IsLegible d)
    (same : rowText ds = rowText es) : ds = es := by
  induction ds generalizing es with
  | nil =>
    cases es with
    | nil => rfl
    | cons e es =>
      rw [rowText_cons] at same
      cases same
  | cons d ds ih =>
    cases es with
    | nil =>
      rw [rowText_cons] at same
      cases same
    | cons e es =>
      rw [List.forall_mem_cons] at legible
      rw [rowText_cons, rowText_cons, List.cons.injEq] at same
      obtain ⟨point, rest⟩ := eq_of_behindGlyph_eq same.2
      have shape := digitShape_eq_of_glyph_eq legible.1 same.1
      rw [eq_of_shape_eq shape point, ih legible.2 rest]

/-- There is one character for each digit, and the others are points. -/
theorem countP_rowText (digits : List UInt8) :
    (rowText digits).countP isGlyphCharacter = digits.length := by
  induction digits with
  | nil => rfl
  | cons d rest ih =>
    rw [rowText_cons, behindGlyph, List.countP_cons_of_pos (isGlyphCharacter_glyph d),
      List.countP_append, ih, List.length_cons]
    split <;> simp [isGlyphCharacter_point]

theorem eq_point_of_mem_rowText {digits : List UInt8} {c : Char} (mem : c ∈ rowText digits)
    (other : isGlyphCharacter c = false) : c = '.' := by
  obtain ⟨d, -, inDigit⟩ := List.mem_flatMap.mp mem
  have notGlyph : c ≠ glyph d := by
    rintro rfl
    rw [isGlyphCharacter_glyph] at other
    cases other
  rw [digitText] at inDigit
  split at inDigit
  · simpa [notGlyph] using inDigit
  · simp [notGlyph] at inDigit

/-- In the text of a digit there is one place to cut, in front of its point. -/
theorem eq_of_digitText_eq_append {segments : UInt8} {before after : List Char} {c : Char}
    (cut : digitText segments = before ++ c :: after) (inside : before ≠ []) :
    before = [glyph segments] ∧ c :: after = ['.'] := by
  cases before with
  | nil => exact absurd rfl inside
  | cons first before =>
    rw [digitText] at cut
    split at cut
    · obtain ⟨rfl, point⟩ := List.cons_eq_cons.mp cut
      cases before with
      | nil => exact ⟨rfl, point.symm⟩
      | cons second before => simp at point
    · simp at cut

/-- A text of digits can be cut between two digits, or between a digit and its point. -/
theorem exists_cut {digits : List UInt8} {before after : List Char}
    (cut : rowText digits = before ++ after) :
    (∃ ds es, digits = ds ++ es ∧ before = rowText ds ∧ after = rowText es) ∨
      ∃ ds d es, digits = ds ++ d :: es ∧ before = rowText ds ++ [glyph d] ∧ after = '.' :: rowText es := by
  induction digits generalizing before with
  | nil =>
    obtain ⟨rfl, rfl⟩ := List.append_eq_nil_iff.mp cut.symm
    exact .inl ⟨[], [], rfl, rfl, rfl⟩
  | cons d rest ih =>
    have first : digitText d ++ rowText rest = before ++ after := cut
    rcases List.append_eq_append_iff.mp first with ⟨middle, rfl, later⟩ | ⟨middle, own, rfl⟩
    -- behind the first digit
    · rcases ih later with ⟨ds, es, rfl, rfl, rfl⟩ | ⟨ds, e, es, rfl, rfl, rfl⟩
      · exact .inl ⟨d :: ds, es, rfl, rfl, rfl⟩
      · exact .inr ⟨d :: ds, e, es, rfl, (List.append_assoc _ _ _).symm, rfl⟩
    -- in it, or at one of its ends
    · by_cases start : before = []
      · subst start
        exact .inl ⟨[], d :: rest, rfl, rfl, congrArg (· ++ rowText rest) own.symm⟩
      · cases middle with
        | nil =>
          rw [List.append_nil] at own
          exact .inl ⟨[d], rest, rfl, by rw [← own, rowText, List.flatMap_singleton], rfl⟩
        | cons c behind =>
          obtain ⟨rfl, point⟩ := eq_of_digitText_eq_append own start
          exact .inr ⟨[], d, rest, rfl, rfl, congrArg (· ++ rowText rest) point⟩

namespace DisplaySnapshot

/-! ## The whole display -/

/-- Apart from the decimal points every digit shows a known glyph. -/
def Legible (s : DisplaySnapshot) : Prop :=
  ∀ digit : Fin 6, IsLegible (s.digits.get digit)

instance (s : DisplaySnapshot) : Decidable s.Legible :=
  inferInstanceAs (Decidable (∀ digit : Fin 6, IsLegible (s.digits.get digit)))

/-- The text shows the digits from the left: there are six characters, each stands for its digit, and a
point follows it just when the digit's decimal point is lit.  There is nothing else in the text. -/
structure ShownBy (s : DisplaySnapshot) (text : List Char) : Prop where
  six : text.countP isGlyphCharacter = 6
  others : ∀ c ∈ text, isGlyphCharacter c = false → c = '.'
  each : ∀ before c after, text = before ++ c :: after → isGlyphCharacter c = true →
    ∃ digit : Fin 6, digit.val = before.countP isGlyphCharacter ∧ IsGlyphOf c (s.digits.get digit) ∧
      (after.head? = some '.' ↔ s.lit digit .point = true)
  points : ∀ before after, text = before ++ '.' :: after →
    ∃ c, before.getLast? = some c ∧ isGlyphCharacter c = true

theorem toList_render (s : DisplaySnapshot) : s.render.toList = rowText s.digits.toList := by
  rw [render, String.toList_ofList, rowText]

/-- A digit is known by how many there are to its left. -/
theorem exists_digit_of_split {s : DisplaySnapshot} {ds es : List UInt8} {d : UInt8}
    (split : s.digits.toList = ds ++ d :: es) :
    ∃ digit : Fin 6, digit.val = ds.length ∧ s.digits.get digit = d := by
  have six : ds.length + (es.length + 1) = 6 := by
    have length := congrArg List.length split
    simpa using length.symm
  have left : ds.length < 6 := by omega
  refine ⟨⟨ds.length, left⟩, rfl, ?_⟩
  have bound : ds.length < s.digits.toList.length := by
    rwa [Vector.length_toList]
  have there : s.digits.toList[ds.length] = d := by
    simp [split]
  rwa [Vector.getElem_toList] at there

theorem shownBy_render (s : DisplaySnapshot) : s.ShownBy s.render.toList := by
  rw [toList_render]
  refine ⟨?_, fun c mem other => eq_point_of_mem_rowText mem other, ?_, ?_⟩
  · rw [countP_rowText, Vector.length_toList]
  · intro before c after split shown
    rcases exists_cut split with ⟨ds, es, digits, rfl, behind⟩ | ⟨ds, d, es, digits, rfl, behind⟩
    · cases es with
      | nil => cases behind
      | cons d es =>
        rw [rowText_cons, List.cons.injEq] at behind
        obtain ⟨rfl, rfl⟩ := behind
        obtain ⟨digit, place, rfl⟩ := exists_digit_of_split digits
        refine ⟨digit, ?_, isGlyphOf_glyph _, ?_⟩
        · rw [countP_rowText, place]
        · rw [head?_behindGlyph, hasPoint_eq]
          rfl
    · cases behind
      rw [isGlyphCharacter_point] at shown
      cases shown
  · intro before after split
    rcases exists_cut split with ⟨ds, es, digits, rfl, behind⟩ | ⟨ds, d, es, digits, rfl, behind⟩
    · exact absurd (congrArg List.head? behind).symm (head?_rowText es)
    · exact ⟨glyph d, List.getLast?_concat, isGlyphCharacter_glyph d⟩

/-- A legible display can be told from its text. -/
theorem Legible.eq_of_render_eq {s t : DisplaySnapshot} (legible : s.Legible) (same : s.render = t.render) :
    s = t := by
  have texts := congrArg String.toList same
  rw [toList_render, toList_render] at texts
  have each : ∀ d ∈ s.digits.toList, IsLegible d := by
    intro d mem
    obtain ⟨ds, es, split⟩ := List.append_of_mem mem
    obtain ⟨digit, -, rfl⟩ := exists_digit_of_split split
    exact legible digit
  have digits := Vector.toList_inj.mp (eq_of_rowText_eq each texts)
  cases s
  cases t
  exact congrArg DisplaySnapshot.mk digits

theorem legible_blank : blank.Legible := by
  decide

theorem render_blank : blank.render = "      " := by
  decide

theorem isBlank_iff {s : DisplaySnapshot} : s.isBlank = true ↔ s = blank := by
  constructor
  · intro dark
    have digits : s.digits = Vector.replicate 6 0 := by
      refine Vector.ext fun i inside => ?_
      simpa using Vector.all_eq_true.mp dark i inside
    cases s
    exact congrArg DisplaySnapshot.mk digits
  · rintro rfl
    simp [isBlank, blank]

/-- **The text identifies the display.**  No other display has the text of a legible one.  Whether it is
legible or not, the text has a character for each digit, with a point behind it just when the decimal point
is lit, and it is six spaces just when the display is blank. -/
theorem text_identifies :
    (∀ s t : DisplaySnapshot, s.Legible → s.render = t.render → s = t) ∧
    ∀ s : DisplaySnapshot, s.ShownBy s.render.toList ∧ (s.render = "      " ↔ s.isBlank = true) := by
  refine ⟨fun s t legible same => legible.eq_of_render_eq same, fun s => ⟨s.shownBy_render, ?_⟩⟩
  rw [isBlank_iff, ← render_blank]
  constructor
  · intro same
    exact (legible_blank.eq_of_render_eq same.symm).symm
  · rintro rfl
    rfl

/-- Two digits and a decimal point that were lit one after the other. -/
theorem text_identifies_lit :
    let s : DisplaySnapshot := ⟨#v[0xF6, 0x79, 0, 0, 0, 0]⟩
    let t := (blank.apply (.digit 1 0x79)).apply (.digit 0 0xF6)
    s.Legible ∧ s.render = "H.E    " ∧ s.render = t.render ∧ s = t ∧ s.ShownBy "H.E    ".toList := by
  intro s t
  have legible : s.Legible := by decide
  have text : s.render = "H.E    " := by decide
  have same : s.render = t.render := by decide
  have shown := (text_identifies.2 s).1
  rw [text] at shown
  exact ⟨legible, text, same, text_identifies.1 s t legible same, shown⟩

/-- Of displays that are not legible several have one text. -/
example : let s : DisplaySnapshot := ⟨.replicate 6 1⟩
    let t : DisplaySnapshot := ⟨.replicate 6 3⟩
    s.render = t.render ∧ s ≠ t ∧ ¬ s.Legible := by
  decide

end DisplaySnapshot

end Trainer6800
