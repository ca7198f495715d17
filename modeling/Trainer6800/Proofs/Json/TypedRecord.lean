import Trainer6800.Proofs.Json.TypedText

/-!
# Typed text of records and choices

The members of a printed record come in the order of its fields.  So while they are read, the fields up
to one have their values and the fields behind it have none, and the proof goes by the fields: a field
takes the first member, and the members behind it leave it alone.

An element of a choice is written as one of its variants.  `Variant.Takes` says of a variant and a value
that the one takes the other for the element, whether it is the name alone or something under it; then
all that is left to the choice is to find the variant by its name.
-/

namespace Trainer6800.Json

/-! ## Records -/

/-- The members of a printed record are gathered into the record. -/
structure Fields.Lossless {α : Type} (f : Fields α) : Prop extends f.Faithful where
  gathers : ∀ a (l : Layout) level,
    ∃ s, l.Gathers level f.readMember f.empty (f.encode a) s ∧ f.finish s = .ok a

namespace Fields

variable {α β : Type}

/-- A record without fields. -/
theorem lossless_none : none.Lossless where
  toFaithful := faithful_none
  gathers _ _ _ := ⟨(), .nil (), rfl⟩

section Member

variable {f : Fields α} {k : String} {slot : Slot f.State}

/-- A member that no field asks for is passed over. -/
theorem readMember_of_none (unknown : f.slot? k = .none) (s : f.State) (cs : List Char) :
    f.readMember k s cs = (readColon cs).bind fun text => (skipValue text).map (s, ·) := by
  simp only [readMember, unknown]
  cases readColon cs with
  | error e => rfl
  | ok text =>
    show (skipValue text).bind _ = (skipValue text).map _
    cases skipValue text with
    | error e => rfl
    | ok rest => rfl

/-- A member is read into the place of its field. -/
theorem readMember_of_some (known : f.slot? k = some slot) (s : f.State) (cs : List Char) :
    f.readMember k s cs =
      if slot.filled s then .error (.mismatch (.duplicateField k))
      else (readColon cs).bind (slot.read s) := by
  simp only [readMember, known]
  rfl

end Member

section Field

variable {name : String} {c : Codec α} {rest : Fields β} {default : Option α}

/-- The member with the name of the first field goes to the first place. -/
theorem readMember_field {l : Layout} {level : Nat} (hc : c.Lossless) (a : α) (t : rest.State)
    {behind : List Char} (ends : EndsNumber behind) :
    (field name c rest default).readMember name (Option.none, t)
        (':' :: (l.gap ++ ((c.encode a).lay l level ++ behind))) =
      .ok ((some a, t), behind) := by
  have found : (field name c rest default).slot? name =
      some (firstSlot name c default.isSome rest.State) := by
    rw [slot?_field, if_pos rfl]
  refine (readMember_of_some found _ _).trans ?_
  rw [readColon_cons]
  show (c.read (l.gap ++ ((c.encode a).lay l level ++ behind))).map _ = _
  rw [hc.skips l.blankGap, hc.reads a l level ends]
  rfl

/-- A member with another name is for the other fields. -/
theorem readMember_field_of_ne {k : String} (other : name ≠ k) (o : Option α) (t : rest.State)
    (cs : List Char) :
    (field name c rest default).readMember k (o, t) cs =
      (rest.readMember k t cs).map fun p => ((o, p.1), p.2) := by
  have found : (field name c rest default).slot? k = (rest.slot? k).map (laterSlot α) := by
    rw [slot?_field, if_neg other]
  cases place : rest.slot? k with
  | none =>
    rw [place] at found
    rw [readMember_of_none place]
    refine (readMember_of_none found _ cs).trans ?_
    cases readColon cs with
    | error e => rfl
    | ok text =>
      show (skipValue text).map _ = ((skipValue text).map _).map _
      cases skipValue text with
      | error e => rfl
      | ok rest => rfl
  | some slot =>
    rw [place] at found
    rw [readMember_of_some place]
    refine (readMember_of_some found _ cs).trans ?_
    show (if slot.filled t then _ else _) = _
    split
    · rfl
    · cases readColon cs with
      | error e => rfl
      | ok text => rfl

/-- Members with other names are gathered as they are without the first field. -/
theorem gathers_field {l : Layout} {level : Nat} {t u : rest.State} {ms : Members}
    (gathers : l.Gathers level rest.readMember t ms u) (absent : name ∉ ms.map Prod.fst)
    (o : Option α) :
    l.Gathers level (field name c rest default).readMember (o, t) ms (o, u) := by
  induction gathers with
  | nil s => exact .nil _
  | @cons s t u k v ms read later ih =>
    rw [List.map_cons, List.mem_cons, not_or] at absent
    refine .cons (fun ends => ?_) (ih absent.2)
    rw [readMember_field_of_ne absent.1, read ends]
    rfl

/-- One more field with a name of its own. -/
theorem Lossless.field (hc : c.Lossless) (hr : rest.Lossless)
    (fresh : name ∉ rest.slots.map Slot.name) (default : Option α) :
    (field name c rest default).Lossless where
  toFaithful := Fields.Faithful.field hc.toFaithful hr.toFaithful fresh default
  gathers p l level := by
    obtain ⟨t, gathers, finish⟩ := hr.gathers p.2 l level
    have absent : name ∉ (rest.encode p.2).map Prod.fst := by
      rw [hr.names p.2]
      exact fresh
    refine ⟨(some p.1, t), .cons (fun ends => readMember_field hc p.1 rest.empty ends)
      (gathers_field gathers absent (some p.1)), ?_⟩
    show (rest.finish t).map (p.1, ·) = _
    rw [finish]
    rfl

end Field

theorem readMember_map (f : Fields α) (g : α → β) (h : β → α) :
    (f.map g h).readMember = f.readMember := by
  funext name s cs
  cases place : f.slot? name with
  | none =>
    have passed := readMember_of_none (f := f.map g h) place s cs
    exact passed.trans (readMember_of_none place s cs).symm
  | some slot =>
    have taken := readMember_of_some (f := f.map g h) place s cs
    exact taken.trans (readMember_of_some place s cs).symm

/-- The same fields for another form of the data. -/
theorem Lossless.map {f : Fields α} (hf : f.Lossless) {g : α → β} {h : β → α}
    (inverse : ∀ b, g (h b) = b) : (f.map g h).Lossless where
  toFaithful := hf.toFaithful.map inverse
  gathers b l level := by
    obtain ⟨s, gathers, finish⟩ := hf.gathers (h b) l level
    refine ⟨s, ?_, ?_⟩
    · rw [readMember_map]
      exact gathers
    show (f.finish s).map g = _
    rw [finish]
    exact congrArg Except.ok (inverse b)

/-- The text of a record is read. -/
theorem Lossless.read {f : Fields α} (hf : f.Lossless) (title : String) (a : α) (l : Layout)
    (level : Nat) (rest : List Char) :
    f.read title ((Value.object (f.encode a)).lay l level ++ rest) = .ok (a, rest) := by
  obtain ⟨s, gathers, finish⟩ := hf.gathers a l (level + 1)
  obtain ⟨text, laid, read⟩ := readMembers_lay gathers rest
  rw [laid]
  simp only [Fields.read, skipBlanks_cons (show isBlank '\x7b' = false from rfl)]
  show (readMembers f.readMember f.empty text).bind _ = _
  rw [read]
  show (f.finish s).bind _ = _
  rw [finish]
  rfl

end Fields

theorem Codec.lossless_record {α : Type} {f : Fields α} (h : f.Lossless) (title : String) :
    (Codec.record title f).Lossless where
  toFaithful := Codec.faithful_record h.toFaithful title
  skips blank cs := by
    simp only [Codec.record, Fields.read, skipBlanks_append blank]
  starts a l level rest := startsItem_object _ l level rest
  reads a l level rest _ := h.read title a l level rest

/-! ## Choices -/

namespace Variant

variable {α β : Type}

/-- A variant takes the value for the element, by its name alone or from what it holds. -/
inductive Takes (v : Variant α) (a : α) : Value → Prop where
  | bare (named : v.bare = .ok a) : Takes v a (.string v.name)
  | holding {w : Value} (plain : w.sorted.Plain) (decodes : v.decode w.sorted = .ok a)
    (reads : ∀ {b : List Char}, Blank b → ∀ (l : Layout) level {rest}, EndsNumber rest →
      v.read (b ++ (w.lay l level ++ rest)) = .ok (a, rest)) :
    Takes v a (.object [(v.name, w)])

theorem takes_unit (name : String) (a : α) : (unit name a).Takes a (.string name) :=
  .bare rfl

theorem takes_single {c : Codec β} (h : c.Lossless) (name : String) (f : β → α) (b : β) :
    (single name c f).Takes (f b) (.object [(name, c.encode b)]) := by
  refine .holding (h.plain b) ?_ ?_
  · show (c.decode _).map f = _
    rw [h.decodes b]
    rfl
  · intro blanks blank l level rest ends
    show (c.read _).map _ = _
    rw [h.skips blank, h.reads b l level ends]
    rfl

theorem takes_record {fields : Fields β} (h : fields.Lossless) (title name : String) (f : β → α)
    (b : β) :
    (record title name fields f).Takes (f b) (.object [(name, .object (fields.encode b))]) := by
  have whole := Codec.lossless_record h title
  refine .holding (whole.plain b) ?_ ?_
  · have decoded : fields.decodeObject (sortedMembers (fields.encode b)) = .ok b := whole.decodes b
    show (fields.decodeObject (sortedMembers (fields.encode b))).map f = _
    rw [decoded]
    rfl
  · intro blanks blank l level rest ends
    have read : fields.read title (blanks ++ ((Value.object (fields.encode b)).lay l level ++ rest)) =
        .ok (b, rest) := (whole.skips blank _).trans (whole.reads b l level ends)
    show (fields.read title _).map _ = _
    rw [read]
    rfl

end Variant

namespace Codec

variable {α : Type} {variants : List (Variant α)} {encode : α → Value}

theorem findVariant_name (distinct : (variants.map Variant.name).Nodup) {v : Variant α}
    (mem : v ∈ variants) : findVariant variants v.name = .ok v := by
  rw [findVariant, find?_name distinct mem]

/-- The text of an object with one member. -/
theorem lay_singleton (name : String) (w : Value) (l : Layout) (level : Nat) (rest : List Char) :
    (Value.object [(name, w)]).lay l level ++ rest =
      '\x7b' :: (l.line (level + 1) ++ '"' :: (name.toList.flatMap escapeChar ++ '"' ::
        ':' :: (l.gap ++ (w.lay l (level + 1) ++ (l.line level ++ '\x7d' :: rest))))) := by
  simp only [Value.lay, layMembers, stringText, List.cons_append, List.append_assoc,
    List.nil_append]

theorem readVariantName_lay {b : List Char} (blank : Blank b) (name : String) (rest : List Char) :
    readVariantName (b ++ '"' :: (name.toList.flatMap escapeChar ++ '"' :: rest)) =
      .ok (name, rest) := by
  rw [readVariantName, skipBlanks_append blank, skipBlanks_cons rfl]
  exact readString_escaped name rest

theorem closeVariant_append {b : List Char} (blank : Blank b) (rest : List Char) :
    closeVariant (b ++ '\x7d' :: rest) = .ok rest := by
  rw [closeVariant, skipBlanks_append blank, skipBlanks_cons rfl]
  rfl

variable {v : Variant α} {a : α} {l : Layout} {level : Nat} {rest : List Char}

/-- The name of a variant alone. -/
theorem choice_read_name (distinct : (variants.map Variant.name).Nodup) (mem : v ∈ variants)
    (named : v.bare = .ok a) :
    (choice variants encode).read ((Value.string v.name).lay l level ++ rest) = .ok (a, rest) := by
  show (choice variants encode).read (stringText v.name ++ rest) = _
  rw [stringText_append]
  simp only [choice, skipBlanks_cons (show isBlank '"' = false from rfl), if_true, readString_escaped]
  show (findVariant variants v.name).bind _ = _
  rw [findVariant_name distinct mem]
  show v.bare.bind _ = _
  rw [named]
  rfl

/-- The name of a variant, and what it holds. -/
theorem choice_read_object (distinct : (variants.map Variant.name).Nodup) (mem : v ∈ variants)
    {w : Value}
    (reads : ∀ {rest}, EndsNumber rest →
      v.read (l.gap ++ (w.lay l (level + 1) ++ rest)) = .ok (a, rest)) :
    (choice variants encode).read ((Value.object [(v.name, w)]).lay l level ++ rest) =
      .ok (a, rest) := by
  rw [lay_singleton]
  simp only [choice, skipBlanks_cons (show isBlank '\x7b' = false from rfl)]
  rw [if_neg (by decide), if_pos trivial, readVariantName_lay (l.blankLine (level + 1))]
  have held := reads (endsNumber_members l (level + 1) level [] rest)
  rw [layMembers, List.nil_append] at held
  simp only [bind, Except.bind, findVariant_name distinct mem, readColon_cons, held,
    closeVariant_append (l.blankLine level)]
  rfl

/-- Types whose elements are each written as one variant. -/
theorem lossless_choice (distinct : (variants.map Variant.name).Nodup)
    (takes : ∀ a, ∃ v ∈ variants, v.Takes a (encode a)) : (choice variants encode).Lossless where
  plain a := by
    obtain ⟨v, mem, taken⟩ := takes a
    show (encode a).sorted.Plain
    generalize encode a = written at taken
    cases taken with
    | bare named => exact .string v.name
    | holding plain decodes reads =>
      refine .object (List.pairwise_singleton _ _) ?_
      intro m one
      rw [List.mem_singleton.mp one]
      exact plain
  decodes a := by
    obtain ⟨v, mem, taken⟩ := takes a
    have found := findVariant_name distinct mem
    show (choice variants encode).decode (encode a).sorted = _
    generalize encode a = written at taken
    cases taken with
    | bare named =>
      show (findVariant variants v.name).bind Variant.bare = _
      rw [found]
      exact named
    | @holding w plain decodes reads =>
      show (findVariant variants v.name).bind (fun v => v.decode w.sorted) = _
      rw [found]
      exact decodes
  skips blank cs := by
    simp only [choice, skipBlanks_append blank]
  starts a l level rest := by
    obtain ⟨v, mem, taken⟩ := takes a
    show StartsItem ((encode a).lay l level ++ rest)
    generalize encode a = written at taken
    cases taken with
    | bare named => exact (Value.Plain.string v.name).startsItem l level rest
    | holding plain decodes reads => exact startsItem_object _ l level rest
  reads a l level rest ends := by
    obtain ⟨v, mem, taken⟩ := takes a
    show (choice variants encode).read ((encode a).lay l level ++ rest) = _
    generalize encode a = written at taken
    cases taken with
    | bare named => exact choice_read_name distinct mem named
    | holding plain decodes reads =>
      exact choice_read_object distinct mem fun ends => reads l.blankGap l (level + 1) ends

theorem lossless_enumeration {elements : List α} {name : α → String}
    (complete : ∀ a, a ∈ elements) (distinct : (elements.map name).Nodup) :
    (enumeration elements name).Lossless := by
  refine lossless_choice ?_ ?_
  · rw [List.map_map]
    exact distinct
  · intro a
    exact ⟨_, List.mem_map_of_mem (complete a), Variant.takes_unit (name a) a⟩

end Codec

end Trainer6800.Json
