import Trainer6800.Json.Codec.Choice
import Trainer6800.Proofs.Json.Members
import Trainer6800.Proofs.Json.RoundTrip

/-!
# Codecs that lose nothing

An encoded element has its fields in the order of their declaration; what is stored or printed is
the sorted value, with the fields in the order of their names.  A codec is faithful if the sorted value
still decodes to the element, and if it is plain, so that it also survives being printed and read.

Faithfulness is shown once for each way of building a codec.  The argument for records is the only
one with a state: while the members of an object go by, in whatever order, each field picks the one
that carries its name, and no field is disturbed by the members of the others.
-/

namespace Trainer6800.Json

/-- Sorted encodings are plain and decode to what was encoded. -/
structure Codec.Faithful {α : Type} (c : Codec α) : Prop where
  plain : ∀ a, (c.encode a).sorted.Plain
  decodes : ∀ a, c.decode (c.encode a).sorted = .ok a

/-- The members of an encoded record decode to the record in any order, also among others. -/
structure Fields.Faithful {α : Type} (f : Fields α) : Prop where
  names : ∀ a, (f.encode a).map Prod.fst = f.slots.map Slot.name
  distinct : (f.slots.map Slot.name).Nodup
  plain : ∀ a, ∀ m ∈ f.encode a, m.2.sorted.Plain
  decodes : ∀ a (ms : Members), (ms.map Prod.fst).Nodup →
    (∀ m ∈ f.encode a, (m.1, m.2.sorted) ∈ ms) → f.decodeObject ms = .ok a

namespace Codec

variable {α β : Type}

/-! ## Scalars and strings -/

/-- Data that is written as a number of at most 64 bits. -/
theorem faithful_natural {expected : String} {bound : Nat} {f : Nat → α} {g : α → Nat}
    (fits : bound ≤ maxSignificand + 1) (below : ∀ a, g a < bound) (inverse : ∀ a, f (g a) = a) :
    ((natural expected bound).map f g).Faithful where
  plain a := by
    have := below a
    exact .natural (show g a ≤ maxSignificand by omega)
  decodes a := by
    show ((natural expected bound).decode ((natural expected bound).encode (g a))).map f = _
    rw [natural_decode_encode expected (below a)]
    show Except.ok (f (g a)) = _
    rw [inverse]

theorem faithful_string : string.Faithful where
  plain s := .string s
  decodes _ := rfl

/-- A check that what was checked passes again. -/
theorem Faithful.refine {c : Codec α} (h : c.Faithful) {f : α → Except String β} {g : β → α}
    (passes : ∀ b, f (g b) = .ok b) : (c.refine f g).Faithful where
  plain b := h.plain (g b)
  decodes b := by
    show (c.decode (c.encode (g b)).sorted).bind _ = _
    rw [h.decodes (g b)]
    show (f (g b)).mapError _ = _
    rw [passes]
    rfl

/-! ## Lists and vectors -/

theorem plain_array {c : Codec α} (h : c.Faithful) (as : List α) :
    (Value.array (as.map c.encode)).sorted.Plain := by
  rw [Value.sorted, sortedElements_eq_map, List.map_map]
  refine .array ?_
  intro v hv
  obtain ⟨a, -, rfl⟩ := List.mem_map.mp hv
  exact h.plain a

theorem decodeElements_sorted {c : Codec α} (h : c.Faithful) (as : List α) :
    decodeElements c (as.map fun a => (c.encode a).sorted) = .ok as := by
  induction as with
  | nil => rfl
  | cons a as ih =>
    rw [List.map_cons, decodeElements, h.decodes a, ih]
    rfl

theorem Faithful.list {c : Codec α} (h : c.Faithful) : (list c).Faithful where
  plain := plain_array h
  decodes as := by
    show (Codec.list c).decode (Value.array (as.map c.encode)).sorted = _
    rw [Value.sorted, sortedElements_eq_map, List.map_map]
    exact decodeElements_sorted h as

theorem decodeExactly_sorted {c : Codec α} (h : c.Faithful) (expected : String) (i : Nat)
    (as : List α) :
    decodeExactly c expected i as.length (as.map fun a => (c.encode a).sorted) =
      .ok (⟨as.toArray, rfl⟩, []) := by
  induction as generalizing i with
  | nil => rfl
  | cons a as ih =>
    show (c.decode (c.encode a).sorted).bind _ = _
    rw [h.decodes a]
    show (decodeExactly c expected (i + 1) as.length _).bind _ = _
    rw [ih (i + 1)]
    refine congrArg (fun v => Except.ok (v, [])) ?_
    refine Vector.toArray_inj.mp ?_
    exact (List.toArray_cons a as).symm

theorem Faithful.vector {c : Codec α} (h : c.Faithful) (n : Nat) : (vector n c).Faithful where
  plain as := plain_array h as.toList
  decodes as := by
    obtain ⟨⟨as⟩, size⟩ := as
    cases size
    show (Codec.vector as.length c).decode (Value.array (as.map c.encode)).sorted = _
    rw [Value.sorted, sortedElements_eq_map, List.map_map]
    show (decodeExactly c _ 0 as.length (as.map fun a => (c.encode a).sorted)).bind _ = _
    rw [decodeExactly_sorted h]
    rfl

/-! ## Names -/

/-- Where no two elements have the same name, a name leads to its element. -/
theorem find?_name {elements : List α} {name : α → String} (distinct : (elements.map name).Nodup)
    {a : α} (mem : a ∈ elements) : elements.find? (fun b => name b == name a) = some a := by
  induction elements with
  | nil => cases mem
  | cons b rest ih =>
    rw [List.map_cons, List.nodup_cons] at distinct
    obtain ⟨fresh, distinct⟩ := distinct
    rcases List.mem_cons.mp mem with rfl | later
    · rw [List.find?_cons_of_pos]
      exact beq_self_eq_true _
    · rw [List.find?_cons_of_neg, ih distinct later]
      intro same
      exact fresh (List.mem_map.mpr ⟨a, later, (beq_iff_eq.mp same).symm⟩)

end Codec

/-! ## Records -/

namespace Fields

variable {α β : Type}

/-- The place of the first field. -/
def firstSlot (name : String) (c : Codec α) (optional : Bool) (σ : Type) : Slot (Option α × σ) where
  name
  optional
  filled s := s.1.isSome
  read s cs := (c.read cs).map fun p => ((some p.1, s.2), p.2)
  decode s v := (c.decode v).map fun a => (some a, s.2)

/-- The place of a field behind the first. -/
def laterSlot (α : Type) {σ : Type} (slot : Slot σ) : Slot (Option α × σ) where
  name := slot.name
  optional := slot.optional
  filled s := slot.filled s.2
  read s cs := (slot.read s.2 cs).map fun p => ((s.1, p.1), p.2)
  decode s v := (slot.decode s.2 v).map fun t => (s.1, t)

section Members

variable {f : Fields α} {k : String} {v : Value} {slot : Slot f.State}

/-- A member that no field asks for is passed over. -/
theorem decodeMembers_of_none (unknown : f.slot? k = .none) (s : f.State) (ms : Members) :
    f.decodeMembers s ((k, v) :: ms) = f.decodeMembers s ms := by
  rw [decodeMembers, unknown]

/-- A member goes to the place of its field. -/
theorem decodeMembers_of_some (known : f.slot? k = some slot) (s : f.State) (ms : Members) :
    f.decodeMembers s ((k, v) :: ms) =
      if slot.filled s then .error (.mismatch (.duplicateField k))
      else (slot.decode s v).bind fun t => f.decodeMembers t ms := by
  rw [decodeMembers, known]
  rfl

end Members

section Field

variable {name : String} {c : Codec α} {rest : Fields β} {default : Option α}

theorem slot?_field (k : String) :
    (field name c rest default).slot? k =
      if name = k then some (firstSlot name c default.isSome rest.State)
      else (rest.slot? k).map (laterSlot α) := by
  show (firstSlot name c default.isSome rest.State :: rest.slots.map (laterSlot α)).find?
    (·.name == k) = _
  by_cases here : name = k
  · rw [if_pos here, List.find?_cons_of_pos]
    exact beq_iff_eq.mpr here
  · rw [if_neg here, List.find?_cons_of_neg, List.find?_map]
    · rfl
    · exact fun same => here (beq_iff_eq.mp same)

/-- Members with other keys leave the place of the first field as it is. -/
theorem decodeMembers_of_not_mem {ms : Members} (absent : name ∉ ms.map Prod.fst) (o : Option α)
    (t : rest.State) :
    (field name c rest default).decodeMembers (o, t) ms =
      (rest.decodeMembers t ms).map fun t => (o, t) := by
  induction ms generalizing t with
  | nil => rfl
  | cons m ms ih =>
    obtain ⟨k, v⟩ := m
    rw [List.map_cons, List.mem_cons, not_or] at absent
    obtain ⟨other, absent⟩ := absent
    have found : (field name c rest default).slot? k = (rest.slot? k).map (laterSlot α) := by
      rw [slot?_field, if_neg other]
    cases place : rest.slot? k with
    | none =>
      rw [place] at found
      rw [decodeMembers_of_none place]
      exact (decodeMembers_of_none found _ ms).trans (ih absent t)
    | some slot =>
      rw [place] at found
      rw [decodeMembers_of_some place]
      refine (decodeMembers_of_some found _ ms).trans ?_
      show (if slot.filled t then _ else
        ((slot.decode t v).map fun t => (o, t)).bind fun s =>
          (field name c rest default).decodeMembers s ms) = _
      split
      · rfl
      · cases slot.decode t v with
        | error e => rfl
        | ok t => exact ih absent t

/-- The member with the name of the first field goes to the first place, and all members go where
they go without that field. -/
theorem decodeMembers_of_mem {ms : Members} (distinct : (ms.map Prod.fst).Nodup) {v : Value}
    (mem : (name, v) ∈ ms) {a : α} (decoded : c.decode v = .ok a) (fresh : rest.slot? name = .none)
    {t t' : rest.State} (others : rest.decodeMembers t ms = .ok t') :
    (field name c rest default).decodeMembers (Option.none, t) ms = .ok (some a, t') := by
  induction ms generalizing t with
  | nil => cases mem
  | cons m ms ih =>
    obtain ⟨k, w⟩ := m
    rw [List.map_cons, List.nodup_cons] at distinct
    obtain ⟨absent, distinct⟩ := distinct
    rcases List.mem_cons.mp mem with here | later
    · cases here
      have found : (field name c rest default).slot? name =
          some (firstSlot name c default.isSome rest.State) := by
        rw [slot?_field, if_pos rfl]
      rw [decodeMembers_of_none fresh] at others
      refine (decodeMembers_of_some found _ ms).trans ?_
      show ((c.decode v).map fun a => (some a, t)).bind (fun s =>
        (field name c rest default).decodeMembers s ms) = _
      rw [decoded]
      refine (decodeMembers_of_not_mem absent (some a) t).trans ?_
      rw [others]
      rfl
    · have other : ¬ name = k := by
        rintro rfl
        exact absent (List.mem_map.mpr ⟨_, later, rfl⟩)
      have found : (field name c rest default).slot? k = (rest.slot? k).map (laterSlot α) := by
        rw [slot?_field, if_neg other]
      cases place : rest.slot? k with
      | none =>
        rw [place] at found
        rw [decodeMembers_of_none place] at others
        exact (decodeMembers_of_none found _ ms).trans (ih distinct later others)
      | some slot =>
        rw [place] at found
        rw [decodeMembers_of_some place] at others
        refine (decodeMembers_of_some found _ ms).trans ?_
        show (if slot.filled t then _ else
          ((slot.decode t w).map fun t => (Option.none, t)).bind fun s =>
            (field name c rest default).decodeMembers s ms) = _
        split at others
        · cases others
        · rename_i free
          rw [if_neg free]
          cases decode : slot.decode t w with
          | error e =>
            rw [decode] at others
            cases others
          | ok u =>
            rw [decode] at others
            exact ih distinct later others

end Field

/-- A record without fields. -/
theorem faithful_none : none.Faithful where
  names _ := rfl
  distinct := List.nodup_nil
  plain _ _ mem := absurd mem List.not_mem_nil
  decodes _ ms _ _ := by
    have ignored (ms : Members) : none.decodeMembers none.empty ms = .ok () := by
      induction ms with
      | nil => rfl
      | cons m ms ih => exact (decodeMembers_of_none rfl none.empty ms).trans ih
    exact congrArg (fun s : Except Error Unit => s.bind none.finish) (ignored ms)

/-- One more field with a name of its own. -/
theorem Faithful.field {c : Codec α} (hc : c.Faithful) {rest : Fields β} (hr : rest.Faithful)
    {name : String} (fresh : name ∉ rest.slots.map Slot.name) (default : Option α) :
    (field name c rest default).Faithful where
  names p := by
    show name :: (rest.encode p.2).map Prod.fst =
      name :: (rest.slots.map (laterSlot α)).map Slot.name
    rw [hr.names p.2, List.map_map]
    rfl
  distinct := by
    show (name :: (rest.slots.map (laterSlot α)).map Slot.name).Nodup
    rw [List.map_map]
    exact List.nodup_cons.mpr ⟨fresh, hr.distinct⟩
  plain p m mem := by
    rcases List.mem_cons.mp mem with rfl | later
    · exact hc.plain p.1
    · exact hr.plain p.2 m later
  decodes p ms distinct mem := by
    have unknown : rest.slot? name = .none := by
      refine List.find?_eq_none.mpr ?_
      intro slot hs same
      exact fresh (List.mem_map.mpr ⟨slot, hs, beq_iff_eq.mp same⟩)
    have whole := hr.decodes p.2 ms distinct fun m hm => mem m (List.mem_cons_of_mem _ hm)
    rw [decodeObject] at whole ⊢
    cases others : rest.decodeMembers rest.empty ms with
    | error e =>
      rw [others] at whole
      cases whole
    | ok t =>
      rw [others] at whole
      have places : (Fields.field name c rest default).decodeMembers (Option.none, rest.empty) ms =
          .ok (some p.1, t) :=
        decodeMembers_of_mem distinct (mem (name, c.encode p.1) List.mem_cons_self)
          (hc.decodes p.1) unknown others
      refine (congrArg (fun s => s.bind (Fields.field name c rest default).finish) places).trans ?_
      show (rest.finish t).map (p.1, ·) = _
      rw [show rest.finish t = .ok p.2 from whole]
      rfl

theorem decodeMembers_map {f : Fields α} {g : α → β} {h : β → α} (s : f.State) (ms : Members) :
    (f.map g h).decodeMembers s ms = f.decodeMembers s ms := by
  induction ms generalizing s with
  | nil => rfl
  | cons m ms ih =>
    obtain ⟨k, v⟩ := m
    cases place : f.slot? k with
    | none =>
      rw [decodeMembers_of_none place]
      exact (decodeMembers_of_none (f := f.map g h) place s ms).trans (ih s)
    | some slot =>
      rw [decodeMembers_of_some place]
      refine (decodeMembers_of_some (f := f.map g h) place s ms).trans ?_
      split
      · rfl
      · exact congrArg (Except.bind (slot.decode s v)) (funext ih)

/-- The same fields for another form of the data. -/
theorem Faithful.map {f : Fields α} (hf : f.Faithful) {g : α → β} {h : β → α}
    (inverse : ∀ b, g (h b) = b) : (f.map g h).Faithful where
  names b := hf.names (h b)
  distinct := hf.distinct
  plain b := hf.plain (h b)
  decodes b ms distinct mem := by
    have whole := hf.decodes (h b) ms distinct mem
    rw [decodeObject] at whole
    show ((f.map g h).decodeMembers f.empty ms).bind (fun s : f.State => (f.finish s).map g) = _
    rw [decodeMembers_map f.empty ms]
    cases read : f.decodeMembers f.empty ms with
    | error e =>
      rw [read] at whole
      cases whole
    | ok s =>
      rw [read] at whole
      show (f.finish s).map g = _
      rw [show f.finish s = .ok (h b) from whole]
      exact congrArg Except.ok (inverse b)

end Fields

/-- Sorting the members of a record puts them into another order, and decoding does not care. -/
theorem Codec.faithful_record {α : Type} {f : Fields α} (h : f.Faithful) (title : String) :
    (Codec.record title f).Faithful where
  plain a := by
    refine .object (ascending_sortedMembers (f.encode a)) ?_
    intro m hm
    obtain ⟨v, mem, same⟩ := mem_sortedMembers hm
    rw [same]
    exact h.plain a _ mem
  decodes a := by
    have distinct : ((f.encode a).map Prod.fst).Nodup := by
      rw [h.names a]
      exact h.distinct
    exact h.decodes a _ (ascending_sortedMembers (f.encode a)).nodup
      fun m hm => mem_sortedMembers_of_mem distinct hm

end Trainer6800.Json
