import Trainer6800.Proofs.Json.TypedRecord
import Trainer6800.Proofs.Results

/-!
# What a text gives of a record

The text of a record may leave fields out, have the others in any order, or have members that are no
fields at all; and it may be an array, with the values of the first fields in order.  `RecordText` takes a
text apart into the members that are given, whichever way they are written, and `Given` says what a field
is by them: what is read from the member with its name, or the default if there is none.

Whatever a reader of records accepts is of this form (`Fields.recordText_of_read`), and each field is what
is given (`Fields.Place.given`).  The other way round, a reader accepts any selection of the members that it
would print, in any order (`Fields.Selective`).
-/

namespace Trainer6800.Json

/-- A member of a record in a text: its name, the text from its value on, and the text behind the value. -/
structure Member where
  name : String
  value : List Char
  rest : List Char

/-- The text of an object from behind its opening brace, or from behind a member, with the members in it. -/
inductive ObjectText : Bool → List Char → List Member → List Char → Prop
  | close {first : Bool} {cs rest : List Char} (ends : nextKey first cs = .ok (.close rest)) :
    ObjectText first cs [] rest
  | member {first : Bool} {cs key behind rest : List Char} {m : Member} {ms : List Member}
    (next : nextKey first cs = .ok (.item key)) (named : readString key = .ok (m.name, behind))
    (colon : readColon behind = .ok m.value) (later : ObjectText false m.rest ms rest) :
    ObjectText first cs (m :: ms) rest

/-- The text of an array from behind its opening bracket, or from behind an element.  Its elements stand for
members with the given names in order, and there may be fewer. -/
inductive ArrayText : Bool → List String → List Char → List Member → List Char → Prop
  | full {first : Bool} {cs rest : List Char} (ends : closeArray cs = .ok rest) :
    ArrayText first [] cs [] rest
  | early {first : Bool} {names : List String} {cs rest : List Char}
    (ends : nextElement first cs = .ok (.close rest)) : ArrayText first names cs [] rest
  | element {first : Bool} {names : List String} {cs rest : List Char} {m : Member} {ms : List Member}
    (next : nextElement first cs = .ok (.item m.value)) (later : ArrayText false names m.rest ms rest) :
    ArrayText first (m.name :: names) cs (m :: ms) rest

/-- The text of a record with fields of the given names, and the text behind it. -/
inductive RecordText (names : List String) (cs : List Char) (ms : List Member) (rest : List Char) : Prop
  | object {text : List Char} (brace : skipBlanks cs = '\x7b' :: text)
    (members : ObjectText true text ms rest)
  | array {text : List Char} (bracket : skipBlanks cs = '[' :: text)
    (elements : ArrayText true names text ms rest)

/-- The members with a name. -/
def membersNamed (name : String) (ms : List Member) : List Member :=
  ms.filter fun m => m.name = name

theorem membersNamed_cons_of_eq {name : String} {m : Member} (same : m.name = name) (ms : List Member) :
    membersNamed name (m :: ms) = m :: membersNamed name ms :=
  List.filter_cons_of_pos (decide_eq_true same)

theorem membersNamed_cons_of_ne {name : String} {m : Member} (other : m.name ≠ name) (ms : List Member) :
    membersNamed name (m :: ms) = membersNamed name ms :=
  List.filter_cons_of_neg (mt of_decide_eq_true other)

/-- A field has the value that is read from the one member with its name, or its default if there is no
such member. -/
def Given {α : Type} (ms : List Member) (name : String) (c : Codec α) (default a : α) : Prop :=
  match membersNamed name ms with
  | [] => a = default
  | [m] => c.read m.value = .ok (a, m.rest)
  | _ => False

namespace Fields

variable {α β γ : Type}

/-! ## Places -/

/-- The place of a field with a codec: reading the member of that name fills it, and reading any other
leaves it alone. -/
structure Place (f : Fields β) (name : String) (c : Codec α) (get : f.State → Option α) : Prop where
  empty : get f.empty = Option.none
  filled : ∀ slot ∈ f.slots, slot.name = name → ∀ s, slot.filled s = (get s).isSome
  own : ∀ slot ∈ f.slots, slot.name = name → ∀ {s t : f.State} {cs rest : List Char},
    slot.read s cs = .ok (t, rest) → ∃ a, c.read cs = .ok (a, rest) ∧ get t = some a
  others : ∀ slot ∈ f.slots, slot.name ≠ name → ∀ {s t : f.State} {cs rest : List Char},
    slot.read s cs = .ok (t, rest) → get t = get s

section Field

variable {name k : String} {c : Codec α} {d : Codec γ} {rest : Fields β} {default : Option α}

theorem mem_slots_field {slot : Slot (Option α × rest.State)} :
    slot ∈ (field name c rest default).slots ↔
      slot = firstSlot name c default.isSome rest.State ∨ ∃ s ∈ rest.slots, laterSlot α s = slot :=
  List.mem_cons.trans (or_congr_right List.mem_map)

/-- The place of the first field. -/
theorem Place.head (fresh : name ∉ rest.slots.map Slot.name) (default : Option α) :
    (field name c rest default).Place name c (fun s : Option α × rest.State => s.1) where
  empty := rfl
  filled slot mem named := by
    rcases mem_slots_field.mp mem with rfl | ⟨slot, later, rfl⟩
    · exact fun _ => rfl
    · exact absurd (List.mem_map.mpr ⟨slot, later, named⟩) fresh
  own slot mem named s t cs left read := by
    rcases mem_slots_field.mp mem with rfl | ⟨slot, later, rfl⟩
    · obtain ⟨p, own, same⟩ := map_eq_ok_iff.mp read
      cases same
      exact ⟨p.1, own, rfl⟩
    · exact absurd (List.mem_map.mpr ⟨slot, later, named⟩) fresh
  others slot mem other s t cs left read := by
    rcases mem_slots_field.mp mem with rfl | ⟨slot, later, rfl⟩
    · exact absurd rfl other
    · obtain ⟨p, -, same⟩ := map_eq_ok_iff.mp read
      cases same
      rfl

/-- The place of a field behind the first. -/
theorem Place.tail {get : rest.State → Option γ} (h : rest.Place k d get) (other : name ≠ k)
    (c : Codec α) (default : Option α) :
    (field name c rest default).Place k d (fun s : Option α × rest.State => get s.2) where
  empty := h.empty
  filled slot mem named := by
    rcases mem_slots_field.mp mem with rfl | ⟨slot, later, rfl⟩
    · exact absurd named other
    · exact fun s => h.filled slot later named s.2
  own slot mem named s t cs left read := by
    rcases mem_slots_field.mp mem with rfl | ⟨slot, later, rfl⟩
    · exact absurd named other
    · obtain ⟨p, own, same⟩ := map_eq_ok_iff.mp read
      cases same
      exact h.own slot later named own
  others slot mem different s t cs left read := by
    rcases mem_slots_field.mp mem with rfl | ⟨slot, later, rfl⟩
    · obtain ⟨p, -, same⟩ := map_eq_ok_iff.mp read
      cases same
      rfl
    · obtain ⟨p, own, same⟩ := map_eq_ok_iff.mp read
      cases same
      exact h.others slot later different own

end Field

theorem Place.map {f : Fields β} {name : String} {c : Codec α} {get : f.State → Option α}
    (h : f.Place name c get) (g : β → γ) (g' : γ → β) : (f.map g g').Place name c get where
  empty := h.empty
  filled := h.filled
  own := h.own
  others := h.others

/-! ## Members -/

/-- A reader of records takes members, one by one, into their places; what is no field is passed over. -/
inductive Takes (f : Fields α) : f.State → List Member → f.State → Prop
  | nil (s : f.State) : Takes f s [] s
  | known {s t u : f.State} {m : Member} {ms : List Member} {slot : Slot f.State}
    (mem : slot ∈ f.slots) (named : slot.name = m.name) (free : slot.filled s = false)
    (read : slot.read s m.value = .ok (t, m.rest)) (later : Takes f t ms u) : Takes f s (m :: ms) u
  | unknown {s u : f.State} {m : Member} {ms : List Member} (absent : m.name ∉ f.slots.map Slot.name)
    (skipped : skipValue m.value = .ok m.rest) (later : Takes f s ms u) : Takes f s (m :: ms) u

section Places

variable {f : Fields β} {name : String} {c : Codec α} {get : f.State → Option α} {s t : f.State}
  {ms : List Member}

/-- What is no field is passed over. -/
theorem Takes.skips (takes : f.Takes s ms t) :
    ∀ m ∈ ms, m.name ∉ f.slots.map Slot.name → skipValue m.value = .ok m.rest := by
  induction takes with
  | nil s => nofun
  | @known s t u m ms slot mem named free read later ih =>
    exact List.forall_mem_cons.mpr ⟨fun absent => absurd (List.mem_map.mpr ⟨slot, mem, named⟩) absent, ih⟩
  | unknown absent skipped later ih => exact List.forall_mem_cons.mpr ⟨fun _ => skipped, ih⟩

/-- A place that has been filled stays as it is, and there is no further member for it. -/
theorem Place.stays (h : f.Place name c get) (known : name ∈ f.slots.map Slot.name)
    (takes : f.Takes s ms t) {a : α} (filled : get s = some a) :
    membersNamed name ms = [] ∧ get t = some a := by
  induction takes with
  | nil s => exact ⟨rfl, filled⟩
  | @known s t u m ms slot mem named free read later ih =>
    have other : slot.name ≠ name := by
      intro same
      rw [h.filled slot mem same, filled] at free
      cases free
    rw [membersNamed_cons_of_ne (named ▸ other)]
    exact ih ((h.others slot mem other read).trans filled)
  | @unknown s u m ms absent skipped later ih =>
    rw [membersNamed_cons_of_ne fun same => absent (same ▸ known)]
    exact ih filled

/-- What is in a place in the end is what is given of the field. -/
theorem Place.given (h : f.Place name c get) (known : name ∈ f.slots.map Slot.name)
    (takes : f.Takes s ms t) (empty : get s = Option.none) (default : α) :
    Given ms name c default ((get t).getD default) := by
  induction takes with
  | nil s =>
    rw [empty]
    rfl
  | @known s t u m ms slot mem named free read later ih =>
    by_cases same : slot.name = name
    · obtain ⟨a, own, filled⟩ := h.own slot mem same read
      obtain ⟨others, stays⟩ := h.stays known later filled
      rw [Given, membersNamed_cons_of_eq (named.symm.trans same), others, stays]
      exact own
    · rw [Given, membersNamed_cons_of_ne (named ▸ same)]
      exact ih ((h.others slot mem same read).trans empty)
  | @unknown s u m ms absent skipped later ih =>
    rw [Given, membersNamed_cons_of_ne fun same => absent (same ▸ known)]
    exact ih empty

end Places

/-! ## Texts -/

variable {f : Fields α}

theorem mem_slots_of_slot? {k : String} {slot : Slot f.State} (found : f.slot? k = some slot) :
    slot ∈ f.slots ∧ slot.name = k :=
  ⟨List.mem_of_find?_eq_some found,
    beq_iff_eq.mp (List.find?_some (p := fun s : Slot f.State => s.name == k) found)⟩

theorem not_mem_names_of_slot? {k : String} (unknown : f.slot? k = Option.none) :
    k ∉ f.slots.map Slot.name := by
  intro mem
  obtain ⟨slot, mem, named⟩ := List.mem_map.mp mem
  exact List.find?_eq_none.mp unknown slot mem (beq_iff_eq.mpr named)

theorem takes_of_membersLoop {fuel : Nat} {first : Bool} {s t : f.State} {cs rest : List Char}
    (read : membersLoop f.readMember fuel first s cs = .ok (t, rest)) :
    ∃ ms, ObjectText first cs ms rest ∧ f.Takes s ms t := by
  induction fuel generalizing first s cs with
  | zero => cases read
  | succ fuel ih =>
    obtain ⟨next, seen, read⟩ := bind_eq_ok_iff.mp read
    cases next with
    | close behind =>
      cases read
      exact ⟨[], .close seen, .nil _⟩
    | item text =>
      obtain ⟨⟨key, behind⟩, named, read⟩ := bind_eq_ok_iff.mp read
      obtain ⟨⟨u, after⟩, member, read⟩ := bind_eq_ok_iff.mp read
      obtain ⟨ms, later, takes⟩ := ih read
      cases place : f.slot? key with
      | none =>
        rw [readMember_of_none place] at member
        obtain ⟨value, colon, member⟩ := bind_eq_ok_iff.mp member
        obtain ⟨skipped, skips, same⟩ := map_eq_ok_iff.mp member
        cases same
        exact ⟨⟨key, value, after⟩ :: ms, .member seen named colon later,
          .unknown (not_mem_names_of_slot? place) skips takes⟩
      | some slot =>
        rw [readMember_of_some place] at member
        obtain ⟨mem, same⟩ := mem_slots_of_slot? place
        split at member
        · cases member
        · rename_i free
          obtain ⟨value, colon, member⟩ := bind_eq_ok_iff.mp member
          exact ⟨⟨key, value, after⟩ :: ms, .member seen named colon later,
            .known mem same (Bool.eq_false_iff.mpr free) member takes⟩

/-- Each field of a record has a place of its own. -/
structure Placed (f : Fields α) : Prop where
  distinct : (f.slots.map Slot.name).Nodup
  place : ∀ slot ∈ f.slots, ∃ (γ : Type) (c : Codec γ) (get : f.State → Option γ), f.Place slot.name c get

/-- Reading one field fills no other. -/
theorem Placed.filled_of_read (h : f.Placed) {slot other : Slot f.State} (mem : slot ∈ f.slots)
    (mem' : other ∈ f.slots) (different : slot.name ≠ other.name) {s t : f.State} {cs rest : List Char}
    (read : slot.read s cs = .ok (t, rest)) : other.filled t = other.filled s := by
  obtain ⟨γ, c, get, place⟩ := h.place other mem'
  rw [place.filled other mem' rfl, place.filled other mem' rfl, place.others slot mem different read]

theorem takes_of_readPositions (placed : f.Placed) {title : String} {i : Nat}
    {slots : List (Slot f.State)} {s t : f.State} {cs rest : List Char}
    (mem : ∀ slot ∈ slots, slot ∈ f.slots) (distinct : (slots.map Slot.name).Nodup)
    (free : ∀ slot ∈ slots, slot.filled s = false)
    (read : f.readPositions title i slots s cs = .ok (t, rest)) :
    ∃ ms, ArrayText (i == 0) (slots.map Slot.name) cs ms rest ∧ f.Takes s ms t := by
  induction slots generalizing i s cs with
  | nil =>
    obtain ⟨behind, ends, same⟩ := map_eq_ok_iff.mp read
    cases same
    exact ⟨[], .full ends, .nil _⟩
  | cons slot slots ih =>
    obtain ⟨next, seen, read⟩ := bind_eq_ok_iff.mp read
    cases next with
    | close behind =>
      simp only at read
      split at read
      · cases read
        exact ⟨[], .early seen, .nil _⟩
      · cases read
    | item text =>
      obtain ⟨⟨u, after⟩, taken, read⟩ := bind_eq_ok_iff.mp read
      obtain ⟨here, mem⟩ := List.forall_mem_cons.mp mem
      obtain ⟨free', free⟩ := List.forall_mem_cons.mp free
      obtain ⟨fresh, distinct⟩ := List.nodup_cons.mp distinct
      have free (other : Slot f.State) (later : other ∈ slots) : other.filled u = false := by
        have different : slot.name ≠ other.name := fun same =>
          fresh (List.mem_map.mpr ⟨other, later, same.symm⟩)
        rw [placed.filled_of_read here (mem other later) different taken, free other later]
      obtain ⟨ms, elements, takes⟩ := ih mem distinct free read
      rw [beq_false_of_ne (Nat.succ_ne_zero i)] at elements
      exact ⟨⟨slot.name, text, after⟩ :: ms, .element (m := ⟨slot.name, text, after⟩) seen elements,
        .known here rfl free' taken takes⟩

/-- A text that is read as a record is the text of one, and the record has what it gives. -/
theorem recordText_of_read (placed : f.Placed) {title : String} {cs rest : List Char} {a : α}
    (read : f.read title cs = .ok (a, rest)) :
    ∃ ms s, RecordText (f.slots.map Slot.name) cs ms rest ∧ f.Takes f.empty ms s ∧ f.finish s = .ok a := by
  unfold Fields.read at read
  split at read
  · rename_i text bracket
    obtain ⟨⟨s, behind⟩, read, finishes⟩ := bind_eq_ok_iff.mp read
    obtain ⟨b, finish, same⟩ := bind_eq_ok_iff.mp finishes
    cases same
    have free : ∀ slot ∈ f.slots, slot.filled f.empty = false := by
      intro slot mem
      obtain ⟨γ, c, get, place⟩ := placed.place slot mem
      rw [place.filled slot mem rfl, place.empty]
      rfl
    obtain ⟨ms, elements, takes⟩ :=
      takes_of_readPositions placed (fun _ mem => mem) placed.distinct free read
    exact ⟨ms, s, .array bracket elements, takes, finish⟩
  · rename_i text brace
    obtain ⟨⟨s, behind⟩, read, finishes⟩ := bind_eq_ok_iff.mp read
    obtain ⟨b, finish, same⟩ := bind_eq_ok_iff.mp finishes
    cases same
    obtain ⟨ms, members, takes⟩ := takes_of_membersLoop read
    exact ⟨ms, s, .object brace members, takes, finish⟩
  · cases read

/-! ## Selections -/

/-- Whatever members of an encoded record are given, and in whatever order, they are gathered into their
places; `chosen` says what the places are then, by the names that are given. -/
structure Selective (f : Fields α) (chosen : List String → α → f.State) : Prop where
  gathers : ∀ a (l : Layout) level (names : List String) (ms : Members), (ms.map Prod.fst).Nodup →
    (∀ m ∈ ms, m ∈ f.encode a) → (∀ k ∈ (f.encode a).map Prod.fst, k ∈ names ↔ k ∈ ms.map Prod.fst) →
    l.Gathers level f.readMember f.empty ms (chosen names a)

theorem selective_none : none.Selective fun _ _ => () where
  gathers a l level names ms distinct mem given := by
    have empty : ms = [] := List.eq_nil_iff_forall_not_mem.mpr fun m hm => nomatch mem m hm
    rw [empty]
    exact .nil ()

section Field

variable {name : String} {c : Codec α} {rest : Fields β} {default : Option α}

/-- The member with the name of the first field may stand anywhere among the others, or not at all. -/
theorem gathers_insert {l : Layout} {level : Nat} (hc : c.Lossless) {a : α} {o : Option α}
    {t u : rest.State} {ms : Members} (distinct : (ms.map Prod.fst).Nodup)
    (own : ∀ m ∈ ms, m.1 = name → m.2 = c.encode a)
    (filled : name ∈ ms.map Prod.fst → o = some a) (empty : name ∉ ms.map Prod.fst → o = Option.none)
    (gathers : l.Gathers level rest.readMember t (ms.filter fun m => m.1 ≠ name) u) :
    l.Gathers level (field name c rest default).readMember (Option.none, t) ms (o, u) := by
  induction ms generalizing t with
  | nil =>
    cases gathers
    cases empty List.not_mem_nil
    exact .nil _
  | cons m ms ih =>
    obtain ⟨k, v⟩ := m
    obtain ⟨fresh, distinct⟩ := List.nodup_cons.mp distinct
    obtain ⟨here, own⟩ := List.forall_mem_cons.mp own
    by_cases same : k = name
    · subst same
      cases here rfl
      cases filled List.mem_cons_self
      have others : (ms.filter fun m => m.1 ≠ k) = ms :=
        List.filter_eq_self.mpr fun m mem =>
          decide_eq_true fun same => fresh (List.mem_map.mpr ⟨m, mem, same⟩)
      rw [List.filter_cons_of_neg (by simp), others] at gathers
      exact .cons (fun ends => readMember_field hc a t ends) (gathers_field gathers fresh (some a))
    · rw [List.filter_cons_of_pos (by simpa using same)] at gathers
      have mem : name ∈ ((k, v) :: ms).map Prod.fst ↔ name ∈ ms.map Prod.fst := by
        simp [Ne.symm same]
      rw [mem] at filled empty
      cases gathers with
      | cons read later =>
        refine .cons (fun ends => ?_) (ih distinct own filled empty later)
        rw [readMember_field_of_ne (Ne.symm same), read ends]
        rfl

/-- One more field with a name of its own. -/
theorem Selective.field {chosen : List String → β → rest.State} (hr : rest.Selective chosen)
    (hc : c.Lossless) (name : String) (fresh : ∀ b, name ∉ (rest.encode b).map Prod.fst)
    (default : Option α) : (field name c rest default).Selective fun names p =>
      (if name ∈ names then some p.1 else Option.none, chosen names p.2) where
  gathers p l level names ms distinct mem given := by
    obtain ⟨here, given⟩ := List.forall_mem_cons.mp given
    have own : ∀ m ∈ ms, m.1 = name → m.2 = c.encode p.1 := by
      intro m hm same
      rcases List.mem_cons.mp (mem m hm) with rfl | later
      · rfl
      · exact absurd (List.mem_map.mpr ⟨m, later, same⟩) (fresh p.2)
    refine gathers_insert hc distinct own (fun there => if_pos (here.mpr there))
      (fun absent => if_neg (mt here.mp absent)) ?_
    refine hr.gathers p.2 l level names _ ?_ ?_ ?_
    · exact (List.filter_sublist.map Prod.fst).nodup distinct
    · intro m hm
      obtain ⟨hm, other⟩ := List.mem_filter.mp hm
      rcases List.mem_cons.mp (mem m hm) with rfl | later
      · simp at other
      · exact later
    · intro k hk
      have other : k ≠ name := fun same => fresh p.2 (same ▸ hk)
      rw [given k hk, List.mem_map, List.mem_map]
      constructor
      · rintro ⟨m, hm, rfl⟩
        exact ⟨m, List.mem_filter.mpr ⟨hm, decide_eq_true other⟩, rfl⟩
      · rintro ⟨m, hm, rfl⟩
        exact ⟨m, (List.mem_filter.mp hm).1, rfl⟩

end Field

theorem Selective.map {f : Fields α} {chosen : List String → α → f.State} (hf : f.Selective chosen)
    (g : α → β) (g' : β → α) : (f.map g g').Selective fun names b => chosen names (g' b) where
  gathers b l level names ms distinct mem given := by
    have gathers := hf.gathers (g' b) l level names ms distinct mem given
    rw [← readMember_map f g g'] at gathers
    exact gathers

/-- The text of an object with a selection of the members is read as the record that they make. -/
theorem Selective.read {f : Fields α} {chosen : List String → α → f.State} (hf : f.Selective chosen)
    (title : String) {a : α} {ms : Members} (distinct : (ms.map Prod.fst).Nodup)
    (mem : ∀ m ∈ ms, m ∈ f.encode a) (l : Layout) (level : Nat) (rest : List Char) :
    f.read title ((Value.object ms).lay l level ++ rest) =
      (f.finish (chosen (ms.map Prod.fst) a)).map (·, rest) := by
  have gathers := hf.gathers a l (level + 1) (ms.map Prod.fst) ms distinct mem fun _ _ => Iff.rfl
  obtain ⟨text, laid, read⟩ := readMembers_lay gathers rest
  rw [laid]
  simp only [Fields.read, skipBlanks_cons (show isBlank '\x7b' = false from rfl)]
  show (readMembers f.readMember f.empty text).bind _ = _
  rw [read]
  show (f.finish _).bind _ = _
  cases f.finish (chosen (ms.map Prod.fst) a) with
  | error e => rfl
  | ok a => rfl

end Fields

end Trainer6800.Json
