import Trainer6800.Proofs.Json.Layout

/-!
# Printed values read back

A reader makes of the text of a value the value itself, if the value is plain: its numbers are
natural numbers of 64 bits, and the members of its objects are in the order of their keys.  The first
is needed because floating-point numbers are rounded on their way, the second because a reader puts
the members in this order itself.  Every value that is made by sorting an encoded record is plain.

`Layout.ReadsBack` is what a value needs of the values inside it.  The loops over elements and members
are followed once each, for any items that read back, and the theorem about values is then an
induction on `Value.Plain` with one case for each kind of value.
-/

namespace Trainer6800.Json

/-- Values that nothing is lost of on the way through text. -/
inductive Value.Plain : Value → Prop where
  | null : Plain .null
  | bool (b : Bool) : Plain (.bool b)
  | natural {n : Nat} (fits : n ≤ maxSignificand) : Plain (.ofNat n)
  | string (s : String) : Plain (.string s)
  | array {vs : List Value} (elements : ∀ v ∈ vs, Plain v) : Plain (.array vs)
  | object {ms : Members} (sorted : Members.Ascending ms) (members : ∀ m ∈ ms, Plain m.2) :
    Plain (.object ms)

/-! ## Blanks -/

theorem skipBlanks_append {b cs : List Char} (blank : Blank b) :
    skipBlanks (b ++ cs) = skipBlanks cs :=
  List.dropWhile_append_of_pos blank

theorem skipBlanks_cons {c : Char} (visible : isBlank c = false) (cs : List Char) :
    skipBlanks (c :: cs) = c :: cs := by
  rw [skipBlanks, List.dropWhile_cons_of_neg]
  rw [visible]
  exact Bool.false_ne_true

/-- Blanks in front of a value do not matter. -/
theorem readNested_append {b : List Char} (blank : Blank b) (depth : Nat) (cs : List Char) :
    readNested depth (b ++ cs) = readNested depth cs := by
  cases depth with
  | zero => rfl
  | succ depth =>
    unfold readNested
    rw [skipBlanks_append blank]

theorem endsNumber_of_isBlank {c : Char} (blank : isBlank c = true) (rest : List Char) :
    EndsNumber (c :: rest) := by
  have four : ((c = ' ' ∨ c = '\n') ∨ c = '\t') ∨ c = '\r' := by
    simpa only [isBlank, Bool.or_eq_true, beq_iff_eq] using blank
  rcases four with ((rfl | rfl) | rfl) | rfl
  all_goals exact ⟨rfl, by decide, by decide, by decide⟩

theorem EndsNumber.append {b rest : List Char} (blank : Blank b) (ends : EndsNumber rest) :
    EndsNumber (b ++ rest) := by
  cases b with
  | nil => exact ends
  | cons c b => exact endsNumber_of_isBlank (blank c List.mem_cons_self) (b ++ rest)

/-! ## Between the items -/

/-- What starts neither with a blank nor with the end of an array. -/
def StartsItem : List Char → Prop
  | [] => False
  | c :: _ => isBlank c = false ∧ c ≠ ']'

theorem nextElement_first {b cs : List Char} (blank : Blank b) (starts : StartsItem cs) :
    nextElement true (b ++ cs) = .ok (.item cs) := by
  rw [nextElement, skipBlanks_append blank]
  cases cs with
  | nil => exact absurd starts id
  | cons c cs =>
    obtain ⟨visible, opens⟩ := starts
    simp only [skipBlanks_cons visible, if_neg opens, if_true]

theorem nextElement_later {b cs : List Char} (blank : Blank b) (starts : StartsItem cs) :
    nextElement false (',' :: (b ++ cs)) = .ok (.item cs) := by
  rw [nextElement, skipBlanks_cons rfl]
  dsimp only
  rw [if_neg (by decide), if_neg (by decide), if_pos rfl, skipBlanks_append blank]
  cases cs with
  | nil => exact absurd starts id
  | cons c cs =>
    obtain ⟨visible, opens⟩ := starts
    simp only [skipBlanks_cons visible, if_neg opens]

theorem nextElement_close {b : List Char} (blank : Blank b) (first : Bool) (rest : List Char) :
    nextElement first (b ++ ']' :: rest) = .ok (.close rest) := by
  rw [nextElement, skipBlanks_append blank, skipBlanks_cons rfl]
  rfl

theorem nextKey_first {b : List Char} (blank : Blank b) (cs : List Char) :
    nextKey true (b ++ '"' :: cs) = .ok (.item cs) := by
  rw [nextKey, skipBlanks_append blank, skipBlanks_cons rfl]
  rfl

theorem nextKey_later {b : List Char} (blank : Blank b) (cs : List Char) :
    nextKey false (',' :: (b ++ '"' :: cs)) = .ok (.item cs) := by
  rw [nextKey, skipBlanks_cons rfl]
  dsimp only
  rw [if_neg (by decide), if_neg (by decide), if_pos rfl, skipBlanks_append blank,
    skipBlanks_cons rfl]
  rfl

theorem nextKey_close {b : List Char} (blank : Blank b) (first : Bool) (rest : List Char) :
    nextKey first (b ++ '\x7d' :: rest) = .ok (.close rest) := by
  rw [nextKey, skipBlanks_append blank, skipBlanks_cons rfl]
  rfl

theorem readColon_cons (cs : List Char) : readColon (':' :: cs) = .ok cs := by
  rw [readColon, skipBlanks_cons rfl]
  rfl

/-! ## The words -/

theorem natural_text (n : Nat) : (Number.int n).text = Nat.toDigits 10 n := by
  show (Nat.repr n).toList = _
  exact Nat.toList_repr

theorem isBlank_of_isDigit {c : Char} (digit : c.isDigit = true) : isBlank c = false := by
  refine Bool.eq_false_iff.mpr ?_
  intro blank
  have none := (endsNumber_of_isBlank blank []).1
  rw [decimalDigit?_of_isDigit digit] at none
  cases none

/-- The first digit of a number does not start any other kind of value. -/
theorem readNested_digit {c : Char} (digit : c.isDigit = true) (depth : Nat) (cs : List Char) :
    readNested (depth + 1) (c :: cs) =
      (readNumber (c :: cs)).map fun p => (.number p.1, p.2) := by
  have value := decimalDigit?_of_isDigit digit
  have differs (d : Char) (other : d.isDigit = false) : c ≠ d := by
    rintro rfl
    rw [digit] at other
    cases other
  rw [readNested, skipBlanks_cons (isBlank_of_isDigit digit)]
  dsimp only
  rw [if_neg (differs 'n' rfl), if_neg (differs 't' rfl), if_neg (differs 'f' rfl),
    if_neg (differs '"' rfl), if_neg (differs '[' rfl), if_neg (differs '\x7b' rfl),
    if_pos (.inr (by rw [value]; rfl))]
  cases readNumber (c :: cs) with
  | error e => rfl
  | ok p => rfl

/-- A number has a first digit. -/
theorem exists_toDigits_eq_cons (n : Nat) :
    ∃ c cs, Nat.toDigits 10 n = c :: cs ∧ c.isDigit = true := by
  cases digits : Nat.toDigits 10 n with
  | nil => exact absurd digits Nat.toDigits_ne_nil
  | cons c cs =>
    refine ⟨c, cs, rfl, ?_⟩
    exact Nat.isDigit_of_mem_toDigits (by decide) (by decide) (digits ▸ List.mem_cons_self)

theorem readNested_natural {n : Nat} (fits : n ≤ maxSignificand) {rest : List Char}
    (ends : EndsNumber rest) (depth : Nat) :
    readNested (depth + 1) (Nat.toDigits 10 n ++ rest) = .ok (.ofNat n, rest) := by
  have read := readNumber_toDigits fits ends
  obtain ⟨c, cs, digits, digit⟩ := exists_toDigits_eq_cons n
  rw [digits, List.cons_append] at read ⊢
  rw [readNested_digit digit, read]
  rfl

theorem stringText_append (s : String) (rest : List Char) :
    stringText s ++ rest = '"' :: (s.toList.flatMap escapeChar ++ '"' :: rest) := by
  rw [stringText, List.append_assoc]
  rfl

theorem readNested_string (depth : Nat) (s : String) (rest : List Char) :
    readNested (depth + 1) (stringText s ++ rest) = .ok (.string s, rest) := by
  rw [stringText_append, readNested, skipBlanks_cons rfl]
  show (readString _).bind _ = _
  rw [readString_escaped]
  rfl

theorem readNested_array (depth : Nat) (cs : List Char) :
    readNested (depth + 1) ('[' :: cs) =
      (readElements (readNested depth) cs).map fun p => (.array p.1, p.2) := by
  rw [readNested, skipBlanks_cons rfl]
  show (readElements (readNested depth) cs).bind _ = _
  cases readElements (readNested depth) cs with
  | error e => rfl
  | ok p => rfl

/-- Read a member of an object, after its key. -/
def readMemberValue (depth : Nat) (key : String) (members : Members) : Reader Members
  | cs => do
    let p ← readNested depth (← readColon cs)
    return (members.put key p.1, p.2)

theorem readNested_object (depth : Nat) (cs : List Char) :
    readNested (depth + 1) ('\x7b' :: cs) =
      (readMembers (readMemberValue depth) [] cs).map fun p => (.object p.1, p.2) := by
  rw [readNested, skipBlanks_cons rfl]
  show (readMembers (readMemberValue depth) [] cs).bind _ = _
  cases readMembers (readMemberValue depth) [] cs with
  | error e => rfl
  | ok p => rfl

/-! ## Values -/

/-- Wherever the text of the value stands, a reader takes it for the value. -/
def Layout.ReadsBack (l : Layout) (v : Value) : Prop :=
  ∀ (level depth : Nat) (rest : List Char), EndsNumber rest → (v.lay l level).length ≤ depth →
    readNested (depth + 1) (v.lay l level ++ rest) = .ok (v, rest)

/-- The text of a plain value starts with the value. -/
theorem Value.Plain.startsItem {v : Value} (h : v.Plain) (l : Layout) (level : Nat)
    (rest : List Char) : StartsItem (v.lay l level ++ rest) := by
  cases h with
  | null => exact ⟨rfl, by decide⟩
  | bool b =>
    cases b with
    | false => exact ⟨rfl, by decide⟩
    | true => exact ⟨rfl, by decide⟩
  | @natural n fits =>
    rw [Value.ofNat, Value.lay, natural_text]
    obtain ⟨c, cs, digits, digit⟩ := exists_toDigits_eq_cons n
    rw [digits]
    refine ⟨isBlank_of_isDigit digit, ?_⟩
    rintro rfl
    exact absurd digit (by decide)
  | string s => exact ⟨rfl, by decide⟩
  | @array vs elements =>
    cases vs with
    | nil => exact ⟨rfl, by decide⟩
    | cons v vs =>
      simp only [Value.lay, List.cons_append]
      exact ⟨rfl, by decide⟩
  | @object ms sorted members =>
    cases ms with
    | nil => exact ⟨rfl, by decide⟩
    | cons m ms =>
      simp only [Value.lay, List.cons_append]
      exact ⟨rfl, by decide⟩

/-! ### Elements -/

theorem endsNumber_elements (l : Layout) (level outer : Nat) (vs : List Value) (rest : List Char) :
    EndsNumber (layElements l level vs ++ (l.line outer ++ ']' :: rest)) := by
  cases vs with
  | nil =>
    rw [layElements, List.nil_append]
    exact EndsNumber.append (l.blankLine outer) ⟨rfl, by decide, by decide, by decide⟩
  | cons v vs =>
    simp only [layElements, List.cons_append]
    exact ⟨rfl, by decide, by decide, by decide⟩

/-- The loop over elements takes the next one. -/
theorem elementsLoop_item {α : Type} {element : Reader α} {first : Bool} {cs text rest : List Char}
    {a : α} (next : nextElement first cs = .ok (.item text)) (read : element text = .ok (a, rest))
    (fuel : Nat) (taken : List α) :
    elementsLoop element (fuel + 1) first taken cs =
      elementsLoop element fuel false (a :: taken) rest := by
  rw [elementsLoop, next]
  show (element text).bind _ = _
  rw [read]
  rfl

section Elements

variable {α : Type}

/-- Wherever the text of an item stands, the reader of elements takes it for the item. -/
structure Layout.ReadsItem (l : Layout) (level : Nat) (element : Reader α) (a : α) (v : Value) :
    Prop where
  starts : ∀ rest, StartsItem (v.lay l level ++ rest)
  reads : ∀ {rest}, EndsNumber rest → element (v.lay l level ++ rest) = .ok (a, rest)

variable {l : Layout} {level : Nat} {element : Reader α} {encode : α → Value}

/-- The elements after the first, and the closing bracket. -/
theorem elementsLoop_lay {as : List α} (back : ∀ a ∈ as, l.ReadsItem level element a (encode a))
    {fuel : Nat} (enough : (layElements l level (as.map encode)).length ≤ fuel) (outer : Nat)
    (taken : List α) (rest : List Char) :
    elementsLoop element (fuel + 1) false taken
      (layElements l level (as.map encode) ++ (l.line outer ++ ']' :: rest)) =
        .ok (taken.reverse ++ as, rest) := by
  induction as generalizing fuel taken with
  | nil =>
    rw [List.map_nil, layElements, List.nil_append, elementsLoop,
      nextElement_close (l.blankLine outer), List.append_nil]
    rfl
  | cons a as ih =>
    rw [List.forall_mem_cons] at back
    simp only [List.map_cons, layElements, List.cons_append, List.append_assoc, List.length_cons,
      List.length_append] at enough ⊢
    -- the comma alone takes one unit of fuel
    obtain ⟨fuel, rfl⟩ : ∃ n, fuel = n + 1 := Nat.exists_eq_add_one.mpr (by omega)
    have starts := back.1.starts (layElements l level (as.map encode) ++ (l.line outer ++ ']' :: rest))
    have here := back.1.reads (endsNumber_elements l level outer (as.map encode) rest)
    rw [elementsLoop_item (nextElement_later (l.blankLine level) starts) here,
      ih back.2 (by omega) (a :: taken), List.reverse_cons, List.append_assoc, List.singleton_append]

/-- The elements of an array, from behind its bracket. -/
theorem readElements_lay {as : List α}
    (back : ∀ a ∈ as, l.ReadsItem (level + 1) element a (encode a)) (rest : List Char) :
    ∃ text, (Value.array (as.map encode)).lay l level ++ rest = '[' :: text ∧
      readElements element text = .ok (as, rest) := by
  cases as with
  | nil => exact ⟨']' :: rest, rfl, rfl⟩
  | cons a as =>
    rw [List.forall_mem_cons] at back
    let behind := layElements l (level + 1) (as.map encode) ++ (l.line level ++ ']' :: rest)
    refine ⟨l.line (level + 1) ++ ((encode a).lay l (level + 1) ++ behind), ?_, ?_⟩
    · simp only [behind, List.map_cons, Value.lay, List.cons_append, List.append_assoc,
        List.nil_append]
    · have starts := back.1.starts behind
      have here := back.1.reads (endsNumber_elements l (level + 1) level (as.map encode) rest)
      rw [readElements, elementsLoop_item (nextElement_first (l.blankLine (level + 1)) starts) here]
      simp only [behind, List.length_append, List.length_cons, ← Nat.add_assoc]
      exact elementsLoop_lay back.2 (by omega) level [a] rest

end Elements

/-! ### Members -/

theorem endsNumber_members (l : Layout) (level outer : Nat) (ms : Members) (rest : List Char) :
    EndsNumber (layMembers l level ms ++ (l.line outer ++ '\x7d' :: rest)) := by
  cases ms with
  | nil =>
    rw [layMembers, List.nil_append]
    exact EndsNumber.append (l.blankLine outer) ⟨rfl, by decide, by decide, by decide⟩
  | cons m ms =>
    simp only [layMembers, List.cons_append]
    exact ⟨rfl, by decide, by decide, by decide⟩

/-- The loop over members takes the next one. -/
theorem membersLoop_item {σ : Type} {member : String → σ → Reader σ} {first : Bool}
    {cs text behind rest : List Char} {key : String} {s t : σ}
    (next : nextKey first cs = .ok (.item text)) (named : readString text = .ok (key, behind))
    (read : member key s behind = .ok (t, rest)) (fuel : Nat) :
    membersLoop member (fuel + 1) first s cs = membersLoop member fuel false t rest := by
  rw [membersLoop, next]
  show (readString text).bind _ = _
  rw [named]
  show (member key s behind).bind _ = _
  rw [read]
  rfl

section Members

variable {σ : Type}

/-- A reader of members, given the texts of some members one after the other, gets from one state to
another. -/
inductive Layout.Gathers (l : Layout) (level : Nat) (member : String → σ → Reader σ) :
    σ → Members → σ → Prop
  | nil (s : σ) : Gathers l level member s [] s
  | cons {s t u : σ} {k : String} {v : Value} {ms : Members}
    (read : ∀ {rest}, EndsNumber rest →
      member k s (':' :: (l.gap ++ (v.lay l level ++ rest))) = .ok (t, rest))
    (later : Gathers l level member t ms u) : Gathers l level member s ((k, v) :: ms) u

variable {l : Layout} {level : Nat} {member : String → σ → Reader σ} {s t : σ} {ms : Members}

/-- The members after the first, and the closing brace. -/
theorem membersLoop_lay (gathers : l.Gathers level member s ms t) {fuel : Nat}
    (enough : (layMembers l level ms).length ≤ fuel) (outer : Nat) (rest : List Char) :
    membersLoop member (fuel + 1) false s
      (layMembers l level ms ++ (l.line outer ++ '\x7d' :: rest)) = .ok (t, rest) := by
  induction gathers generalizing fuel with
  | nil s =>
    rw [layMembers, List.nil_append, membersLoop, nextKey_close (l.blankLine outer)]
    rfl
  | @cons s t u k v ms read later ih =>
    simp only [layMembers, List.cons_append, List.append_assoc, List.length_cons,
      List.length_append, stringText_append] at enough ⊢
    obtain ⟨fuel, rfl⟩ : ∃ n, fuel = n + 1 := Nat.exists_eq_add_one.mpr (by omega)
    have here := read (endsNumber_members l level outer ms rest)
    rw [membersLoop_item (nextKey_later (l.blankLine level) _) (readString_escaped k _) here]
    exact ih (by omega)

/-- The members of an object, from behind its brace. -/
theorem readMembers_lay (gathers : l.Gathers (level + 1) member s ms t) (rest : List Char) :
    ∃ text, (Value.object ms).lay l level ++ rest = '\x7b' :: text ∧
      readMembers member s text = .ok (t, rest) := by
  cases gathers with
  | nil => exact ⟨'\x7d' :: rest, rfl, rfl⟩
  | @cons s t' u k v ms read later =>
    let behind := layMembers l (level + 1) ms ++ (l.line level ++ '\x7d' :: rest)
    refine ⟨l.line (level + 1) ++ (stringText k ++ ':' :: (l.gap ++ (v.lay l (level + 1) ++ behind))),
      ?_, ?_⟩
    · simp only [behind, Value.lay, List.cons_append, List.append_assoc, List.nil_append]
    · have here := read (endsNumber_members l (level + 1) level ms rest)
      rw [readMembers, stringText_append,
        membersLoop_item (nextKey_first (l.blankLine (level + 1)) _) (readString_escaped k _) here]
      simp only [behind, List.length_append, List.length_cons, ← Nat.add_assoc]
      exact membersLoop_lay later (by omega) level rest

end Members

/-- A member with a key behind all others goes to the end. -/
theorem readMemberValue_lay {l : Layout} {k : String} {v : Value} (back : l.ReadsBack v)
    (before : Members) {ms : Members} (sorted : Members.Ascending (before ++ (k, v) :: ms))
    {level depth : Nat} {rest : List Char} (ends : EndsNumber rest)
    (deep : (v.lay l level).length ≤ depth) :
    readMemberValue (depth + 1) k before (':' :: (l.gap ++ (v.lay l level ++ rest))) =
      .ok (before ++ [(k, v)], rest) := by
  have last : ∀ key ∈ before.map Prod.fst, key < k := by
    intro key mem
    rw [Members.Ascending, List.map_append, List.pairwise_append] at sorted
    exact sorted.2.2 key mem k List.mem_cons_self
  rw [readMemberValue, readColon_cons]
  show (readNested (depth + 1) _).bind _ = _
  rw [readNested_append l.blankGap, back level depth rest ends deep]
  show Except.ok (Members.put k v before, rest) = _
  rw [Members.put_of_last last]

/-- Members in order are put one behind the other. -/
theorem gathers_readMemberValue {l : Layout} {ms : Members} (back : ∀ m ∈ ms, l.ReadsBack m.2)
    (before : Members) (sorted : Members.Ascending (before ++ ms)) {level depth : Nat}
    (deep : (layMembers l level ms).length ≤ depth) :
    l.Gathers level (readMemberValue (depth + 1)) before ms (before ++ ms) := by
  induction ms generalizing before with
  | nil =>
    rw [List.append_nil]
    exact .nil before
  | cons m ms ih =>
    obtain ⟨k, v⟩ := m
    rw [List.forall_mem_cons] at back
    simp only [layMembers, List.cons_append, List.append_assoc, List.length_cons,
      List.length_append] at deep
    have later := ih back.2 (before ++ [(k, v)]) (by rwa [← List.append_cons]) (by omega)
    rw [← List.append_cons] at later
    have here : (v.lay l level).length ≤ depth := by omega
    exact .cons (fun ends => readMemberValue_lay back.1 before sorted ends here) later

/-! ### Values of every kind -/

theorem length_lay_le {v : Value} {vs : List Value} (mem : v ∈ vs) (l : Layout) (level : Nat) :
    (v.lay l level).length ≤ (layElements l level vs).length := by
  induction vs with
  | nil => cases mem
  | cons w vs ih =>
    simp only [layElements, List.cons_append, List.length_cons, List.length_append]
    rcases List.mem_cons.mp mem with rfl | later
    · omega
    · have := ih later
      omega

/-- The brackets make an array longer than what is in it. -/
theorem length_layElements_lt (l : Layout) (level : Nat) (vs : List Value) :
    (layElements l (level + 1) vs).length < ((Value.array vs).lay l level).length := by
  cases vs with
  | nil => exact Nat.zero_lt_two
  | cons v vs =>
    simp only [layElements, Value.lay, List.cons_append, List.length_cons, List.length_append]
    omega

theorem length_layMembers_lt (l : Layout) (level : Nat) (ms : Members) :
    (layMembers l (level + 1) ms).length < ((Value.object ms).lay l level).length := by
  cases ms with
  | nil => exact Nat.zero_lt_two
  | cons m ms =>
    simp only [layMembers, Value.lay, List.cons_append, List.length_cons, List.length_append]
    omega

/-- A plain value is read back from any layout. -/
theorem Value.Plain.readsBack {v : Value} (h : v.Plain) (l : Layout) : l.ReadsBack v := by
  induction h with
  | null =>
    intro level depth rest ends deep
    rfl
  | bool b =>
    intro level depth rest ends deep
    cases b with
    | false => rfl
    | true => rfl
  | natural fits =>
    intro level depth rest ends deep
    rw [Value.ofNat, Value.lay, natural_text]
    exact readNested_natural fits ends depth
  | string s =>
    intro level depth rest ends deep
    rw [Value.lay]
    exact readNested_string depth s rest
  | @array vs elements ih =>
    intro level depth rest ends deep
    -- the brackets leave room for one level more
    have shorter := length_layElements_lt l level vs
    obtain ⟨depth, rfl⟩ : ∃ n, depth = n + 1 := Nat.exists_eq_add_one.mpr (by omega)
    have back : ∀ v ∈ vs, l.ReadsItem (level + 1) (readNested (depth + 1)) v (id v) := by
      intro v mem
      have fits := length_lay_le mem l (level + 1)
      exact ⟨(elements v mem).startsItem l (level + 1),
        fun ends => ih v mem (level + 1) depth _ ends (by omega)⟩
    obtain ⟨text, laid, read⟩ := readElements_lay back rest
    rw [List.map_id] at laid
    rw [laid, readNested_array, read]
    rfl
  | @object ms sorted members ih =>
    intro level depth rest ends deep
    have shorter := length_layMembers_lt l level ms
    obtain ⟨depth, rfl⟩ : ∃ n, depth = n + 1 := Nat.exists_eq_add_one.mpr (by omega)
    have gathers : l.Gathers (level + 1) (readMemberValue (depth + 1)) [] ms ms :=
      gathers_readMemberValue ih [] sorted (by omega)
    obtain ⟨text, laid, read⟩ := readMembers_lay gathers rest
    rw [laid, readNested_object, read]
    rfl

theorem ofText_lay {v : Value} (h : v.Plain) (l : Layout) (level : Nat) :
    Value.ofText (String.ofList (v.lay l level)) = .ok v := by
  have read := h.readsBack l level (v.lay l level).length [] trivial (Nat.le_refl _)
  rw [List.append_nil] at read
  rw [Value.ofText, readWhole, String.toList_ofList, readValue, read]
  rfl

/-- Printing a plain value on one line and reading it gives the value. -/
theorem Value.Plain.ofText_compactText {v : Value} (h : v.Plain) :
    Value.ofText v.compactText = .ok v := by
  rw [Value.compactText, compact_eq_lay 0]
  exact ofText_lay h .compact 0

/-- Printing a plain value with one item a line and reading it gives the value. -/
theorem Value.Plain.ofText_prettyText {v : Value} (h : v.Plain) :
    Value.ofText v.prettyText = .ok v := by
  rw [Value.prettyText, prettyAt_eq_lay 0]
  exact ofText_lay h .pretty 0

end Trainer6800.Json
