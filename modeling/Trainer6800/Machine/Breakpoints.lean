/-!
# Breakpoints

A set of addresses, kept in ascending order without repetition, so that two sets with the same
addresses are equal.
-/

namespace Trainer6800

/-- Put an address into an ascending list. -/
def insertAddress (a : UInt16) : List UInt16 → List UInt16
  | [] => [a]
  | b :: bs => if a < b then a :: b :: bs else if a = b then b :: bs else b :: insertAddress a bs

theorem mem_insertAddress {a c : UInt16} {as : List UInt16} :
    c ∈ insertAddress a as ↔ c = a ∨ c ∈ as := by
  induction as with
  | nil => simp [insertAddress]
  | cons b bs ih =>
    unfold insertAddress
    split
    · simp
    split
    · rename_i h
      subst h
      simp
    · simp only [List.mem_cons, ih]
      constructor
      · rintro (h | h | h)
        · exact .inr (.inl h)
        · exact .inl h
        · exact .inr (.inr h)
      · rintro (h | h | h)
        · exact .inr (.inl h)
        · exact .inl h
        · exact .inr (.inr h)

theorem ascending_insertAddress {a : UInt16} {as : List UInt16} (h : as.Pairwise (· < ·)) :
    (insertAddress a as).Pairwise (· < ·) := by
  induction as with
  | nil => simp [insertAddress]
  | cons b bs ih =>
    obtain ⟨hb, hbs⟩ := List.pairwise_cons.mp h
    unfold insertAddress
    split
    · rename_i hab
      refine List.pairwise_cons.mpr ⟨fun c hc => ?_, h⟩
      rcases List.mem_cons.mp hc with rfl | hc
      · exact hab
      · exact UInt16.lt_trans hab (hb c hc)
    split
    · exact h
    · rename_i h1 h2
      refine List.pairwise_cons.mpr ⟨fun c hc => ?_, ih hbs⟩
      rcases mem_insertAddress.mp hc with rfl | hc
      · exact UInt16.lt_of_le_of_ne (UInt16.not_lt.mp h1) fun e => h2 e.symm
      · exact hb c hc

/-- A set of addresses. -/
structure Breakpoints where
  addresses : List UInt16
  ascending : addresses.Pairwise (· < ·)
  deriving DecidableEq

namespace Breakpoints

/-- No addresses. -/
def empty : Breakpoints :=
  ⟨[], .nil⟩

/-- The set with one more address. -/
def insert (b : Breakpoints) (a : UInt16) : Breakpoints :=
  ⟨insertAddress a b.addresses, ascending_insertAddress b.ascending⟩

/-- The set without an address. -/
def erase (b : Breakpoints) (a : UInt16) : Breakpoints :=
  ⟨b.addresses.erase a, b.ascending.sublist List.erase_sublist⟩

/-- Whether an address is in the set. -/
def contains (b : Breakpoints) (a : UInt16) : Bool :=
  b.addresses.contains a

/-- The set of the addresses in a list. -/
def ofList (as : List UInt16) : Breakpoints :=
  as.foldl insert empty

end Breakpoints

end Trainer6800
