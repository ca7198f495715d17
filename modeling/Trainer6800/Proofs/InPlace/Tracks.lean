import Trainer6800.Proofs.InPlace.Does

/-!
# Following an operation

The operations on values are known by their proofs; the operations in place have to be shown to do the
same.  The two do not leave equal parts, since a bus that is a value keeps its reports in its journal and
one in place has told them to the log.  So a relation says which part in place goes with which value,
when certain records have been reported so far.

`Acting.Goes` says of an operation in place, from a part `w`, that whatever the log it comes to a given
result and to a part that goes with a given value.  `Acting.Tracks` says that it does so from any part
and leads to what a function of values gives.  Both are put together step by step.
-/

namespace Trainer6800.Acting

open Log (Record)

variable {σ τ α β : Type} {R : σ → σ → List Record → Prop}

/-- From the part `w`, after the records `before`, the operation gives `out.1` and leaves a part that goes
with `out.2`. -/
def Goes (R : σ → σ → List Record → Prop) (a : Acting σ α) (w : σ) (before : List Record)
    (out : α × σ) : Prop :=
  ∃ w' records, a.Does w out.1 w' records ∧ R out.2 w' (before ++ records)

/-- The operation does what the function does. -/
def Tracks (R : σ → σ → List Record → Prop) (a : Acting σ α) (f : σ → α × σ) : Prop :=
  ∀ p w before, R p w before → Goes R a w before (f p)

namespace Goes

variable {a : Acting σ α} {w w' : σ} {before records : List Record} {x : α} {p : σ}

/-- The operation is known, and what it leaves goes with the value. -/
theorem of_does (does : a.Does w x w' records) (goes : R p w' (before ++ records)) :
    Goes R a w before (x, p) :=
  ⟨w', records, does, goes⟩

/-- The same, if nothing is logged. -/
theorem of_quiet (does : a.Does w x w' []) (goes : R p w' before) : Goes R a w before (x, p) :=
  of_does does (by rwa [List.append_nil])

theorem pure (goes : R p w before) : Goes R (pure x) w before (x, p) :=
  of_quiet (.pure x w) goes

/-- It goes with another value, if whatever goes with the one goes with the other. -/
theorem imp {q : σ} (goes : Goes R a w before (x, p))
    (also : ∀ w records, R p w records → R q w records) : Goes R a w before (x, q) := by
  obtain ⟨w', records, does, goes⟩ := goes
  exact ⟨w', records, does, also _ _ goes⟩

variable {k : α → Acting σ β} {out : β × σ}

/-- Go on after an operation that is known. -/
theorem after (first : a.Does w x w' records) (later : Goes R (k x) w' (before ++ records) out) :
    Goes R (a >>= k) w before out := by
  obtain ⟨w'', records', does, goes⟩ := later
  exact ⟨w'', records ++ records', first.bind does, by rwa [← List.append_assoc]⟩

/-- The same, if nothing is logged. -/
theorem quiet (first : a.Does w x w' []) (later : Goes R (k x) w' before out) :
    Goes R (a >>= k) w before out :=
  after first (by rwa [List.append_nil])

/-- Go on from whatever goes with the value. -/
theorem bind {mid : α × σ} (first : Goes R a w before mid)
    (later : ∀ w' before', R mid.2 w' before' → Goes R (k mid.1) w' before' out) :
    Goes R (a >>= k) w before out := by
  obtain ⟨w', records, does, goes⟩ := first
  exact after does (later w' _ goes)

/-- Give something made of the result. -/
theorem answer {mid : α × σ} (first : Goes R a w before mid) (made : α → β) :
    Goes R (return made (← a)) w before (made mid.1, mid.2) :=
  bind first fun _ _ goes => .pure goes

end Goes

/-- An operation that does what a function does, and gives something made of the result. -/
theorem Tracks.answer {a : Acting σ α} {f : σ → α × σ} (tracks : Tracks R a f) (made : α → β) :
    Tracks R (return made (← a)) fun p => (made (f p).1, (f p).2) :=
  fun p w before goes => (tracks p w before goes).answer made

/-- What is done for some items, one after the other. -/
theorem Tracks.forM {ι : Type} {act : ι → Acting σ PUnit} {f : ι → σ → σ}
    (each : ∀ i, Tracks R (act i) fun p => (⟨⟩, f i p)) (items : List ι) :
    Tracks R (items.forM act) fun p => (⟨⟩, items.foldl (fun p i => f i p) p) := by
  induction items with
  | nil => exact fun p w before goes => .pure goes
  | cons i rest ih => exact fun p w before goes => (each i p w before goes).bind (ih (f i p))

end Trainer6800.Acting
