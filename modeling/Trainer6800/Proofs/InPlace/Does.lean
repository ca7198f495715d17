import Trainer6800.Proofs.Log.Calling

/-!
# What an operation does, whatever the log

`Acting.Does` says of an operation that its result, the part that it leaves and the records that it logs
are given, and that the log has no say in any of them.  This is what it means that logging is inert, and
it is put together along the operation: each step does something, and so does the whole.
-/

namespace Trainer6800

namespace Acting

variable {σ τ α β : Type}

/-- In the part `s` the operation gives `x`, leaves `s'` and logs the records, whatever the log. -/
def Does (a : Acting σ α) (s : σ) (x : α) (s' : σ) (records : List Log.Record) : Prop :=
  ∀ b : Log.Book, (a.run s).run b = ((x, s'), b.enter records)

namespace Does

variable {a : Acting σ α} {s s' s'' : σ} {x : α} {y : β} {records records' : List Log.Record}

theorem pure (x : α) (s : σ) : (pure x : Acting σ α).Does s x s [] :=
  fun _ => rfl

theorem get (s : σ) : (get : Acting σ σ).Does s s s [] :=
  fun _ => rfl

theorem set (s s' : σ) : (set s' : Acting σ PUnit).Does s ⟨⟩ s' [] :=
  fun _ => rfl

theorem modify (f : σ → σ) (s : σ) : (modify f : Acting σ PUnit).Does s ⟨⟩ (f s) [] :=
  fun _ => rfl

/-- One after the other. -/
theorem bind {k : α → Acting σ β} (first : a.Does s x s' records)
    (later : (k x).Does s' y s'' records') : (a >>= k).Does s y s'' (records ++ records') := by
  intro b
  rw [Log.Book.enter_append]
  show ((k ((a.run s).run b).1.1).run ((a.run s).run b).1.2).run ((a.run s).run b).2 = _
  rw [first b, later]

/-- A step that logs nothing, before others. -/
theorem quiet {k : α → Acting σ β} (first : a.Does s x s' [])
    (later : (k x).Does s' y s'' records) : (a >>= k).Does s y s'' records :=
  first.bind later

/-- A message whose text changes nothing becomes a record. -/
theorem log {c : Log.Category} {level : Log.Level} {message : StateM σ String} {text : String}
    (made : message.run s = (text, s)) :
    (Acting.log c level message).Does s () s [⟨c, level, text⟩] := by
  intro b
  have called : ((b.present c).log c level message).run s =
      ((Log.Logger.linesOf ⟨c, level, text⟩ ((b.present c).judge c level).1,
        ((b.present c).judge c level).2), s) := by
    by_cases written : ((b.present c).judge c level).1.written = true
    · rw [Log.Logger.log_of_written written, made]
    · rw [Log.Logger.log_of_not_written written, Log.Logger.linesOf, Log.Logger.linesOf,
        if_neg written, if_neg written]
  show (((), (((b.present c).log c level message).run s).2),
    b.turn (((b.present c).log c level message).run s).1.2
      (((b.present c).log c level message).run s).1.1) = _
  rw [called]
  rfl

/-- The text may tell of the part. -/
theorem tell (c : Log.Category) (level : Log.Level) (text : σ → String) (s : σ) :
    (Acting.log c level (return text (← MonadState.get))).Does s () s [⟨c, level, text s⟩] :=
  log rfl

theorem within {a : Acting τ α} {get : σ → τ} {put : τ → σ → σ} {t : τ}
    (inner : a.Does (get s) x t records) :
    (Acting.within get put a).Does s x (put t s) records := by
  intro b
  show ((_, _), _) = _
  rw [show a (get s) b = ((x, t), b.enter records) from inner b]

end Does

end Acting

end Trainer6800
