/-!
# The unit of work — what a session writes at flush

A session works on the row as it was when it was loaded, and flushes only
the columns it changed: a column assigned the value it was loaded with is
not written, and a column that was expired (never loaded) is written as
assigned. Between the load and the flush other transactions may have
committed, so a flush merges into whatever the row holds then.
-/

namespace CallingAgent.Lib

variable {α : Type _} [DecidableEq α]

/-- One column at flush: `loaded` is the value read at load time, `new`
the value in the session, `current` the value in the row now. -/
def writeBack (loaded new current : α) : α :=
  if new = loaded then current else new

@[simp] theorem writeBack_clean (x c : α) : writeBack x x c = c := by
  simp [writeBack]

/-- A row nobody touched since it was loaded ends as the session left it. -/
@[simp] theorem writeBack_fresh (l n : α) : writeBack l n l = n := by
  unfold writeBack
  split
  · next h => exact h.symm
  · rfl

theorem writeBack_dirty {l n : α} (h : n ≠ l) (c : α) :
    writeBack l n c = n := by
  simp [writeBack, h]

/-- A flush writes the session's value or leaves the row's. -/
theorem writeBack_or (l n c : α) :
    writeBack l n c = n ∧ n ≠ l ∨ writeBack l n c = c ∧ n = l := by
  unfold writeBack
  by_cases h : n = l <;> simp [h]

/-- A flush leaves the column as it is when there is nothing to write or
it holds the value already. -/
theorem writeBack_eq_current {l n c : α} :
    writeBack l n c = c ↔ n = l ∨ n = c := by
  unfold writeBack
  by_cases h : n = l <;> simp [h]

/-- A column of a row that may have been expired: then it was not loaded,
and an assignment is always written. -/
def writeColumn (loaded : Option α) (new current : α) : α :=
  match loaded with
  | none => new
  | some l => writeBack l new current

@[simp] theorem writeColumn_none (n c : α) : writeColumn none n c = n := rfl

@[simp] theorem writeColumn_fresh (l n : α) :
    writeColumn (some l) n l = n := writeBack_fresh l n

/-- The written column holds the new value, unless that is what was
loaded. -/
theorem writeColumn_or (l : Option α) (n c : α) :
    writeColumn l n c = n ∨ writeColumn l n c = c ∧ l = some n := by
  cases l with
  | none => exact .inl rfl
  | some l =>
      rcases writeBack_or l n c with ⟨h, _⟩ | ⟨h, rfl⟩
      · exact .inl h
      · exact .inr ⟨h, rfl⟩

end CallingAgent.Lib
