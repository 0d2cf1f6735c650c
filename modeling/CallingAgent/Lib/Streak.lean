import Mathlib.Data.List.Chain
import Mathlib.Data.List.Dedup

/-!
# Streaks — what a history ends with

A history is a list of events, the latest first. Where it is said which
event goes on from which earlier one, its streak is the longest run of
events, back from the latest, each of which goes on from the one before it.
-/

namespace CallingAgent.Lib

variable {α β : Type _} (goesOn : α → α → Bool)

/-- The streak of a history; `goesOn a b` says that `b` goes on from the
earlier event `a`. -/
def streak : List α → List α
  | [] => []
  | b :: [] => [b]
  | b :: a :: h => if goesOn a b then b :: streak (a :: h) else [b]

variable {goesOn}

theorem streak_cons_of_goesOn {a b : α} {h : List α} (hab : goesOn a b = true) :
    streak goesOn (b :: a :: h) = b :: streak goesOn (a :: h) := by
  rw [streak, if_pos hab]

theorem streak_cons_of_stops {a b : α} {h : List α} (hab : goesOn a b = false) :
    streak goesOn (b :: a :: h) = [b] := by
  rw [streak, hab]
  rfl

/-- An event is in the streak if everything from it on goes on from the
event before. -/
theorem mem_streak_iff {h : List α} {x : α} :
    x ∈ streak goesOn h ↔ ∃ later earlier, h = later ++ x :: earlier ∧
      List.IsChain (fun b a => goesOn a b = true) (later ++ [x]) := by
  induction h with
  | nil => simp [streak]
  | cons b h ih =>
      cases h with
      | nil =>
          simp only [streak, List.mem_singleton]
          constructor
          · rintro rfl
            exact ⟨[], [], rfl, List.isChain_singleton _⟩
          · rintro ⟨later, earlier, heq, -⟩
            cases later with
            | nil => exact (List.cons.inj heq).1.symm
            | cons c later => simp at heq
      | cons a h =>
          cases hab : goesOn a b with
          | false =>
              rw [streak_cons_of_stops hab, List.mem_singleton]
              constructor
              · rintro rfl
                exact ⟨[], a :: h, rfl, List.isChain_singleton _⟩
              · rintro ⟨later, earlier, heq, hchain⟩
                cases later with
                | nil => exact (List.cons.inj heq).1.symm
                | cons c later =>
                    obtain ⟨rfl, htail⟩ := List.cons.inj heq
                    cases later with
                    | nil =>
                        obtain ⟨rfl, -⟩ := List.cons.inj htail
                        have hgo := List.isChain_pair.mp hchain
                        rw [hab] at hgo
                        cases hgo
                    | cons d later =>
                        obtain ⟨rfl, -⟩ := List.cons.inj htail
                        have hgo := (List.isChain_cons_cons.mp hchain).1
                        rw [hab] at hgo
                        cases hgo
          | true =>
              rw [streak_cons_of_goesOn hab, List.mem_cons, ih]
              constructor
              · rintro (rfl | ⟨later, earlier, heq, hchain⟩)
                · exact ⟨[], a :: h, rfl, List.isChain_singleton _⟩
                · refine ⟨b :: later, earlier, by rw [heq]; rfl, ?_⟩
                  cases later with
                  | nil =>
                      obtain ⟨rfl, -⟩ := List.cons.inj heq
                      exact List.isChain_pair.mpr hab
                  | cons d later =>
                      obtain ⟨rfl, -⟩ := List.cons.inj heq
                      exact List.isChain_cons_cons.mpr ⟨hab, hchain⟩
              · rintro ⟨later, earlier, heq, hchain⟩
                cases later with
                | nil => exact .inl (List.cons.inj heq).1.symm
                | cons c later =>
                    obtain ⟨-, heq⟩ := List.cons.inj heq
                    exact .inr ⟨later, earlier, heq, hchain.tail⟩

end CallingAgent.Lib
