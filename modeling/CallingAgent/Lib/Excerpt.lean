import Mathlib.Data.List.Infix

/-!
# Excerpts — both ends of a sequence under a budget

Slices by integer bounds as the source language has them, the longest
beginning whose items fit a budget together, and what is kept when both ends
are taken and the middle is left out.
-/

namespace CallingAgent.Lib

variable {α : Type}

/-! ## Slices -/

/-- `xs[:n]` -/
def sliceTo (xs : List α) (n : Int) : List α :=
  if 0 ≤ n then xs.take n.toNat else xs.take (xs.length - (-n).toNat)

/-- `xs[n:]` -/
def sliceFrom (xs : List α) (n : Int) : List α :=
  if 0 ≤ n then xs.drop n.toNat else xs.drop (xs.length - (-n).toNat)

theorem sliceTo_nat (xs : List α) (n : Nat) : sliceTo xs n = xs.take n := by
  rw [sliceTo, if_pos (by omega), Int.toNat_natCast]

/-- `xs[-n:]` are the last `n` items, unless `n` is zero. -/
theorem sliceFrom_neg {n : Nat} (h : 0 < n) (xs : List α) :
    sliceFrom xs (-(n : Int)) = xs.drop (xs.length - n) := by
  rw [sliceFrom, if_neg (by omega), Int.neg_neg, Int.toNat_natCast]

/-- A beginning and an end that do not meet are an excerpt. -/
theorem take_append_drop_sublist {i j : Nat} (h : i ≤ j) (xs : List α) :
    (xs.take i ++ xs.drop j).Sublist xs := by
  have hdrop : (xs.drop j).Sublist (xs.drop i) := by
    obtain ⟨k, rfl⟩ := Nat.exists_eq_add_of_le h
    rw [← List.drop_drop]
    exact List.drop_sublist k _
  have happ := List.Sublist.append_left hdrop (xs.take i)
  rwa [List.take_append_drop] at happ

/-! ## What fits a budget -/

variable {size : α → Nat} {budget : Int} {used : Nat} {x : α} {xs ys : List α}

def totalSize (size : α → Nat) : List α → Nat
  | [] => 0
  | x :: xs => size x + totalSize size xs

@[simp] theorem totalSize_append :
    totalSize size (xs ++ ys) = totalSize size xs + totalSize size ys := by
  induction xs with
  | nil => rw [List.nil_append, totalSize, Nat.zero_add]
  | cons x xs ih => rw [List.cons_append, totalSize, totalSize, ih, Nat.add_assoc]

@[simp] theorem totalSize_reverse :
    totalSize size xs.reverse = totalSize size xs := by
  induction xs with
  | nil => rfl
  | cons x xs ih =>
      rw [List.reverse_cons, totalSize_append, ih]
      simp only [totalSize]
      omega

/-- The items from the front on, up to the first that no longer fits. -/
def fitting (size : α → Nat) (budget : Int) : (used : Nat) → List α → List α
  | _, [] => []
  | used, x :: xs =>
      if budget < used + size x then []
      else x :: fitting size budget (used + size x) xs

theorem fitting_isFront : fitting size budget used xs <+: xs := by
  induction xs generalizing used with
  | nil => exact List.prefix_rfl
  | cons x xs ih =>
      rw [fitting]
      split
      · exact List.nil_prefix
      · exact List.prefix_cons_inj x |>.mpr ih

theorem fitting_total (h : used ≤ budget) :
    used + totalSize size (fitting size budget used xs) ≤ budget := by
  induction xs generalizing used with
  | nil => simpa [fitting, totalSize] using h
  | cons x xs ih =>
      rw [fitting]
      split
      · simpa [totalSize] using h
      · have hused : (used + size x : Nat) ≤ budget := by omega
        have hrest := ih hused
        simp only [totalSize]
        omega

/-- Nothing is taken when the first item does not fit. -/
theorem fitting_eq_nil :
    fitting size budget used xs = [] ↔
      ∀ x ∈ xs.head?, budget < used + size x := by
  cases xs with
  | nil => simp [fitting]
  | cons x xs =>
      rw [fitting]
      split <;> simp_all

/-- The longest beginning that fits the first budget, and the longest end of
the rest that fits the second. -/
def fittingEnds (size : α → Nat) (first last : Int) (xs : List α) : List α :=
  let head := fitting size first 0 xs
  head ++ (fitting size last 0 (xs.drop head.length).reverse).reverse

theorem fittingEnds_sublist {first last : Int} :
    (fittingEnds size first last xs).Sublist xs := by
  have hhead : fitting size first 0 xs ++
      xs.drop (fitting size first 0 xs).length = xs := by
    obtain ⟨rest, hrest⟩ := @fitting_isFront _ size first 0 xs
    generalize fitting size first 0 xs = head at hrest
    rw [← hrest, List.drop_left]
  have hend : ∀ rest : List α,
      (fitting size last 0 rest.reverse).reverse.Sublist rest := by
    intro rest
    rw [← List.reverse_sublist, List.reverse_reverse]
    exact fitting_isFront.sublist
  have happ := List.Sublist.append_left
    (hend (xs.drop (fitting size first 0 xs).length)) (fitting size first 0 xs)
  rwa [hhead] at happ

theorem fittingEnds_total {first last : Int} (hf : 0 ≤ first) (hl : 0 ≤ last) :
    (totalSize size (fittingEnds size first last xs) : Int) ≤ first + last := by
  have hhead := @fitting_total _ size first 0 xs hf
  have htail := @fitting_total _ size last 0
    (xs.drop (fitting size first 0 xs).length).reverse hl
  rw [fittingEnds, totalSize_append, totalSize_reverse]
  omega

/-- Nothing is left when neither end fits its budget. -/
theorem fittingEnds_eq_nil {first last : Int} :
    fittingEnds size first last xs = [] ↔
      (∀ x ∈ xs.head?, first < size x) ∧ ∀ x ∈ xs.getLast?, last < size x := by
  have hlast : fitting size last 0 xs.reverse = [] ↔
      ∀ x ∈ xs.getLast?, last < size x := by
    rw [fitting_eq_nil, List.head?_reverse]
    simp
  have hhead : fitting size first 0 xs = [] ↔
      ∀ x ∈ xs.head?, first < size x := by
    rw [fitting_eq_nil]
    simp
  rw [fittingEnds, List.append_eq_nil_iff, List.reverse_eq_nil_iff, ← hhead,
    ← hlast]
  refine and_congr_right fun h => ?_
  rw [h, List.length_nil, List.drop_zero]

end CallingAgent.Lib
