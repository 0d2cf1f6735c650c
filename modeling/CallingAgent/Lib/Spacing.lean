import Mathlib.Data.List.Chain
import Mathlib.Data.List.TakeWhile

/-!
# Spacing — a text with one separator between any two pieces

The pieces of a text are what its separators leave, without the empty ones.
Respacing joins them by one separator each: it is the only text with these
pieces that has no margin, no separator but the one that is wanted, and no
two of them side by side.
-/

namespace CallingAgent.Lib

section

variable {α : Type} (p : α → Bool)

/-- The pieces between the separators, without the empty ones. -/
def pieces (l : List α) : List (List α) := (l.splitOnP p).filter (!·.isEmpty)

/-- The pieces, with one separator between any two. -/
def respace (sep : α) (l : List α) : List α := [sep].intercalate (pieces p l)

/-- One separator between any two pieces, and none at the ends. -/
structure Spaced (sep : α) (l : List α) : Prop where
  only : ∀ a ∈ l, p a = true → a = sep
  first : ∀ a ∈ l.head?, p a = false
  last : ∀ a ∈ l.getLast?, p a = false
  apart : l.IsChain fun a b => p a = true → p b = false

end

section

variable {α : Type} {p : α → Bool} {sep c : α} {as bs l m : List α}
  {ws : List (List α)}

theorem of_mem_splitOnP (h : as ∈ l.splitOnP p) : ∀ a ∈ as, p a = false := by
  induction l generalizing as with
  | nil =>
      rw [List.splitOnP_nil, List.mem_singleton] at h
      subst h
      simp
  | cons b l ih =>
      rw [List.splitOnP_cons_eq_if_modifyHead] at h
      obtain ⟨w, ws, hw⟩ := List.exists_cons_of_ne_nil (l.splitOnP_ne_nil p)
      rw [hw] at h ih
      split at h
      · rcases List.mem_cons.mp h with rfl | h
        · simp
        · exact ih h
      · next hb =>
          rcases List.mem_cons.mp h with rfl | h
          · refine List.forall_mem_cons.mpr ⟨Bool.eq_false_iff.mpr hb, ?_⟩
            exact ih List.mem_cons_self
          · exact ih (List.mem_cons_of_mem _ h)

/-- No piece is empty, and none has a separator. -/
theorem of_mem_pieces (h : as ∈ pieces p l) : as ≠ [] ∧ ∀ a ∈ as, p a = false := by
  obtain ⟨hin, hne⟩ := List.mem_filter.mp h
  exact ⟨fun heq => by simp [heq] at hne, of_mem_splitOnP hin⟩

/-- **Pieces are cut at every separator.** -/
theorem pieces_append_sep (h : p c = true) :
    pieces p (as ++ c :: bs) = pieces p as ++ pieces p bs := by
  rw [pieces, List.splitOnP_append_cons as bs h, List.filter_append, pieces, pieces]

theorem pieces_nil : pieces p [] = [] := by
  simp [pieces]

theorem pieces_piece (hne : as ≠ []) (h : ∀ a ∈ as, p a = false) :
    pieces p as = [as] := by
  simp [pieces, List.splitOnP_eq_singleton h, hne]

theorem intercalate_cons_of_ne_nil (h : ws ≠ []) :
    [sep].intercalate (as :: ws) = as ++ sep :: [sep].intercalate ws := by
  obtain ⟨w, ws, rfl⟩ := List.exists_cons_of_ne_nil h
  simp [List.intercalate]

/-- Joined pieces are cut where they were joined. -/
theorem pieces_intercalate (hsep : p sep = true)
    (h : ∀ w ∈ ws, w ≠ [] ∧ ∀ a ∈ w, p a = false) :
    pieces p ([sep].intercalate ws) = ws := by
  induction ws with
  | nil => exact pieces_nil
  | cons w ws ih =>
      obtain ⟨⟨hne, hfree⟩, hrest⟩ := List.forall_mem_cons.mp h
      by_cases hws : ws = []
      · subst hws
        simpa [List.intercalate] using pieces_piece hne hfree
      · rw [intercalate_cons_of_ne_nil hws, pieces_append_sep hsep,
          pieces_piece hne hfree, ih hrest, List.singleton_append]

theorem pieces_respace (hsep : p sep = true) :
    pieces p (respace p sep l) = pieces p l :=
  pieces_intercalate hsep fun _ hw => of_mem_pieces hw

/-! ## Spaced texts -/

theorem Spaced.nil : Spaced p sep [] :=
  ⟨by simp, by simp, by simp, List.IsChain.nil⟩

theorem Spaced.piece (h : ∀ a ∈ as, p a = false) : Spaced p sep as where
  only a ha hp := absurd hp (by simp [h a ha])
  first a ha := h a (List.mem_of_mem_head? ha)
  last a ha := h a (List.mem_of_mem_getLast? ha)
  apart := by
    induction as with
    | nil => exact List.IsChain.nil
    | cons a as ih =>
        obtain ⟨ha, has⟩ := List.forall_mem_cons.mp h
        exact List.isChain_cons.mpr ⟨fun b _ hp => absurd hp (by simp [ha]), ih has⟩

/-- **A text is spaced from one separator to the next.** -/
theorem spaced_append_sep_iff (hw : ∀ a ∈ as, p a = false) (hc : p c = true) :
    Spaced p sep (as ++ c :: m) ↔ c = sep ∧ as ≠ [] ∧ m ≠ [] ∧ Spaced p sep m := by
  have hlast : m ≠ [] → (as ++ c :: m).getLast? = m.getLast? := by
    intro hm
    rw [List.getLast?_append, List.getLast?_cons_of_ne_nil hm,
      List.getLast?_eq_some_getLast hm]
    rfl
  constructor
  · intro h
    have hne : as ≠ [] := by
      rintro rfl
      exact absurd (h.first c rfl) (by simp [hc])
    have hm : m ≠ [] := by
      rintro rfl
      exact absurd (h.last c (by simp)) (by simp [hc])
    obtain ⟨-, hchain, -⟩ := List.isChain_append.mp h.apart
    obtain ⟨hnext, hchain⟩ := List.isChain_cons.mp hchain
    refine ⟨h.only c (by simp) hc, hne, hm, fun a ha => h.only a (by simp [ha]),
      fun a ha => hnext a ha hc, fun a ha => h.last a (by rwa [hlast hm]), hchain⟩
  · rintro ⟨rfl, hne, hm, h⟩
    refine ⟨fun a ha hp => ?_, fun a ha => ?_, fun a ha => ?_, ?_⟩
    · rcases List.mem_append.mp ha with ha | ha
      · exact absurd hp (by simp [hw a ha])
      · rcases List.mem_cons.mp ha with rfl | ha
        · rfl
        · exact h.only a ha hp
    · rw [List.head?_append_of_ne_nil _ hne] at ha
      exact hw a (List.mem_of_mem_head? ha)
    · rw [hlast hm] at ha
      exact h.last a ha
    · have hpiece : Spaced p c as := Spaced.piece hw
      refine List.isChain_append.mpr ⟨hpiece.apart,
        List.isChain_cons.mpr ⟨fun a ha _ => h.first a ha, h.apart⟩, ?_⟩
      intro a ha b _ hp
      exact absurd hp (by simp [hw a (List.mem_of_mem_getLast? ha)])

theorem spaced_intercalate (hsep : p sep = true)
    (h : ∀ w ∈ ws, w ≠ [] ∧ ∀ a ∈ w, p a = false) :
    Spaced p sep ([sep].intercalate ws) := by
  induction ws with
  | nil => exact Spaced.nil
  | cons w ws ih =>
      obtain ⟨⟨hne, hfree⟩, hrest⟩ := List.forall_mem_cons.mp h
      by_cases hws : ws = []
      · subst hws
        simpa [List.intercalate] using Spaced.piece hfree
      · rw [intercalate_cons_of_ne_nil hws]
        refine (spaced_append_sep_iff hfree hsep).mpr ⟨rfl, hne, fun hnil => ?_,
          ih hrest⟩
        have hback := pieces_intercalate hsep hrest
        rw [hnil, pieces_nil] at hback
        exact hws hback.symm

/-- **Respacing leaves a spaced text as it is.** -/
theorem Spaced.respace_eq (h : Spaced p sep l) (hsep : p sep = true) :
    respace p sep l = l := by
  induction hlen : l.length using Nat.strong_induction_on generalizing l with
  | _ n ih =>
    subst hlen
    have hsplit := List.takeWhile_append_dropWhile (p := (!p ·)) (l := l)
    have hfree : ∀ a ∈ l.takeWhile (!p ·), p a = false := fun a ha => by
      simpa using List.mem_takeWhile_imp ha
    cases hd : l.dropWhile (!p ·) with
    | nil =>
        rw [hd, List.append_nil] at hsplit
        rw [hsplit] at hfree
        by_cases hl : l = []
        · subst hl
          rw [respace, pieces_nil]
          rfl
        · rw [respace, pieces_piece hl hfree]
          simp [List.intercalate]
    | cons c m =>
        have hc : p c = true := by
          have hhead := List.head_dropWhile_not (l := l) (!p ·) (by simp [hd])
          simpa [hd] using hhead
        rw [hd] at hsplit
        rw [← hsplit] at h
        obtain ⟨rfl, hne, hm, hspaced⟩ := (spaced_append_sep_iff hfree hc).mp h
        have hshort : m.length < l.length := by
          rw [← hsplit]
          simp
          omega
        have hrest := ih m.length hshort hspaced rfl
        have hpieces : pieces p m ≠ [] := by
          intro hnil
          rw [respace, hnil] at hrest
          exact hm hrest.symm
        rw [respace, ← hsplit, pieces_append_sep hc, pieces_piece hne hfree,
          List.singleton_append, intercalate_cons_of_ne_nil hpieces]
        rw [respace] at hrest
        rw [hrest]

/-- **What respacing answers**: the spaced text with the same pieces. -/
theorem respace_eq_iff (hsep : p sep = true) :
    respace p sep l = m ↔ Spaced p sep m ∧ pieces p m = pieces p l := by
  constructor
  · rintro rfl
    exact ⟨spaced_intercalate hsep fun _ hw => of_mem_pieces hw,
      pieces_respace hsep⟩
  · rintro ⟨hm, hpieces⟩
    rw [respace, ← hpieces]
    exact hm.respace_eq hsep

end

end CallingAgent.Lib
