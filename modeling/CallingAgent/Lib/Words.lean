import CallingAgent.Lib.Text
import Mathlib.Data.List.TakeWhile

/-!
# Words — text up to its separators and the case of its letters

The words of a text are its longest runs without a separator. Collapsing the
runs of separators and stripping both ends leaves the words joined by
underscores. Lower-casing works word by word, although the lower case of a
capital sigma depends on what is around it.
-/

namespace CallingAgent.Lib

/-! ## Words -/

/-- The longest runs without a separator. -/
def words (p : Char → Bool) : List Char → List (List Char)
  | [] => []
  | c :: cs =>
      if p c then words p cs
      else if cs.head?.all p then [c] :: words p cs
      else (words p cs).modifyHead (c :: ·)

/-- Words with an underscore between any two. -/
def joinWords : List (List Char) → List Char
  | [] => []
  | [w] => w
  | w :: v :: ws => w ++ '_' :: joinWords (v :: ws)

section

variable {p : Char → Bool} {c : Char} {cs as bs : List Char}

theorem words_cons_sep (h : p c = true) : words p (c :: cs) = words p cs :=
  if_pos h

theorem words_cons_last (h : p c = false) (hs : cs.head?.all p = true) :
    words p (c :: cs) = [c] :: words p cs := by
  rw [words, if_neg (by simp [h]), if_pos hs]

theorem words_cons_more (h : p c = false) (hs : cs.head?.all p = false) :
    words p (c :: cs) = (words p cs).modifyHead (c :: ·) := by
  rw [words, if_neg (by simp [h]), if_neg (by simp [hs])]

/-- A text that begins with a letter has a first word. -/
theorem words_ne_nil (h : cs.head?.all p = false) : words p cs ≠ [] := by
  induction cs with
  | nil => cases h
  | cons c cs ih =>
      have hc : p c = false := h
      cases hs : cs.head?.all p with
      | true => rw [words_cons_last hc hs]; exact List.cons_ne_nil _ _
      | false =>
          obtain ⟨w, ws, hw⟩ := List.exists_cons_of_ne_nil (ih hs)
          rw [words_cons_more hc hs, hw]
          exact List.cons_ne_nil _ _

/-- **Words are split at every separator.** -/
theorem words_append_sep (h : p c = true) :
    words p (as ++ c :: bs) = words p as ++ words p bs := by
  induction as with
  | nil => exact words_cons_sep h
  | cons a as ih =>
      rw [List.cons_append]
      cases ha : p a with
      | true => rw [words_cons_sep ha, words_cons_sep ha, ih]
      | false =>
          have hhead : (as ++ c :: bs).head?.all p = as.head?.all p := by
            cases as with
            | nil => exact h
            | cons b as => rfl
          cases hs : as.head?.all p with
          | true =>
              rw [words_cons_last ha hs, words_cons_last ha (hhead.trans hs), ih]
              rfl
          | false =>
              obtain ⟨w, ws, hw⟩ := List.exists_cons_of_ne_nil (words_ne_nil hs)
              rw [words_cons_more ha hs, words_cons_more ha (hhead.trans hs), ih,
                hw]
              rfl

/-- A text without a separator is one word. -/
theorem words_word (hne : as ≠ []) (h : ∀ a ∈ as, p a = false) :
    words p as = [as] := by
  induction as with
  | nil => exact absurd rfl hne
  | cons a as ih =>
      have ha := h a List.mem_cons_self
      cases as with
      | nil => rw [words_cons_last ha rfl]; rfl
      | cons b as =>
          have hb : (List.head? (b :: as)).all p = false :=
            h b (List.mem_cons_of_mem _ List.mem_cons_self)
          rw [words_cons_more ha hb, ih (List.cons_ne_nil _ _)
            fun x hx => h x (List.mem_cons_of_mem _ hx)]
          rfl

/-- Separators at the beginning make no word. -/
theorem words_seps_append (h : ∀ a ∈ as, p a = true) :
    words p (as ++ bs) = words p bs := by
  induction as with
  | nil => rfl
  | cons a as ih =>
      rw [List.cons_append, words_cons_sep (h a List.mem_cons_self),
        ih fun x hx => h x (List.mem_cons_of_mem _ hx)]

theorem words_seps (h : ∀ a ∈ as, p a = true) : words p as = [] := by
  have happ := @words_seps_append p as [] h
  rwa [List.append_nil] at happ

theorem words_eq_nil_iff : words p cs = [] ↔ ∀ c ∈ cs, p c = true := by
  refine ⟨fun h => ?_, words_seps⟩
  induction cs with
  | nil => simp
  | cons c cs ih =>
      cases hc : p c with
      | false => exact absurd h (words_ne_nil hc)
      | true =>
          rw [words_cons_sep hc] at h
          exact List.forall_mem_cons.mpr ⟨hc, ih h⟩

/-- Nor do separators at the end. -/
theorem words_append_seps (h : ∀ b ∈ bs, p b = true) :
    words p (as ++ bs) = words p as := by
  cases bs with
  | nil => rw [List.append_nil]
  | cons b bs =>
      rw [words_append_sep (h b List.mem_cons_self),
        words_seps fun x hx => h x (List.mem_cons_of_mem _ hx), List.append_nil]

/-- Which separators stand between two texts does not matter. -/
theorem words_between {seps : List Char} (hne : seps ≠ [])
    (h : ∀ c ∈ seps, p c = true) :
    words p (as ++ (seps ++ bs)) = words p as ++ words p bs := by
  obtain ⟨c, seps, rfl⟩ := List.exists_cons_of_ne_nil hne
  rw [List.cons_append, words_append_sep (h c List.mem_cons_self),
    words_seps_append fun x hx => h x (List.mem_cons_of_mem _ hx)]

/-- No word is empty, and none has a separator. -/
theorem of_mem_words {w : List Char} (h : w ∈ words p cs) :
    w ≠ [] ∧ ∀ c ∈ w, p c = false := by
  induction cs generalizing w with
  | nil => cases h
  | cons c cs ih =>
      cases hc : p c with
      | true =>
          rw [words_cons_sep hc] at h
          exact ih h
      | false =>
          cases hs : cs.head?.all p with
          | true =>
              rw [words_cons_last hc hs] at h
              rcases List.mem_cons.mp h with rfl | h
              · exact ⟨List.cons_ne_nil _ _, by simpa using hc⟩
              · exact ih h
          | false =>
              obtain ⟨v, ws, hw⟩ := List.exists_cons_of_ne_nil (words_ne_nil hs)
              rw [words_cons_more hc hs, hw, List.modifyHead_cons] at h
              rcases List.mem_cons.mp h with rfl | h
              · have hv := ih (w := v) (by rw [hw]; exact List.mem_cons_self)
                refine ⟨List.cons_ne_nil _ _, fun x hx => ?_⟩
                rcases List.mem_cons.mp hx with rfl | hx
                · exact hc
                · exact hv.2 x hx
              · exact ih (by rw [hw]; exact List.mem_cons_of_mem _ h)

/-- Trimming separators leaves the words. -/
theorem words_strip {q : Char → Bool} (h : ∀ c, q c = true → p c = true) :
    words p (stripChars q cs) = words p cs := by
  have hall : ∀ l : List Char, ∀ c ∈ l.takeWhile q, p c = true :=
    fun l c hc => h c (List.mem_takeWhile_imp hc)
  have hfront : words p (cs.dropWhile q) = words p cs := by
    rw [← words_seps_append (hall cs), List.takeWhile_append_dropWhile]
  rw [← hfront, stripChars]
  generalize cs.dropWhile q = ds
  have hds : (ds.reverse.dropWhile q).reverse ++ (ds.reverse.takeWhile q).reverse
      = ds := by
    rw [← List.reverse_append, List.takeWhile_append_dropWhile,
      List.reverse_reverse]
  have hback : ∀ c ∈ (ds.reverse.takeWhile q).reverse, p c = true :=
    fun c hc => hall ds.reverse c (List.mem_reverse.mp hc)
  rw [← words_append_seps hback, hds]

end

/-! ## Collapsing -/

section

variable {p q : Char → Bool} {as bs cs : List Char}

theorem stripChars_all (h : ∀ a ∈ as, q a = true) : stripChars q as = [] := by
  have hdrop : as.dropWhile q = [] := List.dropWhile_eq_nil_iff.mpr h
  rw [stripChars, hdrop]
  rfl

/-- What stripping leaves of a text between two margins. -/
theorem stripChars_between (ha : ∀ a ∈ as, q a = true)
    (hb : ∀ b ∈ bs, q b = true) (hhead : cs.head?.any q = false)
    (hlast : cs.getLast?.any q = false) (hne : cs ≠ []) :
    stripChars q (as ++ cs ++ bs) = cs := by
  have hstop : ∀ l m : List Char, l.head?.any q = false → l ≠ [] →
      (l ++ m).dropWhile q = l ++ m := by
    intro l m hl hne
    obtain ⟨c, l, rfl⟩ := List.exists_cons_of_ne_nil hne
    have hc : q c = false := hl
    rw [List.cons_append, List.dropWhile_cons_of_neg (by simp [hc])]
  have hfront : (as ++ cs ++ bs).dropWhile q = cs ++ bs := by
    rw [List.append_assoc, List.dropWhile_append_of_pos ha, hstop cs bs hhead hne]
  have hback : (cs ++ bs).reverse.dropWhile q = cs.reverse := by
    rw [List.reverse_append,
      List.dropWhile_append_of_pos fun b hb' => hb b (List.mem_reverse.mp hb')]
    have hrev := hstop cs.reverse [] (by rwa [List.head?_reverse])
      (by simpa using hne)
    rwa [List.append_nil] at hrev
  rw [stripChars, hfront, hback, List.reverse_reverse]

theorem joinWords_cons {w : List Char} {ws : List (List Char)} (h : ws ≠ []) :
    joinWords (w :: ws) = w ++ '_' :: joinWords ws := by
  obtain ⟨v, ws, rfl⟩ := List.exists_cons_of_ne_nil h
  rfl

/-- Joined words begin as the first and end as the last. -/
theorem joinWords_ends {ws : List (List Char)}
    (h : ∀ w ∈ ws, w ≠ [] ∧ ∀ c ∈ w, q c = false) (hne : ws ≠ []) :
    joinWords ws ≠ [] ∧ (joinWords ws).head?.any q = false ∧
      (joinWords ws).getLast?.any q = false := by
  induction ws with
  | nil => exact absurd rfl hne
  | cons w ws ih =>
      obtain ⟨hw, hq⟩ := h w List.mem_cons_self
      obtain ⟨c, w, rfl⟩ := List.exists_cons_of_ne_nil hw
      by_cases hws : ws = []
      · subst hws
        refine ⟨hw, hq c List.mem_cons_self, ?_⟩
        rw [joinWords, List.getLast?_eq_some_getLast hw]
        exact hq _ (List.getLast_mem hw)
      · obtain ⟨hj, -, hlast⟩ :=
          ih (fun v hv => h v (List.mem_cons_of_mem _ hv)) hws
        rw [joinWords_cons hws]
        refine ⟨List.cons_ne_nil _ _, hq c List.mem_cons_self, ?_⟩
        rw [List.getLast?_append, List.getLast?_cons,
          List.getLast?_eq_some_getLast hj] at *
        simpa using hlast

/-- **What collapsing leaves**: an underscore for a margin, the words joined,
and perhaps an underscore behind them. -/
theorem collapse_eq (cs : List Char) :
    ∃ trail, (∀ c ∈ trail, c = '_') ∧
      collapse p cs = (if cs.head?.any p then ['_'] else [])
        ++ joinWords (words p cs) ++ trail := by
  induction cs with
  | nil => exact ⟨[], by simp, rfl⟩
  | cons c cs ih =>
      obtain ⟨trail, htrail, hcs⟩ := ih
      have hstep : collapse p (c :: cs) =
          if p c && (cs.head?.map p).getD false then collapse p cs
          else (if p c then '_' else c) :: collapse p cs := rfl
      have hhead : (cs.head?.map p).getD false = cs.head?.any p := by
        cases cs.head? <;> rfl
      rw [hhead] at hstep
      cases hc : p c with
      | true =>
          refine ⟨trail, htrail, ?_⟩
          rw [hstep, hcs, words_cons_sep hc]
          cases hd : cs.head?.any p <;> simp [hc]
      | false =>
          have hlead : (if (c :: cs).head?.any p then ['_'] else []) = [] := by
            simp [hc]
          rw [hlead, List.nil_append, hstep, hcs]
          cases hs : cs.head?.all p with
          | false =>
              -- the word goes on
              have hd : cs.head?.any p = false := by
                cases h : cs.head? with
                | none => rfl
                | some d => rw [h] at hs; exact hs
              obtain ⟨w, ws, hw⟩ := List.exists_cons_of_ne_nil (words_ne_nil hs)
              refine ⟨trail, htrail, ?_⟩
              rw [words_cons_more hc hs, hw, List.modifyHead_cons]
              cases ws <;> simp [hc, hd, joinWords]
          | true =>
              rw [words_cons_last hc hs]
              by_cases hw : words p cs = []
              · refine ⟨(if cs.head?.any p then ['_'] else []) ++ trail, ?_, ?_⟩
                · intro b hb
                  rcases List.mem_append.mp hb with hb | hb
                  · split at hb
                    · exact List.mem_singleton.mp hb
                    · cases hb
                  · exact htrail b hb
                · simp [hc, hw, joinWords]
              · have hd : cs.head?.any p = true := by
                  cases h : cs.head? with
                  | none =>
                      rw [List.head?_eq_none_iff.mp h] at hw
                      exact absurd rfl hw
                  | some d => rw [h] at hs; exact hs
                refine ⟨trail, htrail, ?_⟩
                rw [joinWords_cons hw]
                simp [hc, hd]

/-- **Collapsing and stripping keep the words**, joined by underscores. -/
theorem strip_collapse (h : p '_' = true) :
    stripChars (· == '_') (collapse p cs) = joinWords (words p cs) := by
  obtain ⟨trail, htrail, hcs⟩ := collapse_eq (p := p) cs
  have hlead : ∀ c ∈ (if cs.head?.any p then ['_'] else []),
      (c == '_') = true := by
    intro c hc
    split at hc
    · exact beq_iff_eq.mpr (List.mem_singleton.mp hc)
    · cases hc
  have htrail' : ∀ c ∈ trail, (c == '_') = true :=
    fun c hc => beq_iff_eq.mpr (htrail c hc)
  rw [hcs]
  by_cases hw : words p cs = []
  · rw [hw, joinWords, List.append_nil, stripChars_all]
    intro c hc
    exact (List.mem_append.mp hc).elim (hlead c) (htrail' c)
  · have hwords : ∀ w ∈ words p cs, w ≠ [] ∧ ∀ c ∈ w, (c == '_') = false := by
      intro w hmem
      obtain ⟨hne, hfree⟩ := of_mem_words hmem
      refine ⟨hne, fun c hc => beq_eq_false_iff_ne.mpr fun heq => ?_⟩
      have hno := hfree c hc
      rw [heq, h] at hno
      cases hno
    obtain ⟨hne, hhead, hlast⟩ := joinWords_ends hwords hw
    exact stripChars_between hlead htrail' hhead hlast hne

end

end CallingAgent.Lib
