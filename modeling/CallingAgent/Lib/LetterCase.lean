import CallingAgent.Lib.Words
import Mathlib.Data.List.Forall2

/-!
# Letter case — lower-casing with the rule for a final sigma

`str.lower` maps every code point by the Unicode tables, except that a
capital sigma becomes a final one where a word ends. The tables are a
parameter. A code point that is neither cased nor ignorable cuts the text:
what is on one side of it does not depend on the other.
-/

namespace CallingAgent.Lib

/-- What lower-casing reads of the Unicode tables. -/
structure CaseTables where
  /-- The full lower-case mapping of a code point. -/
  toLower : Char → List Char
  /-- The property `Cased`. -/
  cased : Char → Bool
  /-- The property `Case_Ignorable`. -/
  ignorable : Char → Bool

namespace CaseTables

section

variable (T : CaseTables)

/-- The nearest code point that is not ignorable is cased. -/
def reachesCased (cs : List Char) : Bool :=
  (cs.dropWhile T.ignorable).head?.any T.cased

/-- `handle_capital_sigma`: `before` is read backwards. -/
def sigma (before after : List Char) : Char :=
  if T.reachesCased before && !T.reachesCased after then 'ς' else 'σ'

def lowerFrom : (before cs : List Char) → List Char
  | _, [] => []
  | before, c :: cs =>
      (if c = 'Σ' then [T.sigma before cs] else T.toLower c)
        ++ lowerFrom (c :: before) cs

/-- `str.lower()` -/
def lower (s : String) : String := String.ofList (T.lowerFrom [] s.toList)

/-- What the tables say of the ASCII letters. -/
structure Ascii : Prop where
  toLower : ∀ c : Char, c.isAlpha = true → T.toLower c = [c.toLower]
  cased : ∀ c : Char, c.isAlpha = true → T.cased c = true
  ignorable : ∀ c : Char, c.isAlpha = true → T.ignorable c = false

/-- What the tables say of a class of code points between words. -/
structure Separates (p : Char → Bool) : Prop where
  fixed : ∀ c, p c = true → T.toLower c = [c]
  uncased : ∀ c, p c = true → T.cased c = false
  kept : ∀ c, p c = true → T.ignorable c = false
  some_ : ∀ c, p c = false → T.toLower c ≠ []
  none_ : ∀ c, p c = false → ∀ d ∈ T.toLower c, p d = false
  sigmas : ∀ c ∈ ['Σ', 'σ', 'ς'], p c = false

end

/-! ## Cutting a text -/

section

variable {T : CaseTables} {p : Char → Bool} {as bs cs : List Char} {c : Char}

theorem lowerFrom_cons (T : CaseTables) (before : List Char) (c : Char)
    (cs : List Char) :
    T.lowerFrom before (c :: cs)
      = (if c = 'Σ' then [T.sigma before cs] else T.toLower c)
        ++ T.lowerFrom (c :: before) cs :=
  rfl

theorem reachesCased_cons (T : CaseTables) (c : Char) (cs : List Char) :
    T.reachesCased (c :: cs)
      = if T.ignorable c then T.reachesCased cs else T.cased c := by
  cases h : T.ignorable c <;> simp [reachesCased, h]

/-- Only how the text before ends matters. -/
theorem lowerFrom_congr (h : T.reachesCased as = T.reachesCased bs) :
    T.lowerFrom as cs = T.lowerFrom bs cs := by
  induction cs generalizing as bs with
  | nil => rfl
  | cons c cs ih =>
      have hnext : T.reachesCased (c :: as) = T.reachesCased (c :: bs) := by
        rw [reachesCased_cons, reachesCased_cons, h]
      simp only [lowerFrom, sigma, h, ih hnext]

variable (hT : T.Separates p)

include hT

theorem Separates.not_sigma (hc : p c = true) : c ≠ 'Σ' := by
  rintro rfl
  have hfree := hT.sigmas 'Σ' (by simp)
  rw [hc] at hfree
  cases hfree

/-- A separator hides what is behind it. -/
theorem Separates.reachesCased_append (hc : p c = true) :
    T.reachesCased (as ++ c :: bs) = T.reachesCased as := by
  induction as with
  | nil =>
      rw [List.nil_append, reachesCased_cons, hT.kept c hc, hT.uncased c hc]
      rfl
  | cons a as ih =>
      rw [List.cons_append, reachesCased_cons, reachesCased_cons, ih]

/-- **A separator cuts lower-casing in two.** -/
theorem Separates.lowerFrom_append (hc : p c = true) (before : List Char) :
    T.lowerFrom before (as ++ c :: bs)
      = T.lowerFrom before as ++ c :: T.lowerFrom [] bs := by
  induction as generalizing before with
  | nil =>
      have hcut : T.reachesCased ([] ++ c :: before) = T.reachesCased [] :=
        hT.reachesCased_append hc
      rw [List.nil_append] at hcut
      rw [List.nil_append, lowerFrom_cons, if_neg (hT.not_sigma hc),
        hT.fixed c hc, lowerFrom_congr hcut]
      rfl
  | cons a as ih =>
      have hsigma : T.sigma before (as ++ c :: bs) = T.sigma before as := by
        rw [sigma, sigma, hT.reachesCased_append hc]
      rw [List.cons_append, lowerFrom_cons, lowerFrom_cons, ih, hsigma, List.append_assoc]

/-- A word stays a word. -/
theorem Separates.lowerFrom_word (h : ∀ a ∈ as, p a = false)
    (before : List Char) : ∀ d ∈ T.lowerFrom before as, p d = false := by
  induction as generalizing before with
  | nil => intro d hd; cases hd
  | cons a as ih =>
      intro d hd
      rcases List.mem_append.mp hd with hd | hd
      · split at hd
        · refine hT.sigmas d ?_
          rw [List.mem_singleton.mp hd, sigma]
          split <;> simp
        · exact hT.none_ a (h a List.mem_cons_self) d hd
      · exact ih (fun b hb => h b (List.mem_cons_of_mem _ hb)) _ d hd

theorem Separates.lowerFrom_ne_nil (h : ∀ a ∈ as, p a = false) (hne : as ≠ [])
    (before : List Char) : T.lowerFrom before as ≠ [] := by
  obtain ⟨a, as, rfl⟩ := List.exists_cons_of_ne_nil hne
  rw [lowerFrom]
  refine List.append_ne_nil_of_left_ne_nil ?_ _
  split
  · exact List.cons_ne_nil _ _
  · exact hT.some_ a (h a List.mem_cons_self)

/-- **Lower-casing works word by word.** -/
theorem Separates.words_lowerFrom (cs : List Char) :
    words p (T.lowerFrom [] cs) = (words p cs).map (T.lowerFrom []) := by
  -- `as` is the word being read
  suffices h : ∀ as : List Char, (∀ a ∈ as, p a = false) →
      words p (T.lowerFrom [] (as ++ cs))
        = (words p (as ++ cs)).map (T.lowerFrom []) from
    h [] (by simp)
  have hword : ∀ as : List Char, (∀ a ∈ as, p a = false) →
      words p (T.lowerFrom [] as) = (words p as).map (T.lowerFrom []) := by
    intro as has
    by_cases hne : as = []
    · subst hne; rfl
    · rw [words_word hne has, words_word (hT.lowerFrom_ne_nil has hne [])
        (hT.lowerFrom_word has [])]
      rfl
  induction cs with
  | nil =>
      intro as has
      rw [List.append_nil]
      exact hword as has
  | cons c cs ih =>
      intro as has
      cases hc : p c with
      | true =>
          have hrest : words p (T.lowerFrom [] cs)
              = (words p cs).map (T.lowerFrom []) := ih [] (by simp)
          rw [hT.lowerFrom_append hc, words_append_sep hc, words_append_sep hc,
            List.map_append, hword as has, hrest]
      | false =>
          have hmore := ih (as ++ [c]) fun a ha =>
            (List.mem_append.mp ha).elim (has a) fun h =>
              List.mem_singleton.mp h ▸ hc
          rwa [List.append_assoc, List.singleton_append] at hmore

end

/-! ## Case variants -/

/-- One code point, but for the case of an ASCII letter. -/
def SameLetter (c d : Char) : Prop :=
  c = d ∨ c.isAlpha = true ∧ d.isAlpha = true ∧ c.toLower = d.toLower

section

variable {T : CaseTables} {as bs cs ds : List Char} {c d : Char}

variable (hA : T.Ascii)

include hA

/-- The tables do not tell the two apart. -/
theorem Ascii.sameLetter (h : SameLetter c d) :
    (c = 'Σ' ↔ d = 'Σ') ∧ T.toLower c = T.toLower d ∧ T.cased c = T.cased d ∧
      T.ignorable c = T.ignorable d := by
  rcases h with rfl | ⟨hc, hd, hcd⟩
  · exact ⟨Iff.rfl, rfl, rfl, rfl⟩
  · have hne : ∀ x : Char, x.isAlpha = true → x ≠ 'Σ' := by
      rintro x hx rfl
      exact absurd hx (by decide)
    refine ⟨iff_of_false (hne c hc) (hne d hd), ?_, ?_, ?_⟩
    · rw [hA.toLower c hc, hA.toLower d hd, hcd]
    · rw [hA.cased c hc, hA.cased d hd]
    · rw [hA.ignorable c hc, hA.ignorable d hd]

theorem Ascii.reachesCased (h : List.Forall₂ SameLetter as bs) :
    T.reachesCased as = T.reachesCased bs := by
  induction h with
  | nil => rfl
  | cons hcd _ ih =>
      obtain ⟨-, -, hcased, hign⟩ := hA.sameLetter hcd
      rw [reachesCased_cons, reachesCased_cons, ih, hcased, hign]

/-- **Lower-casing does not see the case of ASCII letters.** -/
theorem Ascii.lowerFrom (hab : List.Forall₂ SameLetter as bs)
    (h : List.Forall₂ SameLetter cs ds) :
    T.lowerFrom as cs = T.lowerFrom bs ds := by
  induction h generalizing as bs with
  | nil => rfl
  | cons hcd hrest ih =>
      obtain ⟨hsigma, hlower, -, -⟩ := hA.sameLetter hcd
      have hctx := hA.reachesCased hab
      have hafter := hA.reachesCased hrest
      simp only [lowerFrom_cons, sigma, hsigma, hlower, hctx, hafter,
        ih (List.Forall₂.cons hcd hab)]

end

end CaseTables

end CallingAgent.Lib
