/-!
# Runs of a transition system

A system is a partial step function `step : σ → α → Option σ`: `none`
means that the action is not possible in that state. Everything below is
about finite runs, from any state, over any sequence of actions.
-/

namespace CallingAgent.Lib

section Run

variable {σ α : Type _} (step : σ → α → Option σ)

/-- Take the actions in order; `none` as soon as one is not possible. -/
def runActs : σ → List α → Option σ
  | s, [] => some s
  | s, a :: as => (step s a).bind fun s' => runActs s' as

/-- The actions run through, and each of them meets `C`. -/
def holdsAlong (C : σ → α → Bool) : σ → List α → Bool
  | _, [] => true
  | s, a :: as => C s a && (step s a).any fun s' => holdsAlong C s' as

/-- How many steps of a run meet `p`, as far as the actions run through. -/
def countAlong (p : σ → α → σ → Bool) : σ → List α → Nat
  | _, [] => 0
  | s, a :: as =>
      match step s a with
      | none => 0
      | some s' => (if p s a s' then 1 else 0) + countAlong p s' as

/-- `Run step C s s'`: a run from `s` to `s'` every step of which meets
the condition `C` on the state before it and the action taken. -/
inductive Run (C : σ → α → Prop) (s : σ) : σ → Prop
  | refl : Run C s s
  | step {t t' : σ} {a : α} :
      Run C s t → C t a → step t a = some t' → Run C s t'

variable {step}

theorem runActs_append (s : σ) (as bs : List α) :
    runActs step s (as ++ bs)
      = (runActs step s as).bind fun t => runActs step t bs := by
  induction as generalizing s with
  | nil => rfl
  | cons a as ih =>
      rw [List.cons_append, runActs, runActs]
      cases step s a with
      | none => rfl
      | some t => exact ih t

/-- **The potential rule.** Where every step that meets `p` uses up some
of a potential and no step adds to it, the potential bounds their number. -/
theorem countAlong_le {p : σ → α → σ → Bool} {φ : σ → Nat}
    (hstep : ∀ s a s', step s a = some s' →
      (if p s a s' then 1 else 0) + φ s' ≤ φ s)
    (s : σ) (as : List α) : countAlong step p s as ≤ φ s := by
  induction as generalizing s with
  | nil => exact Nat.zero_le _
  | cons a as ih =>
      rw [countAlong]
      cases hs : step s a with
      | none => exact Nat.zero_le _
      | some s' =>
          have hused := hstep s a s' hs
          have hrest := ih s'
          dsimp only
          omega

namespace Run

variable {C : σ → α → Prop} {s t u : σ}

theorem single {a : α} (hc : C s a) (h : step s a = some t) :
    Run step C s t :=
  .step .refl hc h

theorem trans (h₁ : Run step C s t) (h₂ : Run step C t u) :
    Run step C s u := by
  induction h₂ with
  | refl => exact h₁
  | step _ hc hs ih => exact .step ih hc hs

/-- **The invariant rule.** What every step that meets `C` preserves
holds in every state such a run reaches. -/
theorem inv {P : σ → Prop}
    (hstep : ∀ t a t', P t → C t a → step t a = some t' → P t')
    (h : Run step C s t) (hs : P s) : P t := by
  induction h with
  | refl => exact hs
  | step _ hc hst ih => exact hstep _ _ _ ih hc hst

/-- The invariant rule over a fact already known of every state of the
run. -/
theorem inv_of {I P : σ → Prop}
    (hI : ∀ t a t', I t → C t a → step t a = some t' → I t')
    (hstep : ∀ t a t', I t → P t → C t a → step t a = some t' → P t')
    (h : Run step C s t) (hi : I s) (hs : P s) : P t :=
  (inv (P := fun t => I t ∧ P t)
    (fun t a t' ⟨hi, hp⟩ hc hst =>
      ⟨hI t a t' hi hc hst, hstep t a t' hi hp hc hst⟩) h ⟨hi, hs⟩).2

/-- A run under a condition is a run under any weaker one. -/
theorem mono {D : σ → α → Prop} (hCD : ∀ t a, C t a → D t a)
    (h : Run step C s t) : Run step D s t := by
  induction h with
  | refl => exact .refl
  | step _ hc hs ih => exact .step ih (hCD _ _ hc) hs

/-- A list of actions that runs through is a run under what they all
meet. -/
theorem of_acts {as : List α} (hc : ∀ a ∈ as, ∀ u, C u a)
    (h : runActs step s as = some t) : Run step C s t := by
  induction as generalizing s with
  | nil =>
      cases h
      exact .refl
  | cons a as ih =>
      obtain ⟨s', hs, hr⟩ := Option.bind_eq_some_iff.mp h
      have hfirst : Run step C s s' := single (hc a (List.mem_cons_self ..) s) hs
      exact hfirst.trans (ih (fun b hb => hc b (List.mem_cons_of_mem _ hb)) hr)

/-- A list of actions that runs through is a run under no condition. -/
theorem of_runActs {as : List α} (h : runActs step s as = some t) :
    Run step (fun _ _ => True) s t := by
  induction as generalizing s with
  | nil =>
      cases h
      exact .refl
  | cons a as ih =>
      obtain ⟨s', hs, hr⟩ := Option.bind_eq_some_iff.mp h
      exact (single trivial hs).trans (ih hr)

/-- A list of actions that runs through under `C` is a run under `C`. -/
theorem of_holdsAlong (step : σ → α → Option σ) (C : σ → α → Bool) (s : σ)
    (as : List α) (h : holdsAlong step C s as = true) :
    ∃ t, runActs step s as = some t ∧
      Run step (fun s a => C s a = true) s t := by
  induction as generalizing s with
  | nil => exact ⟨s, rfl, .refl⟩
  | cons a as ih =>
      obtain ⟨hc, hr⟩ := Bool.and_eq_true_iff.mp h
      obtain ⟨s', hs, hr⟩ := (Option.any_eq_true _ _).mp hr
      obtain ⟨t, ht, hrun⟩ := ih s' hr
      have hfirst : Run step (fun s a => C s a = true) s s' := single hc hs
      refine ⟨t, ?_, hfirst.trans hrun⟩
      simp only [runActs, hs, Option.bind_some, ht]

end Run

end Run

end CallingAgent.Lib
