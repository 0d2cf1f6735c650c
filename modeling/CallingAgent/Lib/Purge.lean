import CallingAgent.Lib.Statements

/-!
# Purge — treating the rows that are due, batch by batch

A row of a table is due by a condition on it, and the treatment rewrites it
so that it is not due any more, or deletes it. Batches treat some of the due
rows; meanwhile the job may write rows of its own, which are never due. When
nothing is due, the table is as if all had been treated at once, in whatever
batches and however often the work was broken off.
-/

namespace CallingAgent.Lib

section

variable {κ ρ : Type} [DecidableEq κ]

/-- The rows under these keys are treated: rewritten, or deleted. -/
def Treats (treat : κ → ρ → Option ρ) (ks : List κ) (t t' : Table κ ρ) : Prop :=
  ∀ k, AList.lookup k t' =
    if k ∈ ks then (AList.lookup k t).bind (treat k) else AList.lookup k t

/-- **A purge**: what is due, how it is treated, and which rows are the job's
own. -/
structure Purge (κ ρ : Type) where
  due : ρ → Bool
  treat : κ → ρ → Option ρ
  own : κ → ρ → Prop
  clears : ∀ {k r r'}, due r = true → treat k r = some r' → due r' = false
  own_not_due : ∀ {k r}, own k r → due r = false

namespace Purge

variable (P : Purge κ ρ) (t t' : Table κ ρ)

/-- What becomes of a row. -/
def outcome (k : κ) (r : ρ) : Option ρ := if P.due r then P.treat k r else some r

/-- Some of the due rows have been treated. -/
structure Underway : Prop where
  only : ∀ {k r'}, AList.lookup k t' = some r' → P.own k r' ∨
    ∃ r, AList.lookup k t = some r ∧
      (r' = r ∨ (P.due r = true ∧ P.treat k r = some r'))
  keeps : ∀ {k r}, AList.lookup k t = some r → P.due r = false →
    AList.lookup k t' = some r
  due : ∀ {k r}, AList.lookup k t = some r → P.due r = true →
    AList.lookup k t' = some r ∨ AList.lookup k t' = P.treat k r ∨
      (P.treat k r = none ∧ ∃ r', AList.lookup k t' = some r' ∧ P.own k r')

/-- Nothing is due. -/
def Clear : Prop := ∀ {k r}, AList.lookup k t = some r → P.due r = false

/-- **The due rows have been treated, and no other.** -/
structure Done : Prop where
  only : ∀ {k r'}, AList.lookup k t' = some r' → P.own k r' ∨
    ∃ r, AList.lookup k t = some r ∧ P.outcome k r = some r'
  all : ∀ {k r r'}, AList.lookup k t = some r → P.outcome k r = some r' →
    AList.lookup k t' = some r'

end Purge

end

section

variable {κ ρ : Type} [DecidableEq κ] {P : Purge κ ρ} {t t' t'' : Table κ ρ}
  {ks : List κ} {k : κ} {r : ρ} {g : κ → ρ → Option ρ}

/-! ## Batches -/

theorem treats_deleteIn : Treats (fun _ _ => none) ks t (t.deleteIn ks) := by
  intro k
  rw [Table.lookup_deleteIn]
  cases AList.lookup k t <;> rfl

theorem treats_updateIn {f : ρ → ρ} :
    Treats (fun _ r => some (f r)) ks t (t.updateIn ks f) := by
  intro k
  rw [Table.lookup_updateIn]
  cases AList.lookup k t <;> rfl

theorem treats_mapRows {f : κ → ρ → ρ} : Treats (fun k r => some (f k r)) ks t
    (t.mapRows fun k r => if ks.contains k then f k r else r) := by
  intro k
  rw [Table.lookup_mapRows]
  by_cases hk : k ∈ ks
  · cases AList.lookup k t <;> simp [hk]
  · cases AList.lookup k t <;> simp [hk]

namespace Purge

theorem Underway.refl (P : Purge κ ρ) (t : Table κ ρ) : P.Underway t t :=
  ⟨fun h => .inr ⟨_, h, .inl rfl⟩, fun h _ => h, fun h _ => .inl h⟩

/-- A batch of due rows. -/
theorem Underway.batch (h : P.Underway t t') (ht : Treats P.treat ks t' t'')
    (hdue : ∀ k ∈ ks, ∃ r, AList.lookup k t' = some r ∧ P.due r = true) :
    P.Underway t t'' where
  only {k r'} hr' := by
    rw [ht k] at hr'
    split at hr'
    · next hk =>
        obtain ⟨r, hr, hd⟩ := hdue k hk
        rw [hr, Option.bind_some] at hr'
        rcases h.only hr with hown | ⟨r₀, hr₀, rfl | ⟨hd₀, htreat⟩⟩
        · rw [P.own_not_due hown] at hd
          cases hd
        · exact .inr ⟨r, hr₀, .inr ⟨hd, hr'⟩⟩
        · rw [P.clears hd₀ htreat] at hd
          cases hd
    · exact h.only hr'
  keeps {k r} hr hd := by
    have hstay := h.keeps hr hd
    rw [ht k, if_neg ?_, hstay]
    intro hk
    obtain ⟨r', hr', hd'⟩ := hdue k hk
    rw [hstay] at hr'
    cases hr'
    rw [hd] at hd'
    cases hd'
  due {k r} hr hd := by
    by_cases hk : k ∈ ks
    · obtain ⟨r', hr', hd'⟩ := hdue k hk
      rw [ht k, if_pos hk, hr', Option.bind_some]
      rcases h.due hr hd with hsame | htreated | ⟨-, r'', hr'', hown⟩
      · rw [hr'] at hsame
        cases hsame
        exact .inr (.inl rfl)
      · rw [hr'] at htreated
        rw [P.clears hd htreated.symm] at hd'
        cases hd'
      · rw [hr'] at hr''
        cases hr''
        rw [P.own_not_due hown] at hd'
        cases hd'
    · rw [ht k, if_neg hk]
      exact h.due hr hd

/-- A row of the job's own, under a key that is free. -/
theorem Underway.insert (h : P.Underway t t') (hfree : AList.lookup k t' = none)
    (hown : P.own k r) : P.Underway t (AList.insert k r t') where
  only {k' r'} hr' := by
    rw [Table.lookup_insert'] at hr'
    split at hr'
    · next heq =>
        subst heq
        cases hr'
        exact .inl hown
    · exact h.only hr'
  keeps {k' r'} hr' hd := by
    have hstay := h.keeps hr' hd
    rw [Table.lookup_insert', if_neg ?_, hstay]
    rintro rfl
    rw [hfree] at hstay
    cases hstay
  due {k' r'} hr' hd := by
    rw [Table.lookup_insert']
    split
    · next heq =>
        subst heq
        rcases h.due hr' hd with hsame | htreated | ⟨-, r'', hr'', -⟩
        · rw [hfree] at hsame
          cases hsame
        · exact .inr (.inr ⟨(hfree.symm.trans htreated).symm, r, rfl, hown⟩)
        · rw [hfree] at hr''
          cases hr''
    · exact h.due hr' hd

/-- A row of the job's own is rewritten. -/
theorem Underway.modify (h : P.Underway t t') {f : ρ → ρ}
    (hnew : AList.lookup k t = none) (hf : ∀ r, P.own k r → P.own k (f r)) :
    P.Underway t (t'.modify k f) where
  only {k' r'} hr' := by
    rw [Table.lookup_modify] at hr'
    split at hr'
    · next heq =>
        subst heq
        obtain ⟨r, hr, rfl⟩ := Option.map_eq_some_iff.mp hr'
        rcases h.only hr with hown | ⟨r₀, hr₀, -⟩
        · exact .inl (hf r hown)
        · rw [hnew] at hr₀
          cases hr₀
    · exact h.only hr'
  keeps {k' r'} hr' hd := by
    rw [Table.lookup_modify, if_neg ?_]
    · exact h.keeps hr' hd
    · rintro rfl
      rw [hnew] at hr'
      cases hr'
  due {k' r'} hr' hd := by
    rw [Table.lookup_modify, if_neg ?_]
    · exact h.due hr' hd
    · rintro rfl
      rw [hnew] at hr'
      cases hr'

/-! ## The end -/

/-- **When nothing is due, all has been treated.** -/
theorem Underway.done (h : P.Underway t t') (hclear : P.Clear t') : P.Done t t' where
  only {k r'} hr' := by
    refine (h.only hr').imp_right ?_
    rintro ⟨r, hr, rfl | ⟨hd, htreat⟩⟩
    · exact ⟨r', hr, by rw [outcome, hclear hr']; rfl⟩
    · exact ⟨r, hr, by rw [outcome, hd]; exact htreat⟩
  all {k r r'} hr hout := by
    rw [outcome] at hout
    split at hout
    · next hd =>
        rcases h.due hr hd with hsame | htreated | ⟨hnone, -⟩
        · rw [hclear hsame] at hd
          cases hd
        · exact htreated.trans hout
        · rw [hnone] at hout
          cases hout
    · next hd =>
        cases hout
        exact h.keeps hr (Bool.eq_false_iff.mpr hd)

/-- What is clear stays clear. -/
theorem Clear.underway (hclear : P.Clear t) (h : P.Underway t t') : P.Clear t' := by
  intro k r' hr'
  rcases h.only hr' with hown | ⟨r, hr, rfl | ⟨hd, -⟩⟩
  · exact P.own_not_due hown
  · exact hclear hr
  · rw [hclear hr] at hd
    cases hd

/-- What a treatment leaves of a row is left by a purge. -/
theorem Underway.map_lookup_eq {α : Type} {v : ρ → α} (h : P.Underway t t')
    (htreat : ∀ k r, ∃ r', P.treat k r = some r' ∧ v r' = v r)
    (hown : ∀ k r, ¬ P.own k r) :
    (AList.lookup k t').map v = (AList.lookup k t).map v := by
  cases hr : AList.lookup k t with
  | none =>
      cases hr' : AList.lookup k t' with
      | none => rfl
      | some r' =>
          rcases h.only hr' with hbad | ⟨r, hr₀, -⟩
          · exact absurd hbad (hown k r')
          · rw [hr] at hr₀
            cases hr₀
  | some r =>
      cases hd : P.due r with
      | false => rw [h.keeps hr hd]
      | true =>
          rcases h.due hr hd with hsame | htreated | ⟨-, r', -, hbad⟩
          · rw [hsame]
          · obtain ⟨r', hr', hv⟩ := htreat k r
            rw [htreated, hr', Option.map_some, Option.map_some, hv]
          · exact absurd hbad (hown k r')

/-! ## Counting -/

/-- **A batch of due rows leaves the others due.** -/
theorem mem_select_treats {keep : κ → Bool} (ht : Treats P.treat ks t t')
    (hks : ∀ k ∈ ks, k ∈ t.select fun k r => P.due r && keep k) :
    k ∈ t'.select (fun k r => P.due r && keep k) ↔
      k ∈ t.select (fun k r => P.due r && keep k) ∧ k ∉ ks := by
  rw [Table.mem_select, Table.mem_select, ht k]
  by_cases hk : k ∈ ks
  · refine iff_of_false ?_ fun h => h.2 hk
    rw [if_pos hk]
    rintro ⟨r', hr', hd'⟩
    obtain ⟨r, hr, htreat⟩ := Option.bind_eq_some_iff.mp hr'
    have hd := Table.of_mem_select (hks k hk) hr
    rw [P.clears (Bool.and_eq_true_iff.mp hd).1 htreat] at hd'
    cases hd'
  · rw [if_neg hk]
    exact (and_iff_left hk).symm

theorem length_select_treats {keep : κ → Bool} (ht : Treats P.treat ks t t')
    (hks : ∀ k ∈ ks, k ∈ t.select fun k r => P.due r && keep k)
    (hnodup : ks.Nodup) :
    (t'.select fun k r => P.due r && keep k).length + ks.length
      = (t.select fun k r => P.due r && keep k).length := by
  have hdisjoint : (t'.select fun k r => P.due r && keep k).Disjoint ks :=
    fun k hk => ((mem_select_treats ht hks).mp hk).2
  have hperm : ((t'.select fun k r => P.due r && keep k) ++ ks).Perm
      (t.select fun k r => P.due r && keep k) := by
    refine (List.perm_ext_iff_of_nodup
      (List.nodup_append'.mpr ⟨Table.select_nodup, hnodup, hdisjoint⟩)
      Table.select_nodup).mpr fun k => ?_
    rw [List.mem_append, mem_select_treats ht hks]
    constructor
    · rintro (⟨hk, -⟩ | hk)
      · exact hk
      · exact hks k hk
    · intro hk
      by_cases hin : k ∈ ks
      · exact .inr hin
      · exact .inl ⟨hk, hin⟩
  rw [← List.length_append]
  exact hperm.length_eq

end Purge

end

end CallingAgent.Lib
