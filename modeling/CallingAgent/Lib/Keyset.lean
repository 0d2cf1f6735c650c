import Mathlib.Data.List.Sort

/-!
# Keyset pages — walking over rows that change meanwhile

A page is the next few rows after a cursor, by key. The rows may change
between two pages in any way; a walk that handles its pages one after the
other and moves the cursor to their last key handles no key twice, and none
that stays among the rows is passed without being handled.
-/

namespace CallingAgent.Lib

variable {κ β : Type} [LinearOrder κ]

/-- The cursor is at the key, or behind it. -/
def Passed (cursor : Option κ) (k : κ) : Prop := ∃ c ∈ cursor, k ≤ c

/-- All rows after the cursor, by key. -/
def keysetRows (cursor : Option κ) (rows : List (κ × β)) : List (κ × β) :=
  (rows.filter fun row => cursor.all (· < row.1)).insertionSort
    fun a b => a.1 ≤ b.1

/-- The next `limit` rows after the cursor. -/
def keysetPage (cursor : Option κ) (limit : Nat) (rows : List (κ × β)) :
    List (κ × β) :=
  (keysetRows cursor rows).take limit

section

variable {cursor : Option κ} {limit : Nat} {rows : List (κ × β)} {row : κ × β}
  {k x : κ}

theorem not_passed : ¬Passed cursor k ↔ cursor.all (· < k) = true := by
  cases cursor <;> simp [Passed]

theorem keysetRows_sorted (h : (rows.map (·.1)).Nodup) :
    ((keysetRows cursor rows).map (·.1)).Pairwise (· < ·) := by
  have htotal : Std.Total fun a b : κ × β => a.1 ≤ b.1 :=
    ⟨fun a b => le_total a.1 b.1⟩
  have htrans : IsTrans (κ × β) fun a b => a.1 ≤ b.1 :=
    ⟨fun _ _ _ => le_trans⟩
  have hsorted : ((keysetRows cursor rows).map (·.1)).Pairwise (· ≤ ·) :=
    List.pairwise_map.mpr (List.pairwise_insertionSort _ _)
  have hnodup : ((keysetRows cursor rows).map (·.1)).Nodup := by
    have hperm := (List.perm_insertionSort (fun a b : κ × β => a.1 ≤ b.1)
      (rows.filter fun row => cursor.all (· < row.1))).map (·.1)
    exact hperm.nodup_iff.mpr (h.sublist (List.filter_sublist.map _))
  exact (hsorted.and hnodup).imp fun h => lt_of_le_of_ne h.1 h.2

theorem mem_keysetRows :
    row ∈ keysetRows cursor rows ↔ row ∈ rows ∧ ¬Passed cursor row.1 := by
  rw [keysetRows, List.mem_insertionSort, List.mem_filter, not_passed]

theorem of_mem_keysetPage (h : row ∈ keysetPage cursor limit rows) :
    row ∈ rows ∧ ¬Passed cursor row.1 :=
  mem_keysetRows.mp (List.mem_of_mem_take h)

/-- The keys of a page rise. -/
theorem keysetPage_sorted (h : (rows.map (·.1)).Nodup) :
    ((keysetPage cursor limit rows).map (·.1)).Pairwise (· < ·) := by
  rw [keysetPage, List.map_take]
  exact (keysetRows_sorted h).sublist (List.take_sublist limit _)

/-- A row after the cursor is on the page, or behind all of it. -/
theorem mem_keysetPage_or (h : (rows.map (·.1)).Nodup) (hrow : row ∈ rows)
    (hcursor : ¬Passed cursor row.1) :
    row ∈ keysetPage cursor limit rows ∨
      ∀ r ∈ keysetPage cursor limit rows, r.1 < row.1 := by
  have hsorted := @keysetRows_sorted _ _ _ cursor rows h
  have hmem := mem_keysetRows.mpr ⟨hrow, hcursor⟩
  rw [← List.take_append_drop limit (keysetRows cursor rows)] at hsorted hmem
  rw [List.map_append, List.pairwise_append] at hsorted
  rcases List.mem_append.mp hmem with hpage | hlater
  · exact Or.inl hpage
  · exact Or.inr fun r hr => hsorted.2.2 r.1 (List.mem_map_of_mem hr) row.1
      (List.mem_map_of_mem hlater)

/-- A page without rows ends the walk. -/
theorem keysetPage_eq_nil (hlimit : 0 < limit) :
    keysetPage cursor limit rows = [] ↔ ∀ row ∈ rows, Passed cursor row.1 := by
  rw [keysetPage, List.take_eq_nil_iff, or_iff_right (by omega),
    List.eq_nil_iff_forall_not_mem]
  simp only [mem_keysetRows, not_and, not_not]

/-- **The next page** begins where this one ends. -/
theorem keysetRows_next (h : (rows.map (·.1)).Nodup)
    (hne : keysetPage cursor limit rows ≠ []) :
    keysetRows ((keysetPage cursor limit rows).map (·.1)).getLast? rows
      = (keysetRows cursor rows).drop limit := by
  have hsorted := @keysetRows_sorted _ _ _ cursor rows h
  have hsplit : keysetRows cursor rows = keysetPage cursor limit rows
      ++ (keysetRows cursor rows).drop limit :=
    (List.take_append_drop limit _).symm
  have hlast : ((keysetPage cursor limit rows).map (·.1)).getLast?
      = some ((keysetPage cursor limit rows).getLast hne).1 := by
    rw [List.getLast?_map, List.getLast?_eq_some_getLast hne]
    rfl
  have hmem := List.getLast_mem hne
  have hpage : ∀ r ∈ keysetPage cursor limit rows,
      r.1 ≤ ((keysetPage cursor limit rows).getLast hne).1 := by
    have hrise := @keysetPage_sorted _ _ _ cursor limit rows h
    intro r hr
    rw [← List.dropLast_append_getLast hne, List.map_append,
      List.pairwise_append] at hrise
    rw [← List.dropLast_append_getLast hne] at hr
    rcases List.mem_append.mp hr with hr | hr
    · exact (hrise.2.2 _ (List.mem_map_of_mem hr) _
        (List.mem_singleton_self _)).le
    · exact (List.mem_singleton.mp hr) ▸ le_refl _
  have hlater : ∀ r ∈ (keysetRows cursor rows).drop limit,
      ((keysetPage cursor limit rows).getLast hne).1 < r.1 := by
    rw [hsplit, List.map_append, List.pairwise_append] at hsorted
    exact fun r hr => hsorted.2.2 _ (List.mem_map_of_mem hmem) _
      (List.mem_map_of_mem hr)
  rw [hlast]
  generalize (keysetPage cursor limit rows).getLast hne = last at *
  have hnext := @keysetRows_sorted _ _ _ (some last.1) rows h
  have hrest : (((keysetRows cursor rows).drop limit).map (·.1)).Pairwise
      (· < ·) := hsorted.sublist ((List.drop_sublist limit _).map _)
  have hnodup : ∀ {l : List (κ × β)}, (l.map (·.1)).Pairwise (· < ·) →
      l.Nodup := fun hl =>
    List.Nodup.of_map _ (hl.imp fun hlt => ne_of_lt hlt)
  have hperm := (List.perm_ext_iff_of_nodup (hnodup hnext) (hnodup hrest)).mpr
    fun r => ?_
  · exact hperm.eq_of_pairwise
      (fun _ _ _ _ hab hba => absurd hab (lt_asymm hba))
      (List.pairwise_map.mp hnext) (List.pairwise_map.mp hrest)
  · rw [mem_keysetRows]
    constructor
    · rintro ⟨hr, hpassed⟩
      have hlt : last.1 < r.1 := not_le.mp fun hle =>
        hpassed ⟨last.1, rfl, hle⟩
      have hfree : ¬Passed cursor r.1 := by
        rintro ⟨c, hc, hle⟩
        exact (of_mem_keysetPage hmem).2 ⟨c, hc, (hlt.trans_le hle).le⟩
      have hall := mem_keysetRows.mpr ⟨hr, hfree⟩
      rw [hsplit] at hall
      exact (List.mem_append.mp hall).resolve_left fun hp =>
        absurd (hpage r hp) (not_le.mpr hlt)
    · intro hr
      refine ⟨(mem_keysetRows.mp (List.mem_of_mem_drop hr)).1, ?_⟩
      rintro ⟨c, hc, hle⟩
      cases hc
      exact absurd hle (not_le.mpr (hlater r hr))

end

/-! ## The walk -/

/-- Between two pages: what has been handled is behind the cursor. -/
structure Walk (cursor : Option κ) (seen : List κ) : Prop where
  nodup : seen.Nodup
  behind : ∀ k ∈ seen, Passed cursor k

/-- On a page whose keys `rest` are still to be handled. -/
structure WalkPage (cursor : Option κ) (page rest seen : List κ) : Prop where
  nodup : seen.Nodup
  rising : page.Pairwise (· < ·)
  ahead : ∀ k ∈ page, ¬Passed cursor k
  split : ∃ done, page = done ++ rest ∧ (∀ k ∈ done, k ∈ seen) ∧
    ∀ k ∈ seen, Passed cursor k ∨ k ∈ done

/-- The walk has not passed `x` without handling it. -/
def NotMissed (x : κ) (cursor : Option κ) (seen : List κ) : Prop :=
  Passed cursor x → x ∈ seen

section

variable {cursor : Option κ} {page rest seen : List κ} {k x : κ}

theorem Walk.start : Walk (none : Option κ) [] :=
  ⟨List.nodup_nil, by simp⟩

theorem NotMissed.start : NotMissed x none [] := by
  rintro ⟨c, hc, -⟩
  cases hc

theorem Walk.onPage (h : Walk cursor seen) (hrise : page.Pairwise (· < ·))
    (hahead : ∀ k ∈ page, ¬Passed cursor k) :
    WalkPage cursor page page seen :=
  ⟨h.nodup, hrise, hahead, [], rfl, by simp, fun k hk => Or.inl (h.behind k hk)⟩

/-- **The next key of the page** is handled for the first time. -/
theorem WalkPage.handle (h : WalkPage cursor page (k :: rest) seen) :
    k ∉ seen ∧ WalkPage cursor page rest (k :: seen) := by
  obtain ⟨done, hpage, hdone, hseen⟩ := h.split
  have hmem : k ∈ page := by rw [hpage]; simp
  have hnot : k ∉ seen := by
    intro hk
    rcases hseen k hk with hpassed | hk
    · exact h.ahead k hmem hpassed
    · have hrise := h.rising
      rw [hpage, List.pairwise_append] at hrise
      exact lt_irrefl k (hrise.2.2 k hk k List.mem_cons_self)
  refine ⟨hnot, h.nodup.cons hnot, h.rising, h.ahead, done ++ [k], ?_, ?_, ?_⟩
  · rw [hpage, List.append_assoc]
    rfl
  · intro j hj
    rcases List.mem_append.mp hj with hj | hj
    · exact List.mem_cons_of_mem _ (hdone j hj)
    · rw [List.mem_singleton.mp hj]
      exact List.mem_cons_self
  · intro j hj
    rcases List.mem_cons.mp hj with rfl | hj
    · exact Or.inr (List.mem_append_right _ (List.mem_singleton_self _))
    · exact (hseen j hj).imp_right (List.mem_append_left _)

/-- **The end of the page**: the cursor moves to its last key. -/
theorem WalkPage.finish (h : WalkPage cursor page [] seen) (hne : page ≠ []) :
    Walk page.getLast? seen ∧
      (NotMissed x cursor seen →
        Passed cursor x ∨ x ∈ page ∨ (∀ k ∈ page, k < x) →
        NotMissed x page.getLast? seen) := by
  obtain ⟨done, hpage, hdone, hseen⟩ := h.split
  rw [List.append_nil] at hpage
  subst hpage
  have hlast := List.getLast?_eq_some_getLast hne
  have hmem := List.getLast_mem hne
  have hle : ∀ k ∈ page, k ≤ page.getLast hne := by
    intro k hk
    have hrise := h.rising
    rw [← List.dropLast_append_getLast hne] at hk hrise
    rcases List.mem_append.mp hk with hk | hk
    · exact ((List.pairwise_append.mp hrise).2.2 k hk _
        (List.mem_singleton_self _)).le
    · exact (List.mem_singleton.mp hk).le
  refine ⟨⟨h.nodup, fun k hk => ⟨_, hlast, ?_⟩⟩, fun hx hpos => ?_⟩
  · rcases hseen k hk with ⟨c, hc, hkc⟩ | hk
    · have hlt : ¬Passed cursor (page.getLast hne) := h.ahead _ hmem
      have hcl : c < page.getLast hne :=
        not_le.mp fun hle => hlt ⟨c, hc, hle⟩
      exact hkc.trans hcl.le
    · exact hle k hk
  · rintro ⟨c, hc, hxc⟩
    rw [hlast] at hc
    cases Option.some.inj hc
    rcases hpos with hpassed | hpage | hbehind
    · exact hx hpassed
    · exact hdone x hpage
    · exact absurd hxc (not_le.mpr (hbehind _ hmem))

end

end CallingAgent.Lib
