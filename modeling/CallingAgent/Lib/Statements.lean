import CallingAgent.Lib.SortedSet
import Mathlib.Data.List.Sort

/-!
# Statements — selecting, deleting and updating rows by their keys

A batch job selects the keys of the rows that need an action and applies the
action to those keys. A row that is not selected is left alone.
-/

namespace CallingAgent.Lib

namespace Table

variable {κ ρ : Type} [DecidableEq κ] (t : Table κ ρ) (p : κ → ρ → Bool)
  (ks : List κ) (f : ρ → ρ)

/-- `SELECT id … WHERE p` -/
def select : List κ :=
  (t.entries.filter fun e => p e.1 e.2).map (·.1)

/-- `DELETE … WHERE id IN ks` -/
def deleteIn : Table κ ρ := t.filter fun k _ => !ks.contains k

/-- `UPDATE … WHERE id IN ks` -/
def updateIn : Table κ ρ := t.mapRows fun k r => if ks.contains k then f r else r

/-- Every row seen through `g`. -/
def view {σ : Type} (g : ρ → σ) : Table κ σ where
  entries := t.entries.map fun e => ⟨e.1, g e.2⟩
  nodupKeys := by
    have h := t.nodupKeys
    unfold List.NodupKeys List.keys at *
    rw [List.map_map]
    exact h

variable {t p ks f} {k : κ} {r : ρ}

theorem mem_select :
    k ∈ t.select p ↔ ∃ r, AList.lookup k t = some r ∧ p k r = true := by
  unfold select
  rw [List.mem_map]
  constructor
  · rintro ⟨⟨k', r⟩, hm, rfl⟩
    obtain ⟨hm, hp⟩ := List.mem_filter.mp hm
    exact ⟨r, AList.mem_lookup_iff.mpr hm, hp⟩
  · rintro ⟨r, hr, hp⟩
    exact ⟨⟨k, r⟩, List.mem_filter.mpr ⟨AList.mem_lookup_iff.mp hr, hp⟩, rfl⟩

omit [DecidableEq κ] in
theorem select_nodup : (t.select p).Nodup :=
  List.Nodup.sublist (List.filter_sublist.map _) t.nodupKeys

/-- A selected row satisfies the condition. -/
theorem of_mem_select (h : k ∈ t.select p) (hr : AList.lookup k t = some r) :
    p k r = true := by
  obtain ⟨r', hr', hp⟩ := mem_select.mp h
  rw [hr] at hr'
  cases hr'
  exact hp

theorem lookup_deleteIn : AList.lookup k (t.deleteIn ks)
    = if k ∈ ks then none else AList.lookup k t := by
  unfold deleteIn
  rw [lookup_filter]
  by_cases hk : k ∈ ks
  · cases AList.lookup k t <;> simp [hk]
  · cases AList.lookup k t <;> simp [hk]

theorem lookup_updateIn : AList.lookup k (t.updateIn ks f)
    = if k ∈ ks then (AList.lookup k t).map f else AList.lookup k t := by
  unfold updateIn
  rw [lookup_mapRows]
  by_cases hk : k ∈ ks
  · simp [hk]
  · cases AList.lookup k t <;> simp [hk]

/-- `DELETE … WHERE p` -/
theorem lookup_deleteIn_select : AList.lookup k (t.deleteIn (t.select p))
    = (AList.lookup k t).filter fun r => !p k r := by
  rw [lookup_deleteIn]
  cases hr : AList.lookup k t with
  | none => simp
  | some r =>
      have hmem : k ∈ t.select p ↔ p k r = true := by
        simp [mem_select, hr]
      by_cases hp : p k r = true
      · rw [if_pos (hmem.mpr hp)]
        simp [Option.filter_some, hp]
      · rw [if_neg (hp ∘ hmem.mp)]
        simp [Option.filter_some, hp]

/-- `UPDATE … WHERE p` -/
theorem lookup_updateIn_select : AList.lookup k (t.updateIn (t.select p) f)
    = (AList.lookup k t).map fun r => if p k r then f r else r := by
  rw [lookup_updateIn]
  cases hr : AList.lookup k t with
  | none => simp
  | some r =>
      have hmem : k ∈ t.select p ↔ p k r = true := by
        simp [mem_select, hr]
      by_cases hp : p k r = true
      · rw [if_pos (hmem.mpr hp)]
        simp [hp]
      · rw [if_neg (hp ∘ hmem.mp)]
        simp [hp]

/-- What an update does not change of a row, it changes in no row. -/
theorem map_lookup_updateIn {α : Type} {g : ρ → α} (h : ∀ r, g (f r) = g r) :
    (AList.lookup k (t.updateIn ks f)).map g = (AList.lookup k t).map g := by
  rw [lookup_updateIn]
  split
  · rw [Option.map_map]
    congr 1
    funext r
    exact h r
  · rfl

/-- A scan for what is seen through `v` sees no difference behind it. -/
theorem any_congr {σ : Type} {t' : Table κ ρ} {v : ρ → σ} {q : σ → Bool}
    (h : ∀ k, (AList.lookup k t').map v = (AList.lookup k t).map v) :
    (t'.any fun _ r => q (v r)) = t.any fun _ r => q (v r) := by
  have hstep : ∀ {u u' : Table κ ρ},
      (∀ k, (AList.lookup k u').map v = (AList.lookup k u).map v) →
      (u.any fun _ r => q (v r)) = true → (u'.any fun _ r => q (v r)) = true := by
    intro u u' hu hany
    obtain ⟨k, r, hr, hq⟩ := any_iff.mp hany
    have hk := hu k
    rw [hr, Option.map_some] at hk
    obtain ⟨r', hr', hv⟩ := Option.map_eq_some_iff.mp hk
    exact any_iff.mpr ⟨k, r', hr', by rw [hv]; exact hq⟩
  exact Bool.eq_iff_iff.mpr ⟨hstep fun k => (h k).symm, hstep h⟩

/-- Where every counted row has a counted row under its key, the count does
not fall. -/
theorem count_le {t' : Table κ ρ} {q : κ → ρ → Bool}
    (h : ∀ k r, AList.lookup k t = some r → p k r = true →
      ∃ r', AList.lookup k t' = some r' ∧ q k r' = true) :
    t.count p ≤ t'.count q := by
  have hlen : ∀ (u : Table κ ρ) (p : κ → ρ → Bool),
      u.count p = (u.select p).length := by
    intro u p
    rw [select, List.length_map, count, List.countP_eq_length_filter]
  rw [hlen, hlen]
  refine (List.subperm_of_subset select_nodup fun k hk => ?_).length_le
  obtain ⟨r, hr, hp⟩ := mem_select.mp hk
  obtain ⟨r', hr', hq⟩ := h k r hr hp
  exact mem_select.mpr ⟨r', hr', hq⟩

/-! ## In the order of the keys -/

/-- The keys of a serial table, in order. -/
def sortedKeys {ρ : Type} (t : Table Nat ρ) : List Nat :=
  t.keys.insertionSort fun a b => Nat.ble a b = true

theorem mem_sortedKeys {ρ : Type} {t : Table Nat ρ} {k : Nat} :
    k ∈ t.sortedKeys ↔ (AList.lookup k t).isSome := by
  rw [sortedKeys, List.mem_insertionSort, AList.lookup_isSome]
  rfl

theorem sortedKeys_nodup {ρ : Type} {t : Table Nat ρ} : t.sortedKeys.Nodup :=
  (List.perm_insertionSort _ _).nodup_iff.mpr t.nodupKeys

/-- The first key that satisfies `p` is the least one. -/
theorem find_sortedKeys {ρ : Type} {t : Table Nat ρ} {p : Nat → Bool} {k : Nat}
    (h : t.sortedKeys.find? p = some k) :
    p k = true ∧ ∀ k', (AList.lookup k' t).isSome → p k' = true → k ≤ k' := by
  obtain ⟨hp, before, after, hsplit, hbefore⟩ := List.find?_eq_some_iff_append.mp h
  refine ⟨hp, fun k' hk' hp' => ?_⟩
  have hm : k' ∈ t.sortedKeys := mem_sortedKeys.mpr hk'
  have hsorted : t.sortedKeys.Pairwise fun a b => Nat.ble a b = true := by
    have : Std.Total fun a b => Nat.ble a b = true :=
      ⟨fun a b => by simpa only [Nat.ble_eq] using Nat.le_total a b⟩
    have : IsTrans Nat fun a b => Nat.ble a b = true :=
      ⟨fun a b c => by simpa only [Nat.ble_eq] using Nat.le_trans⟩
    exact List.pairwise_insertionSort _ _
  rw [hsplit] at hm hsorted
  rcases List.mem_append.mp hm with hm | hm
  · have := hbefore k' hm
    simp [hp'] at this
  · rcases List.mem_cons.mp hm with rfl | hm
    · exact Nat.le_refl _
    · have hrest := (List.pairwise_append.mp hsorted).2.1
      exact Nat.ble_eq.mp ((List.pairwise_cons.mp hrest).1 k' hm)

end Table

end CallingAgent.Lib
