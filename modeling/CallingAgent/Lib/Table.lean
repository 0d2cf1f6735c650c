import Mathlib.Data.List.AList
import Mathlib.Data.List.MinMax

/-!
# Tables — rows under a primary key

A table is an association list whose keys are distinct (Mathlib's
`AList`), so a primary key is unique by construction. On top of it:
updating one row, adding a row under a fresh key, and the scans a
`WHERE` clause makes, each characterised through `lookup`.
-/

namespace CallingAgent.Lib

/-- A table of rows `ρ` under primary keys `κ`. -/
abbrev Table (κ ρ : Type) := AList (fun _ : κ => ρ)

namespace Table

variable {κ ρ : Type} [DecidableEq κ]

/-! ## Updating a row -/

/-- Rewrite the row under `k`, if there is one. -/
def modify (t : Table κ ρ) (k : κ) (f : ρ → ρ) : Table κ ρ :=
  match AList.lookup k t with
  | some r => AList.insert k (f r) t
  | none => t

theorem lookup_modify (t : Table κ ρ) (k k' : κ) (f : ρ → ρ) :
    AList.lookup k' (t.modify k f)
      = if k' = k then (AList.lookup k' t).map f else AList.lookup k' t := by
  unfold modify
  by_cases hk : k' = k
  · subst hk
    cases h : AList.lookup k' t with
    | none => simp [h]
    | some r => simp
  · cases h : AList.lookup k t with
    | none => simp [hk]
    | some r => simp [hk, AList.lookup_insert_ne hk]

@[simp] theorem lookup_modify_self (t : Table κ ρ) (k : κ) (f : ρ → ρ) :
    AList.lookup k (t.modify k f) = (AList.lookup k t).map f := by
  simp [lookup_modify]

theorem lookup_modify_ne (t : Table κ ρ) {k k' : κ} (h : k' ≠ k)
    (f : ρ → ρ) :
    AList.lookup k' (t.modify k f) = AList.lookup k' t := by
  simp [lookup_modify, h]

theorem lookup_insert' (t : Table κ ρ) (k k' : κ) (r : ρ) :
    AList.lookup k' (AList.insert k r t)
      = if k' = k then some r else AList.lookup k' t := by
  by_cases h : k' = k
  · subst h; simp
  · simp [h, AList.lookup_insert_ne h]

/-- Store a row under `k`, or remove what is there. -/
def put (t : Table κ ρ) (k : κ) : Option ρ → Table κ ρ
  | some r => AList.insert k r t
  | none => AList.erase k t

theorem lookup_put (t : Table κ ρ) (k k' : κ) (r : Option ρ) :
    AList.lookup k' (t.put k r) = if k' = k then r else AList.lookup k' t := by
  cases r with
  | some r => exact lookup_insert' t k k' r
  | none =>
      by_cases h : k' = k
      · subst h
        simp [put]
      · simp [put, h, AList.lookup_erase_ne h]

/-- Rewrite every row. -/
def mapRows (t : Table κ ρ) (f : κ → ρ → ρ) : Table κ ρ where
  entries := t.entries.map fun e => ⟨e.1, f e.1 e.2⟩
  nodupKeys := by
    have h := t.nodupKeys
    unfold List.NodupKeys List.keys at *
    rw [List.map_map]
    exact h

theorem lookup_mapRows (t : Table κ ρ) (f : κ → ρ → ρ) (k : κ) :
    AList.lookup k (t.mapRows f) = (AList.lookup k t).map (f k) := by
  obtain ⟨l, hl⟩ := t
  simp only [mapRows, AList.lookup]
  clear hl
  induction l with
  | nil => simp
  | cons e l ih =>
    obtain ⟨k', r⟩ := e
    by_cases h : k = k'
    · subst h; simp
    · simp [List.dlookup_cons_ne, h, ih]

/-! ## Fresh keys -/

section Fresh

variable {ρ : Type}

/-- The next key of a serial table: above every key in it. -/
def nextKey (t : Table Nat ρ) : Nat :=
  t.entries.foldr (fun e n => max (e.1 + 1) n) 0

theorem lt_nextKey {t : Table Nat ρ} {k : Nat} {r : ρ}
    (h : AList.lookup k t = some r) : k < t.nextKey := by
  have hm : (⟨k, r⟩ : Sigma fun _ : Nat => ρ) ∈ t.entries :=
    AList.mem_lookup_iff.mp h
  unfold nextKey
  generalize t.entries = l at hm
  induction l with
  | nil => cases hm
  | cons e l ih =>
    rw [List.foldr_cons]
    rcases List.mem_cons.mp hm with rfl | hm
    · exact Nat.lt_of_succ_le (Nat.le_max_left _ _)
    · exact lt_of_lt_of_le (ih hm) (Nat.le_max_right _ _)

@[simp] theorem lookup_nextKey (t : Table Nat ρ) :
    AList.lookup t.nextKey t = none := by
  cases h : AList.lookup t.nextKey t with
  | none => rfl
  | some r => exact absurd (lt_nextKey h) (Nat.lt_irrefl _)

/-- Serial keys follow one another. -/
theorem nextKey_insert_nextKey (t : Table Nat ρ) (r : ρ) :
    nextKey (AList.insert t.nextKey r t) = t.nextKey + 1 := by
  have hfree : t.nextKey ∉ t := by
    rw [← AList.lookup_eq_none, lookup_nextKey]
  have hfold : ∀ k, k ∉ t →
      nextKey (AList.insert k r t) = max (k + 1) t.nextKey := by
    intro k hk
    rw [nextKey, AList.entries_insert_of_notMem hk, List.foldr_cons]
    rfl
  rw [hfold _ hfree]
  exact Nat.max_eq_left (Nat.le_succ _)

end Fresh

/-! ## Scans -/

/-- `EXISTS (SELECT … WHERE p)`. -/
def any (t : Table κ ρ) (p : κ → ρ → Bool) : Bool :=
  t.entries.any fun e => p e.1 e.2

theorem any_iff {t : Table κ ρ} {p : κ → ρ → Bool} :
    t.any p = true ↔ ∃ k r, AList.lookup k t = some r ∧ p k r = true := by
  unfold any
  rw [List.any_eq_true]
  constructor
  · rintro ⟨⟨k, r⟩, hm, hp⟩
    exact ⟨k, r, AList.mem_lookup_iff.mpr hm, hp⟩
  · rintro ⟨k, r, hl, hp⟩
    exact ⟨⟨k, r⟩, AList.mem_lookup_iff.mp hl, hp⟩

theorem any_eq_false {t : Table κ ρ} {p : κ → ρ → Bool} :
    t.any p = false ↔ ∀ k r, AList.lookup k t = some r → p k r = false := by
  rw [← Bool.not_eq_true, any_iff]
  grind

/-- The key of a row satisfying `p`, when there is one. -/
def findKey (t : Table κ ρ) (p : κ → ρ → Bool) : Option κ :=
  (t.entries.find? fun e => p e.1 e.2).map (·.1)

theorem findKey_some {t : Table κ ρ} {p : κ → ρ → Bool} {k : κ}
    (h : t.findKey p = some k) :
    ∃ r, AList.lookup k t = some r ∧ p k r = true := by
  unfold findKey at h
  obtain ⟨⟨k', r⟩, hf, rfl⟩ := Option.map_eq_some_iff.mp h
  exact ⟨r, AList.mem_lookup_iff.mpr (List.mem_of_find?_eq_some hf),
    List.find?_some (p := fun e : Sigma fun _ : κ => ρ => p e.1 e.2) hf⟩

theorem findKey_none {t : Table κ ρ} {p : κ → ρ → Bool} :
    t.findKey p = none ↔
      ∀ k r, AList.lookup k t = some r → p k r = false := by
  unfold findKey
  rw [Option.map_eq_none_iff, List.find?_eq_none]
  constructor
  · intro h k r hl
    have := h _ (AList.mem_lookup_iff.mp hl)
    simpa using this
  · intro h e he
    have := h e.1 e.2 (AList.mem_lookup_iff.mpr he)
    simp [this]

/-- `SELECT count(*) … WHERE p`. -/
def count (t : Table κ ρ) (p : κ → ρ → Bool) : Nat :=
  t.entries.countP fun e => p e.1 e.2

end Table

end CallingAgent.Lib
