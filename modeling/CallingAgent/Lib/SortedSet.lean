import CallingAgent.Lib.Table

/-!
# Sorted sets and expiring keys

A sorted set holds members, each with a score. Where the scores are the
instants at which the members expire, pruning the set up to now leaves
exactly the live ones, so its cardinality is their number. A key of the
store around it can expire as a whole.
-/

namespace CallingAgent.Lib

/-! ## Counting rows -/

namespace Table

variable {κ ρ : Type} [DecidableEq κ]

/-- The rows that satisfy `p`. -/
def filter (t : Table κ ρ) (p : κ → ρ → Bool) : Table κ ρ where
  entries := t.entries.filter fun e => p e.1 e.2
  nodupKeys := t.nodupKeys.sublist List.filter_sublist

theorem lookup_filter (t : Table κ ρ) (p : κ → ρ → Bool) (k : κ) :
    AList.lookup k (t.filter p) = (AList.lookup k t).filter (p k) := by
  ext r
  rw [Option.filter_eq_some_iff, ← Option.mem_def, ← Option.mem_def,
    AList.mem_lookup_iff, AList.mem_lookup_iff]
  exact List.mem_filter

/-- The rows left when one goes. -/
theorem entries_erase (t : Table κ ρ) (k : κ) :
    (AList.erase k t).entries = t.entries.kerase k := rfl

/-- The row under `k` is one of the counted ones, or not. -/
theorem count_erase {t : Table κ ρ} {p : κ → ρ → Bool} {k : κ} {r : ρ}
    (h : AList.lookup k t = some r) :
    t.count p = Table.count (AList.erase k t) p + if p k r then 1 else 0 := by
  obtain ⟨l, hl⟩ := t
  simp only [AList.lookup, count, entries_erase] at h ⊢
  induction l with
  | nil => simp at h
  | cons e l ih =>
    obtain ⟨k', r'⟩ := e
    by_cases hk : k = k'
    · subst hk
      rw [List.dlookup_cons_eq] at h
      cases h
      have hrest : List.kerase k (⟨k, r⟩ :: l : List (Sigma fun _ : κ => ρ))
          = l := List.kerase_cons_eq rfl
      rw [hrest, List.countP_cons]
    · rw [List.dlookup_cons_ne _ _ hk] at h
      have ih := ih (List.nodupKeys_cons.mp hl).2 h
      rw [List.kerase_cons_ne hk, List.countP_cons, List.countP_cons, ih]
      omega

theorem erase_absent {t : Table κ ρ} {k : κ} (h : AList.lookup k t = none) :
    AList.erase k t = t := by
  refine AList.ext ?_
  rw [entries_erase]
  exact List.kerase_of_notMem_keys (List.dlookup_eq_none.mp h)

theorem count_erase_le (t : Table κ ρ) (p : κ → ρ → Bool) (k : κ) :
    Table.count (AList.erase k t) p ≤ t.count p := by
  cases h : AList.lookup k t with
  | none => rw [erase_absent h]
  | some r =>
      have := count_erase (p := p) h
      omega

theorem count_insert (t : Table κ ρ) (p : κ → ρ → Bool) (k : κ) (r : ρ) :
    Table.count (AList.insert k r t) p
      = Table.count (AList.erase k t) p + if p k r then 1 else 0 := by
  simp only [count, AList.entries_insert, List.countP_cons]
  rfl

/-- A new row counts if it satisfies `p`. -/
theorem count_insert_new {t : Table κ ρ} {p : κ → ρ → Bool} {k : κ} {r : ρ}
    (h : AList.lookup k t = none) :
    Table.count (AList.insert k r t) p
      = t.count p + if p k r then 1 else 0 := by
  rw [count_insert, erase_absent h]

/-- A row that is rewritten counts for what it was and is. -/
theorem count_insert_old {t : Table κ ρ} {p : κ → ρ → Bool} {k : κ}
    {r : ρ} (r' : ρ) (h : AList.lookup k t = some r) :
    Table.count (AList.insert k r' t) p + (if p k r then 1 else 0)
      = t.count p + if p k r' then 1 else 0 := by
  rw [count_insert, count_erase (p := p) h]
  omega

/-- A weaker condition counts more. -/
theorem count_mono {t : Table κ ρ} {p q : κ → ρ → Bool}
    (h : ∀ k r, AList.lookup k t = some r → p k r = true → q k r = true) :
    t.count p ≤ t.count q := by
  refine List.countP_mono_left fun e he hp => ?_
  exact h e.1 e.2 (AList.mem_lookup_iff.mpr he) hp

/-- The sum of a measure over the rows. -/
def total (t : Table κ ρ) (f : ρ → Nat) : Nat :=
  t.entries.foldr (fun e n => f e.2 + n) 0

theorem total_erase {t : Table κ ρ} {k : κ} {r : ρ} (f : ρ → Nat)
    (h : AList.lookup k t = some r) :
    t.total f = Table.total (AList.erase k t) f + f r := by
  obtain ⟨l, hl⟩ := t
  simp only [AList.lookup, total, entries_erase] at h ⊢
  induction l with
  | nil => simp at h
  | cons e l ih =>
    obtain ⟨k', r'⟩ := e
    by_cases hk : k = k'
    · subst hk
      rw [List.dlookup_cons_eq] at h
      cases h
      have hrest : List.kerase k (⟨k, r⟩ :: l : List (Sigma fun _ : κ => ρ))
          = l := List.kerase_cons_eq rfl
      rw [hrest, List.foldr_cons]
      exact Nat.add_comm _ _
    · rw [List.dlookup_cons_ne _ _ hk] at h
      have ih := ih (List.nodupKeys_cons.mp hl).2 h
      rw [List.kerase_cons_ne hk, List.foldr_cons, List.foldr_cons, ih]
      omega

/-- A row that is written takes the place of the one that was there. -/
theorem total_insert (t : Table κ ρ) (k : κ) (r : ρ) (f : ρ → Nat) :
    Table.total (AList.insert k r t) f + ((AList.lookup k t).map f).getD 0
      = t.total f + f r := by
  have hnew : Table.total (AList.insert k r t) f
      = f r + Table.total (AList.erase k t) f := by
    simp only [total, AList.entries_insert, List.foldr_cons]
    rfl
  cases h : AList.lookup k t with
  | none =>
      rw [hnew, erase_absent h, Option.map_none, Option.getD_none]
      omega
  | some old =>
      rw [hnew, total_erase f h, Option.map_some, Option.getD_some]
      omega

end Table

/-! ## Sorted sets -/

/-- Members with their scores. -/
abbrev SortedSet (μ : Type) := Table μ Nat

namespace SortedSet

variable {μ : Type} [DecidableEq μ] (s : SortedSet μ) (m : μ) (n : Nat)

/-- `ZSCORE` -/
def score : Option Nat := AList.lookup m s

/-- `ZADD`: a new member, or a new score for the same one. -/
def add : SortedSet μ := AList.insert m n s

/-- `ZADD XX`: a new score for a member that is there. -/
def addExisting : SortedSet μ := Table.modify s m fun _ => n

/-- `ZREM` -/
def remove : SortedSet μ := AList.erase m s

/-- `ZREMRANGEBYSCORE -inf n` -/
def removeUpTo : SortedSet μ := Table.filter s fun _ x => decide (n < x)

/-- `ZCARD` -/
def card : Nat := s.entries.length

/-- The members above `n`. -/
def above : Nat := Table.count s fun _ x => decide (n < x)

variable {s m n} {m' : μ}

@[simp] theorem score_empty : score (∅ : SortedSet μ) m = none := rfl

@[simp] theorem score_add :
    (s.add m n).score m' = if m' = m then some n else s.score m' :=
  Table.lookup_insert' s m m' n

@[simp] theorem score_addExisting :
    (s.addExisting m n).score m'
      = if m' = m then (s.score m').map (fun _ => n) else s.score m' :=
  Table.lookup_modify s m m' _

@[simp] theorem score_remove :
    (s.remove m).score m' = if m' = m then none else s.score m' := by
  unfold score remove
  by_cases h : m' = m
  · subst h
    simp
  · simp [h, AList.lookup_erase_ne h]

@[simp] theorem score_removeUpTo :
    (s.removeUpTo n).score m = (s.score m).filter (fun x => decide (n < x)) :=
  Table.lookup_filter s _ m

omit [DecidableEq μ] in
/-- What is left of a set that has been pruned is above. -/
theorem above_removeUpTo : (s.removeUpTo n).above n = s.above n := by
  unfold above removeUpTo Table.count Table.filter
  dsimp only
  rw [List.countP_filter]
  simp

omit [DecidableEq μ] in
theorem card_removeUpTo : (s.removeUpTo n).card = s.above n := by
  unfold card above removeUpTo Table.count Table.filter
  dsimp only
  rw [List.countP_eq_length_filter]

theorem above_le {n' : Nat} (h : n ≤ n') : s.above n' ≤ s.above n := by
  refine Table.count_mono fun _ x _ hx => ?_
  rw [decide_eq_true_eq] at hx ⊢
  omega

theorem above_add_new (h : s.score m = none) (x : Nat) :
    (s.add m n).above x ≤ s.above x + 1 := by
  have hcount := Table.count_insert_new (p := fun _ y => decide (x < y))
    (r := n) h
  unfold above add
  rw [hcount]
  split <;> omega

theorem above_remove : (s.remove m).above n ≤ s.above n :=
  Table.count_erase_le s _ m

/-- A member that was above may move as it likes. -/
theorem above_addExisting {x y : Nat} (h : s.score m = some y) (hy : x < y) :
    (s.addExisting m n).above x ≤ s.above x := by
  have hcount := Table.count_insert_old (p := fun _ z => decide (x < z)) n h
  unfold above addExisting Table.modify
  unfold score at h
  rw [h]
  dsimp only
  rw [if_pos (decide_eq_true hy)] at hcount
  split at hcount <;> omega

end SortedSet

/-! ## Keys that expire -/

/-- A value that is gone once its key has expired. -/
structure Expiring (α : Type) where
  value : α
  expireAt : Nat

/-- Keys with their values. -/
abbrev Keyspace (κ α : Type) := Table κ (Expiring α)

namespace Keyspace

variable {κ α : Type} [DecidableEq κ] (t : Keyspace κ α) (now : Nat) (k : κ)

/-- `GET` -/
def get : Option α :=
  ((AList.lookup k t).filter fun e => !decide (e.expireAt < now)).map (·.value)

/-- `SET … PX` -/
def set (v : α) (expireAt : Nat) : Keyspace κ α :=
  AList.insert k ⟨v, expireAt⟩ t

/-- `DEL` -/
def del : Keyspace κ α := AList.erase k t

/-- A new value under the expiry the key has. -/
def update (f : α → α) : Keyspace κ α :=
  match AList.lookup k t with
  | some e =>
      if e.expireAt < now then AList.erase k t
      else AList.insert k ⟨f e.value, e.expireAt⟩ t
  | none => t

variable {t now k} {k' : κ} {v : α} {expireAt : Nat}

theorem get_set : (t.set k v expireAt).get now k'
    = if k' = k then (if expireAt < now then none else some v)
      else t.get now k' := by
  unfold get set
  rw [Table.lookup_insert']
  by_cases h : k' = k
  · simp only [h, if_true, Option.filter_some, Bool.not_eq_true',
      decide_eq_false_iff_not]
    by_cases he : expireAt < now <;> simp [he]
  · simp [h]

theorem get_del : (t.del k).get now k' = if k' = k then none
    else t.get now k' := by
  unfold get del
  by_cases h : k' = k
  · subst h
    simp
  · simp [h, AList.lookup_erase_ne h]

/-- An update shows at every later instant too. -/
theorem get_update {f : α → α} {later : Nat} (hl : now ≤ later) (k' : κ) :
    (t.update now k f).get later k'
      = if k' = k then (t.get later k').map f else t.get later k' := by
  unfold update
  cases h : AList.lookup k t with
  | none =>
      by_cases hk : k' = k
      · subst hk
        simp [get, h]
      · simp [hk]
  | some e =>
      dsimp only
      by_cases he : e.expireAt < now
      · rw [if_pos he, show AList.erase k t = t.del k from rfl, get_del]
        by_cases hk : k' = k
        · subst hk
          have hlate : e.expireAt < later := Nat.lt_of_lt_of_le he hl
          simp [get, h, hlate]
        · simp [hk]
      · rw [if_neg he, show AList.insert k _ t = t.set k (f e.value) e.expireAt
          from rfl, get_set]
        by_cases hk : k' = k
        · subst hk
          by_cases hlate : e.expireAt < later
          · simp [get, h, hlate]
          · have hlive : later ≤ e.expireAt := Nat.le_of_not_lt hlate
            simp [get, h, hlate, hlive]
        · simp [hk]

/-- A value that is there later is there now. -/
theorem get_earlier {later : Nat} (hl : now ≤ later)
    (h : t.get later k = some v) : t.get now k = some v := by
  unfold get at h ⊢
  obtain ⟨e, he, rfl⟩ := Option.map_eq_some_iff.mp h
  obtain ⟨he, hlive⟩ := Option.filter_eq_some_iff.mp he
  refine Option.map_eq_some_iff.mpr ⟨e, Option.filter_eq_some_iff.mpr ⟨he, ?_⟩,
    rfl⟩
  simp only [Bool.not_eq_true', decide_eq_false_iff_not] at hlive ⊢
  omega

/-- A value is there as long as its key has not expired. -/
theorem get_eq_some : t.get now k = some v ↔
    ∃ e, AList.lookup k t = some e ∧ now ≤ e.expireAt ∧ e.value = v := by
  unfold get
  rw [Option.map_eq_some_iff]
  constructor
  · rintro ⟨e, he, rfl⟩
    obtain ⟨he, hlive⟩ := Option.filter_eq_some_iff.mp he
    exact ⟨e, he, by simpa using hlive, rfl⟩
  · rintro ⟨e, he, hlive, rfl⟩
    exact ⟨e, Option.filter_eq_some_iff.mpr ⟨he, by simpa using hlive⟩, rfl⟩

end Keyspace

end CallingAgent.Lib
