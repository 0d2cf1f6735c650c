import CallingAgent.Lib.SortedSet

/-!
# Fixed windows — counters that start anew when their key expires

The first hit of a key opens a window and gives the key its expiry; later
hits count on under it. A window is named by its key and its end. Beside
the counters stands the list of all hits, each with the window it was
counted in.
-/

namespace CallingAgent.Lib

structure FixedWindows (κ : Type) where
  counters : Keyspace κ Nat := ∅
  /-- a record the store does not keep -/
  hits : List (κ × Nat) := []

namespace FixedWindows

variable {κ : Type} [DecidableEq κ] (f : FixedWindows κ) (now : Nat) (k : κ)

/-- The hits of the open window. -/
def count : Nat := (f.counters.get now k).getD 0

/-- The end of the window a hit falls in. -/
def windowEnd (length : Nat) : Nat :=
  match AList.lookup k f.counters with
  | some e => if e.expireAt < now then now + length else e.expireAt
  | none => now + length

/-- One hit: the open window counts on, or a new one starts. -/
def hit (length : Nat) : FixedWindows κ where
  counters := f.counters.set k (f.count now k + 1) (f.windowEnd now k length)
  hits := (k, f.windowEnd now k length) :: f.hits

/-- The counters say what the record says. -/
structure Consistent : Prop where
  stored : ∀ k e, AList.lookup k f.counters = some e →
    f.hits.count (k, e.expireAt) = e.value
  latest : ∀ k t, (k, t) ∈ f.hits →
    ∃ e, AList.lookup k f.counters = some e ∧ t ≤ e.expireAt

/-- No window has more hits than its key allows. -/
def Within (limit : κ → Nat) : Prop :=
  ∀ k t, f.hits.count (k, t) ≤ limit k

variable {f now k} {length : Nat} {limit : κ → Nat}

theorem count_of_lookup {e : Expiring Nat}
    (h : AList.lookup k f.counters = some e) :
    f.count now k = if e.expireAt < now then 0 else e.value := by
  unfold count Keyspace.get
  rw [h, Option.filter_some]
  by_cases he : e.expireAt < now <;> simp [he]

theorem count_of_none (h : AList.lookup k f.counters = none) :
    f.count now k = 0 := by
  simp [count, Keyspace.get, h]

/-- Time only ends windows. -/
theorem count_later {later : Nat} (h : now ≤ later) :
    f.count later k ≤ f.count now k := by
  cases he : AList.lookup k f.counters with
  | none => rw [count_of_none he, count_of_none he]
  | some e =>
      rw [count_of_lookup he, count_of_lookup he]
      split
      · exact Nat.zero_le _
      · rw [if_neg (by omega)]

/-- A window in which a hit falls is open. -/
theorem le_windowEnd : now ≤ f.windowEnd now k length := by
  unfold windowEnd
  split
  · split <;> omega
  · omega

theorem count_hit {k' : κ} : (f.hit now k length).count now k'
    = if k' = k then f.count now k + 1 else f.count now k' := by
  show (Keyspace.get _ now k').getD 0 = _
  rw [hit, Keyspace.get_set]
  by_cases hk : k' = k
  · rw [if_pos hk, if_pos hk, if_neg (Nat.not_lt.mpr le_windowEnd)]
    rfl
  · rw [if_neg hk, if_neg hk]
    rfl

/-- A window that starts anew was never hit before. -/
theorem Consistent.hits_windowEnd (h : f.Consistent) (hl : 0 < length) :
    f.hits.count (k, f.windowEnd now k length) = f.count now k := by
  unfold windowEnd
  cases he : AList.lookup k f.counters with
  | none =>
      rw [count_of_none he]
      refine List.count_eq_zero.mpr fun hm => ?_
      obtain ⟨e, he', -⟩ := h.latest k _ hm
      rw [he] at he'
      cases he'
  | some e =>
      rw [count_of_lookup he]
      dsimp only
      by_cases hover : e.expireAt < now
      · rw [if_pos hover, if_pos hover]
        refine List.count_eq_zero.mpr fun hm => ?_
        obtain ⟨e', he', hle⟩ := h.latest k _ hm
        rw [he] at he'
        cases he'
        omega
      · rw [if_neg hover, if_neg hover]
        exact h.stored k e he

theorem Consistent.hit (h : f.Consistent) (hl : 0 < length) :
    (f.hit now k length).Consistent where
  stored k' e he := by
    have he : AList.lookup k' (AList.insert k _ f.counters) = some e := he
    rw [Table.lookup_insert'] at he
    by_cases hk : k' = k
    · subst hk
      rw [if_pos rfl] at he
      cases he
      show List.count _ (_ :: _) = _
      rw [List.count_cons_self, h.hits_windowEnd hl]
    · rw [if_neg hk] at he
      show List.count _ (_ :: _) = _
      rw [List.count_cons_of_ne (fun heq => hk (Prod.mk.inj heq).1.symm)]
      exact h.stored k' e he
  latest k' t hm := by
    have hlookup : AList.lookup k' (f.hit now k length).counters
        = if k' = k then some ⟨f.count now k + 1, f.windowEnd now k length⟩
          else AList.lookup k' f.counters := Table.lookup_insert' _ _ _ _
    rw [hlookup]
    rcases List.mem_cons.mp hm with heq | hm
    · cases heq
      exact ⟨_, if_pos rfl, Nat.le_refl _⟩
    · obtain ⟨e, he, hle⟩ := h.latest k' t hm
      by_cases hk : k' = k
      · subst hk
        refine ⟨_, if_pos rfl, ?_⟩
        show t ≤ f.windowEnd now k' length
        unfold windowEnd
        rw [he]
        dsimp only
        split
        · omega
        · exact hle
      · exact ⟨e, (if_neg hk).trans he, hle⟩

/-- **The limit law.** A hit below the limit keeps every window within. -/
theorem Within.hit (h : f.Within limit) (hc : f.Consistent) (hl : 0 < length)
    (hbelow : f.count now k < limit k) :
    (f.hit now k length).Within limit := by
  intro k' t
  show List.count _ (_ :: _) ≤ _
  by_cases heq : (k', t) = (k, f.windowEnd now k length)
  · rw [heq, List.count_cons_self, hc.hits_windowEnd hl]
    rw [(Prod.mk.inj heq).1]
    exact hbelow
  · rw [List.count_cons_of_ne (Ne.symm heq)]
    exact h k' t

theorem consistent_empty : ({} : FixedWindows κ).Consistent where
  stored _ _ h := by cases h
  latest _ _ h := by cases h

theorem within_empty : ({} : FixedWindows κ).Within limit :=
  fun _ _ => Nat.zero_le _

/-! ## Windows of one key -/

/-- A window of a key begins after the one before it is over: the open one
is the last, and all lie more than a length apart. -/
structure Apart (f : FixedWindows κ) (length : Nat) : Prop where
  last : ∀ k e, AList.lookup k f.counters = some e → ∀ t, (k, t) ∈ f.hits →
    t = e.expireAt ∨ t + length < e.expireAt
  known : ∀ k t, (k, t) ∈ f.hits → (AList.lookup k f.counters).isSome
  apart : ∀ k t t', (k, t) ∈ f.hits → (k, t') ∈ f.hits → t < t' →
    t + length < t'

theorem lookup_hit (k' : κ) :
    AList.lookup k' (f.hit now k length).counters
      = if k' = k then some ⟨f.count now k + 1, f.windowEnd now k length⟩
        else AList.lookup k' f.counters :=
  Table.lookup_insert' _ _ _ _

/-- The count of a key depends on nothing but its counter. -/
theorem count_congr {g : FixedWindows κ}
    (h : AList.lookup k f.counters = AList.lookup k g.counters) :
    f.count now k = g.count now k := by
  unfold FixedWindows.count Keyspace.get
  rw [h]

theorem windowEnd_congr {g : FixedWindows κ}
    (h : AList.lookup k f.counters = AList.lookup k g.counters) :
    f.windowEnd now k length = g.windowEnd now k length := by
  unfold FixedWindows.windowEnd
  rw [h]

/-- The window of a hit is the open one, or comes after all there were. -/
theorem Apart.windowEnd (h : f.Apart length) (now : Nat) {t : Nat}
    (ht : (k, t) ∈ f.hits) :
    t = f.windowEnd now k length ∨ t + length < f.windowEnd now k length := by
  obtain ⟨e, he⟩ := Option.isSome_iff_exists.mp (h.known k t ht)
  have hlast := h.last k e he t ht
  unfold FixedWindows.windowEnd
  rw [he]
  dsimp only
  split <;> omega

theorem Apart.hit (h : f.Apart length) : (f.hit now k length).Apart length where
  last k' e he t ht := by
    rw [lookup_hit] at he
    by_cases hk : k' = k
    · subst hk
      rw [if_pos rfl] at he
      cases he
      rcases List.mem_cons.mp ht with heq | ht
      · exact .inl (Prod.mk.inj heq).2
      · exact h.windowEnd now ht
    · rw [if_neg hk] at he
      rcases List.mem_cons.mp ht with heq | ht
      · exact absurd (Prod.mk.inj heq).1 hk
      · exact h.last k' e he t ht
  known k' t ht := by
    rw [lookup_hit]
    by_cases hk : k' = k
    · rw [if_pos hk]
      rfl
    · rw [if_neg hk]
      rcases List.mem_cons.mp ht with heq | ht
      · exact absurd (Prod.mk.inj heq).1 hk
      · exact h.known k' t ht
  apart k' t t' ht ht' hlt := by
    rcases List.mem_cons.mp ht with heq | hold
    · cases heq
      rcases List.mem_cons.mp ht' with heq' | hold'
      · cases heq'
        omega
      · have hwindow := h.windowEnd now hold'
        omega
    · rcases List.mem_cons.mp ht' with heq' | hold'
      · cases heq'
        have hwindow := h.windowEnd now hold
        omega
      · exact h.apart k' t t' hold hold' hlt

theorem apart_empty : ({} : FixedWindows κ).Apart length where
  last _ _ h := by cases h
  known _ _ h := by cases h
  apart _ _ _ h := by cases h

/-- Hits that are all of one window are no more than the window has. -/
theorem countP_le_of_same {limit : Nat} {l : List (Nat × Nat)}
    {c : Nat × Nat → Bool}
    (hsame : ∀ p ∈ l, ∀ q ∈ l, c p = true → c q = true → p.2 = q.2)
    (hlimit : ∀ t, l.countP (fun p => p.2 = t) ≤ limit) :
    l.countP c ≤ limit := by
  by_cases hnone : ∃ p ∈ l, c p = true
  · obtain ⟨p, hp, hcp⟩ := hnone
    refine Nat.le_trans (List.countP_mono_left fun q hq hcq => ?_) (hlimit p.2)
    exact decide_eq_true (hsame q hq p hp hcq hcp)
  · have hzero : l.countP c = 0 :=
      List.countP_eq_zero.mpr fun p hp hcp => hnone ⟨p, hp, hcp⟩
    omega

/-- **Two windows at most** meet a span as long as a window: one that ends
in it and one that ends after it. -/
theorem length_le_of_windows {a limit : Nat} {l : List (Nat × Nat)}
    (hin : ∀ p ∈ l, p.1 ≤ p.2 ∧ p.2 ≤ p.1 + length ∧ a ≤ p.1 ∧
      p.1 < a + length)
    (hapart : ∀ p ∈ l, ∀ q ∈ l, p.2 < q.2 → p.2 + length < q.2)
    (hlimit : ∀ t, l.countP (fun p => p.2 = t) ≤ limit) :
    l.length ≤ 2 * limit := by
  have hone {c : Nat × Nat → Bool}
      (hc : ∀ p ∈ l, ∀ q ∈ l, c p = true → c q = true →
        ¬ p.2 + length < q.2) : l.countP c ≤ limit := by
    refine countP_le_of_same (fun p hp q hq hcp hcq => ?_) hlimit
    rcases Nat.lt_trichotomy p.2 q.2 with hlt | heq | hgt
    · exact absurd (hapart p hp q hq hlt) (hc p hp q hq hcp hcq)
    · exact heq
    · exact absurd (hapart q hq p hp hgt) (hc q hq p hp hcq hcp)
  have hearly : l.countP (fun p => p.2 < a + length) ≤ limit := by
    refine hone fun p hp q hq hcp hcq => ?_
    have hinp := hin p hp
    simp only [decide_eq_true_eq] at hcp hcq
    omega
  have hlate : l.countP (fun p => ¬ p.2 < a + length) ≤ limit := by
    refine hone fun p hp q hq hcp hcq => ?_
    have hinq := hin q hq
    simp only [decide_eq_true_eq] at hcp hcq
    omega
  have hsplit := List.length_eq_countP_add_countP
    (fun p : Nat × Nat => decide (p.2 < a + length)) (l := l)
  simp only [decide_eq_true_eq] at hsplit
  omega

end FixedWindows

end CallingAgent.Lib
