import CallingAgent.Lib.Table

/-!
# Throttles — at most one of a kind in a while

A throttle keeps, for each key, when it last let something pass, and lets
nothing more of the key pass for an interval. One with a capacity forgets
all it knows before it would grow past it. Beside the stamps stands the list
of everything that passed.
-/

namespace CallingAgent.Lib

structure Throttle (κ : Type) where
  stamps : Table κ Nat := ∅
  /-- a record the throttle does not keep -/
  passed : List (κ × Nat) := []

namespace Throttle

variable {κ : Type} [DecidableEq κ] (t : Throttle κ) (interval : Nat)
  (capacity : Option Nat) (now : Nat) (k : κ)

def size : Nat := t.stamps.keys.length

/-- The key passed less than an interval ago. -/
def holds : Bool :=
  (AList.lookup k t.stamps).any fun last => decide (now < last + interval)

/-- The throttle is full. -/
def crowded : Bool := capacity.any (· ≤ t.size)

/-- The key passes now. -/
def pass : Throttle κ where
  stamps := AList.insert k now (if t.crowded capacity then ∅ else t.stamps)
  passed := (k, now) :: t.passed

/-- How often the key passed in the interval from `a` on. -/
def passesIn (a : Nat) : Nat :=
  t.passed.countP fun p => p.1 = k ∧ a ≤ p.2 ∧ p.2 < a + interval

/-- How much passed in the interval from `a` on. -/
def allIn (a : Nat) : Nat :=
  t.passed.countP fun p => a ≤ p.2 ∧ p.2 < a + interval

/-! ## What a throttle keeps -/

/-- The interval from `a` on, in which the throttle was emptied `clears`
times: between two passes of the key it was emptied, and between two times
it was emptied it was filled. -/
structure Spread (a clears : Nat) : Prop where
  passes : t.passesIn interval k a ≤ clears + 1
  /-- where no pass of the key is remembered, the count is one less -/
  remembered : now < a + interval → t.passesIn interval k a ≤ clears ∨
    ∃ last, AList.lookup k t.stamps = some last ∧ a ≤ last
  filled : ∀ m, clears = m + 1 → ∃ n, capacity = some n ∧
    m * n ≤ t.allIn interval a ∧
    (now < a + interval → m * n + t.size ≤ t.allIn interval a)

structure Sound : Prop where
  stamped : ∀ k last, AList.lookup k t.stamps = some last →
    (k, last) ∈ t.passed
  past : ∀ p ∈ t.passed, p.2 ≤ now
  small : ∀ n, capacity = some n → 0 < n → t.size ≤ n
  spread : ∀ k a, ∃ clears, t.Spread interval capacity now k a clears

variable {t interval capacity now k}

theorem passesIn_pass (k' : κ) (a : Nat) :
    (t.pass capacity now k).passesIn interval k' a
      = t.passesIn interval k' a
        + if k = k' ∧ a ≤ now ∧ now < a + interval then 1 else 0 := by
  rw [passesIn, pass, List.countP_cons]
  simp only [decide_eq_true_eq]
  rfl

theorem allIn_pass (a : Nat) :
    (t.pass capacity now k).allIn interval a
      = t.allIn interval a
        + if a ≤ now ∧ now < a + interval then 1 else 0 := by
  rw [allIn, pass, List.countP_cons]
  simp only [decide_eq_true_eq]
  rfl

theorem size_pass_of_crowded (h : t.crowded capacity = true) :
    (t.pass capacity now k).size = 1 := by
  simp [size, pass, h]

theorem size_pass_le (now : Nat) (k : κ) (h : t.crowded capacity = false) :
    (t.pass capacity now k).size ≤ t.size + 1 := by
  simp only [size, pass, h, Bool.false_eq_true, if_false, AList.keys_insert,
    List.length_cons]
  have herase := List.length_erase_le (a := k) (l := t.stamps.keys)
  omega

theorem lookup_pass (k' : κ) :
    AList.lookup k' (t.pass capacity now k).stamps
      = if k' = k then some now
        else if t.crowded capacity then none else AList.lookup k' t.stamps := by
  rw [pass, Table.lookup_insert']
  by_cases hk : k' = k
  · rw [if_pos hk, if_pos hk]
  · rw [if_neg hk, if_neg hk]
    split <;> rfl

theorem not_holds_iff : t.holds interval now k = false ↔
    ∀ last, AList.lookup k t.stamps = some last → last + interval ≤ now := by
  unfold holds
  cases AList.lookup k t.stamps with
  | none => simp
  | some last => simp

/-! ## One pass -/

/-- A key that may pass is not remembered inside an open interval. -/
theorem Spread.forgotten {a clears : Nat}
    (hs : t.Spread interval capacity now k a clears)
    (hpass : t.holds interval now k = false) (hopen : now < a + interval) :
    t.passesIn interval k a ≤ clears := by
  rcases hs.remembered hopen with hle | ⟨last, hlast, hle⟩
  · exact hle
  · have hold := not_holds_iff.mp hpass last hlast
    omega

/-- What passes after the interval does not count. -/
theorem Spread.pass_later {a clears : Nat} {k' : κ}
    (hs : t.Spread interval capacity now k' a clears)
    (hover : a + interval ≤ now) :
    (t.pass capacity now k).Spread interval capacity now k' a clears where
  passes := by
    rw [passesIn_pass, if_neg (by omega)]
    exact hs.passes
  remembered hlt := absurd hlt (by omega)
  filled m hm := by
    obtain ⟨n, hn, hfull, -⟩ := hs.filled m hm
    rw [allIn_pass, if_neg (by omega)]
    exact ⟨n, hn, hfull, fun hlt => absurd hlt (by omega)⟩

/-- Where there is room, nothing is forgotten. -/
theorem Spread.pass_roomy {a clears : Nat} {k' : κ}
    (hs : t.Spread interval capacity now k' a clears)
    (hpass : t.holds interval now k = false)
    (hroom : t.crowded capacity = false) (hbegun : a ≤ now)
    (hopen : now < a + interval) :
    (t.pass capacity now k).Spread interval capacity now k' a clears where
  passes := by
    have hpasses := hs.passes
    rw [passesIn_pass]
    by_cases hk : k = k'
    · subst hk
      have hle := hs.forgotten hpass hopen
      split <;> omega
    · rw [if_neg (fun hand => hk hand.1)]
      exact hpasses
  remembered _ := by
    rw [lookup_pass, passesIn_pass]
    by_cases hk : k = k'
    · exact .inr ⟨now, if_pos hk.symm, hbegun⟩
    · rw [if_neg (Ne.symm hk), hroom, if_neg (fun hand => hk hand.1)]
      exact hs.remembered hopen
  filled m hm := by
    have hsize := size_pass_le now k hroom
    obtain ⟨n, hn, -, hfull⟩ := hs.filled m hm
    have hfull := hfull hopen
    rw [allIn_pass, if_pos ⟨hbegun, hopen⟩]
    exact ⟨n, hn, by omega, fun _ => by omega⟩

/-- A full throttle was filled since it was last emptied. -/
theorem Spread.pass_crowded {a clears : Nat} {k' : κ}
    (hs : t.Spread interval capacity now k' a clears)
    (hcrowded : t.crowded capacity = true) (hbegun : a ≤ now)
    (hopen : now < a + interval) :
    (t.pass capacity now k).Spread interval capacity now k' a (clears + 1) where
  passes := by
    have hpasses := hs.passes
    rw [passesIn_pass]
    split <;> omega
  remembered _ := by
    have hpasses := hs.passes
    rw [lookup_pass, passesIn_pass]
    by_cases hk : k = k'
    · exact .inr ⟨now, if_pos hk.symm, hbegun⟩
    · left
      split
      · next hand => exact absurd hand.1 hk
      · exact hpasses
  filled m hm := by
    obtain ⟨n, hn, hfits⟩ := (Option.any_eq_true _ _).mp hcrowded
    have hfits : n ≤ t.size := of_decide_eq_true hfits
    obtain rfl : clears = m := by omega
    refine ⟨n, hn, ?_⟩
    rw [allIn_pass, if_pos ⟨hbegun, hopen⟩, size_pass_of_crowded hcrowded]
    cases clears with
    | zero => simp
    | succ m =>
        obtain ⟨n', hn', -, hfull⟩ := hs.filled m rfl
        have hfull := hfull hopen
        rw [hn] at hn'
        cases hn'
        rw [Nat.succ_mul]
        exact ⟨by omega, fun _ => by omega⟩

section

variable (h : t.Sound interval capacity now)

include h

/-- An interval that is not begun has seen nothing. -/
theorem Sound.nothing_yet {a : Nat} (ha : now < a) :
    t.passesIn interval k a = 0 := by
  refine List.countP_eq_zero.mpr fun p hp => ?_
  have hpast := h.past p hp
  simp only [decide_eq_true_eq, not_and]
  omega

theorem Sound.spread_pass (hpass : t.holds interval now k = false) (k' : κ)
    (a : Nat) :
    ∃ clears, (t.pass capacity now k).Spread interval capacity now k' a
      clears := by
  by_cases hbegun : a ≤ now
  · obtain ⟨clears, hs⟩ := h.spread k' a
    by_cases hopen : now < a + interval
    · cases hcrowded : t.crowded capacity with
      | false => exact ⟨clears, hs.pass_roomy hpass hcrowded hbegun hopen⟩
      | true => exact ⟨clears + 1, hs.pass_crowded hcrowded hbegun hopen⟩
    · exact ⟨clears, hs.pass_later (Nat.not_lt.mp hopen)⟩
  · have hzero : (t.pass capacity now k).passesIn interval k' a = 0 := by
      rw [passesIn_pass, if_neg (by omega)]
      exact h.nothing_yet (Nat.not_le.mp hbegun)
    exact ⟨0, by omega, fun _ => .inl (by omega), fun m hm => by omega⟩

/-- **The throttle rule.** What is not held back may pass. -/
theorem Sound.pass (hpass : t.holds interval now k = false) :
    (t.pass capacity now k).Sound interval capacity now where
  stamped k' last hlast := by
    rw [lookup_pass] at hlast
    show (k', last) ∈ (k, now) :: t.passed
    by_cases hk : k' = k
    · rw [if_pos hk] at hlast
      cases hlast
      exact hk ▸ List.mem_cons_self ..
    · rw [if_neg hk] at hlast
      split at hlast
      · cases hlast
      · exact List.mem_cons_of_mem _ (h.stamped k' last hlast)
  past p hp := by
    rcases List.mem_cons.mp hp with rfl | hp
    · exact Nat.le_refl _
    · exact h.past p hp
  small n hn hpos := by
    cases hcrowded : t.crowded capacity with
    | true =>
        rw [size_pass_of_crowded hcrowded]
        exact hpos
    | false =>
        have hsize := size_pass_le now k hcrowded
        rw [crowded, hn, Option.any_some, decide_eq_false_iff_not] at hcrowded
        omega
  spread := h.spread_pass hpass

theorem Sound.later {later : Nat} (hle : now ≤ later) :
    t.Sound interval capacity later where
  stamped := h.stamped
  past p hp := Nat.le_trans (h.past p hp) hle
  small := h.small
  spread k a := by
    obtain ⟨clears, hs⟩ := h.spread k a
    refine ⟨clears, hs.passes, fun hlt => hs.remembered (by omega), fun m hm => ?_⟩
    obtain ⟨n, hn, hfull, hopen⟩ := hs.filled m hm
    exact ⟨n, hn, hfull, fun hlt => hopen (by omega)⟩

/-- **Without a capacity** a key passes at most once in an interval. -/
theorem Sound.once (hnone : capacity = none) (k : κ) (a : Nat) :
    t.passesIn interval k a ≤ 1 := by
  obtain ⟨clears, hs⟩ := h.spread k a
  have hpasses := hs.passes
  cases clears with
  | zero => exact hpasses
  | succ m =>
      obtain ⟨n, hn, -⟩ := hs.filled m rfl
      rw [hnone] at hn
      cases hn

/-- **With one** it passes twice, and once more for each time the throttle
was filled in the interval. -/
theorem Sound.bounded {n : Nat} (hsome : capacity = some n) (k : κ) (a : Nat) :
    t.passesIn interval k a * n ≤ 2 * n + t.allIn interval a := by
  obtain ⟨clears, hs⟩ := h.spread k a
  have hmul := Nat.mul_le_mul_right n hs.passes
  cases clears with
  | zero => omega
  | succ m =>
      obtain ⟨n', hn', hfull, -⟩ := hs.filled m rfl
      rw [hsome] at hn'
      cases hn'
      rw [Nat.succ_mul, Nat.succ_mul] at hmul
      omega

end

theorem sound_empty : ({} : Throttle κ).Sound interval capacity now where
  stamped _ _ h := by cases h
  past _ h := by cases h
  small _ _ _ := Nat.zero_le _
  spread _ _ := ⟨0, Nat.zero_le _, fun _ => .inl (Nat.le_refl _),
    fun m hm => by omega⟩

end Throttle

end CallingAgent.Lib
