import Mathlib.Data.Int.Order.Basic
import Mathlib.Order.Monotone.Basic

/-!
# Wall clocks — local time under an offset that changes now and then

A wall clock shows an instant plus the offset in effect, and the offset
changes at finitely many instants. Where it grows, some readings are
skipped; where it shrinks, some are shown twice. Going back from a reading
takes the first of two instants, and for a skipped reading the offset from
before the change.

Instants, offsets and readings are integers in one unit.
-/

namespace CallingAgent.Lib

/-- The offset in effect at `t`, when it is `o` before the changes. -/
def offsetIn (o : Int) : List (Int × Int) → Int → Int
  | [], _ => o
  | (start, o') :: later, t => if t < start then o else offsetIn o' later t

/-- The instant of a reading, when the offset is `o` before the changes:
the first change that ends above the reading decides. -/
def instantIn (o : Int) : List (Int × Int) → Int → Int
  | [], w => w - o
  | (start, o') :: later, w =>
      if w < start + o ∨ w < start + o' then w - o else instantIn o' later w

/-- An offset with its changes: when, and to what. -/
structure WallClock where
  initial : Int
  changes : List (Int × Int)
  ordered : changes.Pairwise fun a b => a.1 < b.1

/-- What a clock `read` does between `T - 1` and `T`, seen from `w`: the
reading `w` is passed over on the way up, or undone on the way down. -/
def Straddles (read : Int → Int) (T w : Int) : Prop :=
  (read (T - 1) + 1 < w ∧ w < read T) ∨ (read T < w ∧ w < read (T - 1) + 1)

/-- A sequence of boundaries that comes from the far past and goes to the
far future. -/
def Unbounded (s : Int → Int) : Prop :=
  ∀ t, (∃ d, ∀ e, d ≤ e → t < s e) ∧ ∃ d, ∀ e, e ≤ d → s e ≤ t

/-- How an instant `u` answers for a reading `w`. -/
inductive Answers (read : Int → Int) (w u : Int) : Prop
  /-- it is the first instant that shows at least `w`, and shows `w` -/
  | shown (shows : read u = w) (first : ∀ t, t < u → read t < w)
  /-- `w` is passed over at `T`; `u` is as late after `T` as `w` is after
  what `T` would have shown without the change -/
  | skipped (T : Int) (first : ∀ t, t < T → read t < w) (passed : w < read T)
      (late : u = T + (w - (read (T - 1) + 1)))

section Changes

variable {o o' start : Int} {later : List (Int × Int)}

theorem offsetIn_before {changes : List (Int × Int)} {t : Int}
    (h : ∀ c ∈ changes, t < c.1) : offsetIn o changes t = o := by
  cases changes with
  | nil => rfl
  | cons c later =>
      obtain ⟨start, o'⟩ := c
      exact if_pos (h (start, o') List.mem_cons_self)

theorem offsetIn_after {t : Int} (h : start ≤ t) :
    offsetIn o ((start, o') :: later) t = offsetIn o' later t :=
  if_neg (Int.not_lt.mpr h)

/-- A reading that the first change leaves behind is one of the clock after
it. -/
theorem Answers.cons {w u : Int}
    (hlater : ∀ c ∈ later, start < c.1)
    (h : Answers (fun t => t + offsetIn o' later t) w u)
    (ho : start + o ≤ w) (ho' : start + o' ≤ w) :
    Answers (fun t => t + offsetIn o ((start, o') :: later) t) w u := by
  have hfirst : offsetIn o' later start = o' := offsetIn_before hlater
  have hbefore : ∀ t, t < start →
      t + offsetIn o ((start, o') :: later) t < w := by
    intro t ht
    rw [show offsetIn o ((start, o') :: later) t = o from if_pos ht]
    omega
  have hafter : ∀ t, w ≤ t + offsetIn o' later t → start ≤ t := by
    intro t ht
    by_contra hlt
    rw [offsetIn_before fun c hc => Int.lt_trans (Int.not_le.mp hlt)
      (hlater c hc)] at ht
    omega
  have hrest : ∀ T, (∀ t, t < T → t + offsetIn o' later t < w) →
      ∀ t, t < T → t + offsetIn o ((start, o') :: later) t < w := by
    intro T hT t ht
    rcases lt_or_ge t start with hs | hs
    · exact hbefore t hs
    · rw [offsetIn_after hs]
      exact hT t ht
  cases h with
  | shown shows first =>
      refine .shown ?_ (hrest u first)
      rw [← shows]
      exact congrArg (u + ·) (offsetIn_after (hafter u (Int.le_of_eq shows.symm)))
  | skipped T first passed late =>
      have hT := hafter T (Int.le_of_lt passed)
      have hne : T ≠ start := by
        rintro rfl
        simp only [hfirst] at passed
        omega
      refine .skipped T (hrest T first) ?_ ?_
      · simpa only [offsetIn_after hT] using passed
      · rw [offsetIn_after (by omega)]
        exact late

/-- **Going back from a reading**, through every change. -/
theorem instantIn_answers (w : Int) :
    ∀ {changes : List (Int × Int)} {o : Int},
      changes.Pairwise (fun a b => a.1 < b.1) →
      Answers (fun t => t + offsetIn o changes t) w (instantIn o changes w) := by
  intro changes
  induction changes with
  | nil =>
      intro o _
      refine .shown (Int.sub_add_cancel w o) fun t ht => ?_
      have ht : t < w - o := ht
      show t + o < w
      omega
  | cons c later ih =>
      intro o hord
      obtain ⟨start, o'⟩ := c
      obtain ⟨hlater, hord⟩ := List.pairwise_cons.mp hord
      have hfirst : offsetIn o' later start = o' := offsetIn_before hlater
      by_cases h : w < start + o ∨ w < start + o'
      · have hu : instantIn o ((start, o') :: later) w = w - o := if_pos h
        rw [hu]
        have hbefore : ∀ t, t < start →
            offsetIn o ((start, o') :: later) t = o := fun t ht => if_pos ht
        rcases lt_or_ge w (start + o) with hlt | hge
        · refine .shown ?_ fun t ht => ?_
          · show w - o + offsetIn o _ (w - o) = w
            rw [hbefore (w - o) (by omega)]
            omega
          · show t + offsetIn o _ t < w
            rw [hbefore t (by omega)]
            omega
        · refine .skipped start (fun t ht => ?_) ?_ ?_
          · show t + offsetIn o _ t < w
            rw [hbefore t ht]
            omega
          · show w < start + offsetIn o _ start
            rw [offsetIn_after (Int.le_refl start), hfirst]
            omega
          · show w - o = start + (w - (start - 1 + offsetIn o _ (start - 1) + 1))
            rw [hbefore (start - 1) (by omega)]
            omega
      · have hu : instantIn o ((start, o') :: later) w = instantIn o' later w :=
          if_neg h
        rw [hu]
        exact (ih hord).cons hlater (by omega) (by omega)

/-- A reading and its instant are never further apart than some offset. -/
theorem instantIn_near (changes : List (Int × Int)) (o : Int) :
    ∃ b, ∀ w, w - b ≤ instantIn o changes w ∧ instantIn o changes w ≤ w + b := by
  induction changes generalizing o with
  | nil =>
      refine ⟨o.natAbs, fun w => ?_⟩
      show w - _ ≤ w - o ∧ w - o ≤ w + _
      omega
  | cons c later ih =>
      obtain ⟨start, o'⟩ := c
      obtain ⟨b, hb⟩ := ih o'
      refine ⟨b + o.natAbs, fun w => ?_⟩
      have hw := hb w
      by_cases h : w < start + o ∨ w < start + o'
      · rw [show instantIn o ((start, o') :: later) w = w - o from if_pos h]
        omega
      · rw [show instantIn o ((start, o') :: later) w = instantIn o' later w
          from if_neg h]
        omega

end Changes

namespace WallClock

variable (c : WallClock)

/-- What the clock shows. -/
def read (t : Int) : Int := t + offsetIn c.initial c.changes t

/-- The instant of a reading. -/
def instant (w : Int) : Int := instantIn c.initial c.changes w

/-- A clock whose offset never changes. -/
def fixed (o : Int) : WallClock := ⟨o, [], .nil⟩

variable {c}

theorem instant_answers (w : Int) : Answers c.read w (c.instant w) :=
  instantIn_answers w c.ordered

/-- The instants of later and later readings are late without bound, and
those of earlier and earlier ones early. -/
theorem instant_unbounded {n : Int} (hn : 0 < n) :
    Unbounded fun d => c.instant (d * n) := by
  intro t
  obtain ⟨b, hb⟩ := instantIn_near c.changes c.initial
  constructor
  · refine ⟨(t.natAbs + b.natAbs + 1 : Int), fun e he => ?_⟩
    have hw := (hb (e * n)).1
    have hmul : e * 1 ≤ e * n := Int.mul_le_mul_of_nonneg_left hn (by omega)
    show t < instantIn c.initial c.changes (e * n)
    omega
  · refine ⟨-(t.natAbs + b.natAbs + 1 : Int), fun e he => ?_⟩
    have hw := (hb (e * n)).2
    have hmul : e * n ≤ e * 1 :=
      Int.mul_le_mul_of_nonpos_left (by omega) hn
    show instantIn c.initial c.changes (e * n) ≤ t
    omega

end WallClock

/-! ## Readings that no change straddles -/

section Straddles

variable {read : Int → Int} {w u : Int}

/-- A clock that has shown at least `w` goes on to do so, where no change
takes it back over `w`. -/
theorem read_ge_of_le (hw : ∀ T, ¬ Straddles read T w) {t t' : Int}
    (h : w ≤ read t) (hle : t ≤ t') : w ≤ read t' := by
  obtain ⟨n, rfl⟩ := Int.le.dest hle
  clear hle
  induction n with
  | zero => simpa using h
  | succ n ih =>
      by_contra hlt
      refine hw (t + (n + 1 : Nat)) (.inr ⟨Int.not_le.mp hlt, ?_⟩)
      rw [show t + ((n + 1 : Nat) : Int) - 1 = t + n by omega]
      omega

/-- **The instant of such a reading** is where the clock begins to show at
least it. -/
theorem Answers.le_iff (h : Answers read w u) (hw : ∀ T, ¬ Straddles read T w)
    (t : Int) : u ≤ t ↔ w ≤ read t := by
  cases h with
  | shown shows first =>
      refine ⟨read_ge_of_le hw (Int.le_of_eq shows.symm), fun h => ?_⟩
      by_contra hlt
      exact absurd (first t (Int.not_le.mp hlt)) (Int.not_lt.mpr h)
  | skipped T first passed late =>
      have hbefore := first (T - 1) (by omega)
      have hstart : u = T := by
        by_contra hne
        exact hw T (.inl ⟨by omega, passed⟩)
      subst hstart
      refine ⟨read_ge_of_le hw (Int.le_of_lt passed), fun h => ?_⟩
      by_contra hlt
      exact absurd (first t (Int.not_le.mp hlt)) (Int.not_lt.mpr h)

/-- And only such a reading has its instant there. -/
theorem Answers.not_straddled (h : Answers read w u)
    (hu : ∀ t, u ≤ t ↔ w ≤ read t) (T : Int) : ¬ Straddles read T w := by
  rintro (⟨hlow, hup⟩ | ⟨hup, hlow⟩)
  · have hat : u = T := by
      have h₁ := (hu T).mpr (Int.le_of_lt hup)
      have h₂ := mt (hu (T - 1)).mp (by omega)
      omega
    cases h with
    | shown shows first => exact absurd (hat ▸ shows) (Int.ne_of_gt hup)
    | skipped T' first passed late =>
        have h₁ := (hu T').mpr (Int.le_of_lt passed)
        have h₂ : ¬ T < T' := fun hlt => absurd (first T hlt) (by omega)
        obtain rfl : T' = T := by omega
        omega
  · have h₁ := (hu (T - 1)).mpr (by omega)
    have h₂ := (hu T).mp (by omega)
    omega

end Straddles

/-! ## Days -/

/-- The spans between consecutive boundaries cut time into disjoint pieces:
every instant is in exactly one of them. -/
def Partitions (s : Int → Int) : Prop := ∀ t, ∃! d, s d ≤ t ∧ t < s (d + 1)

section Days

variable {s : Int → Int}

/-- On the way from a boundary at or before `t` to one after `t`, some span
contains `t`. -/
theorem exists_span {t a b : Int} (ha : s a ≤ t) (hb : t < s b) (hab : a ≤ b) :
    ∃ e, a ≤ e ∧ e < b ∧ s e ≤ t ∧ t < s (e + 1) := by
  obtain ⟨n, rfl⟩ := Int.le.dest hab
  clear hab
  induction n with
  | zero =>
      rw [Int.natCast_zero, Int.add_zero] at hb
      exact absurd hb (Int.not_lt.mpr ha)
  | succ n ih =>
      rcases lt_or_ge t (s (a + n)) with h | h
      · obtain ⟨e, h₁, h₂, h₃⟩ := ih h
        exact ⟨e, h₁, by omega, h₃⟩
      · refine ⟨a + n, by omega, by omega, h, ?_⟩
        rwa [show a + (n : Int) + 1 = a + (n + 1 : Nat) by omega]

/-- **A partition has its boundaries in order**: one that goes back would
have the instants it goes back over in a span before it and in one after. -/
theorem Partitions.mono (hs : Partitions s) (hb : Unbounded s)
    {a b : Int} (hle : a ≤ b) : s a ≤ s b := by
  refine monotone_int_of_le_succ (fun d => ?_) hle
  by_contra hlt
  have hlt := Int.not_le.mp hlt
  obtain ⟨late, hlate⟩ := (hb (s (d + 1))).1
  obtain ⟨early, hearly⟩ := (hb (s (d + 1))).2
  have hnot : late > d + 1 := by
    by_contra hle
    exact absurd (hlate (d + 1) (by omega)) (Int.lt_irrefl _)
  have hnot' : early < d := by
    by_contra hle
    exact absurd (hearly d (by omega)) (Int.not_le.mpr hlt)
  obtain ⟨e, he, -, hin⟩ := exists_span (Int.le_refl (s (d + 1)))
    (hlate late (Int.le_refl late)) (by omega)
  obtain ⟨e', -, he', hin'⟩ := exists_span
    (hearly early (Int.le_refl early)) hlt (by omega)
  have heq := (hs (s (d + 1))).unique hin hin'
  omega

/-- The days of a clock, `n` to a day, partition time and every instant is
in its own, exactly when no change straddles the beginning of a day. -/
theorem days_iff (c : WallClock) {n : Int} (hn : 0 < n) :
    ((∀ t, c.instant (c.read t / n * n) ≤ t ∧
        t < c.instant ((c.read t / n + 1) * n)) ∧
      Partitions fun d => c.instant (d * n)) ↔
      ∀ T d, ¬ Straddles c.read T (d * n) := by
  constructor
  · rintro ⟨hown, hpart⟩ T d
    have hunbounded := c.instant_unbounded hn
    refine (c.instant_answers (d * n)).not_straddled (fun t => ?_) T
    rw [← Int.le_ediv_iff_mul_le hn]
    constructor
    · intro hle
      by_contra hlt
      have hnext : c.instant ((c.read t / n + 1) * n) ≤ c.instant (d * n) :=
        hpart.mono hunbounded (by omega)
      have hend := (hown t).2
      omega
    · intro hle
      exact Int.le_trans (hpart.mono hunbounded hle) (hown t).1
  · intro h
    have hiff : ∀ d t, c.instant (d * n) ≤ t ↔ d ≤ c.read t / n := by
      intro d t
      rw [(c.instant_answers (d * n)).le_iff (fun T => h T d) t]
      exact (Int.le_ediv_iff_mul_le hn).symm
    have hspan : ∀ d t, (c.instant (d * n) ≤ t ∧ t < c.instant ((d + 1) * n)) ↔
        d = c.read t / n := by
      intro d t
      have h₁ := hiff d t
      have h₂ := hiff (d + 1) t
      omega
    refine ⟨fun t => (hspan _ t).mpr rfl, fun t => ?_⟩
    exact ⟨c.read t / n, (hspan _ t).mpr rfl, fun d hd => (hspan d t).mp hd⟩

end Days

end CallingAgent.Lib
