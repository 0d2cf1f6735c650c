import CallingAgent.Services.RetryPolicy
import Mathlib.Data.Int.LeastGreatest

/-!
# Window openings — when the next call may be placed

`next_window_open` reads the starts of the open spans of three local days as
instants, and moves each forward minute by minute until the window is open.
Where the wall clock is changed on the way, an opening can be read too late,
be taken for one that has passed, or lie in a gap and never open.
-/

namespace CallingAgent

open Lib

section

variable (tz : Zone) (start stop hardStart hardEnd : TimeOfDay)

/-- A call may be placed at `t`. -/
def DialableAt (t : Int) : Prop :=
  isDialableNow t tz start stop hardStart hardEnd = .ok true

/-- The earliest instant from `now` on at which a call may be placed. -/
structure FirstDialable (now t : Int) : Prop where
  later : now ≤ t
  dialable : DialableAt tz start stop hardStart hardEnd t
  first : ∀ x, now ≤ x → x < t →
    ¬ DialableAt tz start stop hardStart hardEnd x

/-- The `j`-th whole minute after `u`. -/
def minutesAfter (u : Int) (j : Nat) : Int := u + j * (60 * second)

/-- `u` is the first reading (`fold=0`) of the start of a span on which both
windows are open, on the local date of `now` or one of the next two. -/
def IsOpening (now u : Int) : Prop :=
  ∃ a b, intervals start stop = .ok a ∧ intervals hardStart hardEnd = .ok b ∧
    ∃ day ∈ [(0 : Int), 1, 2], ∃ span ∈ intersect a b,
      u = tz.toUtc ((tz.toLocal now / dayMicros + day) * dayMicros + span.1)

/-- The first dialable instant is found: it is at most three hours after an
opening, in whole minutes none of which before it is dialable; and no opening
whose next three hours have no dialable minute ends them between `now` and
it. -/
structure OpensInTime (now t : Int) : Prop where
  first : FirstDialable tz start stop hardStart hardEnd now t
  reached : ∃ u, IsOpening tz start stop hardStart hardEnd now u ∧
    ∃ k, k ≤ 180 ∧ t = minutesAfter u k ∧
      ∀ j, j < k → ¬ DialableAt tz start stop hardStart hardEnd (minutesAfter u j)
  clear : ∀ u, IsOpening tz start stop hardStart hardEnd now u →
    (∀ j, j < 180 →
      ¬ DialableAt tz start stop hardStart hardEnd (minutesAfter u j)) →
    ¬ (now < minutesAfter u 180 ∧ minutesAfter u 180 < t)

end

/-! ## The code, piece by piece -/

section

variable {tz : Zone} {start stop hardStart hardEnd : TimeOfDay} {now t u : Int}

theorem minutesAfter_succ (u : Int) (j : Nat) :
    minutesAfter (u + 60 * second) j = minutesAfter u (j + 1) := by
  have hcast : ((j + 1 : Nat) : Int) = j + 1 := rfl
  rw [minutesAfter, minutesAfter, hcast, Int.add_mul, Int.one_mul]
  omega

/-- Where the minutes that are skipped end. -/
theorem skipClosed_spec (fuel : Nat) (u : Int) :
    ∃ k, k ≤ fuel ∧
      skipClosed tz start stop hardStart hardEnd fuel u = minutesAfter u k ∧
      (∀ j, j < k →
        ¬ DialableAt tz start stop hardStart hardEnd (minutesAfter u j)) ∧
      (k < fuel →
        DialableAt tz start stop hardStart hardEnd (minutesAfter u k)) := by
  have hzero : ∀ u, minutesAfter u 0 = u := fun u => by simp [minutesAfter]
  induction fuel generalizing u with
  | zero => exact ⟨0, Nat.le_refl 0, (hzero u).symm, by simp, by simp⟩
  | succ fuel ih =>
      by_cases h : DialableAt tz start stop hardStart hardEnd u
      · refine ⟨0, Nat.zero_le _, ?_, by simp, fun _ => by rwa [hzero]⟩
        rw [hzero, skipClosed, show isDialableNow u _ _ _ _ _ = _ from h]
      · obtain ⟨k, hk, hskip, hbefore, hopen⟩ := ih (u + 60 * second)
        have hstep : skipClosed tz start stop hardStart hardEnd (fuel + 1) u
            = skipClosed tz start stop hardStart hardEnd fuel
              (u + 60 * second) := by
          rw [skipClosed]
          split
          · next hd => exact absurd hd h
          · rfl
        refine ⟨k + 1, Nat.succ_le_succ hk, ?_, fun j hj => ?_, fun hlt => ?_⟩
        · rw [hstep, hskip, minutesAfter_succ]
        · cases j with
          | zero => rwa [hzero]
          | succ j =>
              rw [← minutesAfter_succ]
              exact hbefore j (Nat.lt_of_succ_lt_succ hj)
        · rw [← minutesAfter_succ]
          exact hopen (Nat.lt_of_succ_lt_succ hlt)

theorem earliestAfter_eq_some {ts : List Int} :
    earliestAfter now ts = some t ↔
      t ∈ ts ∧ now < t ∧ ∀ x ∈ ts, now < x → t ≤ x := by
  unfold earliestAfter
  rw [List.min?_eq_some_iff]
  simp only [List.mem_filter, decide_eq_true_eq, and_imp, and_assoc]

/-- What `next_window_open` chooses from. -/
def IsCandidate (tz : Zone) (start stop hardStart hardEnd : TimeOfDay)
    (now x : Int) : Prop :=
  ∃ u, IsOpening tz start stop hardStart hardEnd now u ∧
    x = skipClosed tz start stop hardStart hardEnd 180 u

theorem isDialableNow_ok {a b : List Interval}
    (ha : intervals start stop = .ok a)
    (hb : intervals hardStart hardEnd = .ok b) :
    ∃ v, isDialableNow now tz start stop hardStart hardEnd = .ok v := by
  simp only [isDialableNow, isWithinCallingWindow, ha, hb]
  generalize (a.any fun s => _) = v
  cases v <;> exact ⟨_, rfl⟩

/-- **The choice of `next_window_open`**, while the window is closed: the
least candidate after `now`. -/
theorem nextWindowOpen_iff
    (hclosed : ¬ DialableAt tz start stop hardStart hardEnd now) :
    nextWindowOpen now tz start stop hardStart hardEnd = .ok t ↔
      IsCandidate tz start stop hardStart hardEnd now t ∧ now < t ∧
        ∀ x, IsCandidate tz start stop hardStart hardEnd now x → now < x →
          t ≤ x := by
  have hmem : ∀ a b, intervals start stop = .ok a →
      intervals hardStart hardEnd = .ok b → ∀ x : Int,
      x ∈ openings now tz start stop hardStart hardEnd (intersect a b) ↔
        IsCandidate tz start stop hardStart hardEnd now x := by
    intro a b ha hb x
    simp only [openings, List.mem_flatMap, List.mem_map]
    constructor
    · rintro ⟨day, hday, span, hspan, rfl⟩
      exact ⟨_, ⟨a, b, ha, hb, day, hday, span, hspan, rfl⟩, rfl⟩
    · rintro ⟨u, ⟨a', b', ha', hb', day, hday, span, hspan, rfl⟩, rfl⟩
      rw [ha] at ha'
      rw [hb] at hb'
      cases ha'
      cases hb'
      exact ⟨day, hday, span, hspan, rfl⟩
  unfold DialableAt at hclosed
  unfold nextWindowOpen
  cases ha : intervals start stop with
  | error e =>
      have hd : isDialableNow now tz start stop hardStart hardEnd = .error e := by
        simp [isDialableNow, isWithinCallingWindow, ha]
      rw [hd]
      refine ⟨fun h => (by cases h), ?_⟩
      rintro ⟨⟨u, ⟨a, b, ha', -⟩, -⟩, -⟩
      rw [ha] at ha'
      cases ha'
  | ok a =>
      cases hb : intervals hardStart hardEnd with
      | error e =>
          constructor
          · intro h
            split at h
            · cases h
            · next hd => exact absurd hd hclosed
            · cases h
          · rintro ⟨⟨u, ⟨a', b', -, hb', -⟩, -⟩, -⟩
            rw [hb] at hb'
            cases hb'
      | ok b =>
          have hd : isDialableNow now tz start stop hardStart hardEnd
              = .ok false := by
            obtain ⟨v, hv⟩ := @isDialableNow_ok tz start stop hardStart hardEnd
              now _ _ ha hb
            cases v with
            | false => exact hv
            | true => exact absurd hv hclosed
          have hmem := hmem a b ha hb
          rw [hd]
          simp only
          cases hspans : intersect a b with
          | nil =>
              refine ⟨fun h => (by cases h), fun h => ?_⟩
              have hx := (hmem t).mpr h.1
              rw [hspans] at hx
              simp [openings] at hx
          | cons s rest =>
              have hiff := @earliestAfter_eq_some now t
                (openings now tz start stop hardStart hardEnd (s :: rest))
              rw [hspans] at hmem
              simp only [hmem] at hiff
              rw [← hiff]
              split
              · next hnil => cases hnil
              · split
                · next hnone => simp [hnone]
                · next x hx => simp [hx]

/-- The answer is the first dialable instant exactly when that is found in
time, or when a call may be placed already. -/
theorem nextWindowOpen_exact_iff (tz : Zone)
    (start stop hardStart hardEnd : TimeOfDay) (now : Int) :
    (∃ t, nextWindowOpen now tz start stop hardStart hardEnd = .ok t ∧
        FirstDialable tz start stop hardStart hardEnd now t) ↔
      DialableAt tz start stop hardStart hardEnd now ∨
        ∃ t, now < t ∧ OpensInTime tz start stop hardStart hardEnd now t := by
  by_cases hnow : DialableAt tz start stop hardStart hardEnd now
  · refine iff_of_true ⟨now, ?_, Int.le_refl now, hnow, ?_⟩ (.inl hnow)
    · rw [nextWindowOpen, show isDialableNow now _ _ _ _ _ = _ from hnow]
    · intro x hle hlt
      exact absurd hle (Int.not_le.mpr hlt)
  · rw [or_iff_right hnow]
    refine exists_congr fun t => ?_
    rw [nextWindowOpen_iff hnow]
    constructor
    · rintro ⟨⟨⟨u, hu, hskip⟩, hlt, hleast⟩, hfirst⟩
      obtain ⟨k, hk, heq, hbefore, -⟩ := skipClosed_spec 180 u
      refine ⟨hlt, hfirst, ⟨u, hu, k, hk, hskip.trans heq, hbefore⟩, ?_⟩
      rintro u' hu' hshut ⟨hafter, hearly⟩
      obtain ⟨k', hk', heq', -, hopen'⟩ := skipClosed_spec 180 u'
      have hend : k' = 180 := by
        by_contra hne
        exact hshut k' (by omega) (hopen' (by omega))
      subst hend
      have hge := hleast _ ⟨u', hu', rfl⟩ (by rw [heq']; exact hafter)
      rw [heq'] at hge
      exact absurd hge (Int.not_le.mpr hearly)
    · rintro ⟨hlt, hfirst, ⟨u, hu, k, hk, ht, hbefore⟩, hclear⟩
      refine ⟨⟨⟨u, hu, ?_⟩, hlt, ?_⟩, hfirst⟩
      · obtain ⟨k', hk', heq, hbefore', hopen'⟩ := skipClosed_spec 180 u
        have hsame : k = k' := by
          rcases Nat.lt_trichotomy k k' with h | h | h
          · exact absurd (ht ▸ hfirst.dialable) (hbefore' k h)
          · exact h
          · exact absurd (hopen' (by omega)) (hbefore k' h)
        rw [ht, heq, hsame]
      · rintro x ⟨u', hu', hx⟩ hafter
        by_contra hearly
        have hearly := Int.not_le.mp hearly
        obtain ⟨k', hk', heq', hbefore', hopen'⟩ := skipClosed_spec 180 u'
        rw [heq'] at hx
        subst hx
        rcases Nat.lt_or_eq_of_le hk' with hlt' | rfl
        · exact hfirst.first _ (Int.le_of_lt hafter) hearly (hopen' hlt')
        · exact hclear u' hu' hbefore' ⟨hafter, hearly⟩

/-! ## Three days without a change -/

/-- The clock shows the offset `o` from the beginning of the local day of
`now` for three days, and its readings of these days are shown once. -/
structure Zone.Steady (tz : Zone) (now o : Int) : Prop where
  present : tz.toLocal now = now + o
  shows : ∀ t, tz.toLocal now / dayMicros * dayMicros ≤ t + o →
    t + o < (tz.toLocal now / dayMicros + 3) * dayMicros →
    tz.toLocal t = t + o
  reads : ∀ w, tz.toLocal now / dayMicros * dayMicros ≤ w →
    w < (tz.toLocal now / dayMicros + 3) * dayMicros → tz.toUtc w = w - o

/-- A zone that never changes its offset. -/
theorem Zone.steady_fixed (now o : Int) :
    (Zone.ofClock (.fixed o)).Steady now o :=
  ⟨rfl, fun _ _ _ => rfl, fun _ _ _ => rfl⟩

theorem mem_intersect {a b : List Interval} {s : Interval} :
    s ∈ intersect a b ↔ ∃ x ∈ a, ∃ y ∈ b, overlap x y = some s := by
  simp [intersect, List.mem_insertionSort]

/-- The spans on which both windows are open. -/
theorem exists_overlap_iff {a b : List Interval} {n : Nat}
    (ha : intervals start stop = .ok a)
    (hb : intervals hardStart hardEnd = .ok b) (hn : n < dayMicros) :
    (∃ s ∈ intersect a b, s.1 ≤ n ∧ n < s.2) ↔
      InWindow start stop n ∧ InWindow hardStart hardEnd n := by
  rw [← exists_span_iff ha hn, ← exists_span_iff hb hn]
  constructor
  · rintro ⟨s, hs, h₁, h₂⟩
    obtain ⟨x, hx, y, hy, hxy⟩ := mem_intersect.mp hs
    unfold overlap at hxy
    split at hxy
    · obtain rfl := Option.some.inj hxy
      exact ⟨⟨x, hx, by omega, by omega⟩, ⟨y, hy, by omega, by omega⟩⟩
    · cases hxy
  · rintro ⟨⟨x, hx, h₁, h₂⟩, y, hy, h₃, h₄⟩
    refine ⟨(max x.1 y.1, min x.2 y.2), mem_intersect.mpr ⟨x, hx, y, hy, ?_⟩,
      by dsimp only; omega, by dsimp only; omega⟩
    exact if_pos (by omega)

/-- A call may be placed when the local time is in such a span. -/
theorem dialableAt_iff {a b : List Interval} (x : Int)
    (ha : intervals start stop = .ok a)
    (hb : intervals hardStart hardEnd = .ok b) :
    DialableAt tz start stop hardStart hardEnd x ↔
      ∃ s ∈ intersect a b, s.1 ≤ localTime tz x ∧ localTime tz x < s.2 := by
  rw [exists_overlap_iff ha hb (localTime_lt tz x)]
  obtain ⟨v, hv, hiff⟩ := @isWithinCallingWindow_iff start stop x tz
    (ne_of_intervals ha)
  obtain ⟨v', hv', hiff'⟩ := @isWithinCallingWindow_iff hardStart hardEnd x tz
    (ne_of_intervals hb)
  rw [← hiff, ← hiff', DialableAt, isDialableNow, hv]
  cases v with
  | false => simp
  | true => simp [hv']

end

section

variable {tz : Zone} {now o : Int}

/-- The local date and time of day of an instant of the three days. -/
theorem Zone.Steady.split (h : tz.Steady now o) {t d : Int} {n : Nat}
    (hn : n < dayMicros) (hd : tz.toLocal now / dayMicros ≤ d)
    (hd' : d < tz.toLocal now / dayMicros + 3)
    (ht : t + o = d * dayMicros + n) :
    tz.toLocal t / dayMicros = d ∧ localTime tz t = n := by
  have hpos : (0 : Int) < dayMicros := by decide
  have hlow : tz.toLocal now / dayMicros * dayMicros ≤ d * dayMicros :=
    Int.mul_le_mul_of_nonneg_right hd (Int.le_of_lt hpos)
  have hup : (d + 1) * dayMicros
      ≤ (tz.toLocal now / dayMicros + 3) * dayMicros :=
    Int.mul_le_mul_of_nonneg_right (by omega) (Int.le_of_lt hpos)
  rw [Int.add_mul, Int.one_mul] at hup
  have hshows : tz.toLocal t = d * dayMicros + n := by
    rw [h.shows t (by omega) (by omega), ht]
  have hlocal : localTime tz t = ((d * dayMicros + n) % (dayMicros : Int)).toNat := by
    rw [← hshows]
    rfl
  constructor
  · rw [hshows, Int.add_comm, Int.add_mul_ediv_right _ _ (Int.ne_of_gt hpos),
      Int.ediv_eq_zero_of_lt (by omega) (by omega), Int.zero_add]
  · rw [hlocal, Int.add_comm, Int.add_mul_emod_self_right,
      Int.emod_eq_of_lt (by omega) (by omega), Int.toNat_natCast]

/-- The local date and time of day of an instant, as numbers. -/
theorem exists_date (x : Int) :
    ∃ (d : Int) (n : Nat), n < dayMicros ∧ x = d * dayMicros + n := by
  have hpos : (0 : Int) < dayMicros := by decide
  have hlow := Int.emod_nonneg x (Int.ne_of_gt hpos)
  have hup := Int.emod_lt_of_pos x hpos
  have hsum := Int.ediv_mul_add_emod x dayMicros
  exact ⟨x / dayMicros, (x % dayMicros).toNat, by omega, by omega⟩

/-- An earlier instant is on the same date or an earlier one. -/
theorem date_le {d d' : Int} {n n' : Nat} (hn' : n' < dayMicros)
    (h : d * dayMicros + n ≤ d' * dayMicros + n') : d ≤ d' := by
  by_contra hlt
  have hmul : (d' + 1) * (dayMicros : Int) ≤ d * dayMicros :=
    Int.mul_le_mul_of_nonneg_right (by omega) (Int.natCast_nonneg _)
  rw [Int.add_mul, Int.one_mul] at hmul
  omega

variable {start stop hardStart hardEnd : Nat} {a b : List Interval}

/-- Spans of the overlap are spans of the day. -/
theorem overlap_bounds {s : Interval} (ha : intervals start stop = .ok a)
    (hstart : start < dayMicros) (hstop : stop < dayMicros)
    (hs : s ∈ intersect a b) : s.1 < s.2 ∧ s.2 ≤ dayMicros := by
  obtain ⟨x, hx, y, hy, hxy⟩ := mem_intersect.mp hs
  have hday := (spans_nonempty ha hx hstart hstop).2
  unfold overlap at hxy
  split at hxy
  · next hlt =>
    obtain rfl := Option.some.inj hxy
    exact ⟨hlt, Nat.le_trans (Nat.min_le_left _ _) hday⟩
  · cases hxy

/-- The candidates of three steady days are the openings themselves. -/
theorem Zone.Steady.candidate_iff (h : tz.Steady now o)
    (ha : intervals start stop = .ok a)
    (hb : intervals hardStart hardEnd = .ok b)
    (hstart : start < dayMicros) (hstop : stop < dayMicros) (x : Int) :
    IsCandidate tz start stop hardStart hardEnd now x ↔
      ∃ day ∈ [(0 : Int), 1, 2], ∃ s ∈ intersect a b,
        x + o = (tz.toLocal now / dayMicros + day) * dayMicros + s.1 := by
  have hopening : ∀ day ∈ [(0 : Int), 1, 2], ∀ s ∈ intersect a b, ∀ u,
      u + o = (tz.toLocal now / dayMicros + day) * dayMicros + s.1 →
      tz.toUtc ((tz.toLocal now / dayMicros + day) * dayMicros + s.1) = u ∧
        skipClosed tz start stop hardStart hardEnd 180 u = u := by
    intro day hday s hs u hu
    have hrange : 0 ≤ day ∧ day < 3 := by
      simp only [List.mem_cons, List.not_mem_nil, or_false] at hday
      omega
    obtain ⟨hlt, hle⟩ := overlap_bounds ha hstart hstop hs
    have hpos : (0 : Int) ≤ dayMicros := Int.natCast_nonneg _
    have hlow := Int.mul_le_mul_of_nonneg_right
      (show tz.toLocal now / dayMicros ≤ tz.toLocal now / dayMicros + day by omega) hpos
    have hup := Int.mul_le_mul_of_nonneg_right
      (show tz.toLocal now / dayMicros + day + 1 ≤ tz.toLocal now / dayMicros + 3
        by omega) hpos
    rw [Int.add_mul _ 1, Int.one_mul] at hup
    have hutc := h.reads
      ((tz.toLocal now / dayMicros + day) * dayMicros + s.1) (by omega)
      (by omega)
    refine ⟨hutc.trans (Int.sub_eq_iff_eq_add.mpr hu.symm), ?_⟩
    have hopen : DialableAt tz start stop hardStart hardEnd u := by
      refine (dialableAt_iff u ha hb).mpr ⟨s, hs, ?_⟩
      rw [(h.split (by omega) (by omega) (by omega) hu).2]
      exact ⟨Nat.le_refl _, hlt⟩
    rw [skipClosed, show isDialableNow u _ _ _ _ _ = _ from hopen]
  constructor
  · rintro ⟨u, ⟨a', b', ha', hb', day, hday, s, hs, hu⟩, hx⟩
    rw [ha] at ha'
    rw [hb] at hb'
    cases ha'
    cases hb'
    obtain ⟨hutc, hskip⟩ := hopening day hday s hs
      ((tz.toLocal now / dayMicros + day) * dayMicros + s.1 - o) (by omega)
    refine ⟨day, hday, s, hs, ?_⟩
    rw [hx, hu, hutc, hskip]
    omega
  · rintro ⟨day, hday, s, hs, hx⟩
    obtain ⟨hutc, hskip⟩ := hopening day hday s hs x hx
    exact ⟨x, ⟨a, b, ha, hb, day, hday, s, hs, hutc.symm⟩, hskip.symm⟩

/-- **While the clock is not changed, the opening is the earliest dialable
instant.** -/
theorem nextWindowOpen_steady (h : tz.Steady now o) (hne : start ≠ stop)
    (hhne : hardStart ≠ hardEnd) (hstart : start < dayMicros)
    (hstop : stop < dayMicros)
    (hover : ∃ n, n < dayMicros ∧ InWindow start stop n ∧
      InWindow hardStart hardEnd n) :
    ∃ t, nextWindowOpen now tz start stop hardStart hardEnd = .ok t ∧
      FirstDialable tz start stop hardStart hardEnd now t := by
  by_cases hnow : DialableAt tz start stop hardStart hardEnd now
  · exact (nextWindowOpen_exact_iff ..).mpr (.inl hnow)
  · have ha := intervals_eq hne
    have hb := intervals_eq hhne
    generalize (if start < stop then [(start, stop)] else _) = a at ha
    generalize (if hardStart < hardEnd then [(hardStart, hardEnd)] else _) = b
      at hb
    have hcand := h.candidate_iff ha hb hstart hstop
    obtain ⟨D, m, hm, hdate⟩ := exists_date (now + o)
    have hD : tz.toLocal now / dayMicros = D := by
      have hpos : (0 : Int) < dayMicros := by decide
      rw [h.present, hdate, Int.add_comm, Int.add_mul_ediv_right _ _
        (Int.ne_of_gt hpos), Int.ediv_eq_zero_of_lt (by omega) (by omega),
        Int.zero_add]
    rw [hD] at hcand
    have hsplit := fun {t d : Int} {n : Nat} (hn : n < dayMicros) (hd : D ≤ d)
      (hd' : d < D + 3) => h.split (t := t) hn (hD ▸ hd) (hD ▸ hd')
    have hlocal : localTime tz now = m :=
      (hsplit hm (Int.le_refl D) (by omega) hdate).2
    obtain ⟨n, hn, hin⟩ := hover
    obtain ⟨s₀, hs₀, -⟩ := (exists_overlap_iff ha hb hn).mpr hin
    have hs₀' := overlap_bounds ha hstart hstop hs₀
    -- tomorrow's opening is one after `now`; the least of those is the answer
    have htomorrow : IsCandidate tz start stop hardStart hardEnd now
        ((D + 1) * dayMicros + s₀.1 - o) :=
      (hcand _).mpr ⟨1, by simp, s₀, hs₀, by omega⟩
    have hbefore : now < (D + 1) * dayMicros + s₀.1 - o := by
      rw [Int.add_mul, Int.one_mul]
      omega
    obtain ⟨t, ⟨ht, hlt⟩, hleast⟩ := Int.exists_least_of_bdd
      (P := fun x => IsCandidate tz start stop hardStart hardEnd now x ∧ now < x)
      ⟨now, fun z hz => Int.le_of_lt hz.2⟩ ⟨_, htomorrow, hbefore⟩
    refine ⟨t, (nextWindowOpen_iff hnow).mpr
      ⟨ht, hlt, fun x hx hxt => hleast x ⟨hx, hxt⟩⟩, Int.le_of_lt hlt, ?_, ?_⟩
    · obtain ⟨day, hday, s, hs, hsum⟩ := (hcand t).mp ht
      simp only [List.mem_cons, List.not_mem_nil, or_false] at hday
      have hs' := overlap_bounds ha hstart hstop hs
      refine (dialableAt_iff t ha hb).mpr ⟨s, hs, ?_⟩
      rw [(hsplit (by omega) (by omega) (by omega) hsum).2]
      exact ⟨Nat.le_refl _, hs'.1⟩
    · intro x hle hxt hopen
      have hearly := hleast _ ⟨htomorrow, hbefore⟩
      obtain ⟨d, n, hn, hsum⟩ := exists_date (x + o)
      have hd : D ≤ d := date_le (n := m) hn (by omega)
      have hd' : d ≤ D + 1 := @date_le d (D + 1) n s₀.1 (by omega) (by omega)
      obtain ⟨s, hs, hin⟩ := (dialableAt_iff x ha hb).mp hopen
      rw [(hsplit hn hd (by omega) hsum).2] at hin
      have hin : s.1 ≤ n ∧ n < s.2 := hin
      have hcan : IsCandidate tz start stop hardStart hardEnd now
          (d * dayMicros + s.1 - o) := by
        refine (hcand _).mpr ⟨d - D, ?_, s, hs, ?_⟩
        · simp only [List.mem_cons, List.not_mem_nil, or_false]
          omega
        · rw [show D + (d - D) = d by omega]
          omega
      have hpast : d * dayMicros + s.1 - o ≤ now := by
        by_contra hafter
        have hge := hleast _ ⟨hcan, Int.not_le.mp hafter⟩
        omega
      obtain rfl : d = D := by
        have hle : d ≤ D := date_le (n := s.1) hm (by omega)
        omega
      refine hnow ((dialableAt_iff now ha hb).mpr ⟨s, hs, ?_⟩)
      have hwithin : s.1 ≤ m ∧ m < s.2 := by omega
      rw [hlocal]
      exact hwithin

end

/-! ## An opening in a gap -/

/-- New York in March 2026: on the 8th the clock went from 02:00 to
03:00. -/
def newYork : WallClock where
  initial := -18000 * second
  changes := [(1772953200 * second, -14400 * second)]
  ordered := List.pairwise_singleton _ _

/-- A window from 02:30 is open from the change on, and the answer is half an
hour later. A window from 02:15 to 02:45 is not open that day, and the answer
is 06:15, when it is closed. -/
theorem newYork_late :
    nextWindowOpen (1772949600 * second) (.ofClock newYork) (clock 2 30)
        (clock 10 0) (clock 1 0) (clock 23 0) = .ok (1772955000 * second) ∧
      DialableAt (.ofClock newYork) (clock 2 30) (clock 10 0) (clock 1 0)
        (clock 23 0) (1772953200 * second) ∧
      (¬ ∃ t, nextWindowOpen (1772949600 * second) (.ofClock newYork)
          (clock 2 30) (clock 10 0) (clock 1 0) (clock 23 0) = .ok t ∧
        FirstDialable (.ofClock newYork) (clock 2 30) (clock 10 0) (clock 1 0)
          (clock 23 0) (1772949600 * second) t) ∧
      ∃ t, nextWindowOpen (1772949600 * second) (.ofClock newYork)
          (clock 2 15) (clock 2 45) (clock 1 0) (clock 23 0) = .ok t ∧
        ¬ DialableAt (.ofClock newYork) (clock 2 15) (clock 2 45) (clock 1 0)
          (clock 23 0) t := by
  have hlate : nextWindowOpen (1772949600 * second) (.ofClock newYork)
      (clock 2 30) (clock 10 0) (clock 1 0) (clock 23 0)
      = .ok (1772955000 * second) := by
    decide +kernel
  have hopen : DialableAt (.ofClock newYork) (clock 2 30) (clock 10 0)
      (clock 1 0) (clock 23 0) (1772953200 * second) := by
    show isDialableNow _ _ _ _ _ _ = _
    decide +kernel
  have hclosed : nextWindowOpen (1772949600 * second) (.ofClock newYork)
      (clock 2 15) (clock 2 45) (clock 1 0) (clock 23 0)
      = .ok (1772964900 * second) := by
    decide +kernel
  refine ⟨hlate, hopen, ?_, _, hclosed, ?_⟩
  · rintro ⟨t, ht, hfirst⟩
    rw [hlate] at ht
    obtain rfl := Except.ok.inj ht
    exact hfirst.first _ (by decide) (by decide) hopen
  · show ¬ isDialableNow _ _ _ _ _ _ = _
    decide +kernel

end CallingAgent
