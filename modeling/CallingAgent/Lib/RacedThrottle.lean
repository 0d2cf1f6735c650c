import CallingAgent.Lib.SortedSet
import CallingAgent.Lib.Throttle

/-!
# Raced throttles — asked by threads, without a lock

A call reads its clock, looks whether its key is held, looks at the size
where there is a capacity, empties a full throttle, and stores its stamp.
Between any two of these the other calls go on, so several that have looked
may pass although the first of them would hold back the others.
-/

namespace CallingAgent.Lib

/-- What a call does next. -/
inductive AskPhase where
  | look
  | measure
  | empty
  | store
  deriving DecidableEq, Repr

structure AskCall (κ π : Type) where
  key : κ
  clock : Nat
  payload : π
  phase : AskPhase := .look

structure RacedThrottle (κ π : Type) where
  throttle : Throttle κ := {}
  calls : Table Nat (AskCall κ π) := ∅
  /-- a record the threads do not keep: how many calls were in progress
  together -/
  peak : Nat := 0

/-- A stamp is stored, whatever else there is. -/
def Throttle.stamp {κ : Type} [DecidableEq κ] (t : Throttle κ) (clock : Nat)
    (k : κ) : Throttle κ where
  stamps := AList.insert k clock t.stamps
  passed := (k, clock) :: t.passed

namespace RacedThrottle

section

variable {κ π : Type} (t : RacedThrottle κ π)

def call (i : Nat) : Option (AskCall κ π) := AList.lookup i t.calls

def inProgress : Nat := t.calls.count fun _ _ => true

/-- The calls that are about to store. -/
def storing : Nat := t.calls.count fun _ c => c.phase == .store

/-- A call begins. -/
def ask (now : Nat) (k : κ) (payload : π) : RacedThrottle κ π where
  throttle := t.throttle
  calls := AList.insert t.calls.nextKey ⟨k, now, payload, .look⟩ t.calls
  peak := max t.peak (t.inProgress + 1)

def goto (i : Nat) (c : AskCall κ π) (phase : AskPhase) : RacedThrottle κ π :=
  { t with calls := AList.insert i { c with phase } t.calls }

def finish (i : Nat) : RacedThrottle κ π :=
  { t with calls := AList.erase i t.calls }

variable {t} {i : Nat} {c : AskCall κ π}

theorem call_goto (phase : AskPhase) (j : Nat) :
    (t.goto i c phase).call j
      = if j = i then some { c with phase } else t.call j :=
  Table.lookup_insert' ..

theorem call_finish (j : Nat) :
    (t.finish i).call j = if j = i then none else t.call j :=
  Table.lookup_put t.calls i j none

theorem call_ask {now : Nat} {k : κ} {payload : π} (j : Nat) :
    (t.ask now k payload).call j = if j = t.calls.nextKey then
      some ⟨k, now, payload, .look⟩ else t.call j :=
  Table.lookup_insert' ..

theorem call_of_idle (h : t.inProgress = 0) (j : Nat) : t.call j = none := by
  cases hc : t.call j with
  | none => rfl
  | some c =>
      have hm : (⟨j, c⟩ : Sigma fun _ : Nat => AskCall κ π) ∈ t.calls.entries :=
        AList.mem_lookup_iff.mp hc
      exact absurd rfl (List.countP_eq_zero.mp h _ hm)

theorem inProgress_goto (hc : t.call i = some c) (phase : AskPhase) :
    (t.goto i c phase).inProgress = t.inProgress := by
  have h := Table.count_insert_old (p := fun _ _ => true) { c with phase } hc
  simp only [if_true] at h
  exact Nat.add_right_cancel h

theorem inProgress_finish (i : Nat) :
    (t.finish i).inProgress ≤ t.inProgress :=
  Table.count_erase_le t.calls _ i

theorem inProgress_ask {now : Nat} {k : κ} {payload : π} :
    (t.ask now k payload).inProgress = t.inProgress + 1 :=
  Table.count_insert_new (Table.lookup_nextKey _)

theorem storing_goto (hc : t.call i = some c) (phase : AskPhase) :
    (t.goto i c phase).storing + (if c.phase = .store then 1 else 0)
      = t.storing + if phase = .store then 1 else 0 := by
  have h := Table.count_insert_old (p := fun _ c => c.phase == .store)
    { c with phase } hc
  unfold storing goto
  simpa only [beq_iff_eq] using h

theorem storing_finish (hc : t.call i = some c) :
    (t.finish i).storing + (if c.phase = .store then 1 else 0) = t.storing := by
  have h := Table.count_erase (p := fun _ (c : AskCall κ π) =>
    c.phase == .store) hc
  unfold storing finish
  simpa only [beq_iff_eq] using h.symm

theorem storing_ask {now : Nat} {k : κ} {payload : π} :
    (t.ask now k payload).storing = t.storing :=
  Table.count_insert_new (Table.lookup_nextKey _)

theorem storing_le : t.storing ≤ t.inProgress :=
  List.countP_mono_left fun _ _ _ => rfl

variable (t) in
/-- A call with this key and clock is in progress, or it passed or another
one that held it back did. -/
def Answers (interval : Nat) (k : κ) (clock : Nat) : Prop :=
  (∃ i c, t.call i = some c ∧ c.key = k ∧ c.clock = clock) ∨
    ∃ last, (k, last) ∈ t.throttle.passed ∧ clock < last + interval

theorem answers_ask {interval now : Nat} (k : κ) (payload : π) :
    (t.ask now k payload).Answers interval k now :=
  .inl ⟨t.calls.nextKey, _, (call_ask _).trans (if_pos rfl), rfl, rfl⟩

theorem Answers.ask {interval now : Nat} {k : κ} {clock : Nat}
    (h : t.Answers interval k clock) (k' : κ) (payload : π) :
    (t.ask now k' payload).Answers interval k clock := by
  refine h.imp_left fun ⟨i, c, hc, hcall⟩ => ⟨i, c, ?_, hcall⟩
  have hnew : i ≠ t.calls.nextKey := by
    rintro rfl
    exact absurd ((Table.lookup_nextKey t.calls).symm.trans hc) (by simp)
  exact (call_ask i).trans ((if_neg hnew).trans hc)

end

variable {κ π : Type} [DecidableEq κ] (t : RacedThrottle κ π)
  (interval : Nat) (capacity : Option Nat)

/-- The next thing a call does, and its answer when it returns. -/
def step (i : Nat) :
    Option (RacedThrottle κ π × Option (AskCall κ π × Bool)) :=
  (t.call i).map fun c =>
    match c.phase with
    | .look =>
        if t.throttle.holds interval c.clock c.key then
          (t.finish i, some (c, false))
        else (t.goto i c (if capacity.isSome then .measure else .store), none)
    | .measure =>
        (t.goto i c (if t.throttle.crowded capacity then .empty else .store),
          none)
    | .empty =>
        ({ t.goto i c .store with throttle := { t.throttle with stamps := ∅ } },
          none)
    | .store =>
        ({ t.finish i with throttle := t.throttle.stamp c.clock c.key },
          some (c, true))

/-- What a step of a call does, and what it answers. -/
inductive Stepped (i : Nat) (c : AskCall κ π) :
    RacedThrottle κ π → Option (AskCall κ π × Bool) → Prop
  | held (phase : c.phase = .look)
      (holds : t.throttle.holds interval c.clock c.key = true) :
      Stepped i c (t.finish i) (some (c, false))
  | looked (phase : c.phase = .look)
      (free : t.throttle.holds interval c.clock c.key = false)
      (bounded : capacity.isSome = true) :
      Stepped i c (t.goto i c .measure) none
  | unbounded (phase : c.phase = .look)
      (free : t.throttle.holds interval c.clock c.key = false)
      (bounded : capacity = none) : Stepped i c (t.goto i c .store) none
  | crowded (phase : c.phase = .measure)
      (full : t.throttle.crowded capacity = true) :
      Stepped i c (t.goto i c .empty) none
  | roomy (phase : c.phase = .measure)
      (room : t.throttle.crowded capacity = false) :
      Stepped i c (t.goto i c .store) none
  | emptied (phase : c.phase = .empty) :
      Stepped i c { t.goto i c .store with
        throttle := { t.throttle with stamps := ∅ } } none
  | stored (phase : c.phase = .store) :
      Stepped i c { t.finish i with
        throttle := t.throttle.stamp c.clock c.key } (some (c, true))

variable {t interval capacity} {now i : Nat} {c : AskCall κ π}
  {t' : RacedThrottle κ π} {out : Option (AskCall κ π × Bool)}

theorem step_cases (h : t.step interval capacity i = some (t', out)) :
    ∃ c, t.call i = some c ∧ t.Stepped interval capacity i c t' out := by
  obtain ⟨c, hc, h⟩ := Option.map_eq_some_iff.mp h
  refine ⟨c, hc, ?_⟩
  cases hp : c.phase with
  | look =>
      rw [hp] at h
      dsimp only at h
      split at h
      · next hholds =>
        cases h
        exact .held hp hholds
      · next hfree =>
        have hfree := Bool.eq_false_iff.mpr hfree
        cases hcap : capacity with
        | none =>
            rw [hcap] at h
            cases h
            exact .unbounded hp hfree rfl
        | some n =>
            rw [hcap] at h
            cases h
            exact .looked hp hfree rfl
  | measure =>
      rw [hp] at h
      dsimp only at h
      cases hfull : t.throttle.crowded capacity with
      | true =>
          rw [hfull] at h
          cases h
          exact .crowded hp hfull
      | false =>
          rw [hfull] at h
          cases h
          exact .roomy hp hfull
  | empty =>
      rw [hp] at h
      cases h
      exact .emptied hp
  | store =>
      rw [hp] at h
      cases h
      exact .stored hp

/-! ## Any interleaving -/

theorem size_stamp_le (throttle : Throttle κ) (clock : Nat) (k : κ) :
    (throttle.stamp clock k).size ≤ throttle.size + 1 := by
  simp only [Throttle.size, Throttle.stamp, AList.keys_insert, List.length_cons]
  have herase := List.length_erase_le (a := k) (l := throttle.stamps.keys)
  omega

variable (t capacity) in
/-- What holds however the calls race. -/
structure Raced (now : Nat) : Prop where
  stamped : ∀ k last, AList.lookup k t.throttle.stamps = some last →
    (k, last) ∈ t.throttle.passed
  past : ∀ p ∈ t.throttle.passed, p.2 ≤ now
  begun : ∀ i c, t.call i = some c → c.clock ≤ now
  within : t.inProgress ≤ t.peak
  small : ∀ n, capacity = some n → 0 < n →
    t.throttle.size < n ∨ t.throttle.size + t.storing + 1 ≤ n + t.peak

theorem raced_start : ({} : RacedThrottle κ π).Raced capacity now where
  stamped _ _ h := by cases h
  past _ h := by cases h
  begun _ _ h := by cases h
  within := Nat.le_refl _
  small _ _ hpos := .inl hpos

theorem Raced.later (h : t.Raced capacity now) {later : Nat}
    (hle : now ≤ later) : t.Raced capacity later :=
  { h with
    past := fun p hp => Nat.le_trans (h.past p hp) hle
    begun := fun i c hc => Nat.le_trans (h.begun i c hc) hle }

theorem Raced.ask (h : t.Raced capacity now) (k : κ) (payload : π) :
    (t.ask now k payload).Raced capacity now where
  stamped := h.stamped
  past := h.past
  begun j c hc := by
    rw [call_ask] at hc
    split at hc
    · cases hc
      exact Nat.le_refl _
    · exact h.begun j c hc
  within := by
    rw [inProgress_ask]
    exact Nat.le_max_right ..
  small n hn hpos := by
    rw [storing_ask]
    have hpeak : t.peak ≤ (t.ask now k payload).peak := Nat.le_max_left ..
    rcases h.small n hn hpos with hlt | hle
    · exact .inl hlt
    · exact .inr (Nat.le_trans hle (Nat.add_le_add_left hpeak n))

/-- **The race rule.** No step of a call breaks what holds. -/
theorem Raced.step (h : t.Raced capacity now)
    (hstep : t.step interval capacity i = some (t', out)) :
    t'.Raced capacity now := by
  obtain ⟨c, hc, hs⟩ := step_cases hstep
  have hbegun : ∀ phase j d, (t.goto i c phase).call j = some d →
      d.clock ≤ now := by
    intro phase j d hd
    rw [call_goto] at hd
    split at hd
    · cases hd
      exact h.begun i c hc
    · exact h.begun j d hd
  have hended : ∀ j d, (t.finish i).call j = some d → d.clock ≤ now := by
    intro j d hd
    rw [call_finish] at hd
    split at hd
    · cases hd
    · exact h.begun j d hd
  have hwithin : ∀ phase, (t.goto i c phase).inProgress ≤ t.peak :=
    fun phase => (inProgress_goto hc phase).trans_le h.within
  have hleft := Nat.le_trans (inProgress_finish i) h.within
  cases hs with
  | held phase holds =>
      refine ⟨h.stamped, h.past, hended, hleft, fun n hn hpos => ?_⟩
      have hstoring := storing_finish hc
      have hsmall := h.small n hn hpos
      simp only [phase, reduceCtorEq, if_false] at hstoring
      exact hsmall.imp_right fun hle => by
        show t.throttle.size + _ + 1 ≤ n + t.peak
        omega
  | looked phase free bounded =>
      refine ⟨h.stamped, h.past, hbegun _, hwithin _, fun n hn hpos => ?_⟩
      have hstoring := storing_goto hc .measure
      simp only [phase, reduceCtorEq, if_false] at hstoring
      exact (h.small n hn hpos).imp_right fun hle => by
        show t.throttle.size + _ + 1 ≤ n + t.peak
        omega
  | unbounded phase free bounded =>
      refine ⟨h.stamped, h.past, hbegun _, hwithin _, fun n hn _ => ?_⟩
      rw [bounded] at hn
      cases hn
  | crowded phase full =>
      refine ⟨h.stamped, h.past, hbegun _, hwithin _, fun n hn hpos => ?_⟩
      have hstoring := storing_goto hc .empty
      simp only [phase, reduceCtorEq, if_false] at hstoring
      exact (h.small n hn hpos).imp_right fun hle => by
        show t.throttle.size + _ + 1 ≤ n + t.peak
        omega
  | roomy phase room =>
      refine ⟨h.stamped, h.past, hbegun _, hwithin _, fun n hn _ => .inl ?_⟩
      rw [Throttle.crowded, hn, Option.any_some, decide_eq_false_iff_not] at room
      exact Nat.not_le.mp room
  | emptied phase =>
      refine ⟨fun k last hlast => ?_, h.past, hbegun _, hwithin _,
        fun n hn hpos => .inl hpos⟩
      cases hlast
  | stored phase =>
      refine ⟨fun k last hlast => ?_, fun p hp => ?_, hended, hleft,
        fun n hn hpos => ?_⟩
      · rw [Throttle.stamp, Table.lookup_insert'] at hlast
        split at hlast
        · next hk =>
          cases hlast
          exact hk ▸ List.mem_cons_self
        · exact List.mem_cons_of_mem _ (h.stamped k last hlast)
      · rcases List.mem_cons.mp hp with rfl | hp
        · exact h.begun i c hc
        · exact h.past p hp
      · -- those that store while it is full were all in progress when it
        -- became full
        have hsize := size_stamp_le t.throttle c.clock c.key
        have hstoring := storing_finish hc
        have hle := Nat.le_trans storing_le h.within
        simp only [phase, if_true] at hstoring
        show (t.throttle.stamp c.clock c.key).size < n ∨
          (t.throttle.stamp c.clock c.key).size + (t.finish i).storing + 1
            ≤ n + t.peak
        rcases h.small n hn hpos with hlt | hfull <;> omega

/-- A call that is held back saw the stamp of one that passed. -/
theorem Raced.held (h : t.Raced capacity now)
    (hstep : t.step interval capacity i = some (t', some (c, false))) :
    ∃ last, (c.key, last) ∈ t'.throttle.passed ∧ last ≤ now ∧
      c.clock < last + interval := by
  obtain ⟨d, hd, hs⟩ := step_cases hstep
  cases hs with
  | held phase holds =>
      obtain ⟨last, hlast, hlt⟩ := (Option.any_eq_true _ _).mp holds
      have hmem := h.stamped _ _ hlast
      exact ⟨last, hmem, h.past _ hmem, of_decide_eq_true hlt⟩

theorem step_passed
    (hstep : t.step interval capacity i = some (t', some (c, true))) :
    t'.throttle.passed = (c.key, c.clock) :: t.throttle.passed := by
  obtain ⟨d, hd, hs⟩ := step_cases hstep
  cases hs
  rfl

theorem step_kept (hstep : t.step interval capacity i = some (t', out))
    (hout : ∀ c, out ≠ some (c, true)) :
    t'.throttle.passed = t.throttle.passed := by
  obtain ⟨d, hd, hs⟩ := step_cases hstep
  cases hs with
  | stored => exact absurd rfl (hout _)
  | _ => rfl

theorem peak_step (hstep : t.step interval capacity i = some (t', out)) :
    t'.peak = t.peak := by
  obtain ⟨d, hd, hs⟩ := step_cases hstep
  cases hs <;> rfl

/-! ## What becomes of a call -/

theorem Answers.step {k : κ} {clock : Nat} (h : t.Answers interval k clock)
    (hpos : 0 < interval) (hraced : t.Raced capacity now)
    (hstep : t.step interval capacity i = some (t', out)) :
    t'.Answers interval k clock := by
  obtain ⟨c, hc, hs⟩ := step_cases hstep
  have hstays : ∀ p ∈ t.throttle.passed, p ∈ t'.throttle.passed := by
    intro p hp
    cases hs with
    | stored => exact List.mem_cons_of_mem _ hp
    | _ => exact hp
  rcases h with ⟨j, d, hd, hkey, hclock⟩ | ⟨last, hlast, hlt⟩
  · have hother : j ≠ i → (∀ phase, (t.goto i c phase).call j = some d) ∧
        (t.finish i).call j = some d := fun hne =>
      ⟨fun phase => (call_goto phase j).trans ((if_neg hne).trans hd),
        (call_finish j).trans ((if_neg hne).trans hd)⟩
    by_cases hji : j = i
    · subst hji
      obtain rfl := Option.some.inj (hd.symm.trans hc)
      have hgoes : ∀ phase, (t.goto j d phase).call j = some { d with phase } :=
        fun phase => (call_goto phase j).trans (if_pos rfl)
      cases hs with
      | held phase holds =>
          obtain ⟨last, hlast, -, hlt⟩ := hraced.held hstep
          exact .inr ⟨last, hkey ▸ hlast, hclock ▸ hlt⟩
      | stored phase =>
          refine .inr ⟨clock, ?_, by omega⟩
          exact hkey ▸ hclock ▸ List.mem_cons_self
      | _ => exact .inl ⟨j, _, hgoes _, hkey, hclock⟩
    · obtain ⟨hgoes, hends⟩ := hother hji
      refine .inl ⟨j, d, ?_, hkey, hclock⟩
      cases hs with
      | held => exact hends
      | stored => exact hends
      | _ => exact hgoes _
  · exact .inr ⟨last, hstays _ hlast, hlt⟩

/-- With a capacity, no more keys are remembered than it and the calls that
were in progress together allow. -/
theorem Raced.size_le (h : t.Raced capacity now) {n : Nat}
    (hn : capacity = some n) (hpos : 0 < n) :
    t.throttle.size + 1 ≤ n + max t.peak 1 := by
  rcases h.small n hn hpos with hlt | hle <;> omega

/-! ## Calls that take turns -/

/-- What a call in progress has made of the throttle `t₀` it found. -/
def Halfway (capacity : Option Nat) (interval : Nat) (t₀ t : Throttle κ)
    (c : AskCall κ π) : Prop :=
  match c.phase with
  | .look => t.stamps = t₀.stamps
  | .measure => t.stamps = t₀.stamps ∧ t₀.holds interval c.clock c.key = false
  | .empty => t₀.holds interval c.clock c.key = false ∧
      t₀.crowded capacity = true
  | .store => t₀.holds interval c.clock c.key = false ∧
      t.stamps = if t₀.crowded capacity then ∅ else t₀.stamps

variable (t interval capacity) in
/-- No call is in progress, or a single one. -/
inductive InTurn (now : Nat) : Prop
  | idle (free : ∀ i, t.call i = none)
      (sound : t.throttle.Sound interval capacity now) : InTurn now
  | busy (i : Nat) (c : AskCall κ π) (t₀ : Throttle κ)
      (running : t.call i = some c) (alone : ∀ j, j ≠ i → t.call j = none)
      (sound : t₀.Sound interval capacity c.clock) (begun : c.clock ≤ now)
      (passed : t.throttle.passed = t₀.passed)
      (halfway : Halfway capacity interval t₀ t.throttle c) : InTurn now

theorem inTurn_start :
    ({} : RacedThrottle κ π).InTurn interval capacity now :=
  .idle (fun _ => rfl) Throttle.sound_empty

theorem InTurn.later (h : t.InTurn interval capacity now) {later : Nat}
    (hle : now ≤ later) : t.InTurn interval capacity later := by
  cases h with
  | idle free sound => exact .idle free (sound.later hle)
  | busy i c t₀ running alone sound begun passed halfway =>
      exact .busy i c t₀ running alone sound (Nat.le_trans begun hle) passed
        halfway

theorem InTurn.ask (h : t.InTurn interval capacity now)
    (hfree : t.inProgress = 0) (k : κ) (payload : π) :
    (t.ask now k payload).InTurn interval capacity now := by
  have hnone := call_of_idle hfree
  cases h with
  | idle free sound =>
      refine .busy t.calls.nextKey ⟨k, now, payload, .look⟩ t.throttle ?_ ?_
        sound (Nat.le_refl _) rfl rfl
      · rw [call_ask, if_pos rfl]
      · intro j hj
        rw [call_ask, if_neg hj]
        exact hnone j
  | busy i c t₀ running =>
      rw [hnone i] at running
      cases running

/-- **The rule of turns.** A lone call that is not held back comes to one
pass. -/
theorem InTurn.step (h : t.InTurn interval capacity now)
    (hstep : t.step interval capacity i = some (t', out)) :
    t'.InTurn interval capacity now := by
  obtain ⟨c, hc, hs⟩ := step_cases hstep
  cases h with
  | idle free =>
      rw [free i] at hc
      cases hc
  | busy j d t₀ running alone sound begun passed halfway =>
      have hij : i = j := by
        by_contra hne
        rw [alone i hne] at hc
        cases hc
      subst hij
      rw [running] at hc
      cases hc
      have hgoes : ∀ {phase} {throttle : Throttle κ},
          throttle.passed = t₀.passed →
          Halfway capacity interval t₀ throttle { c with phase } →
          ({ t.goto i c phase with throttle } : RacedThrottle κ π).InTurn
            interval capacity now := by
        intro phase throttle hpassed hhalfway
        refine .busy i { c with phase } t₀ ?_ ?_ sound begun hpassed hhalfway
        · exact (call_goto phase i).trans (if_pos rfl)
        · intro j hj
          exact (call_goto phase j).trans ((if_neg hj).trans (alone j hj))
      have hends : ∀ {throttle : Throttle κ},
          throttle.Sound interval capacity now →
          ({ t.finish i with throttle } : RacedThrottle κ π).InTurn interval
            capacity now := by
        intro throttle hsound
        refine .idle (fun j => (call_finish j).trans ?_) hsound
        split
        · rfl
        · next hj => exact alone j hj
      have hself : t.throttle.stamps = t₀.stamps → t.throttle = t₀ := by
        intro hstamps
        rw [← show (⟨t.throttle.stamps, t.throttle.passed⟩ : Throttle κ)
          = t.throttle from rfl, hstamps, passed]
      unfold Halfway at halfway
      cases hs with
      | held phase holds =>
          rw [phase] at halfway
          exact hends (hself halfway ▸ sound.later begun)
      | looked phase free bounded =>
          rw [phase] at halfway
          exact hgoes passed ⟨halfway, hself halfway ▸ free⟩
      | unbounded phase free bounded =>
          rw [phase] at halfway
          refine hgoes passed ⟨hself halfway ▸ free, ?_⟩
          rw [Throttle.crowded, bounded]
          exact halfway
      | crowded phase full =>
          rw [phase] at halfway
          exact hgoes passed ⟨halfway.2, hself halfway.1 ▸ full⟩
      | roomy phase room =>
          rw [phase] at halfway
          refine hgoes passed ⟨halfway.2, ?_⟩
          rw [hself halfway.1] at room
          rw [room]
          exact halfway.1
      | emptied phase =>
          rw [phase] at halfway
          refine hgoes passed ⟨halfway.1, ?_⟩
          rw [halfway.2]
          rfl
      | stored phase =>
          rw [phase] at halfway
          refine hends ?_
          have hpass : t.throttle.stamp c.clock c.key
              = t₀.pass capacity c.clock c.key := by
            rw [Throttle.stamp, Throttle.pass, halfway.2, passed]
          rw [hpass]
          exact (sound.pass halfway.1).later begun

/-- What passed in turns is what passes a sound throttle. -/
theorem InTurn.sound (h : t.InTurn interval capacity now) :
    ∃ t₀ : Throttle κ, t₀.Sound interval capacity now ∧
      t₀.passed = t.throttle.passed := by
  cases h with
  | idle free sound => exact ⟨_, sound, rfl⟩
  | busy i c t₀ running alone sound begun passed halfway =>
      exact ⟨t₀, sound.later begun, passed.symm⟩

/-- **Without a capacity** a key passes at most once in an interval. -/
theorem InTurn.once (h : t.InTurn interval capacity now)
    (hnone : capacity = none) (k : κ) (a : Nat) :
    t.throttle.passesIn interval k a ≤ 1 := by
  obtain ⟨t₀, hsound, hpassed⟩ := h.sound
  have honce := hsound.once hnone k a
  rwa [Throttle.passesIn, hpassed] at honce

/-- **With one** it passes twice, and once more for each time the throttle
was filled in the interval. -/
theorem InTurn.bounded (h : t.InTurn interval capacity now) {n : Nat}
    (hsome : capacity = some n) (k : κ) (a : Nat) :
    t.throttle.passesIn interval k a * n
      ≤ 2 * n + t.throttle.allIn interval a := by
  obtain ⟨t₀, hsound, hpassed⟩ := h.sound
  have hbound := hsound.bounded hsome k a
  rwa [Throttle.passesIn, Throttle.allIn, hpassed] at hbound

end RacedThrottle

end CallingAgent.Lib
