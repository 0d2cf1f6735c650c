import CallingAgent.System.Numbers
import CallingAgent.System.RetryGate

/-!
# Retry entries — one member of the schedule for each retry

A member of the schedule is the whole serialized job, so a retry is there
once only as long as every producer builds the same bytes. The manager and
the rebuild derive the ids of a job from its key; the settling of a retry
outside its window takes them over from the dial job.
-/

namespace CallingAgent

open Lib

/-! ## The rule -/

/-- The key of the retry a member is about. -/
def ScheduleEntry.retryKey : ScheduleEntry → Option IdempotencyKey
  | .retry job => some job.idempotencyKey
  | .dial _ => none

/-- The member is a retry of the contact. -/
def ScheduleEntry.retries (c : ContactId) (e : ScheduleEntry) : Bool :=
  e.retryKey.any (·.contactId == c)

/-- At most one retry member for each campaign, contact and number. -/
def System.OneEntry (s : System) : Prop :=
  (s.redis.schedule.filterMap (·.1.retryKey)).Nodup

instance (s : System) : Decidable s.OneEntry :=
  inferInstanceAs (Decidable (List.Nodup _))

/-- A flush and a rebuild leave exactly one retry member for each contact
that waits for a retry and was attempted. -/
def System.RestoresOne (env : Env) (s : System) : Prop :=
  ∀ s' c x due, runActs (systemStep env) s [.flush, .rebuild] = some s' →
    s.db.contact c = some x → x.status = .retryScheduled →
    x.nextRetryAt = some due →
    (∃ a y, s.db.attempt a = some y ∧ y.contactId = c) →
    ∃ job, s'.redis.schedule.filter (·.1.retries c) = [(.retry job, due)]

/-- Nothing is queued, scheduled or running, and a retry that waits names
the attempt it follows. -/
structure System.Idle (s : System) : Prop where
  workers : ∀ w, s.worker w = none
  stream : ∀ m, AList.lookup m s.redis.stream = none
  schedule : s.redis.schedule = []
  unique : s.db.UniqueAttempts
  columns : ∀ c x, s.db.contact c = some x →
    s.db.RetryColumns (fun _ _ _ => True) c x

/-! ## At most one -/

/-- The step puts a retry back on the schedule under the id of its dial
job. -/
def putsRetryBack (env : Env) (s : System) : SystemAct → Bool
  | .worker w .settle => (s.worker w).any fun k =>
      (settledDue env s k).any (settlesRetry s.db k.job)
  | _ => false

/-- Every retry the step schedules has the ids derived from its key, and
the attempt it follows is there. -/
def derivesIds (env : Env) (s : System) (act : SystemAct) : Bool :=
  keepsPlacement env act && !putsRetryBack env s act

/-- All ids are derived. -/
def Redis.Derived (r : Redis) : Prop :=
  ∀ job due, (ScheduleEntry.retry job, due) ∈ r.schedule → job.jobId = none

section

variable {env : Env} {s s' : System} {act : SystemAct}

/-- No limit is carried. -/
theorem grants_true : Grants (fun _ _ _ => True) env s s' act :=
  ⟨fun _ _ _ => trivial, fun _ _ _ => trivial,
    fun _ _ _ _ _ _ _ _ _ _ _ => trivial⟩

theorem newEntry_derived {db' : Db} {job : RecoveryJob}
    (hc : putsRetryBack env s act = false)
    (h : NewEntry env s db' act (.retry job)) : job.jobId = none := by
  generalize he : ScheduleEntry.retry job = e at h
  cases h with
  | @manager _ q job' due asked entry =>
      cases he
      have hshape : (q.answer env s.now).Shape q.contactId q.contact
          q.disconnect := handleDisconnect_shape
      rcases hshape.outcome with ⟨-, h⟩ | ⟨-, h⟩ | ⟨d, -, h⟩
      · rw [h] at entry
        cases entry
      · rw [h] at entry
        cases entry
      · rw [h] at entry
        cases entry
        rfl
  | deferred => cases he
  | putBack running settled branch previous_ =>
      simp [putsRetryBack, running, settled, branch] at hc
  | rebuilt contact entry =>
      obtain ⟨-, -, a, n, rfl, -⟩ := rebuildEntry_cases entry
      cases he
      rfl

theorem systemStep_derived (h : systemStep env s act = some s')
    (hc : putsRetryBack env s act = false) (hd : s.redis.Derived) :
    s'.redis.Derived := by
  intro job due hm
  rcases (systemStep_adds h).entry _ hm with ⟨t, ht⟩ | hnew
  · exact hd job t ht
  · exact newEntry_derived hc hnew

/-- A member is determined by its key. -/
theorem NumberInv.member_eq {L : Db → ContactId → Nat → Prop}
    (hi : NumberInv L env s) (hd : s.redis.Derived) {job job' : RecoveryJob}
    {due due' : Instant}
    (h : (ScheduleEntry.retry job, due) ∈ s.redis.schedule)
    (h' : (ScheduleEntry.retry job', due') ∈ s.redis.schedule)
    (hkey : job.idempotencyKey = job'.idempotencyKey) : job = job' := by
  have hnext : s.db.EntryOk L (.retry job) := hi.entries _ h
  have hnext' : s.db.EntryOk L (.retry job') := hi.entries _ h'
  have hid := hd job due h
  have hid' := hd job' due' h'
  obtain ⟨id, a, c, g, n⟩ := job
  obtain ⟨id', a', c', g', n'⟩ := job'
  obtain ⟨rfl, rfl, rfl⟩ := IdempotencyKey.mk.inj hkey
  obtain rfl := Db.Next.attempt hi.unique hnext hnext'
  dsimp only at hid hid'
  rw [hid, hid']

/-- Distinct members with equal keys would be one member. -/
theorem oneEntry_of_inv {L : Db → ContactId → Nat → Prop}
    (hi : NumberInv L env s) (hd : s.redis.Derived)
    (hn : s.redis.Distinct) : s.OneEntry := by
  refine List.pairwise_filterMap.mpr
    ((List.pairwise_map.mp hn).imp_of_mem fun {x y} hx hy hne => ?_)
  intro key hkey key' hkey' heq
  obtain ⟨e, due⟩ := x
  obtain ⟨e', due'⟩ := y
  cases e with
  | dial job => cases hkey
  | retry job =>
      cases e' with
      | dial job' => cases hkey'
      | retry job' =>
          cases hkey
          cases hkey'
          exact hne (congrArg ScheduleEntry.retry (hi.member_eq hd hx hy heq))

/-! ## Exactly one -/

/-- A scan by primary key finds the row of a contact once. -/
theorem filter_restored {db : Db} {c : ContactId}
    {l : List (Sigma fun _ : ContactId => Contact)} (hl : l.NodupKeys) :
    (l.filterMap fun e => rebuildEntry db e.1 e.2).filter (·.1.retries c)
      = ((l.dlookup c).bind (rebuildEntry db c)).toList := by
  have habout : ∀ {k : ContactId} {x : Contact} {e : ScheduleEntry × Instant},
      rebuildEntry db k x = some e → e.1.retries c = (k == c) := by
    intro k x e he
    obtain ⟨-, -, a, n, h, -⟩ := @rebuildEntry_cases _ _ _ e.1 e.2 he
    rw [h]
    rfl
  induction l with
  | nil => rfl
  | cons e l ih =>
      obtain ⟨k, x⟩ := e
      obtain ⟨hk, hl⟩ := List.nodupKeys_cons.mp hl
      have hrest := ih hl
      rw [List.filterMap_cons]
      by_cases hkc : k = c
      · subst hkc
        rw [List.dlookup_eq_none.mpr hk] at hrest
        rw [List.dlookup_cons_eq]
        cases he : rebuildEntry db k x with
        | none => simpa [he] using hrest
        | some e => simp [he, habout he, hrest]
      · rw [List.dlookup_cons_ne _ _ (Ne.symm hkc)]
        cases he : rebuildEntry db k x with
        | none => exact hrest
        | some e => simp [habout he, hkc, hrest]

/-- Members that are not there yet are all added. -/
theorem addMissing_all {xs : List (ScheduleEntry × Instant)} {r : Redis}
    (hxs : (xs.map Prod.fst).Nodup)
    (hnew : ∀ x ∈ xs, ∀ y ∈ r.schedule, y.1 ≠ x.1) :
    (xs.foldl (fun r x => r.scheduleAddMissing x.1 x.2) r).schedule
      = xs.reverse ++ r.schedule := by
  induction xs generalizing r with
  | nil => rfl
  | cons x xs ih =>
      obtain ⟨hx, hxs⟩ := List.nodup_cons.mp hxs
      have hadd : (r.scheduleAddMissing x.1 x.2).schedule
          = x :: r.schedule := by
        unfold Redis.scheduleAddMissing
        rw [if_neg]
        intro hany
        obtain ⟨y, hy, hyx⟩ := List.any_eq_true.mp hany
        exact hnew x List.mem_cons_self y hy (of_decide_eq_true hyx)
      rw [List.foldl_cons, ih hxs, hadd, List.reverse_cons,
        List.append_assoc]
      · rfl
      · rw [hadd]
        intro z hz y hy
        rcases List.mem_cons.mp hy with rfl | hy
        · intro h
          exact hx (List.mem_map.mpr ⟨z, hz, h.symm⟩)
        · exact hnew z (List.mem_cons_of_mem _ hz) y hy

/-- The entries of different contacts are different. -/
theorem restored_nodup {db : Db}
    {l : List (Sigma fun _ : ContactId => Contact)} (hl : l.NodupKeys) :
    ((l.filterMap fun e => rebuildEntry db e.1 e.2).map Prod.fst).Nodup := by
  have hkeys : l.Pairwise fun e e' => e.1 ≠ e'.1 := List.pairwise_map.mp hl
  refine List.pairwise_map.mpr (List.pairwise_filterMap.mpr
    (hkeys.imp fun {e e'} hne => ?_))
  intro x hx y hy hxy
  obtain ⟨-, -, a, n, h, -⟩ := @rebuildEntry_cases _ _ _ x.1 x.2 hx
  obtain ⟨-, -, a', n', h', -⟩ := @rebuildEntry_cases _ _ _ y.1 y.2 hy
  rw [h, h'] at hxy
  injection hxy with hjob
  exact hne (congrArg RecoveryJob.contactId hjob)

/-- **Exactly one after a rebuild**, in every state. -/
theorem restoresOne : s.RestoresOne env := by
  intro s' c x due hrun hx hstatus hdue hattempt
  obtain rfl := Option.some.inj hrun
  show ∃ job, List.filter _ (rebuildRetrySchedule s.db
    { lastMessageId := s.redis.lastMessageId }).schedule = _
  unfold rebuildRetrySchedule
  rw [addMissing_all (restored_nodup s.db.contacts.nodupKeys)
    fun x _ y hy => absurd hy List.not_mem_nil]
  have hjob : ∃ job, jobFor s.db c x = some job := by
    obtain ⟨a, y, hy, hyc⟩ := hattempt
    unfold jobFor
    split
    · exact ⟨_, rfl⟩
    · cases hl : latestAttempt s.db c with
      | some p => exact ⟨_, rfl⟩
      | none =>
          have hnone := List.argmax_eq_none.mp (Option.map_eq_none_iff.mp hl)
          have hm : (⟨a, y⟩ : Sigma fun _ : AttemptId => CallAttempt) ∈
              s.db.attempts.entries := AList.mem_lookup_iff.mp hy
          have hfound : (⟨a, y⟩ : Sigma fun _ : AttemptId => CallAttempt) ∈
              s.db.attempts.entries.filter fun e => e.2.contactId == c :=
            List.mem_filter.mpr ⟨hm, by simpa using hyc⟩
          rw [hnone] at hfound
          cases hfound
  obtain ⟨job, hjob⟩ := hjob
  refine ⟨job, ?_⟩
  have hfilter := @filter_restored s.db c _ s.db.contacts.nodupKeys
  have hlookup : s.db.contacts.entries.dlookup c = some x := hx
  have hentry : rebuildEntry s.db c x = some (.retry job, due) := by
    simp [rebuildEntry, hstatus, hdue, hjob]
  rw [hlookup] at hfilter
  rw [List.append_nil, List.filter_reverse, hfilter]
  simp [hentry]

/-! ## Every run -/

theorem System.Idle.numbers (h : s.Idle) :
    NumberInv (fun _ _ _ => True) env s where
  unique := h.unique
  columns := h.columns
  entries e he := by
    rw [h.schedule] at he
    cases he
  jobs m job hm := by
    rw [h.stream m] at hm
    cases hm
  workers w k hk := by
    rw [h.workers w] at hk
    cases hk

/-- **One entry for each retry, under a condition.** In every run in which
no retry goes back to the schedule under the id of its dial job, and no
native placement loses the commit of its failure, every state has at most
one retry member for each campaign, contact and number; and a flush and a
rebuild leave exactly one for each contact that waits. -/
theorem run_oneEntry {env : Env} {s₀ s : System} (h₀ : s₀.Idle)
    (hrun : Run (systemStep env) (fun s act => derivesIds env s act = true)
      s₀ s) :
    s.OneEntry ∧ s.RestoresOne env := by
  have hi : NumberInv (fun _ _ _ => True) env s ∧ s.redis.Derived ∧
      s.redis.Distinct := by
    refine Run.inv (P := fun s => NumberInv (fun _ _ _ => True) env s ∧
      s.redis.Derived ∧ s.redis.Distinct) ?_ hrun ⟨h₀.numbers, ?_, ?_⟩
    · rintro t act t' ⟨hi, hd, hn⟩ hc hst
      obtain ⟨hkeep, hback⟩ := Bool.and_eq_true_iff.mp hc
      exact ⟨hi.step hst grants_true hkeep,
        systemStep_derived hst (by simpa using hback) hd,
        (systemStep_adds hst).distinct hn⟩
    · intro job due hm
      rw [h₀.schedule] at hm
      cases hm
    · unfold Redis.Distinct
      rw [h₀.schedule]
      exact List.nodup_nil
  exact ⟨oneEntry_of_inv hi.1 hi.2.1 hi.2.2, restoresOne⟩

end

/-! ## A retry outside its window -/

theorem twoActive_idle : twoActive.Idle where
  workers _ := rfl
  stream _ := rfl
  schedule := rfl
  unique a b x y hx := by cases hx
  columns c x hx := by
    have hrow : twoActive.db.contact c = if c = 1 then some
        { campaignId := 1, normalizedPhoneNumber := "+919876543210" }
          else none :=
      Table.lookup_insert' _ _ _ _
    rw [hrow] at hx
    split at hx
    · cases hx
      exact .inl ⟨rfl, rfl⟩
    · cases hx

/-- The retry of a lost trigger is dispatched, and the rebuild schedules it
again for the case that its dial job is lost. -/
def retryRestored : List SystemAct :=
  ([.enqueue 1 (fun _ => 1) quietGate] : List SystemAct) ++ untilClaimed 1 1 ++
    ([.worker 1 .send, .worker 1 (.answer (.transport .readTimeout) 0 true true),
      .worker 1 (.firstLookup (.runs []) true), .worker 1 .settle,
      .tick (3600000000 - 1), .dispatch (.retry (.new 0 1 1 2)) 2 true,
      .rebuild] : List SystemAct)

/-- At night the dial job goes back to the schedule under its own id: the
retry is there twice. -/
theorem nightRetry_twice :
    ∃ s, runActs (systemStep dograhEnv) twoActive
        (retryRestored ++ [.tick 43200000000, .read 2 2 noon,
          .worker 2 (.early quietGate), .worker 2 .settle]) = some s ∧
      ¬ s.OneEntry := by
  have h : (runActs (systemStep dograhEnv) twoActive
      (retryRestored ++ ([.tick 43200000000, .read 2 2 noon,
        .worker 2 (.early quietGate), .worker 2 .settle] : List SystemAct))).any
      (fun s => decide (¬ s.OneEntry)) = true := by
    decide +kernel
  obtain ⟨s, hs, hn⟩ := (Option.any_eq_true _ _).mp h
  exact ⟨s, hs, of_decide_eq_true hn⟩

/-- As long as it is day the retry is there once. -/
theorem dayRetry_once :
    ∃ s, runActs (systemStep dograhEnv) twoActive retryRestored = some s ∧
      s.redis.schedule.length = 1 ∧ s.OneEntry ∧ s.RestoresOne dograhEnv := by
  obtain ⟨s, hs, hrun⟩ := Run.of_holdsAlong (systemStep dograhEnv)
    (derivesIds dograhEnv) twoActive retryRestored (by decide +kernel)
  have hlen : (runActs (systemStep dograhEnv) twoActive retryRestored).map
      (·.redis.schedule.length) = some 1 := by
    decide +kernel
  rw [hs] at hlen
  exact ⟨s, hs, Option.some.inj hlen, run_oneEntry twoActive_idle hrun⟩

end CallingAgent
