import CallingAgent.Analysis.Evaluations

/-!
# Poll spacing — how often a result can be asked for

A refund puts the next attempt off by three quarters of the base at least,
and is decided before the deadline, so there is room for so many of them.
The argument needs that nobody brings the next attempt forward: the second
transaction of a deferral writes a row that another worker may have
rescheduled in between.
-/

namespace CallingAgent

open Lib

namespace PolledSystem

variable (s : PolledSystem)

/-- The times read for a row do not decrease, from its creation on. -/
def readsOnTime (id : AnalysisId) (w : JobRunId) (now : Instant) : Bool :=
  (AList.lookup w s.workers).all fun job =>
    decide (job.analysisId ≠ id) ||
      (AList.lookup id s.clock).all fun t => decide (t ≤ now)

def onTime (id : AnalysisId) : PollAct → Bool
  | .claim w now _ => s.readsOnTime id w now
  | .load w now _ _ => s.readsOnTime id w now
  | .analyze w now _ _ _ => s.readsOnTime id w now
  | _ => true

/-- A deferral does not bring the next attempt of a row forward that waits
for a retry. -/
def keepsSchedule (cfg : AnalysisSettings) (id : AnalysisId) :
    PollAct → Bool
  | .other (.other (.work w .defer)) =>
      match AList.lookup w s.workers with
      | some ⟨id', .defer _ now⟩ =>
          decide (id' ≠ id) || (AList.lookup id s.rows).all fun row =>
            decide (row.status ≠ .retryWait) ||
              row.nextAttemptAt.all fun t =>
                decide (t ≤ now + cfg.budgetRecheckSeconds * second)
      | _ => true
  | _ => true

end PolledSystem

/-- The time that `k` refunds take at least. -/
def RetrySchedule.waits (p : RetrySchedule) (k : Nat) : Int := k * p.minWait

theorem RetrySchedule.waits_succ (p : RetrySchedule) (k : Nat) :
    p.waits (k + 1) = p.waits k + p.minWait := by
  unfold RetrySchedule.waits
  rw [Int.natCast_add, Int.natCast_one, Int.add_mul, Int.one_mul]

theorem RetrySchedule.waits_nonneg (p : RetrySchedule) (k : Nat) :
    0 ≤ p.waits k := by
  apply Int.mul_nonneg (Int.natCast_nonneg k)
  exact Int.mul_nonneg (Int.natCast_nonneg _) (by decide)

/-! ## The clock of a row -/

section Clock

variable {cfg : AnalysisSettings} {p : RetrySchedule} {b : AnalysisBudget}
  {s s' : PolledSystem} {id : AnalysisId}

theorem readClock_mono {w : JobRunId} {now old : Instant}
    {job : AnalysisJobRun} (hjob : AList.lookup w s.workers = some job)
    (ht : s.readsOnTime id w now = true)
    (hold : AList.lookup id s.clock = some old) :
    ∃ now', AList.lookup id (AList.insert job.analysisId now s.clock)
      = some now' ∧ old ≤ now' := by
  rw [Table.lookup_insert']
  by_cases hid : id = job.analysisId
  · subst hid
    refine ⟨now, if_pos rfl, ?_⟩
    simp only [PolledSystem.readsOnTime, hjob, hold, Option.all_some, ne_eq,
      not_true_eq_false, decide_false, Bool.false_or, decide_eq_true_eq] at ht
    exact ht
  · exact ⟨old, (if_neg hid).trans hold, Int.le_refl _⟩

/-- Creations stay, and the clock of a row goes on. -/
theorem clock_mono {act : PollAct} (h : pollStep cfg p b s act = some s')
    (ht : s.onTime id act = true) {row : AnalysisRow}
    (hrow : AList.lookup id s.rows = some row) {old : Instant}
    (hold : AList.lookup id s.clock = some old) :
    AList.lookup id s'.created = AList.lookup id s.created ∧
      ∃ now, AList.lookup id s'.clock = some now ∧ old ≤ now := by
  cases act with
  | register id' call enqueued next createdAt =>
      obtain ⟨base, hbase, rfl⟩ := Option.map_eq_some_iff.mp h
      unfold PolledSystem.register
      split
      · next hnew =>
        have hne : id ≠ id' := by
          rintro rfl
          rw [hrow] at hnew
          cases hnew
        exact ⟨AList.lookup_insert_ne hne, old,
          (AList.lookup_insert_ne hne).trans hold, Int.le_refl _⟩
      · exact ⟨rfl, old, hold, Int.le_refl _⟩
  | claim w now token =>
      obtain ⟨job, hjob, h⟩ := Option.bind_eq_some_iff.mp h
      obtain ⟨base, hbase, rfl⟩ := Option.map_eq_some_iff.mp h
      have hclock := readClock_mono hjob ht hold
      unfold PolledSystem.claimed
      split <;> exact ⟨rfl, hclock⟩
  | load w now rng input =>
      obtain ⟨job, hjob, h⟩ := Option.bind_eq_some_iff.mp h
      split at h
      · obtain ⟨-, h⟩ := Option.ite_none_right_eq_some.mp h
        obtain ⟨base, hbase, rfl⟩ := Option.map_eq_some_iff.mp h
        have hclock := readClock_mono hjob ht hold
        exact ⟨rfl, hclock⟩
      · cases h
  | analyze w now rng retryAfter answer =>
      obtain ⟨job, hjob, h⟩ := Option.bind_eq_some_iff.mp h
      split at h
      · obtain ⟨base, hbase, rfl⟩ := Option.map_eq_some_iff.mp h
        have hclock := readClock_mono hjob ht hold
        exact ⟨rfl, hclock⟩
      · cases h
  | other act =>
      obtain ⟨-, h⟩ := Option.ite_none_right_eq_some.mp h
      obtain ⟨base, hbase, rfl⟩ := Option.map_eq_some_iff.mp h
      exact ⟨rfl, old, hold, Int.le_refl _⟩

/-- A new row starts with its creation. -/
theorem clock_new {act : PollAct} (h : pollStep cfg p b s act = some s')
    (hc : act.creates id) (hnone : AList.lookup id s.rows = none)
    {row : AnalysisRow} (hrow : AList.lookup id s'.rows = some row) :
    ∃ createdAt, AList.lookup id s'.created = some createdAt ∧
      AList.lookup id s'.clock = some createdAt := by
  obtain ⟨call, enqueued, next, createdAt, rfl⟩ := hc
  obtain ⟨base, hbase, rfl⟩ := Option.map_eq_some_iff.mp h
  have hnew : ((AList.lookup id s.rows).isNone &&
      (AList.lookup id base.base.store.rows).isSome) = true := by
    rw [hnone, Option.isNone_none, Bool.true_and, Option.isSome_iff_exists]
    refine ⟨row, ?_⟩
    rw [PolledSystem.rows, PolledSystem.register_base] at hrow
    exact hrow
  unfold PolledSystem.register
  rw [if_pos hnew]
  exact ⟨createdAt, AList.lookup_insert _, AList.lookup_insert _⟩

/-- What the second transaction of a deferral does to the next attempt. -/
theorem defer_next {w : JobRunId} {row row' : AnalysisRow}
    (h : pollStep cfg p b s (.other (.other (.work w .defer))) = some s')
    (hrow : AList.lookup id s.rows = some row)
    (hrow' : AList.lookup id s'.rows = some row') :
    row'.nextAttemptAt = row.nextAttemptAt ∨
    ∃ job reason now, AList.lookup w s.workers = some job ∧
      job.analysisId = id ∧ job.phase = .defer reason now ∧
      row'.nextAttemptAt
        = some (now + cfg.budgetRecheckSeconds * second) := by
  have h : (budgetStep cfg b s.base (.other (.work w .defer))).map s.withBase
      = some s' := h
  obtain ⟨base, hbase, rfl⟩ := Option.map_eq_some_iff.mp h
  obtain ⟨-, hbase⟩ := budgetStep_otherBase hbase
  obtain ⟨job, hjob, hbase⟩ := Option.bind_eq_some_iff.mp hbase
  obtain ⟨⟨store, job'⟩, hstep, hbase⟩ := Option.map_eq_some_iff.mp hbase
  unfold analysisWorkerStep at hstep
  dsimp only at hstep
  split at hstep
  · next reason now hp =>
    cases hstep
    have hrows : (s.withBase base).rows
        = deferAnalysis cfg s.rows job.analysisId reason now := by
      rw [show (s.withBase base).rows = base.base.store.rows from rfl, ← hbase]
      rfl
    rw [hrows, deferAnalysis, Table.lookup_modify] at hrow'
    split at hrow'
    · next hid =>
      rw [hrow] at hrow'
      cases hrow'
      dsimp only
      split
      · exact .inr ⟨job, reason, now, hjob, hid.symm, hp, rfl⟩
      · exact .inl rfl
    · rw [hrow] at hrow'
      cases hrow'
      exact .inl rfl
  · cases hstep

/-- Where the schedule is kept, a waiting row is not due earlier. -/
theorem next_kept {act : PollAct} (h : pollStep cfg p b s act = some s')
    (hk : s.keepsSchedule cfg id act = true) {row row' : AnalysisRow}
    (hrow : AList.lookup id s.rows = some row)
    (hrow' : AList.lookup id s'.rows = some row')
    (hr : AnalysisKept act.defers row row') (hs : row'.status = .retryWait)
    (hwait : row.status = .retryWait) {t t' : Instant}
    (ht : row.nextAttemptAt = some t) (ht' : row'.nextAttemptAt = some t') :
    t ≤ t' := by
  rcases hr.next with hnext | hend | ⟨w, rfl⟩
  · rw [hnext, ht] at ht'
    cases ht'
    exact Int.le_refl _
  · rw [hs] at hend
    cases hend
  · rcases defer_next h hrow hrow' with hnext | ⟨job, reason, now, hjob, hid, hp,
      hnext⟩
    · rw [hnext, ht] at ht'
      cases ht'
      exact Int.le_refl _
    · obtain ⟨id', phase⟩ := job
      cases hid
      cases hp
      rw [hnext] at ht'
      cases ht'
      simp only [PolledSystem.keepsSchedule, hjob, hrow, hwait, ht, ne_eq,
        not_true_eq_false, decide_false, Bool.false_or, Option.all_some,
        decide_eq_true_eq] at hk
      exact hk

end Clock

/-! ## The invariant -/

/-- A row and its clock, after `k` refunds. -/
structure RowSpaced (p : RetrySchedule) (k : Nat) (row : AnalysisRow)
    (createdAt now : Instant) : Prop where
  begun : createdAt ≤ now
  pending : row.status = .pending → k = 0
  processing : row.status = .processing → createdAt + p.waits k ≤ now
  retryWait : row.status = .retryWait →
    ∀ t, row.nextAttemptAt = some t → createdAt + p.waits k ≤ t

/-- A retry that a worker is about to write was decided late enough. -/
def RetrySpaced (cfg : AnalysisSettings) (p : RetrySchedule) (k : Nat)
    (createdAt : Instant) (o : AnalysisOutcome) : Prop :=
  ∀ code next refund, o = .retry code next refund →
    ∃ t, createdAt + p.waits k ≤ t ∧ t ≤ next ∧
      (refund = true → t < createdAt + cfg.qaReadyDeadlineSeconds * second ∧
        t + p.minWait ≤ next)

/-- A row with its clock and the workers that may write to it. -/
structure SpacedAt (cfg : AnalysisSettings) (p : RetrySchedule)
    (id : AnalysisId) (s : PolledSystem) (k : Nat) (row : AnalysisRow)
    (createdAt now : Instant) : Prop where
  created : AList.lookup id s.created = some createdAt
  clock : AList.lookup id s.clock = some now
  spaced : RowSpaced p k row createdAt now
  workers : ∀ w job t o, AList.lookup w s.workers = some job →
    job.analysisId = id → job.phase = .persist t o →
    row.claimToken = some t → RetrySpaced cfg p k createdAt o

/-- **The spacing of the refunds of a row.** -/
structure PollSpaced (cfg : AnalysisSettings) (p : RetrySchedule)
    (id : AnalysisId) (s : PolledSystem) : Prop where
  room : ∀ k, (s.refundsOf id).length = k + 1 →
    p.waits k < cfg.qaReadyDeadlineSeconds * second
  row : ∀ row, AList.lookup id s.rows = some row → ∃ createdAt now,
    SpacedAt cfg p id s (s.refundsOf id).length row createdAt now

section Spacing

variable {cfg : AnalysisSettings} {p : RetrySchedule} {b : AnalysisBudget}
  {s s' : PolledSystem} {id : AnalysisId}

/-- A token that was drawn and is in the row was there before. -/
theorem rowToken_back {act : PollAct} (h : pollStep cfg p b s act = some s')
    {t : ClaimToken} (hdrawn : t ∈ s.base.base.store.tokens)
    {row' : AnalysisRow} (hrow' : AList.lookup id s'.rows = some row')
    (ht : row'.claimToken = some t) :
    ∃ row, AList.lookup id s.rows = some row ∧ row.claimToken = some t := by
  obtain ⟨a, ha⟩ := pollStep_base h
  rcases budgetStep_base ha with hsame | ⟨a', ha'⟩
  · rw [PolledSystem.rows, hsame] at hrow'
    exact ⟨row', hrow', ht⟩
  · have hstore := analysisStep_store ha'
    cases hold : AList.lookup id s.rows with
    | none =>
        rw [(hstore.new id row' hold hrow').2.1] at ht
        cases ht
    | some row =>
        obtain ⟨row₁, hrow₁, hc⟩ := hstore.rows id row hold
        cases hrow₁.symm.trans hrow'
        rcases hc.token ht with hkept | ⟨hfresh, -⟩
        · exact ⟨row, rfl, hkept⟩
        · exact absurd hdrawn hfresh

/-- The workers' part of the invariant, as long as nothing is refunded. -/
theorem PollSpaced.workers (h : PollSpaced cfg p id s) (hi : AccountInv cfg s)
    {act : PollAct} (hst : pollStep cfg p b s act = some s')
    (ht : s.onTime id act = true) {row' : AnalysisRow}
    (hrow' : AList.lookup id s'.rows = some row') {createdAt : Instant}
    (hcreated : AList.lookup id s'.created = some createdAt)
    {w : JobRunId} {job : AnalysisJobRun} {t : ClaimToken}
    {o : AnalysisOutcome} (hjob : AList.lookup w s'.workers = some job)
    (hid : job.analysisId = id) (hp : job.phase = .persist t o)
    (htoken : row'.claimToken = some t) :
    RetrySpaced cfg p (s.refundsOf id).length createdAt o := by
  rcases poll_decides hst hjob hp with hold | ⟨job₀, now, createdAt₀, hid₀, hdec⟩
  · have hdrawn := hi.claims.drawn _
      (hi.claims.jobs w job t hold (by rw [hp]; rfl))
    obtain ⟨row, hrow, htok⟩ := rowToken_back hst hdrawn hrow' htoken
    obtain ⟨createdAt₁, now₁, hat⟩ := h.row row hrow
    rw [(clock_mono hst ht hrow hat.clock).1, hat.created] at hcreated
    cases hcreated
    exact hat.workers w job t o hold hid hp htok
  · have hid₀ : job₀.analysisId = id := hid₀.symm.trans hid
    have hdrawn := hi.claims.drawn _
      (hi.claims.jobs w job₀ t hdec.before hdec.token)
    obtain ⟨row, hrow, htok⟩ := rowToken_back hst hdrawn hrow' htoken
    obtain ⟨createdAt₁, now₁, hat⟩ := h.row row hrow
    obtain ⟨hc, now', hn', hlater⟩ := clock_mono hst ht hrow hat.clock
    rw [hc, hat.created] at hcreated
    cases hcreated
    have hc₀ := hdec.created
    rw [hid₀, hat.created] at hc₀
    cases hc₀
    rw [hdec.clock, hid₀, AList.lookup_insert] at hn'
    cases hn'
    -- the row is under work, so its clock has the waits behind it
    have hprocessing : row.status = .processing :=
      (hi.store.row hrow).owned (by rw [htok]; rfl)
    intro code next refund ho
    obtain ⟨hnext, hrefund⟩ := hdec.scheduled code next refund ho
    refine ⟨now, Int.le_trans (hat.spaced.processing hprocessing) hlater, hnext,
      fun hr => ⟨?_, (hrefund hr).2⟩⟩
    exact Int.lt_add_of_sub_left_lt (hrefund hr).1

/-- A step without a refund, that moves the row on. -/
theorem PollSpaced.moved (h : PollSpaced cfg p id s) (hi : AccountInv cfg s)
    {act : PollAct} (hst : pollStep cfg p b s act = some s')
    (ht : s.onTime id act = true)
    (hsame : s'.refundsOf id = s.refundsOf id) {row row' : AnalysisRow}
    (hrow : AList.lookup id s.rows = some row)
    (hrow' : AList.lookup id s'.rows = some row')
    (hmove : ∀ {k createdAt old new}, RowSpaced p k row createdAt old →
      old ≤ new → AList.lookup id s'.clock = some new →
      RowSpaced p k row' createdAt new) :
    ∃ createdAt now,
      SpacedAt cfg p id s' (s'.refundsOf id).length row' createdAt now := by
  obtain ⟨createdAt, old, hat⟩ := h.row row hrow
  obtain ⟨hc, new, hn, hlater⟩ := clock_mono hst ht hrow hat.clock
  have hc := hc.trans hat.created
  rw [hsame]
  exact ⟨createdAt, new, hc, hn, hmove hat.spaced hlater hn,
    fun w job t o hjob hid hp htok =>
      h.workers hi hst ht hrow' hc hjob hid hp htok⟩

theorem RowSpaced.later {k : Nat} {row : AnalysisRow}
    {createdAt old now : Instant} (h : RowSpaced p k row createdAt old)
    (hlater : old ≤ now) : RowSpaced p k row createdAt now where
  begun := Int.le_trans h.begun hlater
  pending := h.pending
  processing hs := Int.le_trans (h.processing hs) hlater
  retryWait := h.retryWait

/-- A row that is neither waiting nor under work. -/
theorem RowSpaced.ended {k : Nat} {row : AnalysisRow}
    {createdAt now : Instant} (hbegun : createdAt ≤ now)
    (hend : row.status.terminal = true) : RowSpaced p k row createdAt now := by
  refine ⟨hbegun, fun hs => ?_, fun hs => ?_, fun hs => ?_⟩ <;>
  · rw [hs] at hend
    cases hend

/-- A row that a plain step leaves in its status. -/
theorem RowSpaced.kept {defers : Prop} {k : Nat} {row row' : AnalysisRow}
    {createdAt now : Instant} (h : RowSpaced p k row createdAt now)
    (hok : row.Ok cfg) (hr : AnalysisKept defers row row')
    (hnext : row'.status = .retryWait → row.status = .retryWait →
      ∀ t t', row.nextAttemptAt = some t → row'.nextAttemptAt = some t' →
      t ≤ t') : RowSpaced p k row' createdAt now := by
  rcases hr.status with heq | hend
  · refine ⟨h.begun, fun hs => h.pending (heq ▸ hs),
      fun hs => h.processing (heq ▸ hs), fun hs t' ht' => ?_⟩
    have hwait : row.status = .retryWait := heq ▸ hs
    obtain ⟨t, ht⟩ := Option.isSome_iff_exists.mp (hok.retryWait hwait)
    exact Int.le_trans (h.retryWait hwait t ht) (hnext hs hwait t t' ht ht')
  · exact .ended h.begun hend

theorem PollSpaced.plain (h : PollSpaced cfg p id s) (hi : AccountInv cfg s)
    {act : PollAct} (hst : pollStep cfg p b s act = some s')
    (ht : s.onTime id act = true) (hk : s.keepsSchedule cfg id act = true)
    (hplain : PlainStep act.defers act.creates s s') : PollSpaced cfg p id s' := by
  have hsame := refundsOf_congr hplain.outcomes id
  refine ⟨hsame ▸ h.room, fun row' hrow' => ?_⟩
  cases hold : AList.lookup id s.rows with
  | none =>
      obtain ⟨hcreates, -, htok, hpending, -⟩ :=
        hplain.rows.new id row' hold hrow'
      obtain ⟨createdAt, hc, hn⟩ := clock_new hst hcreates hold hrow'
      refine ⟨createdAt, createdAt, hc, hn, ⟨Int.le_refl _, fun _ => ?_,
        fun hs => ?_, fun hs => ?_⟩, fun w job t o _ _ _ htoken => ?_⟩
      · rw [hsame, (hi.claims.rowless id hold).2]
        rfl
      · rw [hpending] at hs
        cases hs
      · rw [hpending] at hs
        cases hs
      · rw [htok] at htoken
        cases htoken
  | some row =>
      obtain ⟨row₁, hrow₁, hr⟩ := hplain.rows.old id row hold
      cases hrow₁.symm.trans hrow'
      refine h.moved hi hst ht hsame hold hrow' fun hrs hlater _ => ?_
      refine (hrs.later hlater).kept (hi.store.row hold) hr ?_
      intro hs hwait t t' hnext hnext'
      exact next_kept hst hk hold hrow' hr hs hwait hnext hnext'

/-- What a claim finds: the waits of the refunds are behind it. -/
theorem RowSpaced.claimable {k : Nat} {row : AnalysisRow}
    {createdAt old now : Instant} (h : RowSpaced p k row createdAt old)
    (hlater : old ≤ now) (hc : row.claimable now cfg.maxAttempts = true) :
    createdAt + p.waits k ≤ now := by
  have hdue := (Bool.and_eq_true_iff.mp hc).2
  cases hs : row.status with
  | pending =>
      rw [h.pending hs, RetrySchedule.waits, Int.natCast_zero, Int.zero_mul,
        Int.add_zero]
      exact Int.le_trans h.begun hlater
  | processing => exact Int.le_trans (h.processing hs) hlater
  | retryWait =>
      rw [hs] at hdue
      obtain ⟨t, ht, hle⟩ := (Option.any_eq_true _ _).mp hdue
      exact Int.le_trans (h.retryWait hs t ht) (of_decide_eq_true hle)
  | completed =>
      rw [hs] at hdue
      cases hdue
  | failed =>
      rw [hs] at hdue
      cases hdue
  | skipped =>
      rw [hs] at hdue
      cases hdue

theorem PollSpaced.claim (h : PollSpaced cfg p id s) (hi : AccountInv cfg s)
    {w : JobRunId} {now : Instant} {token : ClaimToken} {job : AnalysisJobRun}
    {phase : AnalysisPhase}
    (hst : pollStep cfg p b s (.claim w now token) = some s')
    (ht : s.onTime id (.claim w now token) = true)
    (hc : ClaimStep cfg s s' w now token job phase) : PollSpaced cfg p id s' := by
  have hsame := refundsOf_congr hc.outcomes id
  refine ⟨hsame ▸ h.room, fun row' hrow' => ?_⟩
  have hother : AList.lookup id s.rows = some row' →
      ∃ createdAt now,
        SpacedAt cfg p id s' (s'.refundsOf id).length row' createdAt now :=
    fun hold => h.moved hi hst ht hsame hold hrow'
      fun hrs hlater _ => hrs.later hlater
  rcases hc.cases with ⟨-, hrows, -⟩ |
    ⟨row, n, decision, cost, hrow, hclaim, -, hrows, -⟩
  · exact hother (hrows ▸ hrow')
  · by_cases hid : id = job.analysisId
    · refine h.moved hi hst ht hsame (hid ▸ hrow) hrow' ?_
      intro k createdAt old new hrs hlater hnew
      rw [hc.clock, hid, AList.lookup_insert] at hnew
      cases hnew
      rw [hrows, hid, AList.lookup_insert] at hrow'
      cases hrow'
      obtain ⟨hs, -⟩ :=
        (row.claimed now cfg.leaseSeconds token).reserve_columns decision cost
      refine ⟨Int.le_trans hrs.begun hlater, fun hp => ?_,
        fun _ => hrs.claimable hlater hclaim, fun hp => ?_⟩
      · rw [hs] at hp
        cases hp
      · rw [hs] at hp
        cases hp
    · rw [hrows, Table.lookup_insert', if_neg hid] at hrow'
      exact hother hrow'

theorem RowSpaced.retried {k : Nat} {row : AnalysisRow}
    {createdAt now t : Instant} {code : String} {next : Instant}
    {refund : Bool} (hbegun : createdAt ≤ now)
    (hnext : createdAt + p.waits k ≤ next) :
    RowSpaced p k (row.outcome t (.retry code next refund)) createdAt now where
  begun := hbegun
  pending hs := by cases hs
  processing hs := by cases hs
  retryWait _ t' ht' := by
    cases ht'
    exact hnext

/-- **A refund** takes its wait, and was decided before the deadline. -/
theorem RetrySpaced.refund {k : Nat} {createdAt : Instant} {code : String}
    {next : Instant}
    (h : RetrySpaced cfg p k createdAt (.retry code next true)) :
    createdAt + p.waits (k + 1) ≤ next ∧
      p.waits k < cfg.qaReadyDeadlineSeconds * second := by
  obtain ⟨t, ht, -, hrefund⟩ := h code next true rfl
  obtain ⟨hearly, hnext⟩ := hrefund rfl
  constructor
  · rw [RetrySchedule.waits_succ, ← Int.add_assoc]
    exact Int.le_trans (Int.add_le_add_right ht _) hnext
  · exact Int.lt_of_add_lt_add_left (Int.lt_of_le_of_lt ht hearly)

theorem RetrySpaced.retry {k : Nat} {createdAt : Instant} {code : String}
    {next : Instant} {refund : Bool}
    (h : RetrySpaced cfg p k createdAt (.retry code next refund)) :
    createdAt + p.waits k ≤ next := by
  obtain ⟨t, ht, hnext, -⟩ := h code next refund rfl
  exact Int.le_trans ht hnext

/-- An outcome of the row itself. -/
theorem SpacedAt.written {k : Nat} {row : AnalysisRow}
    {createdAt now t : Instant} {o : AnalysisOutcome}
    (h : SpacedAt cfg p id s k row createdAt now)
    (hcreated : s'.created = s.created) (hclock : s'.clock = s.clock)
    (ho : RetrySpaced cfg p k createdAt o) :
    SpacedAt cfg p id s' (if o.refunds then k + 1 else k) (row.outcome t o)
      createdAt now := by
  have hbegun := h.spaced.begun
  refine ⟨hcreated ▸ h.created, hclock ▸ h.clock, ?_,
    fun w job t' o' _ _ _ htok => ?_⟩
  · cases o with
    | complete content => exact .ended hbegun rfl
    | fail code => exact .ended hbegun rfl
    | skip code releaseBudget => exact .ended hbegun rfl
    | retry code next refund =>
        cases refund with
        | false => exact .retried hbegun ho.retry
        | true => exact .retried hbegun ho.refund.1
  · rw [AnalysisRow.outcome_token] at htok
    cases htok

theorem PollSpaced.persist (h : PollSpaced cfg p id s) (hi : AccountInv cfg s)
    {w : JobRunId} {now : Instant} {base : BudgetSystem}
    (hst : pollStep cfg p b s (.other (.persist w now))
      = some (s.withBase base))
    (hbase : analysisStep cfg s.base.base (.work w (.persist now))
      = some base.base) : PollSpaced cfg p id (s.withBase base) := by
  obtain ⟨job, token, o, hjob, hp, -, hcases⟩ := persist_cases hbase
  have hother : (s.withBase base).refundsOf id = s.refundsOf id →
      AList.lookup id (s.withBase base).rows = AList.lookup id s.rows →
      PollSpaced cfg p id (s.withBase base) := by
    intro hsame hrows
    refine ⟨hsame ▸ h.room, fun row hrow => ?_⟩
    exact h.moved hi hst rfl hsame (hrows ▸ hrow) hrow
      fun hrs hlater _ => hrs.later hlater
  rcases hcases with ⟨-, hrows, houtcomes⟩ | ⟨row, hrow, htok, -, hrows, houtcomes⟩
  · exact hother (refundsOf_congr houtcomes id) (congrArg (AList.lookup id) hrows)
  have hrows : (s.withBase base).rows
      = AList.insert job.analysisId (row.outcome now o) s.rows := hrows
  have hrefunds : (s.withBase base).refundsOf id = _ :=
    refundsOf_written houtcomes id
  by_cases hid : job.analysisId = id
  · obtain ⟨createdAt, old, hat⟩ := h.row row (hid ▸ hrow)
    have ho := hat.workers w job token o hjob hid hp htok
    have hlength : ((s.withBase base).refundsOf id).length =
        if o.refunds then (s.refundsOf id).length + 1
        else (s.refundsOf id).length := by
      rw [hrefunds]
      by_cases hr : o.refunds = true
      · rw [if_pos ⟨hid, hr⟩, if_pos hr, List.length_cons]
      · rw [if_neg fun hboth => hr hboth.2, if_neg hr]
    refine ⟨fun k hk => ?_, fun row' hrow' => ?_⟩
    · rw [hlength] at hk
      cases o with
      | retry code next refund =>
          cases refund with
          | false => exact h.room k hk
          | true =>
              cases Nat.succ.inj hk
              exact ho.refund.2
      | complete content => exact h.room k hk
      | fail code => exact h.room k hk
      | skip code releaseBudget => exact h.room k hk
    · rw [hrows, ← hid, AList.lookup_insert] at hrow'
      cases hrow'
      rw [hlength]
      exact ⟨createdAt, old, hat.written rfl rfl ho⟩
  · refine hother (hrefunds.trans (if_neg fun hboth => hid hboth.1)) ?_
    rw [hrows]
    exact AList.lookup_insert_ne (Ne.symm hid)

/-- **Every step keeps the spacing**, if it reads the clock in time and
brings no retry forward. -/
theorem PollSpaced.step (h : PollSpaced cfg p id s) (hi : AccountInv cfg s)
    {act : PollAct} (hst : pollStep cfg p b s act = some s')
    (ht : s.onTime id act = true) (hk : s.keepsSchedule cfg id act = true) :
    PollSpaced cfg p id s' := by
  rcases pollStep_cases hi.claims hst with
    ⟨w, now, token, job, phase, rfl, hc⟩ | ⟨w, now, base, rfl, rfl, hbase⟩ |
    hplain
  · exact h.claim hi hst ht hc
  · exact h.persist hi hst hbase
  · exact h.plain hi hst ht hk hplain

theorem PollSpaced.start : PollSpaced cfg p id {} where
  room k hk := by cases hk
  row row hrow := by
    rw [rows_start] at hrow
    cases hrow

theorem spaced_run
    (h : Run (pollStep cfg p b) (fun s act =>
      s.onTime id act = true ∧ s.keepsSchedule cfg id act = true) {} s) :
    PollSpaced cfg p id s := by
  have hboth := h.inv (P := fun s => AccountInv cfg s ∧ PollSpaced cfg p id s)
    (fun t act t' hi hc hst =>
      ⟨hi.1.step hst, hi.2.step hi.1 hst hc.1 hc.2⟩) ⟨.start, .start⟩
  exact hboth.2

/-! ### The bound -/

theorem RetrySchedule.min_pos (p : RetrySchedule) :
    0 < Nat.min p.base p.cap :=
  Nat.lt_min.mpr ⟨p.basePos, Nat.lt_of_lt_of_le p.basePos p.baseLe⟩

theorem rat_le_div {a b c : Rat} (hc : 0 < c) (h : a * c ≤ b) : a ≤ b / c := by
  apply Rat.le_of_mul_le_mul_right _ hc
  rw [Rat.div_mul_cancel (Rat.ne_of_gt hc)]
  exact h

/-- Waits that fit before the deadline. -/
theorem waits_room {k : Nat}
    (h : p.waits k < cfg.qaReadyDeadlineSeconds * second) :
    (k : Rat) * (3 / 4 * (Nat.min p.base p.cap : Nat))
      ≤ cfg.qaReadyDeadlineSeconds := by
  unfold RetrySchedule.waits RetrySchedule.minWait second at h
  generalize Nat.min p.base p.cap = m at h ⊢
  have h := Rat.intCast_lt_intCast.mpr h
  rw [Rat.intCast_mul, Rat.intCast_mul, Rat.intCast_mul] at h
  have hk : (((k : Nat) : Int) : Rat) = k := rfl
  have hm : (((m : Nat) : Int) : Rat) = m := rfl
  have hd : ((cfg.qaReadyDeadlineSeconds : Int) : Rat)
      = cfg.qaReadyDeadlineSeconds := rfl
  rw [hk, hm, hd] at h
  grind

theorem PollSpaced.refunds_le (h : PollSpaced cfg p id s) :
    ((s.refundsOf id).length : Rat) ≤ cfg.qaReadyDeadlineSeconds
      / (3 / 4 * (Nat.min p.base p.cap : Nat)) + 1 := by
  have hspan : (0 : Rat) < 3 / 4 * (Nat.min p.base p.cap : Nat) :=
    Rat.mul_pos (by grind) (Rat.natCast_pos.mpr p.min_pos)
  cases hn : (s.refundsOf id).length with
  | zero =>
      have hdeadline : (0 : Rat) ≤ cfg.qaReadyDeadlineSeconds :=
        Rat.natCast_nonneg
      have hnonneg : (0 : Rat) ≤ cfg.qaReadyDeadlineSeconds
          / (3 / 4 * (Nat.min p.base p.cap : Nat)) :=
        rat_le_div hspan (by rw [Rat.zero_mul]; exact hdeadline)
      exact Rat.add_nonneg hnonneg (by decide)
  | succ k =>
      have hle := rat_le_div hspan (waits_room (h.room k hn))
      rw [Rat.natCast_add]
      exact Rat.add_le_add_right.mpr hle

end Spacing

/-- **The attempts of an analysis**, for any number of workers and sweepers
in any order. In every run: a row's claims less its applied refunds are its
attempts and within the maximum, so are the evaluations that did not end in
an applied refund, and what is refunded was evaluated before the deadline.
In every run whose times do not decrease and in which no deferral brings a
scheduled retry forward, the refunds are no more than fit before the
deadline. -/
theorem analysis_attempts (cfg : AnalysisSettings) (p : RetrySchedule)
    (b : AnalysisBudget) (id : AnalysisId) :
    (∀ s, Run (pollStep cfg p b) (fun _ _ => True) {} s →
      ∀ row, AList.lookup id s.rows = some row →
        ((s.claimsOf id).length : Int) - (s.refundsOf id).length
          = row.attemptCount ∧
        row.attemptCount ≤ cfg.maxAttempts ∧
        (s.spentOn id).length ≤ cfg.maxAttempts ∧
        (∀ r ∈ s.refundsOf id, ∃ e ∈ s.evaluations,
          e.analysisId = id ∧ e.token = r.2.1) ∧
        ∀ e ∈ s.evaluations, e.analysisId = id → s.refunded e = true →
          e.elapsed < cfg.qaReadyDeadlineSeconds * second) ∧
    ∀ s, Run (pollStep cfg p b) (fun s act =>
        s.onTime id act = true ∧ s.keepsSchedule cfg id act = true) {} s →
      ((s.refundsOf id).length : Rat) ≤ cfg.qaReadyDeadlineSeconds
        / (3 / 4 * (Nat.min p.base p.cap : Nat)) + 1 := by
  refine ⟨fun s hrun row hrow => ?_, fun s hrun => (spaced_run hrun).refunds_le⟩
  have hi := accountInv_run hrun
  have hcount := hi.claims.count id row hrow
  have hspent := hi.spent_le hrow
  have hmax := (hi.store.row hrow).attempts
  refine ⟨by omega, hmax, by omega, fun r hr => ?_,
    fun e he _ hr => hi.refund_inTime he hr⟩
  obtain ⟨hr, hkeep⟩ := List.mem_filter.mp hr
  obtain ⟨hid, hrefund⟩ := Bool.and_eq_true_iff.mp hkeep
  obtain ⟨e, he, heid, htok, -⟩ := (hi.evaluations.applied r hr hrefund).2
  exact ⟨e, he, heid.trans (of_decide_eq_true hid), htok⟩

/-! ### A quarter of an hour that is cut short -/

def noJitter : Jitter := ⟨0, by decide, by decide⟩

/-- Retries a quarter of an hour apart, as the longest by default: three
refunds fit before the deadline. -/
def quarterHourly : RetrySchedule where
  base := 900

/-- A job takes the row, and finds that the result is not ready. -/
def asks (w : JobRunId) (now : Instant) (token : ClaimToken) : List PollAct :=
  [.claim w now token, .load w now noJitter .ready,
    .other (.other (.work w (.renew now))),
    .analyze w now noJitter none (.failed .qaNotReady "qa_not_ready"),
    .other (.persist w now)]

def askedOnce : List PollAct :=
  ([.register 2 ⟨8, 4, 2, some 8⟩ none none 0,
    .other (.other (.deliver 2 2))] : List PollAct) ++ asks 2 second 20

theorem analysis_attempts_askedOnce :
    ∃ s row, runActs (pollStep {} quarterHourly roomForOne) {} askedOnce
        = some s ∧
      AList.lookup 2 s.rows = some row ∧ (s.refundsOf 2).length = 1 ∧
      ((s.claimsOf 2).length : Int) - (s.refundsOf 2).length
        = row.attemptCount ∧
      (1 : Rat) ≤ 1800 / (3 / 4 * 900) + 1 := by
  have hany : (runActs (pollStep {} quarterHourly roomForOne) {} askedOnce).any
      (fun s => decide ((AList.lookup 2 s.rows).isSome = true ∧
        (s.refundsOf 2).length = 1)) = true := by
    decide +kernel
  have hkept : holdsAlong (pollStep {} quarterHourly roomForOne) (fun s act =>
      s.onTime 2 act && s.keepsSchedule {} 2 act) {} askedOnce = true := by
    decide +kernel
  obtain ⟨s, hs, hdec⟩ := (Option.any_eq_true _ _).mp hany
  obtain ⟨hrow, hone⟩ := of_decide_eq_true hdec
  obtain ⟨row, hrow⟩ := Option.isSome_iff_exists.mp hrow
  obtain ⟨s', hs', hrun⟩ := Run.of_holdsAlong _ _ _ _ hkept
  cases hs.symm.trans hs'
  obtain ⟨hall, hspaced⟩ := analysis_attempts {} quarterHourly roomForOne 2
  have hcount := (hall s (Run.of_runActs hs) row hrow).1
  have hbound := hspaced s (hrun.mono fun _ _ h => Bool.and_eq_true_iff.mp h)
  rw [hone] at hbound
  exact ⟨s, row, hs, hrow, hone, hcount, hbound⟩

/-- A budget that is spent is looked at again after a minute. -/
def minuteRecheck : AnalysisSettings where
  budgetRecheckSeconds := 60

/-- Two jobs find the budget spent, and are stopped for a minute before they
defer their row. The budget is given back and another job takes the row.
Twice the row is told to wait for a quarter of an hour, and twice one of the
two writes the time that it had in mind. -/
def broughtForward : List PollAct :=
  ([.register 1 ⟨7, 3, 2, some 7⟩ none none 0,
    .register 2 ⟨8, 4, 2, some 8⟩ none none 0,
    .other (.other (.deliver 1 1)), .other (.other (.deliver 2 2)),
    .other (.other (.deliver 3 2)), .other (.other (.deliver 4 2)),
    .other (.other (.deliver 5 2)), .other (.other (.deliver 6 2)),
    .other (.other (.deliver 7 2)), .claim 1 0 10, .claim 2 0 20,
    .claim 3 0 30, .load 1 0 noJitter (.skip "empty_conversation"),
    .other (.readHeld 1), .other (.persist 1 0)] : List PollAct) ++
  asks 4 second 40 ++ ([.other (.other (.work 2 .defer))] : List PollAct) ++
  asks 5 (60 * second) 50 ++
  ([.other (.other (.work 3 .defer))] : List PollAct) ++
  asks 6 (61 * second) 60 ++ asks 7 (736 * second) 70

/-- Four refunds before the deadline, with the times in order. -/
theorem analysis_attempts_broughtForward :
    ∃ s, runActs (pollStep minuteRecheck quarterHourly roomForOne) {}
        broughtForward = some s ∧
      holdsAlong (pollStep minuteRecheck quarterHourly roomForOne)
        (fun s act => s.onTime 2 act) {} broughtForward = true ∧
      (s.refundsOf 2).length = 4 ∧
      ¬ ((s.refundsOf 2).length : Rat) ≤ minuteRecheck.qaReadyDeadlineSeconds
        / (3 / 4 * (Nat.min quarterHourly.base quarterHourly.cap : Nat)) + 1 := by
  have hany : (runActs (pollStep minuteRecheck quarterHourly roomForOne) {}
      broughtForward).any (fun s => decide ((s.refundsOf 2).length = 4))
      = true := by
    decide +kernel
  obtain ⟨s, hs, hdec⟩ := (Option.any_eq_true _ _).mp hany
  have hfour := of_decide_eq_true hdec
  refine ⟨s, hs, by decide +kernel, hfour, ?_⟩
  rw [hfour]
  decide +kernel

end CallingAgent
