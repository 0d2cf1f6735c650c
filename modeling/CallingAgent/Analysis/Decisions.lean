import CallingAgent.Analysis.BudgetLedger
import CallingAgent.Analysis.Polling

/-!
# Decisions — what a worker is going to write

A worker decides once: when it has loaded its input, or when it has
evaluated an answer. A retry it decides on is not put before its clock,
and a refund is decided before the deadline and waits.
-/

namespace CallingAgent

open Lib

/-! ## Workers and their tokens -/

/-- Where no token is drawn, a worker that has one had it before. -/
theorem WorkersStep.token_kept {s s' : AnalysisSystem} (h : WorkersStep s s')
    (htokens : s'.store.tokens = s.store.tokens) {w : JobRunId}
    {job' : AnalysisJobRun} {t : ClaimToken}
    (hjob : AList.lookup w s'.workers = some job')
    (ht : job'.phase.token = some t) :
    ∃ job, AList.lookup w s.workers = some job ∧
      job'.analysisId = job.analysisId ∧ job.phase.token = some t ∧
      (job'.phase.decided = false → job.phase.decided = false) := by
  rcases h.back w job' hjob with hold | ⟨job, hold, hj⟩ | ⟨-, hp⟩
  · exact ⟨job', hold, rfl, ht, id⟩
  · refine ⟨job, hold, hj.analysisId, ?_, fun hd => ?_⟩
    · rcases hj.token t ht with hown | ⟨hfresh, hnew⟩
      · exact hown
      · rw [htokens] at hnew
        exact absurd hnew hfresh
    · cases hdec : job.phase.decided with
      | false => rfl
      | true =>
          rw [hj.decided hdec] at hd
          cases hd
  · rw [hp] at ht
    cases ht

/-- Where the decision of a worker comes from: the input it loaded, or the
answer it evaluated. -/
inductive Decides (cfg : AnalysisSettings) (job : AnalysisJobRun)
    (t : ClaimToken) (o : AnalysisOutcome) : AnalysisCommit → Prop
  | skip {now elapsed delay : Int} {n : Int} {code code' : String} :
      job.phase = .load t n → o = .skip code' true →
      Decides cfg job t o (.load now elapsed delay (.skip code))
  | defer {now elapsed delay : Int} {n : Int} {kind : FailureKind}
      {code : String} : job.phase = .load t n →
      o = persistFailure cfg now elapsed delay n kind code →
      Decides cfg job t o (.load now elapsed delay (.defer kind code))
  | result {now elapsed delay : Int} {n : Int} {content : AnalysisContent} :
      job.phase = .analyze t n → o = .complete content →
      Decides cfg job t o (.analyze now elapsed delay (.result content))
  | failed {now elapsed delay : Int} {n : Int} {kind : FailureKind}
      {code : String} : job.phase = .analyze t n →
      o = persistFailure cfg now elapsed delay n kind code →
      Decides cfg job t o (.analyze now elapsed delay (.failed kind code))

theorem handleUnclaimed_undecided (cfg : AnalysisSettings)
    (row : Option AnalysisRow) (t : ClaimToken) (o : AnalysisOutcome) :
    handleUnclaimed cfg row ≠ .persist t o := by
  intro h
  have htoken := handleUnclaimed_token cfg row
  rw [h] at htoken
  cases htoken

theorem worker_decides {cfg : AnalysisSettings} {st st' : AnalysisStore}
    {job job' : AnalysisJobRun} {commit : AnalysisCommit} {t : ClaimToken}
    {o : AnalysisOutcome}
    (h : analysisWorkerStep cfg st job commit = some (st', job'))
    (hp : job'.phase = .persist t o) : Decides cfg job t o commit := by
  cases commit with
  | claim now token decision cost =>
      obtain ⟨-, h⟩ := Option.ite_none_right_eq_some.mp h
      dsimp only at h
      split at h <;> cases h <;> cases hp
  | defer =>
      unfold analysisWorkerStep at h
      dsimp only at h
      split at h <;> cases h
      cases hp
  | readUnclaimed =>
      obtain ⟨-, h⟩ := Option.ite_none_right_eq_some.mp h
      cases h
      exact (handleUnclaimed_undecided _ _ _ _ hp).elim
  | finalize now =>
      obtain ⟨-, h⟩ := Option.ite_none_right_eq_some.mp h
      cases h
      cases hp
  | load now elapsed delay input =>
      unfold analysisWorkerStep at h
      dsimp only at h
      split at h
      · next token n hphase =>
        split at h <;> cases h <;> cases hp
        · exact .skip hphase rfl
        · exact .defer hphase rfl
      · cases h
  | renew now =>
      unfold analysisWorkerStep at h
      dsimp only at h
      split at h
      · cases h
        dsimp only [AnalysisJobRun.goto] at hp
        split at hp <;> cases hp
      · cases h
  | analyze now elapsed delay answer =>
      unfold analysisWorkerStep at h
      dsimp only at h
      split at h
      · next token n hphase =>
        split at h <;> cases h <;> cases hp
        · exact .result hphase rfl
        · exact .failed hphase rfl
      · cases h
  | persist now =>
      unfold analysisWorkerStep at h
      dsimp only at h
      split at h
      · split at h <;> cases h <;> cases hp
      · cases h
  | crash =>
      cases h
      cases hp

/-- A worker that has decided had done so before, or does so now. -/
theorem decides_back {cfg : AnalysisSettings} {s s' : AnalysisSystem}
    {act : AnalysisAct} {w : JobRunId} {job' : AnalysisJobRun}
    {t : ClaimToken} {o : AnalysisOutcome}
    (h : analysisStep cfg s act = some s')
    (hjob : AList.lookup w s'.workers = some job')
    (hp : job'.phase = .persist t o) :
    AList.lookup w s.workers = some job' ∨
    ∃ job commit, act = .work w commit ∧
      AList.lookup w s.workers = some job ∧
      job'.analysisId = job.analysisId ∧ Decides cfg job t o commit := by
  cases act with
  | register id call enqueued next =>
      obtain ⟨rows, -, rfl⟩ := Option.map_eq_some_iff.mp h
      exact .inl hjob
  | deliver w' id =>
      obtain ⟨-, h⟩ := Option.ite_none_right_eq_some.mp h
      cases h
      dsimp only at hjob
      rw [Table.lookup_insert'] at hjob
      split at hjob
      · cases hjob
        cases hp
      · exact .inl hjob
  | work w' commit =>
      by_cases hw : w = w'
      · subst hw
        obtain ⟨job, hold, h⟩ := Option.bind_eq_some_iff.mp h
        obtain ⟨⟨store, job₁⟩, hstep, rfl⟩ := Option.map_eq_some_iff.mp h
        dsimp only at hjob
        rw [AList.lookup_insert] at hjob
        cases hjob
        exact .inr ⟨job, commit, rfl, hold, (jobStep_work hstep).analysisId,
          worker_decides hstep hp⟩
      · exact .inl ((work_others h hw).symm.trans hjob)
  | sweepFinalize now locked =>
      cases h
      exact .inl hjob
  | sweepPublish now published =>
      cases h
      exact .inl hjob

/-! ## Decisions and their times -/

/-- What the decision of a failure at `now` promises: a retry is not put
before it, and a refund is decided before the deadline and waits. -/
def Scheduled (cfg : AnalysisSettings) (p : RetrySchedule)
    (now elapsed : Int) (o : AnalysisOutcome) : Prop :=
  ∀ code next refund, o = .retry code next refund →
    now ≤ next ∧ (refund = true →
      elapsed < cfg.qaReadyDeadlineSeconds * second ∧ now + p.minWait ≤ next)

theorem persistFailure_scheduled (cfg : AnalysisSettings) (p : RetrySchedule)
    (now elapsed n : Int) (kind : FailureKind) (code : String)
    (retryAfter : Option Int) (rng : Jitter) :
    Scheduled cfg p now elapsed (persistFailure cfg now elapsed
      (p.delay elapsed n kind retryAfter rng) n kind code) := by
  intro code' next refund h
  have hlater := p.delay_nonneg elapsed n kind retryAfter rng
  have hwait := p.delay_qaNotReady elapsed n retryAfter rng
  unfold persistFailure at h
  split at h
  · cases h
  · split at h
    · cases h
    · next hearly =>
      cases h
      exact ⟨Int.le_add_of_nonneg_right hlater,
        fun _ => ⟨Int.not_le.mp hearly, Int.add_le_add_left hwait now⟩⟩
  · split at h
    · cases h
    · cases h
      exact ⟨Int.le_add_of_nonneg_right hlater, fun hr => by cases hr⟩

/-- An input that was loaded is not refunded. -/
theorem persistFailure_loaded {cfg : AnalysisSettings}
    {now elapsed delay n : Int} {kind : FailureKind} {code : String}
    (h : (AnalysisInput.defer kind code).loaded = true) :
    (persistFailure cfg now elapsed delay n kind code).refunds = false := by
  cases kind with
  | transient =>
      simp only [persistFailure]
      split <;> rfl
  | permanent =>
      simp only [persistFailure]
      split <;> rfl
  | rateLimited => cases h
  | invalidOutput => cases h
  | qaNotReady => cases h
  | qaUnavailable => cases h

/-- A worker decides: it reads its clock, and a refund is decided by an
evaluation. -/
structure Decision (cfg : AnalysisSettings) (p : RetrySchedule)
    (s s' : PolledSystem) (w : JobRunId) (job : AnalysisJobRun)
    (t : ClaimToken) (o : AnalysisOutcome) (now createdAt : Instant) :
    Prop where
  before : AList.lookup w s.workers = some job
  token : job.phase.token = some t
  undecided : job.phase.decided = false
  created : AList.lookup job.analysisId s.created = some createdAt
  clock : s'.clock = AList.insert job.analysisId now s.clock
  scheduled : Scheduled cfg p now (now - createdAt) o
  evaluated : o.refunds = true → s'.evaluations
    = ⟨job.analysisId, t, now - createdAt⟩ :: s.evaluations

section Decisions

variable {cfg : AnalysisSettings} {p : RetrySchedule} {b : AnalysisBudget}
  {s s' : PolledSystem} {w : JobRunId} {job' : AnalysisJobRun}
  {t : ClaimToken} {o : AnalysisOutcome}

theorem load_decides {w' : JobRunId} {now : Instant} {rng : Jitter}
    {input : AnalysisInput}
    (h : pollStep cfg p b s (.load w' now rng input) = some s')
    (hjob : AList.lookup w s'.workers = some job')
    (hp : job'.phase = .persist t o) :
    AList.lookup w s.workers = some job' ∨
    ∃ job now createdAt, job'.analysisId = job.analysisId ∧
      Decision cfg p s s' w job t o now createdAt := by
  obtain ⟨job₁, hjob₁, h⟩ := Option.bind_eq_some_iff.mp h
  split at h
  · next token n createdAt hphase hcreated =>
    obtain ⟨hloaded, h⟩ := Option.ite_none_right_eq_some.mp h
    obtain ⟨base, hbase, rfl⟩ := Option.map_eq_some_iff.mp h
    obtain ⟨-, hbase⟩ := budgetStep_otherBase hbase
    rcases decides_back hbase hjob hp with hold | ⟨job, commit, hact, hold, hid,
      hd⟩
    · exact .inl hold
    · cases hact
      cases hjob₁.symm.trans hold
      refine .inr ⟨job₁, now, createdAt, hid, hold, ?_, ?_, hcreated, rfl, ?_, ?_⟩
      · cases hd with
        | skip hphase _ => rw [hphase]; rfl
        | defer hphase _ => rw [hphase]; rfl
      · rw [hphase]
        rfl
      · cases hd with
        | skip _ ho =>
            intro code next refund heq
            rw [ho] at heq
            cases heq
        | defer hphase' ho =>
            cases hphase.symm.trans hphase'
            rw [ho]
            exact persistFailure_scheduled cfg p now _ n _ _ none rng
      · intro hrefund
        cases hd with
        | skip _ ho =>
            rw [ho] at hrefund
            cases hrefund
        | defer _ ho =>
            rw [ho, persistFailure_loaded hloaded] at hrefund
            cases hrefund
  · cases h

theorem analyze_decides {w' : JobRunId} {now : Instant} {rng : Jitter}
    {retryAfter : Option Int} {answer : AnalysisAnswer}
    (h : pollStep cfg p b s (.analyze w' now rng retryAfter answer) = some s')
    (hjob : AList.lookup w s'.workers = some job')
    (hp : job'.phase = .persist t o) :
    AList.lookup w s.workers = some job' ∨
    ∃ job now createdAt, job'.analysisId = job.analysisId ∧
      Decision cfg p s s' w job t o now createdAt := by
  obtain ⟨job₁, hjob₁, h⟩ := Option.bind_eq_some_iff.mp h
  split at h
  · next token n createdAt hphase hcreated =>
    obtain ⟨base, hbase, rfl⟩ := Option.map_eq_some_iff.mp h
    obtain ⟨-, hbase⟩ := budgetStep_otherBase hbase
    rcases decides_back hbase hjob hp with hold | ⟨job, commit, hact, hold, hid,
      hd⟩
    · exact .inl hold
    · cases hact
      cases hjob₁.symm.trans hold
      have htoken : t = token := by
        cases hd with
        | result hphase' _ => cases hphase.symm.trans hphase'; rfl
        | failed hphase' _ => cases hphase.symm.trans hphase'; rfl
      subst htoken
      refine .inr ⟨job₁, now, createdAt, hid, hold, ?_, ?_, hcreated, rfl, ?_,
        fun _ => rfl⟩
      · rw [hphase]
        rfl
      · rw [hphase]
        rfl
      · cases hd with
        | result _ ho =>
            intro code next refund heq
            rw [ho] at heq
            cases heq
        | failed hphase' ho =>
            cases hphase.symm.trans hphase'
            rw [ho]
            exact persistFailure_scheduled cfg p now _ n _ _ retryAfter rng
  · cases h

/-- **Every decision** is one that was made before, or is made now. -/
theorem poll_decides {act : PollAct} (h : pollStep cfg p b s act = some s')
    (hjob : AList.lookup w s'.workers = some job')
    (hp : job'.phase = .persist t o) :
    AList.lookup w s.workers = some job' ∨
    ∃ job now createdAt, job'.analysisId = job.analysisId ∧
      Decision cfg p s s' w job t o now createdAt := by
  cases act with
  | register id call enqueued next createdAt =>
      obtain ⟨base, hbase, rfl⟩ := Option.map_eq_some_iff.mp h
      rw [PolledSystem.workers, PolledSystem.register_base] at hjob
      rcases decides_back (budgetStep_otherBase hbase).2 hjob hp with
        hold | ⟨_, _, hact, -⟩
      · exact .inl hold
      · cases hact
  | claim w' now token =>
      obtain ⟨job, -, h⟩ := Option.bind_eq_some_iff.mp h
      obtain ⟨base, hbase, rfl⟩ := Option.map_eq_some_iff.mp h
      obtain ⟨decision, cost, hbase⟩ := budgetStep_claimBase hbase
      have hjob : AList.lookup w (s.claimed base job.analysisId token).base.base.workers
        = some job' := hjob
      rw [PolledSystem.claimed_base] at hjob
      rcases decides_back hbase hjob hp with hold | ⟨_, _, hact, -, -, hd⟩
      · exact .inl hold
      · cases hact
        cases hd
  | load w' now rng input => exact load_decides h hjob hp
  | analyze w' now rng retryAfter answer => exact analyze_decides h hjob hp
  | other act =>
      obtain ⟨hb, h⟩ := Option.ite_none_right_eq_some.mp h
      obtain ⟨base, hbase, rfl⟩ := Option.map_eq_some_iff.mp h
      have hjob : AList.lookup w base.base.workers = some job' := hjob
      cases act with
      | claim w' now token => cases hb
      | readHeld w' =>
          rw [budgetStep_readHeldBase hbase] at hjob
          exact .inl hjob
      | persist w' now =>
          rcases decides_back (budgetStep_persistBase hbase) hjob hp with
            hold | ⟨_, _, hact, -, -, hd⟩
          · exact .inl hold
          · cases hact
            cases hd
      | other act =>
          rcases decides_back (budgetStep_otherBase hbase).2 hjob hp with
            hold | ⟨_, _, rfl, -, -, hd⟩
          · exact .inl hold
          · cases hd <;> cases hb

end Decisions

end CallingAgent
