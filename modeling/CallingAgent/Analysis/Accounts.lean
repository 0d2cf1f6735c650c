import CallingAgent.Analysis.Decisions

/-!
# The accounts of an analysis — claims and refunds

A claim takes one attempt and an applied refund gives it back, so the
attempts of a row are the difference. A token was drawn for one claim, by
one worker, and stays with it.
-/

namespace CallingAgent

open Lib

/-! ## The accounts of the claims -/

/-- **What the claims come to.** The attempts of a row are its claims less
its refunds; and a token was drawn for one claim, by one worker. -/
structure ClaimBooks (s : PolledSystem) : Prop where
  count : ∀ id row, AList.lookup id s.rows = some row →
    ((s.claimsOf id).length : Int) = row.attemptCount + (s.refundsOf id).length
  rowless : ∀ id, AList.lookup id s.rows = none →
    s.claimsOf id = [] ∧ s.refundsOf id = []
  once : (s.claims.map (·.2)).Nodup
  drawn : ∀ e ∈ s.claims, e.2 ∈ s.base.base.store.tokens
  rowDrawn : ∀ id row t, AList.lookup id s.rows = some row →
    row.claimToken = some t → t ∈ s.base.base.store.tokens
  jobs : ∀ w job t, AList.lookup w s.workers = some job →
    job.phase.token = some t → (job.analysisId, t) ∈ s.claims
  owner : ∀ w w' job job' t, AList.lookup w s.workers = some job →
    AList.lookup w' s.workers = some job' → job.phase.token = some t →
    job'.phase.token = some t → w = w'

section Claims

variable {cfg : AnalysisSettings} {s s' : PolledSystem}

theorem claimsOf_congr (h : s'.claims = s.claims) (id : AnalysisId) :
    s'.claimsOf id = s.claimsOf id := by
  rw [PolledSystem.claimsOf, h, PolledSystem.claimsOf]

theorem refundsOf_congr
    (h : s'.base.base.store.outcomes = s.base.base.store.outcomes)
    (id : AnalysisId) : s'.refundsOf id = s.refundsOf id := by
  rw [PolledSystem.refundsOf, h, PolledSystem.refundsOf]

theorem refundsOf_written {id : AnalysisId} {token : ClaimToken}
    {o : AnalysisOutcome} (h : s'.base.base.store.outcomes
      = (id, token, o) :: s.base.base.store.outcomes) (id' : AnalysisId) :
    s'.refundsOf id' =
      if id = id' ∧ o.refunds = true then (id, token, o) :: s.refundsOf id'
      else s.refundsOf id' := by
  rw [PolledSystem.refundsOf, h, List.filter_cons]
  simp only [Bool.and_eq_true, decide_eq_true_eq]
  rfl

/-- Workers that draw no token stay the only ones that have theirs. -/
theorem ClaimBooks.workers (h : ClaimBooks s)
    (hw : WorkersStep s.base.base s'.base.base)
    (htokens : s'.base.base.store.tokens = s.base.base.store.tokens)
    (hclaims : s'.claims = s.claims) :
    (∀ w job t, AList.lookup w s'.workers = some job →
      job.phase.token = some t → (job.analysisId, t) ∈ s'.claims) ∧
    ∀ w w' job job' t, AList.lookup w s'.workers = some job →
      AList.lookup w' s'.workers = some job' → job.phase.token = some t →
      job'.phase.token = some t → w = w' := by
  refine ⟨fun w job t hjob ht => ?_, fun w₁ w₂ j₁ j₂ t h₁ h₂ ht₁ ht₂ => ?_⟩
  · obtain ⟨job₀, hold, hid, htok, -⟩ := hw.token_kept htokens hjob ht
    rw [hclaims, hid]
    exact h.jobs w job₀ t hold htok
  · obtain ⟨j₁', hold₁, -, htok₁, -⟩ := hw.token_kept htokens h₁ ht₁
    obtain ⟨j₂', hold₂, -, htok₂, -⟩ := hw.token_kept htokens h₂ ht₂
    exact h.owner w₁ w₂ j₁' j₂' t hold₁ hold₂ htok₁ htok₂

/-- A step that neither claims nor writes an outcome. -/
theorem ClaimBooks.kept {defers : Prop} {creates : AnalysisId → Prop}
    (h : ClaimBooks s) (hw : WorkersStep s.base.base s'.base.base)
    (hr : AnalysesKept defers creates s.rows s'.rows)
    (htokens : s'.base.base.store.tokens = s.base.base.store.tokens)
    (houtcomes : s'.base.base.store.outcomes = s.base.base.store.outcomes)
    (hclaims : s'.claims = s.claims) : ClaimBooks s' := by
  obtain ⟨hjobs, howner⟩ := h.workers hw htokens hclaims
  refine ⟨fun id row' hrow' => ?_, fun id hnone => ?_, hclaims ▸ h.once,
    fun e he => ?_, fun id row' t hrow' ht => ?_, hjobs, howner⟩
  · rw [claimsOf_congr hclaims, refundsOf_congr houtcomes]
    cases hold : AList.lookup id s.rows with
    | none =>
        obtain ⟨hc, hf⟩ := h.rowless id hold
        rw [hc, hf, (hr.new id row' hold hrow').2.2.2.2]
        rfl
    | some row =>
        obtain ⟨row₁, hrow₁, hk⟩ := hr.old id row hold
        cases hrow₁.symm.trans hrow'
        rw [hk.attempts]
        exact h.count id row hold
  · rw [claimsOf_congr hclaims, refundsOf_congr houtcomes]
    apply h.rowless
    cases hold : AList.lookup id s.rows with
    | none => rfl
    | some row =>
        obtain ⟨row₁, hrow₁, -⟩ := hr.old id row hold
        rw [hnone] at hrow₁
        cases hrow₁
  · rw [htokens]
    rw [hclaims] at he
    exact h.drawn e he
  · rw [htokens]
    cases hold : AList.lookup id s.rows with
    | none =>
        rw [(hr.new id row' hold hrow').2.2.1] at ht
        cases ht
    | some row =>
        obtain ⟨row₁, hrow₁, hk⟩ := hr.old id row hold
        cases hrow₁.symm.trans hrow'
        exact h.rowDrawn id row t hold (hk.token t ht)

theorem AnalysisRow.outcome_attempts (row : AnalysisRow) (now : Instant)
    (o : AnalysisOutcome) :
    (row.outcome now o).attemptCount
      = row.attemptCount - if o.refunds then 1 else 0 := by
  cases o with
  | retry code next refund => cases refund <;> simp [AnalysisRow.outcome,
      AnalysisOutcome.refunds]
  | complete content => exact (Int.sub_zero _).symm
  | fail code => exact (Int.sub_zero _).symm
  | skip code releaseBudget => exact (Int.sub_zero _).symm

/-- An applied outcome: the attempt comes back with a refund. -/
theorem ClaimBooks.written (h : ClaimBooks s) {id : AnalysisId}
    {token : ClaimToken} {o : AnalysisOutcome} {now : Instant}
    {row : AnalysisRow} (hw : WorkersStep s.base.base s'.base.base)
    (hrow : AList.lookup id s.rows = some row)
    (hrows : s'.rows = AList.insert id (row.outcome now o) s.rows)
    (htokens : s'.base.base.store.tokens = s.base.base.store.tokens)
    (houtcomes : s'.base.base.store.outcomes
      = (id, token, o) :: s.base.base.store.outcomes)
    (hclaims : s'.claims = s.claims) : ClaimBooks s' := by
  obtain ⟨hjobs, howner⟩ := h.workers hw htokens hclaims
  have hrefunds := refundsOf_written houtcomes
  refine ⟨fun id' row' hrow' => ?_, fun id' hnone => ?_, hclaims ▸ h.once,
    fun e he => ?_, fun id' row' t hrow' ht => ?_, hjobs, howner⟩
  · rw [claimsOf_congr hclaims, hrefunds]
    rw [hrows, Table.lookup_insert'] at hrow'
    split at hrow'
    · next hid =>
      subst hid
      cases hrow'
      rw [h.count _ row hrow, AnalysisRow.outcome_attempts]
      by_cases hr : o.refunds = true
      · rw [if_pos hr, if_pos ⟨rfl, hr⟩, List.length_cons]
        omega
      · rw [if_neg hr, if_neg fun hboth => hr hboth.2]
        omega
    · next hid =>
      rw [if_neg fun hboth => hid hboth.1.symm]
      exact h.count id' row' hrow'
  · rw [hrows, Table.lookup_insert'] at hnone
    split at hnone
    · cases hnone
    · next hid =>
      rw [claimsOf_congr hclaims, hrefunds,
        if_neg fun hboth => hid hboth.1.symm]
      exact h.rowless id' hnone
  · rw [htokens]
    rw [hclaims] at he
    exact h.drawn e he
  · rw [htokens]
    rw [hrows, Table.lookup_insert'] at hrow'
    split at hrow'
    · cases hrow'
      rw [AnalysisRow.outcome_token] at ht
      cases ht
    · exact h.rowDrawn id' row' t hrow' ht

/-- What a claim does: the row is taken and the claim entered, or neither. -/
structure ClaimStep (cfg : AnalysisSettings) (s s' : PolledSystem)
    (w : JobRunId) (now : Instant) (token : ClaimToken) (job : AnalysisJobRun)
    (phase : AnalysisPhase) : Prop where
  before : AList.lookup w s.workers = some job
  after : AList.lookup w s'.workers = some (job.goto phase)
  others : ∀ w', w' ≠ w →
    AList.lookup w' s'.workers = AList.lookup w' s.workers
  fresh : token ∉ s.base.base.store.tokens
  tokens : s'.base.base.store.tokens = token :: s.base.base.store.tokens
  outcomes : s'.base.base.store.outcomes = s.base.base.store.outcomes
  created : s'.created = s.created
  clock : s'.clock = AList.insert job.analysisId now s.clock
  evaluations : s'.evaluations = s.evaluations
  cases : (phase.token = none ∧ s'.rows = s.rows ∧ s'.claims = s.claims) ∨
    ∃ row n decision cost, AList.lookup job.analysisId s.rows = some row ∧
      row.claimable now cfg.maxAttempts = true ∧ phase = .load token n ∧
      s'.rows = AList.insert job.analysisId
        ((row.claimed now cfg.leaseSeconds token).reserve decision cost)
        s.rows ∧
      s'.claims = (job.analysisId, token) :: s.claims

theorem claimStep_poll {p : RetrySchedule} {b : AnalysisBudget} {w : JobRunId}
    {now : Instant} {token : ClaimToken} (hi : ClaimBooks s)
    (h : pollStep cfg p b s (.claim w now token) = some s') :
    ∃ job phase, ClaimStep cfg s s' w now token job phase := by
  obtain ⟨job, hjob, h⟩ := Option.bind_eq_some_iff.mp h
  obtain ⟨base, hbase, rfl⟩ := Option.map_eq_some_iff.mp h
  obtain ⟨decision, cost, hbase⟩ := budgetStep_claimBase hbase
  obtain ⟨job₁, phase, hjob₁, hjob', hfresh, htokens, houtcomes, hrows⟩ :=
    claim_cases hbase
  cases hjob.symm.trans hjob₁
  have hsame : ((s.claimed base job.analysisId token).readClock
      job.analysisId now).base = base := by
    unfold PolledSystem.claimed
    split <;> rfl
  have hentered : ((s.claimed base job.analysisId token).readClock
      job.analysisId now).claims =
      if (AList.lookup job.analysisId base.base.store.rows).any
          (fun row => row.claimToken = some token) = true then
        (job.analysisId, token) :: s.claims
      else s.claims := by
    unfold PolledSystem.claimed
    split <;> rfl
  have hrest : ((s.claimed base job.analysisId token).readClock
        job.analysisId now).created = s.created ∧
      ((s.claimed base job.analysisId token).readClock
        job.analysisId now).clock = AList.insert job.analysisId now s.clock ∧
      ((s.claimed base job.analysisId token).readClock
        job.analysisId now).evaluations = s.evaluations := by
    unfold PolledSystem.claimed
    split <;> exact ⟨rfl, rfl, rfl⟩
  generalize (s.claimed base job.analysisId token).readClock job.analysisId now
    = s' at hsame hentered hrest ⊢
  subst hsame
  refine ⟨job, phase, hjob, hjob', fun w' hne => work_others hbase hne,
    hfresh, htokens, houtcomes, hrest.1, hrest.2.1, hrest.2.2, ?_⟩
  rcases hrows with ⟨-, hphase, hrows⟩ | ⟨row, n, hrow, hc, -, hphase, hrows⟩
  · refine .inl ⟨hphase, hrows, hentered.trans (if_neg ?_)⟩
    intro hany
    obtain ⟨row, hrow, htok⟩ := (Option.any_eq_true _ _).mp hany
    exact hfresh (hi.rowDrawn _ row token (hrows ▸ hrow)
      (of_decide_eq_true htok))
  · refine .inr ⟨row, n, decision, cost, hrow, hc, hphase, hrows,
      hentered.trans (if_pos ?_)⟩
    rw [hrows, AList.lookup_insert]
    exact decide_eq_true (AnalysisRow.reserve_columns ..).2.1

section

variable {w : JobRunId} {now : Instant} {token : ClaimToken}
  {job : AnalysisJobRun} {phase : AnalysisPhase}

/-- After a claim a worker has the token it had, or the one just drawn. -/
theorem ClaimStep.token_cases (h : ClaimStep cfg s s' w now token job phase)
    {w' : JobRunId} {job' : AnalysisJobRun} {t : ClaimToken}
    (hjob : AList.lookup w' s'.workers = some job')
    (ht : job'.phase.token = some t) :
    (w' = w ∧ t = token ∧ job'.analysisId = job.analysisId ∧
      s'.claims = (job.analysisId, token) :: s.claims) ∨
    AList.lookup w' s.workers = some job' := by
  by_cases hw : w' = w
  · subst hw
    cases h.after.symm.trans hjob
    rcases h.cases with ⟨hno, -⟩ | ⟨row, n, _, _, -, -, hphase, -, hclaims⟩
    · rw [show (job.goto phase).phase = phase from rfl, hno] at ht
      cases ht
    · rw [show (job.goto phase).phase = phase from rfl, hphase] at ht
      cases ht
      exact .inl ⟨rfl, rfl, rfl, hclaims⟩
  · exact .inr ((h.others w' hw).symm.trans hjob)

theorem ClaimStep.claims_mono (h : ClaimStep cfg s s' w now token job phase)
    {e : AnalysisId × ClaimToken} (he : e ∈ s.claims) : e ∈ s'.claims := by
  rcases h.cases with ⟨-, -, hclaims⟩ | ⟨_, _, _, _, -, -, -, -, hclaims⟩
  · rw [hclaims]
    exact he
  · rw [hclaims]
    exact List.mem_cons_of_mem _ he

theorem ClaimBooks.claimJobs (h : ClaimBooks s)
    (hc : ClaimStep cfg s s' w now token job phase) :
    (∀ w job t, AList.lookup w s'.workers = some job →
      job.phase.token = some t → (job.analysisId, t) ∈ s'.claims) ∧
    ∀ w w' job job' t, AList.lookup w s'.workers = some job →
      AList.lookup w' s'.workers = some job' → job.phase.token = some t →
      job'.phase.token = some t → w = w' := by
  have hold : ∀ {w' job'}, AList.lookup w' s.workers = some job' →
      job'.phase.token ≠ some token := fun hjob ht =>
    hc.fresh (h.drawn _ (h.jobs _ _ token hjob ht))
  refine ⟨fun w' job' t hjob ht => ?_, fun w₁ w₂ j₁ j₂ t h₁ h₂ ht₁ ht₂ => ?_⟩
  · rcases hc.token_cases hjob ht with ⟨-, rfl, hid, hclaims⟩ | hjob
    · rw [hid, hclaims]
      exact List.mem_cons_self ..
    · exact hc.claims_mono (h.jobs w' job' t hjob ht)
  · rcases hc.token_cases h₁ ht₁ with ⟨rfl, rfl, -⟩ | hold₁
    · rcases hc.token_cases h₂ ht₂ with ⟨rfl, -⟩ | hold₂
      · rfl
      · exact absurd ht₂ (hold hold₂)
    · rcases hc.token_cases h₂ ht₂ with ⟨-, rfl, -⟩ | hold₂
      · exact absurd ht₁ (hold hold₁)
      · exact h.owner w₁ w₂ j₁ j₂ t hold₁ hold₂ ht₁ ht₂

/-- **A claim takes one attempt**, or nothing. -/
theorem ClaimBooks.claim (h : ClaimBooks s)
    (hc : ClaimStep cfg s s' w now token job phase) : ClaimBooks s' := by
  obtain ⟨hjobs, howner⟩ := h.claimJobs hc
  have hdrawn : ∀ {t}, t ∈ s.base.base.store.tokens →
      t ∈ s'.base.base.store.tokens := fun ht => by
    rw [hc.tokens]
    exact List.mem_cons_of_mem _ ht
  have hnew : token ∈ s'.base.base.store.tokens := by
    rw [hc.tokens]
    exact List.mem_cons_self ..
  rcases hc.cases with ⟨-, hrows, hclaims⟩ |
    ⟨row, n, decision, cost, hrow, -, -, hrows, hclaims⟩
  · refine ⟨fun id row hrow => ?_, fun id hnone => ?_, hclaims ▸ h.once,
      fun e he => hdrawn (h.drawn e (hclaims ▸ he)),
      fun id row t hrow ht => hdrawn (h.rowDrawn id row t (hrows ▸ hrow) ht),
      hjobs, howner⟩
    · rw [claimsOf_congr hclaims, refundsOf_congr hc.outcomes]
      exact h.count id row (hrows ▸ hrow)
    · rw [claimsOf_congr hclaims, refundsOf_congr hc.outcomes]
      exact h.rowless id (hrows ▸ hnone)
  · have hof : ∀ id, s'.claimsOf id =
        if job.analysisId = id then (job.analysisId, token) :: s.claimsOf id
        else s.claimsOf id := by
      intro id
      rw [PolledSystem.claimsOf, hclaims, List.filter_cons]
      simp only [decide_eq_true_eq]
      rfl
    refine ⟨fun id row' hrow' => ?_, fun id hnone => ?_, ?_, fun e he => ?_,
      fun id row' t hrow' ht => ?_, hjobs, howner⟩
    · rw [hof, refundsOf_congr hc.outcomes]
      rw [hrows, Table.lookup_insert'] at hrow'
      split at hrow'
      · next hid =>
        subst hid
        cases hrow'
        obtain ⟨-, -, -, -, hattempts⟩ :=
          (row.claimed now cfg.leaseSeconds token).reserve_columns decision cost
        rw [if_pos rfl, List.length_cons, hattempts]
        have hcount := h.count _ row hrow
        simp only [AnalysisRow.claimed]
        omega
      · next hid =>
        rw [if_neg (Ne.symm hid)]
        exact h.count id row' hrow'
    · rw [hrows, Table.lookup_insert'] at hnone
      split at hnone
      · cases hnone
      · next hid =>
        rw [hof, if_neg (Ne.symm hid), refundsOf_congr hc.outcomes]
        exact h.rowless id hnone
    · rw [hclaims, List.map_cons, List.nodup_cons]
      refine ⟨fun hmem => ?_, h.once⟩
      obtain ⟨e, he, heq⟩ := List.mem_map.mp hmem
      have hold := h.drawn e he
      rw [heq] at hold
      exact hc.fresh hold
    · rw [hclaims] at he
      rcases List.mem_cons.mp he with rfl | he
      · exact hnew
      · exact hdrawn (h.drawn e he)
    · rw [hrows, Table.lookup_insert'] at hrow'
      split at hrow'
      · cases hrow'
        rw [(AnalysisRow.reserve_columns _ _).2.1] at ht
        cases ht
        exact hnew
      · exact hdrawn (h.rowDrawn id row' t hrow' ht)

end

end Claims

/-! ## What a step does to the accounts -/

/-- A step that neither claims nor writes an outcome. -/
structure PlainStep (defers : Prop) (creates : AnalysisId → Prop)
    (s s' : PolledSystem) : Prop where
  workers : WorkersStep s.base.base s'.base.base
  rows : AnalysesKept defers creates s.rows s'.rows
  tokens : s'.base.base.store.tokens = s.base.base.store.tokens
  outcomes : s'.base.base.store.outcomes = s.base.base.store.outcomes
  claims : s'.claims = s.claims

/-- The act is the second transaction of a deferral. -/
def PollAct.defers (act : PollAct) : Prop :=
  ∃ w, act = .other (.other (.work w .defer))

def PollAct.creates (act : PollAct) (id : AnalysisId) : Prop :=
  ∃ call enqueued next createdAt,
    act = .register id call enqueued next createdAt

section Steps

variable {cfg : AnalysisSettings} {p : RetrySchedule} {b : AnalysisBudget}
  {s s' : PolledSystem}

theorem plainStep_of {defers : Prop} {creates : AnalysisId → Prop}
    {act : AnalysisAct} {base : BudgetSystem}
    (h : budgetStep cfg b s.base (.other act) = some base)
    (hbase : s'.base = base) (hclaims : s'.claims = s.claims)
    (hdefers : (∃ w, act = .work w .defer) → defers)
    (hcreates : ∀ id, (∃ call enqueued next,
      act = .register id call enqueued next) → creates id) :
    PlainStep defers creates s s' := by
  subst hbase
  obtain ⟨hb, h⟩ := budgetStep_otherBase h
  obtain ⟨hrows, htokens, houtcomes⟩ := analysesKept_unbudgeted hb h
  exact ⟨workersStep act h, hrows.weaken hdefers hcreates, htokens, houtcomes,
    hclaims⟩

theorem pollStep_cases (hi : ClaimBooks s) {act : PollAct}
    (h : pollStep cfg p b s act = some s') :
    (∃ w now token job phase, act = .claim w now token ∧
      ClaimStep cfg s s' w now token job phase) ∨
    (∃ w now base, act = .other (.persist w now) ∧ s' = s.withBase base ∧
      analysisStep cfg s.base.base (.work w (.persist now))
        = some base.base) ∨
    PlainStep act.defers act.creates s s' := by
  cases act with
  | register id call enqueued next createdAt =>
      obtain ⟨base, hbase, rfl⟩ := Option.map_eq_some_iff.mp h
      refine .inr (.inr (plainStep_of hbase (PolledSystem.register_base ..) ?_ ?_
        ?_))
      · unfold PolledSystem.register
        split <;> rfl
      · rintro ⟨w, hact⟩
        cases hact
      · rintro id' ⟨_, _, _, hact⟩
        cases hact
        exact ⟨call, enqueued, next, createdAt, rfl⟩
  | claim w now token =>
      obtain ⟨job, phase, hc⟩ := claimStep_poll hi h
      exact .inl ⟨w, now, token, job, phase, rfl, hc⟩
  | load w now rng input =>
      obtain ⟨job, -, h⟩ := Option.bind_eq_some_iff.mp h
      split at h
      · obtain ⟨-, h⟩ := Option.ite_none_right_eq_some.mp h
        obtain ⟨base, hbase, rfl⟩ := Option.map_eq_some_iff.mp h
        refine .inr (.inr (plainStep_of hbase rfl rfl ?_ ?_))
        · rintro ⟨w, hact⟩
          cases hact
        · rintro id' ⟨_, _, _, hact⟩
          cases hact
      · cases h
  | analyze w now rng retryAfter answer =>
      obtain ⟨job, -, h⟩ := Option.bind_eq_some_iff.mp h
      split at h
      · obtain ⟨base, hbase, rfl⟩ := Option.map_eq_some_iff.mp h
        refine .inr (.inr (plainStep_of hbase rfl rfl ?_ ?_))
        · rintro ⟨w, hact⟩
          cases hact
        · rintro id' ⟨_, _, _, hact⟩
          cases hact
      · cases h
  | other act =>
      obtain ⟨hb, h⟩ := Option.ite_none_right_eq_some.mp h
      obtain ⟨base, hbase, rfl⟩ := Option.map_eq_some_iff.mp h
      cases act with
      | claim w now token => cases hb
      | readHeld w =>
          have hsame := budgetStep_readHeldBase hbase
          refine .inr (.inr ⟨.same ?_, ?_, ?_, ?_, rfl⟩)
          · exact congrArg (·.workers) hsame
          · rw [show (s.withBase base).rows = s.rows from
              congrArg (·.store.rows) hsame]
            exact .refl
          · exact congrArg (·.store.tokens) hsame
          · exact congrArg (·.store.outcomes) hsame
      | persist w now =>
          exact .inr (.inl ⟨w, now, base, rfl, rfl,
            budgetStep_persistBase hbase⟩)
      | other act =>
          refine .inr (.inr (plainStep_of hbase rfl rfl ?_ ?_))
          · rintro ⟨w, rfl⟩
            exact ⟨w, rfl⟩
          · rintro id' ⟨_, _, _, rfl⟩
            cases hb

/-- What a step does to the evaluations: a worker that holds a claim and
has not decided evaluates an answer, and has decided then. -/
theorem evaluations_cases {act : PollAct}
    (h : pollStep cfg p b s act = some s') :
    s'.evaluations = s.evaluations ∨
    ∃ w job job' t elapsed, AList.lookup w s.workers = some job ∧
      job.phase.token = some t ∧ job.phase.decided = false ∧
      AList.lookup w s'.workers = some job' ∧ job'.phase.decided = true ∧
      s'.claims = s.claims ∧
      s'.evaluations = ⟨job.analysisId, t, elapsed⟩ :: s.evaluations := by
  cases act with
  | register id call enqueued next createdAt =>
      obtain ⟨base, hbase, rfl⟩ := Option.map_eq_some_iff.mp h
      left
      unfold PolledSystem.register
      split <;> rfl
  | claim w now token =>
      obtain ⟨job, -, h⟩ := Option.bind_eq_some_iff.mp h
      obtain ⟨base, -, rfl⟩ := Option.map_eq_some_iff.mp h
      left
      unfold PolledSystem.claimed
      split <;> rfl
  | load w now rng input =>
      obtain ⟨job, -, h⟩ := Option.bind_eq_some_iff.mp h
      split at h
      · obtain ⟨-, h⟩ := Option.ite_none_right_eq_some.mp h
        obtain ⟨base, hbase, rfl⟩ := Option.map_eq_some_iff.mp h
        exact .inl rfl
      · cases h
  | analyze w now rng retryAfter answer =>
      obtain ⟨job, hjob, h⟩ := Option.bind_eq_some_iff.mp h
      split at h
      · next token n createdAt hphase hcreated =>
        obtain ⟨base, hbase, rfl⟩ := Option.map_eq_some_iff.mp h
        obtain ⟨-, hbase⟩ := budgetStep_otherBase hbase
        obtain ⟨job₁, hjob₁, hbase⟩ := Option.bind_eq_some_iff.mp hbase
        cases hjob.symm.trans hjob₁
        obtain ⟨⟨store, job'⟩, hstep, hbase⟩ := Option.map_eq_some_iff.mp hbase
        refine .inr ⟨w, job, job', token, _, hjob, by rw [hphase]; rfl,
          by rw [hphase]; rfl, ?_, ?_, rfl, rfl⟩
        · show AList.lookup w base.base.workers = some job'
          rw [← hbase]
          exact AList.lookup_insert _
        · simp only [analysisWorkerStep, hphase] at hstep
          split at hstep <;> cases hstep <;> rfl
      · cases h
  | other act =>
      obtain ⟨-, h⟩ := Option.ite_none_right_eq_some.mp h
      obtain ⟨base, -, rfl⟩ := Option.map_eq_some_iff.mp h
      exact .inl rfl

/-- A worker that has a token and has not decided: it was so before, or the
token is new. -/
theorem undecided_back (hi : ClaimBooks s) {act : PollAct}
    (h : pollStep cfg p b s act = some s') {w : JobRunId}
    {job' : AnalysisJobRun} {t : ClaimToken}
    (hjob : AList.lookup w s'.workers = some job')
    (ht : job'.phase.token = some t) (hd : job'.phase.decided = false) :
    (∃ job, AList.lookup w s.workers = some job ∧
      job.phase.token = some t ∧ job.phase.decided = false) ∨
    t ∉ s.base.base.store.tokens := by
  rcases pollStep_cases hi h with ⟨w₀, now, token, job, phase, -, hc⟩ |
    ⟨w₀, now, base, -, rfl, hbase⟩ | hplain
  · rcases hc.token_cases hjob ht with ⟨-, rfl, -⟩ | hold
    · exact .inr hc.fresh
    · exact .inl ⟨job', hold, ht, hd⟩
  · obtain ⟨_, _, _, -, -, htokens, -⟩ := persist_cases hbase
    obtain ⟨job, hold, -, htok, hdec⟩ :=
      (workersStep _ hbase).token_kept htokens hjob ht
    exact .inl ⟨job, hold, htok, hdec hd⟩
  · obtain ⟨job, hold, -, htok, hdec⟩ :=
      hplain.workers.token_kept hplain.tokens hjob ht
    exact .inl ⟨job, hold, htok, hdec hd⟩

theorem claims_mono (hi : ClaimBooks s) {act : PollAct}
    (h : pollStep cfg p b s act = some s') {e : AnalysisId × ClaimToken}
    (he : e ∈ s.claims) : e ∈ s'.claims := by
  rcases pollStep_cases hi h with ⟨w₀, now, token, job, phase, -, hc⟩ |
    ⟨w₀, now, base, -, rfl, -⟩ | hplain
  · exact hc.claims_mono he
  · exact he
  · rw [hplain.claims]
    exact he

theorem evaluations_mono {act : PollAct}
    (h : pollStep cfg p b s act = some s') {e : Evaluation}
    (he : e ∈ s.evaluations) : e ∈ s'.evaluations := by
  rcases evaluations_cases h with hsame | ⟨_, _, _, _, _, -, -, -, -, -, -, hnew⟩
  · rw [hsame]
    exact he
  · rw [hnew]
    exact List.mem_cons_of_mem _ he

/-- **Every step keeps the accounts of the claims.** -/
theorem ClaimBooks.step (h : ClaimBooks s) {act : PollAct}
    (hst : pollStep cfg p b s act = some s') : ClaimBooks s' := by
  rcases pollStep_cases h hst with ⟨w₀, now, token, job, phase, -, hc⟩ |
    ⟨w₀, now, base, -, rfl, hbase⟩ | hplain
  · exact h.claim hc
  · obtain ⟨job, token, o, -, -, htokens, hcases⟩ := persist_cases hbase
    rcases hcases with ⟨-, hrows, houtcomes⟩ | ⟨row, hrow, -, -, hrows, houtcomes⟩
    · have hr : AnalysesKept False (fun _ => False) s.rows
          (s.withBase base).rows := by
        rw [show (s.withBase base).rows = s.rows from hrows]
        exact .refl
      exact h.kept (workersStep _ hbase) hr htokens houtcomes rfl
    · exact h.written (workersStep _ hbase) hrow hrows htokens houtcomes rfl
  · exact h.kept hplain.workers hplain.rows hplain.tokens hplain.outcomes
      hplain.claims

end Steps

end CallingAgent
