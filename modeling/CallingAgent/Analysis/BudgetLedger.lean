import CallingAgent.Analysis.Budget

/-!
# The budget ledger — every reservation is on it, once

Claims reserve, skips release, and everything else leaves the budget
columns alone. The columns of a row change only together with its token,
so what a skip has read before its write is what it writes over, and the
ledger of a day stays the sum of the reservations booked on it.
-/

namespace CallingAgent

open Lib

/-! ## Rows under a step without a budget -/

/-- The row keeps its reservation and its attempts, and is not claimed;
only a deferral moves its next attempt. -/
structure AnalysisKept (defers : Prop) (row row' : AnalysisRow) : Prop where
  reserved : row'.reservedCost = row.reservedCost
  attempts : row'.attemptCount = row.attemptCount
  token : ∀ t, row'.claimToken = some t → row.claimToken = some t
  status : row'.status = row.status ∨ row'.status.terminal = true
  next : row'.nextAttemptAt = row.nextAttemptAt ∨
    row'.status.terminal = true ∨ defers

structure AnalysesKept (defers : Prop) (creates : AnalysisId → Prop)
    (t t' : Analyses) : Prop where
  old : ∀ id row, AList.lookup id t = some row →
    ∃ row', AList.lookup id t' = some row' ∧ AnalysisKept defers row row'
  new : ∀ id row, AList.lookup id t = none → AList.lookup id t' = some row →
    creates id ∧ row.reservedCost = none ∧ row.claimToken = none ∧
      row.status = .pending ∧ row.attemptCount = 0

theorem AnalysisKept.refl {defers : Prop} (row : AnalysisRow) :
    AnalysisKept defers row row :=
  ⟨rfl, rfl, fun _ h => h, .inl rfl, .inl rfl⟩

theorem AnalysisKept.exhausted {defers : Prop} (row : AnalysisRow)
    (now : Instant) : AnalysisKept defers row (row.exhausted now) where
  reserved := rfl
  attempts := rfl
  token t h := by
    rw [AnalysisRow.exhausted, AnalysisRow.outcome_token] at h
    cases h
  status := .inr rfl
  next := .inr (.inl rfl)

theorem AnalysisKept.processing {defers : Prop} {row row' : AnalysisRow}
    (h : AnalysisKept defers row row') (hp : row'.status = .processing) :
    row.status = .processing := by
  rcases h.status with hs | hs
  · exact hs.symm.trans hp
  · rw [hp] at hs
    cases hs

namespace AnalysesKept

variable {defers : Prop} {creates : AnalysisId → Prop} {t : Analyses}

theorem refl : AnalysesKept defers creates t t :=
  ⟨fun _ row h => ⟨row, h, .refl row⟩, fun _ _ hn h => by
    rw [hn] at h
    cases h⟩

theorem mapRows {f : AnalysisId → AnalysisRow → AnalysisRow}
    (h : ∀ id row, AnalysisKept defers row (f id row)) :
    AnalysesKept defers creates t (t.mapRows f) where
  old id row hrow := by
    refine ⟨f id row, ?_, h id row⟩
    rw [Table.lookup_mapRows, hrow, Option.map_some]
  new id row hn hrow := by
    rw [Table.lookup_mapRows, hn] at hrow
    cases hrow

theorem modify {id : AnalysisId} {f : AnalysisRow → AnalysisRow}
    (h : ∀ row, AnalysisKept defers row (f row)) :
    AnalysesKept defers creates t (t.modify id f) where
  old id' row hrow := by
    by_cases hid : id' = id
    · subst hid
      refine ⟨f row, ?_, h row⟩
      rw [Table.lookup_modify_self, hrow, Option.map_some]
    · refine ⟨row, ?_, .refl row⟩
      rw [Table.lookup_modify_ne t hid, hrow]
  new id' row hn hrow := by
    rw [Table.lookup_modify] at hrow
    split at hrow <;> rw [hn] at hrow <;> cases hrow

theorem insert {id : AnalysisId} {row row' : AnalysisRow}
    (hrow : AList.lookup id t = some row) (h : AnalysisKept defers row row') :
    AnalysesKept defers creates t (AList.insert id row' t) where
  old id' row₀ h₀ := by
    rw [Table.lookup_insert']
    by_cases hid : id' = id
    · subst hid
      cases hrow.symm.trans h₀
      exact ⟨row', if_pos rfl, h⟩
    · exact ⟨row₀, (if_neg hid).trans h₀, .refl row₀⟩
  new id' row₀ hn h₀ := by
    rw [Table.lookup_insert'] at h₀
    split at h₀
    · next hid =>
      rw [hid, hrow] at hn
      cases hn
    · rw [hn] at h₀
      cases h₀

theorem weaken {defers' : Prop} {creates' : AnalysisId → Prop}
    {t' : Analyses} (h : AnalysesKept defers creates t t') (hd : defers → defers')
    (hc : ∀ id, creates id → creates' id) : AnalysesKept defers' creates' t t' where
  old id row hrow := by
    obtain ⟨row', hrow', hk⟩ := h.old id row hrow
    refine ⟨row', hrow', hk.reserved, hk.attempts, hk.token, hk.status, ?_⟩
    rcases hk.next with hnext | hend | hdefer
    · exact .inl hnext
    · exact .inr (.inl hend)
    · exact .inr (.inr (hd hdefer))
  new id row hn hrow := (h.new id row hn hrow).imp (hc id) fun h => h

end AnalysesKept

section Unbudgeted

variable {cfg : AnalysisSettings} {s s' : AnalysisSystem} {defers : Prop}
  {creates : AnalysisId → Prop}

theorem analysesKept_finalize (t : Analyses) (now : Instant)
    (locked : List AnalysisId) :
    AnalysesKept defers creates t (finalizeExhausted cfg t now locked) := by
  refine .mapRows fun id row => ?_
  split
  · exact .exhausted row now
  · exact .refl row

theorem analysesKept_publish (t : Analyses) (now : Instant)
    (published : List AnalysisId) :
    AnalysesKept defers creates t (publishDue cfg t now published) := by
  refine .mapRows fun id row => ?_
  split
  · exact ⟨rfl, rfl, fun _ h => h, .inl rfl, .inl rfl⟩
  · exact .refl row

theorem analysesKept_renew (t : Analyses) (id : AnalysisId) (token : ClaimToken)
    (now : Instant) : AnalysesKept defers creates t (renewLease cfg t id token now).1 := by
  unfold renewLease
  rcases fenced_spec t id token _ with hno | ⟨row, hrow, -, -, hyes⟩
  · rw [hno]
    exact .refl
  · rw [hyes]
    exact .insert hrow ⟨rfl, rfl, fun _ h => h, .inl rfl, .inl rfl⟩

theorem analysesKept_work {st st' : AnalysisStore} {job job' : AnalysisJobRun}
    {w : JobRunId} {commit : AnalysisCommit}
    (hb : (AnalysisAct.work w commit).unbudgeted = true)
    (h : analysisWorkerStep cfg st job commit = some (st', job')) :
    AnalysesKept (commit = .defer) creates st.rows st'.rows ∧ st'.tokens = st.tokens ∧
      st'.outcomes = st.outcomes := by
  cases commit with
  | claim now token decision cost => cases hb
  | persist now => cases hb
  | defer =>
      unfold analysisWorkerStep at h
      dsimp only at h
      split at h
      · cases h
        refine ⟨.modify fun row => ?_, rfl, rfl⟩
        split
        · exact ⟨rfl, rfl, fun _ h => h, .inl rfl, .inr (.inr rfl)⟩
        · exact .refl row
      · cases h
  | readUnclaimed =>
      obtain ⟨-, h⟩ := Option.ite_none_right_eq_some.mp h
      cases h
      exact ⟨.refl, rfl, rfl⟩
  | finalize now =>
      obtain ⟨-, h⟩ := Option.ite_none_right_eq_some.mp h
      cases h
      exact ⟨analysesKept_finalize .., rfl, rfl⟩
  | load now elapsed delay input =>
      unfold analysisWorkerStep at h
      dsimp only at h
      split at h
      · split at h <;> cases h <;> exact ⟨.refl, rfl, rfl⟩
      · cases h
  | renew now =>
      unfold analysisWorkerStep at h
      dsimp only at h
      split at h
      · cases h
        exact ⟨analysesKept_renew .., rfl, rfl⟩
      · cases h
  | analyze now elapsed delay answer =>
      unfold analysisWorkerStep at h
      dsimp only at h
      split at h
      · split at h <;> cases h <;> exact ⟨.refl, rfl, rfl⟩
      · cases h
  | crash =>
      cases h
      exact ⟨.refl, rfl, rfl⟩

/-- **Nothing else touches the budget**, or ends a claim. -/
theorem analysesKept_unbudgeted {act : AnalysisAct} (hb : act.unbudgeted = true)
    (h : analysisStep cfg s act = some s') :
    AnalysesKept (∃ w, act = .work w .defer)
        (fun id => ∃ call enqueued next, act = .register id call enqueued next)
        s.store.rows s'.store.rows ∧
      s'.store.tokens = s.store.tokens ∧
      s'.store.outcomes = s.store.outcomes := by
  cases act with
  | register id call enqueued next =>
      obtain ⟨rows, hrows, rfl⟩ := Option.map_eq_some_iff.mp h
      refine ⟨?_, rfl, rfl⟩
      unfold getOrCreatePending at hrows
      split at hrows
      · cases hrows
        exact .refl
      · obtain ⟨hnew, hrows⟩ := Option.ite_none_right_eq_some.mp hrows
        have hnew := Option.isNone_iff_eq_none.mp hnew
        cases hrows
        refine ⟨fun id' row hrow => ⟨row, ?_, .refl row⟩,
          fun id' row hn hrow => ?_⟩
        · refine (AList.lookup_insert_ne ?_).trans hrow
          rintro rfl
          rw [hnew] at hrow
          cases hrow
        · dsimp only at hrow
          rw [Table.lookup_insert'] at hrow
          split at hrow
          · next hid =>
            cases hrow
            exact ⟨⟨call, enqueued, next, by rw [hid]⟩, rfl, rfl, rfl, rfl⟩
          · rw [hn] at hrow
            cases hrow
  | deliver w id =>
      obtain ⟨-, h⟩ := Option.ite_none_right_eq_some.mp h
      cases h
      exact ⟨.refl, rfl, rfl⟩
  | work w commit =>
      obtain ⟨job, -, h⟩ := Option.bind_eq_some_iff.mp h
      obtain ⟨⟨store, job'⟩, hstep, rfl⟩ := Option.map_eq_some_iff.mp h
      obtain ⟨hrows, htokens, houtcomes⟩ :
          AnalysesKept (commit = .defer) (fun _ => False) s.store.rows store.rows ∧
            _ := analysesKept_work hb hstep
      exact ⟨hrows.weaken (fun hc => ⟨w, congrArg _ hc⟩) fun _ => False.elim,
        htokens, houtcomes⟩
  | sweepFinalize now locked =>
      cases h
      exact ⟨analysesKept_finalize .., rfl, rfl⟩
  | sweepPublish now published =>
      cases h
      exact ⟨analysesKept_publish .., rfl, rfl⟩

end Unbudgeted

/-! ## Workers -/

/-- The token a worker writes under. -/
def AnalysisPhase.token : AnalysisPhase → Option ClaimToken
  | .load t _ => some t
  | .renew t _ => some t
  | .analyze t _ => some t
  | .persist t _ => some t
  | _ => none

/-- The worker has decided what to write, or is done. -/
def AnalysisPhase.decided : AnalysisPhase → Bool
  | .persist .. => true
  | .acked _ => true
  | .crashed => true
  | _ => false

/-- What one commit does to its worker. -/
structure JobStep (st st' : AnalysisStore) (job job' : AnalysisJobRun) :
    Prop where
  analysisId : job'.analysisId = job.analysisId
  /-- a token is the worker's own, or was drawn for its claim -/
  token : ∀ t, job'.phase.token = some t →
    job.phase.token = some t ∨ (t ∉ st.tokens ∧ t ∈ st'.tokens)
  decided : job.phase.decided = true → job'.phase.decided = true
  /-- a decision is written once -/
  once : ∀ t o, job'.phase = .persist t o → job.phase.decided = false

namespace JobStep

variable {st st' : AnalysisStore} {job : AnalysisJobRun}
  {phase : AnalysisPhase}

/-- The worker goes on without a token. -/
theorem tokenless (ht : phase.token = none)
    (hd : job.phase.decided = true → phase.decided = true) :
    JobStep st st' job (job.goto phase) where
  analysisId := rfl
  token t h := by
    rw [show (job.goto phase).phase = phase from rfl, ht] at h
    cases h
  decided := hd
  once t o h := by
    rw [show (job.goto phase).phase = phase from rfl] at h
    rw [h] at ht
    cases ht

/-- The worker goes on with the token it has. -/
theorem carried {token : ClaimToken} (hp : job.phase.token = some token)
    (hold : job.phase.decided = false)
    (ht : ∀ t, phase.token = some t → t = token) :
    JobStep st st' job (job.goto phase) where
  analysisId := rfl
  token t h := .inl (ht t h ▸ hp)
  decided h := by
    rw [hold] at h
    cases h
  once _ _ _ := hold

end JobStep

theorem handleUnclaimed_token (cfg : AnalysisSettings)
    (row : Option AnalysisRow) : (handleUnclaimed cfg row).token = none := by
  unfold handleUnclaimed
  cases row with
  | none => rfl
  | some row =>
      dsimp only
      split
      · rfl
      · split <;> rfl

theorem jobStep_work {cfg : AnalysisSettings} {st st' : AnalysisStore}
    {job job' : AnalysisJobRun} {commit : AnalysisCommit}
    (h : analysisWorkerStep cfg st job commit = some (st', job')) :
    JobStep st st' job job' := by
  cases commit with
  | claim now token decision cost =>
      obtain ⟨⟨hp, hfresh⟩, h⟩ := Option.ite_none_right_eq_some.mp h
      have hold : job.phase.decided = false := by
        rw [hp]
        rfl
      have hno : job.phase.decided = true → ∀ {d}, d = true := by
        intro hd
        rw [hold] at hd
        cases hd
      dsimp only at h
      split at h <;> cases h
      · refine ⟨rfl, fun t ht => ?_, fun hd => hno hd, fun _ _ _ => hold⟩
        cases ht
        exact .inr ⟨hfresh, List.mem_cons_self ..⟩
      · exact .tokenless rfl fun hd => hno hd
      · exact .tokenless rfl fun hd => hno hd
  | defer =>
      unfold analysisWorkerStep at h
      dsimp only at h
      split at h <;> cases h
      exact .tokenless rfl fun _ => rfl
  | readUnclaimed =>
      obtain ⟨hp, h⟩ := Option.ite_none_right_eq_some.mp h
      cases h
      refine .tokenless (handleUnclaimed_token ..) fun hd => ?_
      rw [hp] at hd
      cases hd
  | finalize now =>
      obtain ⟨-, h⟩ := Option.ite_none_right_eq_some.mp h
      cases h
      exact .tokenless rfl fun _ => rfl
  | load now elapsed delay input =>
      unfold analysisWorkerStep at h
      dsimp only at h
      split at h
      · next token n hp =>
        have htoken : job.phase.token = some token := by rw [hp]; rfl
        have hold : job.phase.decided = false := by rw [hp]; rfl
        split at h <;> cases h
        · exact .carried htoken hold fun t ht => (Option.some.inj ht).symm
        · exact .carried htoken hold fun t ht => (Option.some.inj ht).symm
        · exact .carried htoken hold fun t ht => (Option.some.inj ht).symm
      · cases h
  | renew now =>
      unfold analysisWorkerStep at h
      dsimp only at h
      split at h
      · next token n hp =>
        cases h
        refine .carried (by rw [hp]; rfl) (by rw [hp]; rfl) fun t ht => ?_
        split at ht <;> cases ht
        rfl
      · cases h
  | analyze now elapsed delay answer =>
      unfold analysisWorkerStep at h
      dsimp only at h
      split at h
      · next token n hp =>
        have htoken : job.phase.token = some token := by rw [hp]; rfl
        have hold : job.phase.decided = false := by rw [hp]; rfl
        split at h <;> cases h
        · exact .carried htoken hold fun t ht => (Option.some.inj ht).symm
        · exact .carried htoken hold fun t ht => (Option.some.inj ht).symm
      · cases h
  | persist now =>
      unfold analysisWorkerStep at h
      dsimp only at h
      split at h
      · split at h <;> cases h
        · exact .tokenless rfl fun _ => rfl
        · exact .tokenless rfl fun _ => rfl
      · cases h
  | crash =>
      cases h
      exact .tokenless rfl fun _ => rfl

/-- What a step does to the workers: one of them commits, or a new one
starts. -/
structure WorkersStep (s s' : AnalysisSystem) : Prop where
  back : ∀ w job', AList.lookup w s'.workers = some job' →
    AList.lookup w s.workers = some job' ∨
    (∃ job, AList.lookup w s.workers = some job ∧
      JobStep s.store s'.store job job') ∨
    (AList.lookup w s.workers = none ∧ job'.phase = .claim)
  on : ∀ w job, AList.lookup w s.workers = some job →
    ∃ job', AList.lookup w s'.workers = some job' ∧
      (job.phase.decided = true → job'.phase.decided = true)

section Workers

variable {cfg : AnalysisSettings} {s s' : AnalysisSystem}

theorem WorkersStep.same (h : s'.workers = s.workers) : WorkersStep s s' where
  back _ _ hw := .inl (h ▸ hw)
  on _ job hw := ⟨job, h.symm ▸ hw, id⟩

theorem workersStep (act : AnalysisAct)
    (h : analysisStep cfg s act = some s') : WorkersStep s s' := by
  cases act with
  | register id call enqueued next =>
      obtain ⟨rows, -, rfl⟩ := Option.map_eq_some_iff.mp h
      exact .same rfl
  | deliver w id =>
      obtain ⟨hnew, h⟩ := Option.ite_none_right_eq_some.mp h
      have hnew := Option.isNone_iff_eq_none.mp hnew
      cases h
      refine ⟨fun w' job' hw => ?_, fun w' job hw => ⟨job, ?_, fun hd => hd⟩⟩
      · dsimp only at hw
        rw [Table.lookup_insert'] at hw
        split at hw
        · next hww =>
          cases hw
          exact .inr (.inr ⟨hww ▸ hnew, rfl⟩)
        · exact .inl hw
      · refine (AList.lookup_insert_ne ?_).trans hw
        rintro rfl
        rw [hnew] at hw
        cases hw
  | work w commit =>
      obtain ⟨job, hjob, h⟩ := Option.bind_eq_some_iff.mp h
      obtain ⟨⟨store, job'⟩, hstep, rfl⟩ := Option.map_eq_some_iff.mp h
      have hj := jobStep_work hstep
      refine ⟨fun w' job₁ hw => ?_, fun w' job₁ hw => ?_⟩
      · dsimp only at hw
        rw [Table.lookup_insert'] at hw
        split at hw
        · next hww =>
          cases hw
          exact .inr (.inl ⟨job, hww ▸ hjob, hj⟩)
        · exact .inl hw
      · dsimp only
        rw [Table.lookup_insert']
        by_cases hww : w' = w
        · subst hww
          cases hjob.symm.trans hw
          exact ⟨job', if_pos rfl, hj.decided⟩
        · exact ⟨job₁, (if_neg hww).trans hw, id⟩
  | sweepFinalize now locked =>
      cases h
      exact .same rfl
  | sweepPublish now published =>
      cases h
      exact .same rfl

theorem work_others {w w' : JobRunId} {commit : AnalysisCommit}
    (h : analysisStep cfg s (.work w commit) = some s') (hne : w' ≠ w) :
    AList.lookup w' s'.workers = AList.lookup w' s.workers := by
  obtain ⟨job, -, h⟩ := Option.bind_eq_some_iff.mp h
  obtain ⟨⟨store, job'⟩, -, rfl⟩ := Option.map_eq_some_iff.mp h
  exact AList.lookup_insert_ne hne

/-- The claim of a worker: the row is taken, or nothing happens to it. -/
theorem claim_cases {w : JobRunId} {now : Instant} {token : ClaimToken}
    {decision : BudgetDecision} {cost : Rat}
    (h : analysisStep cfg s (.work w (.claim now token decision cost))
      = some s') :
    ∃ job phase, AList.lookup w s.workers = some job ∧
      AList.lookup w s'.workers = some (job.goto phase) ∧
      token ∉ s.store.tokens ∧
      s'.store.tokens = token :: s.store.tokens ∧
      s'.store.outcomes = s.store.outcomes ∧
      (((AList.lookup job.analysisId s.store.rows).any
          (·.claimable now cfg.maxAttempts) = false ∨
        decision.denied.isSome = true) ∧
        phase.token = none ∧ s'.store.rows = s.store.rows ∨
      ∃ row n, AList.lookup job.analysisId s.store.rows = some row ∧
        row.claimable now cfg.maxAttempts = true ∧ decision.denied = none ∧
        phase = .load token n ∧
        s'.store.rows = AList.insert job.analysisId
          ((row.claimed now cfg.leaseSeconds token).reserve decision cost)
          s.store.rows) := by
  obtain ⟨job, hjob, h⟩ := Option.bind_eq_some_iff.mp h
  obtain ⟨⟨store, job'⟩, hstep, rfl⟩ := Option.map_eq_some_iff.mp h
  obtain ⟨⟨-, hfresh⟩, hstep⟩ := Option.ite_none_right_eq_some.mp hstep
  dsimp only [claimForProcessing] at hstep
  cases hrow : AList.lookup job.analysisId s.store.rows with
  | none =>
      simp only [hrow] at hstep
      cases hstep
      exact ⟨job, _, hjob, AList.lookup_insert _, hfresh, rfl, rfl,
        .inl ⟨.inl (by rw [hrow]; rfl), rfl, rfl⟩⟩
  | some row =>
      simp only [hrow] at hstep
      by_cases hc : row.claimable now cfg.maxAttempts = true
      · simp only [if_pos hc] at hstep
        cases hd : decision.denied with
        | some reason =>
            simp only [hd] at hstep
            cases hstep
            exact ⟨job, _, hjob, AList.lookup_insert _, hfresh, rfl, rfl,
              .inl ⟨.inr rfl, rfl, rfl⟩⟩
        | none =>
            simp only [hd] at hstep
            cases hstep
            exact ⟨job, _, hjob, AList.lookup_insert _, hfresh, rfl, rfl,
              .inr ⟨row, _, hrow, hc, rfl, rfl, rfl⟩⟩
      · simp only [if_neg hc] at hstep
        cases hstep
        exact ⟨job, _, hjob, AList.lookup_insert _, hfresh, rfl, rfl,
          .inl ⟨.inl (by rw [hrow]; simpa using hc), rfl, rfl⟩⟩

/-- The outcome of a worker: written under its token, or not at all. -/
theorem persist_cases {w : JobRunId} {now : Instant}
    (h : analysisStep cfg s (.work w (.persist now)) = some s') :
    ∃ job token o, AList.lookup w s.workers = some job ∧
      job.phase = .persist token o ∧ s'.store.tokens = s.store.tokens ∧
      (s.owns job.analysisId token = false ∧ s'.store.rows = s.store.rows ∧
          s'.store.outcomes = s.store.outcomes ∨
      ∃ row, AList.lookup job.analysisId s.store.rows = some row ∧
        row.claimToken = some token ∧ s.owns job.analysisId token = true ∧
        s'.store.rows = AList.insert job.analysisId (row.outcome now o)
          s.store.rows ∧
        s'.store.outcomes = (job.analysisId, token, o) :: s.store.outcomes) := by
  obtain ⟨job, hjob, h⟩ := Option.bind_eq_some_iff.mp h
  obtain ⟨⟨store, job'⟩, hstep, rfl⟩ := Option.map_eq_some_iff.mp h
  unfold analysisWorkerStep at hstep
  dsimp only at hstep
  split at hstep
  · next token o hp =>
    refine ⟨job, token, o, hjob, hp, ?_, ?_⟩
    · split at hstep <;> cases hstep <;> rfl
    unfold AnalysisSystem.owns
    cases hrow : AList.lookup job.analysisId s.store.rows with
    | none =>
        simp only [writeOutcome, fenced, hrow] at hstep
        cases hstep
        exact .inl ⟨rfl, rfl, rfl⟩
    | some row =>
        by_cases hown : row.claimToken = some token ∧ row.status = .processing
        · simp only [writeOutcome, fenced, hrow, if_pos hown] at hstep
          cases hstep
          exact .inr ⟨row, rfl, hown.1, by simp [hown], rfl, rfl⟩
        · simp only [writeOutcome, fenced, hrow, if_neg hown] at hstep
          cases hstep
          exact .inl ⟨by simpa using hown, rfl, rfl⟩
  · cases hstep

end Workers

/-! ## The rows under the budget -/

@[simp] theorem BudgetSystem.afterReserve_base (s : BudgetSystem)
    (id : AnalysisId) (r : Reserve) : (s.afterReserve id r).base = s.base := by
  unfold BudgetSystem.afterReserve
  split <;> rfl

section Bases

variable {cfg : AnalysisSettings} {b : AnalysisBudget} {s s' : BudgetSystem}

theorem budgetStep_claimBase {w : JobRunId} {now : Instant}
    {token : ClaimToken} (h : budgetStep cfg b s (.claim w now token) = some s') :
    ∃ decision cost, analysisStep cfg s.base
      (.work w (.claim now token decision cost)) = some s'.base := by
  obtain ⟨job, -, h⟩ := Option.bind_eq_some_iff.mp h
  dsimp only at h
  obtain ⟨base, hbase, rfl⟩ := Option.map_eq_some_iff.mp h
  refine ⟨_, _, hbase.trans (congrArg some ?_)⟩
  split
  · exact (BudgetSystem.afterReserve_base (s.withBase base) ..).symm
  · rfl

theorem budgetStep_readHeldBase {w : JobRunId}
    (h : budgetStep cfg b s (.readHeld w) = some s') : s'.base = s.base := by
  obtain ⟨job, -, h⟩ := Option.bind_eq_some_iff.mp h
  split at h <;> cases h
  rfl

theorem budgetStep_persistBase {w : JobRunId} {now : Instant}
    (h : budgetStep cfg b s (.persist w now) = some s') :
    analysisStep cfg s.base (.work w (.persist now)) = some s'.base := by
  obtain ⟨job, -, h⟩ := Option.bind_eq_some_iff.mp h
  split at h
  · obtain ⟨read, -, h⟩ := Option.bind_eq_some_iff.mp h
    obtain ⟨base, hbase, rfl⟩ := Option.map_eq_some_iff.mp h
    rw [hbase]
    split <;> rfl
  · obtain ⟨base, hbase, rfl⟩ := Option.map_eq_some_iff.mp h
    exact hbase

theorem budgetStep_otherBase {act : AnalysisAct}
    (h : budgetStep cfg b s (.other act) = some s') :
    act.unbudgeted = true ∧ analysisStep cfg s.base act = some s'.base := by
  obtain ⟨hb, h⟩ := Option.ite_none_right_eq_some.mp h
  obtain ⟨base, hbase, rfl⟩ := Option.map_eq_some_iff.mp h
  exact ⟨hb, hbase⟩

/-- The rows go through the steps they go through without a budget. -/
theorem budgetStep_base {act : BudgetAct}
    (h : budgetStep cfg b s act = some s') :
    s'.base = s.base ∨ ∃ a, analysisStep cfg s.base a = some s'.base := by
  cases act with
  | claim w now token =>
      obtain ⟨decision, cost, hbase⟩ := budgetStep_claimBase h
      exact .inr ⟨_, hbase⟩
  | readHeld w => exact .inl (budgetStep_readHeldBase h)
  | persist w now => exact .inr ⟨_, budgetStep_persistBase h⟩
  | other act => exact .inr ⟨_, (budgetStep_otherBase h).2⟩

theorem StoreInv.budget (hi : StoreInv cfg s.base.store) {act : BudgetAct}
    (h : budgetStep cfg b s act = some s') : StoreInv cfg s'.base.store := by
  rcases budgetStep_base h with heq | ⟨a, ha⟩
  · rw [heq]
    exact hi
  · exact (analysisStep_store ha).inv hi

end Bases

/-! ## What a skip has read -/

/-- What holds of the tokens and of the columns read under them. -/
structure ReadInv (s : BudgetSystem) : Prop where
  drawn : ∀ id row t, AList.lookup id s.base.store.rows = some row →
    row.claimToken = some t → t ∈ s.base.store.tokens
  jobs : ∀ w job t, AList.lookup w s.base.workers = some job →
    job.phase.token = some t → t ∈ s.base.store.tokens
  decided : ∀ w e, AList.lookup w s.before = some e →
    ∃ job, AList.lookup w s.base.workers = some job ∧
      job.phase.decided = true
  /-- while its token is in the row, a worker has read what the row holds -/
  read : ∀ w job token o e row, AList.lookup w s.base.workers = some job →
    job.phase = .persist token o → AList.lookup w s.before = some e →
    AList.lookup job.analysisId s.base.store.rows = some row →
    row.claimToken = some token → e = AList.lookup job.analysisId s.held

/-- Where no row keeps a token but with its reservation, what was read
stays right. -/
theorem ReadInv.step {s s' : BudgetSystem} (h : ReadInv s)
    (hw : WorkersStep s.base s'.base) (hbefore : s'.before = s.before)
    (htokens : ∀ t ∈ s.base.store.tokens, t ∈ s'.base.store.tokens)
    (hrows : ∀ id row' t, AList.lookup id s'.base.store.rows = some row' →
      row'.claimToken = some t →
      (t ∉ s.base.store.tokens ∧ t ∈ s'.base.store.tokens) ∨
      ∃ row, AList.lookup id s.base.store.rows = some row ∧
        row.claimToken = some t ∧
        AList.lookup id s'.held = AList.lookup id s.held) :
    ReadInv s' where
  drawn id row' t hrow ht := by
    rcases hrows id row' t hrow ht with ⟨-, hnew⟩ | ⟨row, hold, htok, -⟩
    · exact hnew
    · exact htokens t (h.drawn id row t hold htok)
  jobs w job' t hjob ht := by
    rcases hw.back w job' hjob with hold | ⟨job, hold, hj⟩ | ⟨-, hp⟩
    · exact htokens t (h.jobs w job' t hold ht)
    · rcases hj.token t ht with hown | ⟨-, hnew⟩
      · exact htokens t (h.jobs w job t hold hown)
      · exact hnew
    · rw [hp] at ht
      cases ht
  decided w e he := by
    obtain ⟨job, hjob, hd⟩ := h.decided w e (hbefore ▸ he)
    obtain ⟨job', hjob', hd'⟩ := hw.on w job hjob
    exact ⟨job', hjob', hd' hd⟩
  read w job' token o e row' hjob hp he hrow ht := by
    rw [hbefore] at he
    obtain ⟨job, hold, hd⟩ := h.decided w e he
    -- a worker that has read did not decide just now
    have hsame : AList.lookup w s.base.workers = some job' := by
      rcases hw.back w job' hjob with hsame | ⟨job₁, hold₁, hj⟩ | ⟨hnone, -⟩
      · exact hsame
      · cases hold.symm.trans hold₁
        rw [hj.once token o hp] at hd
        cases hd
      · rw [hnone] at hold
        cases hold
    have hdrawn : token ∈ s.base.store.tokens :=
      h.jobs w job' token hsame (by rw [hp]; rfl)
    rcases hrows _ row' token hrow ht with ⟨hfresh, -⟩ | ⟨row, hr, htok, hheld⟩
    · exact absurd hdrawn hfresh
    · rw [hheld]
      exact h.read w job' token o e row hsame hp he hr htok

/-! ## Reservations -/

/-- What `reserve` can do: nothing, or one booking within the cap. -/
theorem reserve_cases (b : AnalysisBudget) (ledger : BudgetLedger)
    (held : Option Reservation) (now : Instant) :
    let r := b.reserve ledger held now
    (r.reservation = none ∧ r.ledger = ledger ∧
      (r.decision.denied = none → b.required = true → held.isSome = true)) ∨
    ∃ cap cost, b.cap = some cap ∧ 0 ≤ cost ∧ held = none ∧
      r.decision = .reserved ∧ r.reservation = some ⟨b.dayFor now, cost⟩ ∧
      r.ledger = credit ledger (b.dayFor now) cost ∧
      balance ledger (b.dayFor now) + cost ≤ cap := by
  intro r
  have hr : b.reserve ledger held now = r := rfl
  clear_value r
  unfold AnalysisBudget.reserve at hr
  split at hr
  · next hreq =>
    subst hr
    refine .inl ⟨rfl, rfl, fun _ h => ?_⟩
    rw [h] at hreq
    cases hreq
  split at hr
  · next hheld =>
    subst hr
    exact .inl ⟨rfl, rfl, fun _ _ => hheld⟩
  next hheld =>
  split at hr
  · next cap cost hcap hcost =>
    have hnone : held = none := by simpa using hheld
    split at hr
    · subst hr
      exact .inl ⟨rfl, rfl, fun hd => by cases hd⟩
    · next hle =>
      have hfits : cost ≤ cap := Rat.not_lt.mp hle
      have hnonneg := b.estimateNonneg cost hcost
      dsimp only at hr
      split at hr
      · next hday =>
        have hzero : balance ledger (b.dayFor now) = 0 := by
          simp [balance, hday]
        subst hr
        refine .inr ⟨cap, cost, hcap, hnonneg, hnone, rfl, rfl, ?_, ?_⟩
        · rw [credit, hzero, Rat.zero_add]
        · rw [hzero, Rat.zero_add]
          exact hfits
      · next reserved hday =>
        have hbal : balance ledger (b.dayFor now) = reserved := by
          simp [balance, hday]
        split at hr
        · next hroom =>
          subst hr
          refine .inr ⟨cap, cost, hcap, hnonneg, hnone, rfl, rfl, ?_, ?_⟩
          · rw [credit, hbal]
          · rw [hbal]
            exact hroom
        · subst hr
          exact .inl ⟨rfl, rfl, fun hd => by cases hd⟩
  · subst hr
    exact .inl ⟨rfl, rfl, fun hd => by cases hd⟩

/-- **The books.** The ledger of a day is the sum of what is booked on it
and within the cap; a row's cost is its reservation's; a reservation was
made once; and a row under work has one where the budget is required. -/
structure Books (b : AnalysisBudget) (s : BudgetSystem) : Prop where
  balanced : InBalance s.ledger s.held
  capped : ∀ day x, AList.lookup day s.ledger = some x →
    ∃ cap, b.cap = some cap ∧ x ≤ cap
  column : ∀ id row, AList.lookup id s.base.store.rows = some row →
    row.reservedCost = (AList.lookup id s.held).map (·.amount)
  rowless : ∀ id, AList.lookup id s.base.store.rows = none →
    AList.lookup id s.held = none
  made : ∀ e ∈ s.made, (AList.lookup e.1 s.held).isSome = true
  once : (s.made.map (·.1)).Nodup
  working : b.required = true → ∀ id row,
    AList.lookup id s.base.store.rows = some row →
    row.status = .processing → row.reservedCost.isSome = true

section Books

variable {b : AnalysisBudget} {s : BudgetSystem} {base : AnalysisSystem}

/-- A row is written with what is then held for it. -/
theorem Books.column_insert (h : Books b s) {id : AnalysisId}
    {row' : AnalysisRow} {e : Entry Int}
    (hrow' : row'.reservedCost = some e.amount) (id₁ : AnalysisId)
    (row₁ : AnalysisRow)
    (h₁ : AList.lookup id₁ (AList.insert id row' s.base.store.rows) = some row₁) :
    row₁.reservedCost
      = (AList.lookup id₁ (AList.insert id e s.held)).map (·.amount) := by
  rw [Table.lookup_insert'] at h₁ ⊢
  split at h₁
  · next hid =>
    cases h₁
    rw [if_pos hid, hrow']
    rfl
  · next hid =>
    rw [if_neg hid]
    exact h.column id₁ row₁ h₁

theorem Books.rowless_insert (h : Books b s) {id : AnalysisId}
    (row' : AnalysisRow) {e : Entry Int} (id₁ : AnalysisId)
    (hnone : AList.lookup id₁ (AList.insert id row' s.base.store.rows) = none) :
    AList.lookup id₁ (AList.insert id e s.held) = none := by
  rw [Table.lookup_insert'] at hnone ⊢
  split at hnone
  · cases hnone
  · next hid =>
    rw [if_neg hid]
    exact h.rowless id₁ hnone

theorem Books.made_insert (h : Books b s) {id : AnalysisId}
    {e : Entry Int} : ∀ m ∈ s.made,
      (AList.lookup m.1 (AList.insert id e s.held)).isSome = true := by
  intro m hm
  rw [Table.lookup_insert']
  split
  · rfl
  · exact h.made m hm

/-- A row is written that has a cost if it is under work. -/
theorem Books.working_insert (h : Books b s) {id : AnalysisId}
    {row' : AnalysisRow}
    (hwork : row'.status = .processing → row'.reservedCost.isSome = true)
    (hreq : b.required = true) (id₁ : AnalysisId) (row₁ : AnalysisRow)
    (h₁ : AList.lookup id₁ (AList.insert id row' s.base.store.rows) = some row₁)
    (hp : row₁.status = .processing) : row₁.reservedCost.isSome = true := by
  rw [Table.lookup_insert'] at h₁
  split at h₁
  · cases h₁
    exact hwork hp
  · exact h.working hreq id₁ row₁ h₁ hp

/-- A step without a budget. -/
theorem Books.kept {defers : Prop} {creates : AnalysisId → Prop}
    (h : Books b s)
    (hr : AnalysesKept defers creates s.base.store.rows base.store.rows) :
    Books b (s.withBase base) where
  balanced := h.balanced
  capped := h.capped
  column id row' hrow' := by
    cases hold : AList.lookup id s.base.store.rows with
    | none =>
        rw [(hr.new id row' hold hrow').2.1]
        show none = (AList.lookup id s.held).map _
        rw [h.rowless id hold]
        rfl
    | some row =>
        obtain ⟨row₁, hrow₁, hk⟩ := hr.old id row hold
        cases hrow₁.symm.trans hrow'
        rw [hk.reserved]
        exact h.column id row hold
  rowless id hnone := by
    apply h.rowless
    cases hold : AList.lookup id s.base.store.rows with
    | none => rfl
    | some row =>
        obtain ⟨row₁, hrow₁, -⟩ := hr.old id row hold
        rw [show AList.lookup id base.store.rows = none from hnone] at hrow₁
        cases hrow₁
  made := h.made
  once := h.once
  working hreq id row' hrow' hp := by
    cases hold : AList.lookup id s.base.store.rows with
    | none =>
        rw [(hr.new id row' hold hrow').2.2.2.1] at hp
        cases hp
    | some row =>
        obtain ⟨row₁, hrow₁, hk⟩ := hr.old id row hold
        cases hrow₁.symm.trans hrow'
        rw [hk.reserved]
        exact h.working hreq id row hold (hk.processing hp)

theorem Books.same (h : Books b s)
    (hrows : base.store.rows = s.base.store.rows) :
    Books b (s.withBase base) := by
  have hr : AnalysesKept False (fun _ => False) s.base.store.rows
      base.store.rows := by
    rw [hrows]
    exact .refl
  exact h.kept hr

/-- A row that is rewritten with its reservation. -/
theorem Books.rewrite (h : Books b s) {id : AnalysisId}
    {row row' : AnalysisRow}
    (hrow : AList.lookup id s.base.store.rows = some row)
    (hrows : base.store.rows = AList.insert id row' s.base.store.rows)
    (hcost : row'.reservedCost = row.reservedCost)
    (hwork : b.required = true → row'.status = .processing →
      row'.reservedCost.isSome = true) : Books b (s.withBase base) where
  balanced := h.balanced
  capped := h.capped
  column id' row₁ h₁ := by
    rw [show (s.withBase base).base.store.rows = _ from hrows,
      Table.lookup_insert'] at h₁
    split at h₁
    · next hid =>
      cases h₁
      subst hid
      rw [hcost]
      exact h.column _ row hrow
    · exact h.column id' row₁ h₁
  rowless id' hnone := by
    rw [show (s.withBase base).base.store.rows = _ from hrows,
      Table.lookup_insert'] at hnone
    split at hnone
    · cases hnone
    · exact h.rowless id' hnone
  made := h.made
  once := h.once
  working hreq id' row₁ h₁ hp := by
    rw [show (s.withBase base).base.store.rows = _ from hrows,
      Table.lookup_insert'] at h₁
    split at h₁
    · cases h₁
      exact hwork hreq hp
    · exact h.working hreq id' row₁ h₁ hp

/-- **A claim books once**, within the cap. -/
theorem Books.book (h : Books b s) {id : AnalysisId} {row' : AnalysisRow}
    {day : Int} {cost cap : Rat} {r : Reserve}
    (hrows : base.store.rows = AList.insert id row' s.base.store.rows)
    (hheld : AList.lookup id s.held = none)
    (hres : r.reservation = some ⟨day, cost⟩)
    (hledger : r.ledger = credit s.ledger day cost)
    (hcap : b.cap = some cap) (hcost : 0 ≤ cost)
    (hroom : balance s.ledger day + cost ≤ cap)
    (hrow' : row'.reservedCost = some cost) :
    Books b ((s.withBase base).afterReserve id r) := by
  have hafter : (s.withBase base).afterReserve id r =
      { s with base
               ledger := credit s.ledger day cost
               held := AList.insert id ⟨day, cost⟩ s.held
               made := (id, ⟨day, cost⟩) :: s.made } := by
    simp only [BudgetSystem.afterReserve, hres, hledger]
    rfl
  rw [hafter]
  refine
    { balanced := h.balanced.book (e := ⟨day, cost⟩) hheld hcost
      capped := ?_, column := ?_, rowless := ?_, made := ?_, once := ?_
      working := ?_ }
  · intro day' x hx
    rw [show AList.lookup day' (credit s.ledger day cost)
      = _ from Table.lookup_insert' ..] at hx
    split at hx
    · cases hx
      exact ⟨cap, hcap, hroom⟩
    · exact h.capped day' x hx
  · intro id₁ row₁ h₁
    exact h.column_insert hrow' id₁ row₁ (hrows ▸ h₁)
  · intro id₁ hnone
    exact h.rowless_insert row' id₁ (hrows ▸ hnone)
  · intro m hm
    rcases List.mem_cons.mp hm with rfl | hm
    · simp
    · exact h.made_insert m hm
  · dsimp only
    rw [List.map_cons, List.nodup_cons]
    refine ⟨fun hmem => ?_, h.once⟩
    obtain ⟨e, he, heq⟩ := List.mem_map.mp hmem
    have hsome := h.made e he
    rw [heq, hheld] at hsome
    cases hsome
  · intro hreq id₁ row₁ h₁
    exact h.working_insert (fun _ => by rw [hrow']; rfl) hreq id₁ row₁ (hrows ▸ h₁)

/-- **A skip that releases** takes the reservation off its day. -/
theorem Books.free (h : Books b s) {id : AnalysisId} {row : AnalysisRow}
    {now : Instant} {code : String}
    (hrow : AList.lookup id s.base.store.rows = some row)
    (hrows : base.store.rows = AList.insert id
      (row.outcome now (.skip code true)) s.base.store.rows) :
    Books b ((s.withBase base).afterSkip id (AList.lookup id s.held)) := by
  have hcol := h.column id row hrow
  have hskip : (row.outcome now (.skip code true)).reservedCost
      = if row.reservedCost.any (· ≠ 0) then some 0 else row.reservedCost := by
    simp [AnalysisRow.outcome]
  cases hheld : AList.lookup id s.held with
  | none =>
      rw [hheld, Option.map_none] at hcol
      exact h.rewrite hrow hrows (by rw [hskip, hcol]; rfl)
        fun _ hp => by cases hp
  | some e =>
      rw [hheld, Option.map_some] at hcol
      have hnonneg := h.balanced.amounts id e hheld
      by_cases hzero : e.amount = 0
      · have hafter : (s.withBase base).afterSkip id (some e)
            = s.withBase base := by
          simp [BudgetSystem.afterSkip, release, hzero, BudgetSystem.withBase]
        rw [hafter]
        exact h.rewrite hrow hrows (by rw [hskip, hcol]; simp [hzero])
          fun _ hp => by cases hp
      · have hpos : ¬ e.amount ≤ 0 := by grind
        have hmod : s.held.modify id (fun e => { e with amount := 0 })
            = AList.insert id { e with amount := 0 } s.held := by
          simp [Table.modify, hheld]
        have hafter : (s.withBase base).afterSkip id (some e) =
            { s with base
                     ledger := debit s.ledger e.account e.amount
                     held := AList.insert id { e with amount := 0 } s.held } := by
          simp [BudgetSystem.afterSkip, release, hzero, hpos, hmod,
            BudgetSystem.withBase]
        have hcost : (row.outcome now (.skip code true)).reservedCost
            = some 0 := by
          rw [hskip, hcol]
          simp [hzero]
        rw [hafter]
        refine
          { balanced := h.balanced.free hheld
            capped := ?_, column := ?_, rowless := ?_, made := ?_
            once := h.once, working := ?_ }
        · intro day x hx
          rw [show AList.lookup day (debit s.ledger e.account e.amount)
            = _ from Table.lookup_modify ..] at hx
          split at hx
          · obtain ⟨r, hr, rfl⟩ := Option.map_eq_some_iff.mp hx
            obtain ⟨cap, hcap, hle⟩ := h.capped day r hr
            have hcapNonneg := b.capNonneg cap hcap
            refine ⟨cap, hcap, ?_⟩
            split
            · exact hcapNonneg
            · grind
          · exact h.capped day x hx
        · intro id₁ row₁ h₁
          exact h.column_insert hcost id₁ row₁ (hrows ▸ h₁)
        · intro id₁ hnone
          exact h.rowless_insert (row.outcome now (.skip code true)) id₁
            (hrows ▸ hnone)
        · exact h.made_insert
        · intro hreq id₁ row₁ h₁
          exact h.working_insert (fun hp => by cases hp) hreq id₁ row₁ (hrows ▸ h₁)

end Books

/-! ## Runs -/

section Runs

variable {cfg : AnalysisSettings} {b : AnalysisBudget} {s s' : BudgetSystem}

/-- A row with a token of before keeps what is booked on it. -/
theorem AnalysesKept.reads {defers : Prop} {creates : AnalysisId → Prop}
    {s s' : BudgetSystem}
    (hr : AnalysesKept defers creates s.base.store.rows s'.base.store.rows)
    (hheld : s'.held = s.held) (id : AnalysisId) (row' : AnalysisRow)
    (t : ClaimToken) (hrow : AList.lookup id s'.base.store.rows = some row')
    (ht : row'.claimToken = some t) :
    (t ∉ s.base.store.tokens ∧ t ∈ s'.base.store.tokens) ∨
      ∃ row, AList.lookup id s.base.store.rows = some row ∧
        row.claimToken = some t ∧
        AList.lookup id s'.held = AList.lookup id s.held := by
  cases hold : AList.lookup id s.base.store.rows with
  | none =>
      rw [(hr.new id row' hold hrow).2.2.1] at ht
      cases ht
  | some row =>
      obtain ⟨row₁, hrow₁, hk⟩ := hr.old id row hold
      cases hrow₁.symm.trans hrow
      exact .inr ⟨row, rfl, hk.token t ht, by rw [hheld]⟩

/-- The two invariants of the budget. -/
structure LedgerInv (b : AnalysisBudget) (s : BudgetSystem) : Prop where
  books : Books b s
  reads : ReadInv s

theorem LedgerInv.unbudgeted (h : LedgerInv b s) {act : AnalysisAct}
    (hst : budgetStep cfg b s (.other act) = some s') : LedgerInv b s' := by
  obtain ⟨hb, hst⟩ := Option.ite_none_right_eq_some.mp hst
  obtain ⟨base, hbase, rfl⟩ := Option.map_eq_some_iff.mp hst
  obtain ⟨hr, htokens, -⟩ := analysesKept_unbudgeted hb hbase
  refine ⟨h.books.kept hr, h.reads.step (workersStep act hbase) rfl ?_ ?_⟩
  · intro t ht
    rw [show (s.withBase base).base.store.tokens = _ from htokens]
    exact ht
  · exact AnalysesKept.reads hr rfl

/-- What was read stays right through a claim that books on no row but the
one it takes. -/
theorem ReadInv.claimed (h : ReadInv s) {w : JobRunId} {now : Instant}
    {token : ClaimToken} {decision : BudgetDecision} {cost : Rat}
    (hst : analysisStep cfg s.base (.work w (.claim now token decision cost))
      = some s'.base) (hbefore : s'.before = s.before)
    (hheld : ∀ id row, AList.lookup id s'.base.store.rows = some row →
      row.claimToken ≠ some token →
      AList.lookup id s'.held = AList.lookup id s.held) : ReadInv s' := by
  obtain ⟨job, phase, -, -, hfresh, htokens, -, hrows⟩ := claim_cases hst
  refine h.step (workersStep _ hst) hbefore ?_ ?_
  · intro t ht
    rw [htokens]
    exact List.mem_cons_of_mem token ht
  · intro id row' t hrow ht
    by_cases htt : t = token
    · subst htt
      exact .inl ⟨hfresh, by rw [htokens]; exact List.mem_cons_self ..⟩
    · have hsame := hheld id row' hrow
        (by rw [ht]; exact fun heq => htt (Option.some.inj heq))
      rcases hrows with ⟨-, -, hrows⟩ | ⟨row, n, -, -, -, -, hrows⟩
      · rw [hrows] at hrow
        exact .inr ⟨row', hrow, ht, hsame⟩
      · rw [hrows, Table.lookup_insert'] at hrow
        split at hrow
        · cases hrow
          rw [(AnalysisRow.reserve_columns _ _).2.1] at ht
          exact absurd (Option.some.inj ht).symm htt
        · exact .inr ⟨row', hrow, ht, hsame⟩

/-- What was read stays right through a write, which takes the token out of
its row. -/
theorem ReadInv.persisted (h : ReadInv s) {w : JobRunId} {now : Instant}
    (hst : analysisStep cfg s.base (.work w (.persist now)) = some s'.base)
    (hbefore : s'.before = s.before)
    (hheld : ∀ id row t, AList.lookup id s'.base.store.rows = some row →
      row.claimToken = some t →
      AList.lookup id s'.held = AList.lookup id s.held) : ReadInv s' := by
  obtain ⟨job, token, o, -, -, htokens, hrows⟩ := persist_cases hst
  refine h.step (workersStep _ hst) hbefore ?_ ?_
  · intro t ht
    rw [htokens]
    exact ht
  · intro id row' t hrow ht
    have hsame := hheld id row' t hrow ht
    rcases hrows with ⟨-, hrows, -⟩ | ⟨row, -, -, -, hrows, -⟩
    · rw [hrows] at hrow
      exact .inr ⟨row', hrow, ht, hsame⟩
    · rw [hrows, Table.lookup_insert'] at hrow
      split at hrow
      · cases hrow
        rw [AnalysisRow.outcome_token] at ht
        cases ht
      · exact .inr ⟨row', hrow, ht, hsame⟩

/-- A claim without a booking has a reservation already, or needs none. -/
theorem Books.claimHeld (h : Books b s) {id : AnalysisId} {row : AnalysisRow}
    {base : AnalysisSystem} {now : Instant} {token : ClaimToken} {cost : Rat}
    {r : Reserve} (hrow : AList.lookup id s.base.store.rows = some row)
    (hrows : base.store.rows = AList.insert id
      ((row.claimed now cfg.leaseSeconds token).reserve r.decision cost)
      s.base.store.rows)
    (hr : b.reserve s.ledger (AList.lookup id s.held) now = r)
    (hheld : b.required = true → (AList.lookup id s.held).isSome = true) :
    Books b (s.withBase base) := by
  have hcol := h.column id row hrow
  have hrowCost : b.required = true → row.reservedCost.isSome = true := by
    intro hreq
    rw [hcol, Option.isSome_map]
    exact hheld hreq
  have hcost : ((row.claimed now cfg.leaseSeconds token).reserve r.decision
      cost).reservedCost = row.reservedCost := by
    unfold AnalysisRow.reserve
    split
    · next hc =>
      have hreq : b.required = true := by
        by_contra hreq
        have hd := hc.1
        rw [← hr, AnalysisBudget.reserve, if_pos (by simpa using hreq)] at hd
        cases hd
      have hsome := hrowCost hreq
      rw [show row.reservedCost = none from hc.2] at hsome
      cases hsome
    · rfl
  refine h.rewrite hrow hrows hcost fun hreq _ => ?_
  rw [hcost]
  exact hrowCost hreq

theorem LedgerInv.claim (h : LedgerInv b s) {w : JobRunId} {now : Instant}
    {token : ClaimToken}
    (hst : budgetStep cfg b s (.claim w now token) = some s') :
    LedgerInv b s' := by
  obtain ⟨job, hjob, hst⟩ := Option.bind_eq_some_iff.mp hst
  dsimp only at hst
  obtain ⟨base, hbase, rfl⟩ := Option.map_eq_some_iff.mp hst
  obtain ⟨job₁, phase, hjob₁, -, -, -, -, hrows⟩ := claim_cases hbase
  cases hjob.symm.trans hjob₁
  have hreserve := reserve_cases b s.ledger (AList.lookup job.analysisId s.held)
    now
  generalize hr : b.reserve s.ledger (AList.lookup job.analysisId s.held) now
    = r at *
  have hunbooked : ReadInv (s.withBase base) :=
    h.reads.claimed hbase rfl fun _ _ _ _ => rfl
  rcases hrows with ⟨hno, -, hrows⟩ | ⟨row, n, hrow, hclaim, hdenied, -, hrows⟩
  · -- not claimable, or denied: the savepoint leaves nothing
    have hafter : (if s.claimable cfg job.analysisId now then
        (s.withBase base).afterReserve job.analysisId r
        else s.withBase base) = s.withBase base := by
      rcases hno with hno | hno
      · rw [if_neg (by rw [BudgetSystem.claimable, hno]; simp)]
      · rcases hreserve with ⟨hnone, -, -⟩ | ⟨cap, cost, -, -, -, hd, -⟩
        · simp [BudgetSystem.afterReserve, hnone]
        · rw [hd] at hno
          cases hno
    rw [hafter]
    exact ⟨h.books.same hrows, hunbooked⟩
  · have hclaimable : s.claimable cfg job.analysisId now = true := by
      rw [BudgetSystem.claimable, hrow]
      exact hclaim
    rw [if_pos hclaimable]
    rcases hreserve with ⟨hnone, -, hheld⟩ | ⟨cap, cost, hcap, hcost, hheld,
      hd, hres, hledger, hroom⟩
    · have hafter : (s.withBase base).afterReserve job.analysisId r
          = s.withBase base := by
        simp [BudgetSystem.afterReserve, hnone]
      rw [hafter]
      exact ⟨h.books.claimHeld hrow hrows hr (hheld hdenied), hunbooked⟩
    · have hrowCost : row.reservedCost = none := by
        rw [h.books.column _ row hrow, hheld]
        rfl
      have hafter : (s.withBase base).afterReserve job.analysisId r =
          { s with base
                   ledger := r.ledger
                   held := AList.insert job.analysisId ⟨b.dayFor now, cost⟩
                     s.held
                   made := (job.analysisId, ⟨b.dayFor now, cost⟩) :: s.made } := by
        simp only [BudgetSystem.afterReserve, hres]
        rfl
      refine ⟨h.books.book hrows hheld hres hledger hcap hcost hroom ?_, ?_⟩
      · simp [AnalysisRow.reserve, hd, AnalysisRow.claimed, hrowCost, hres]
      · rw [hafter]
        refine h.reads.claimed hbase rfl fun id row' hrow' hne => ?_
        dsimp only at hrow' ⊢
        rw [hrows, Table.lookup_insert'] at hrow'
        split at hrow'
        · cases hrow'
          rw [(AnalysisRow.reserve_columns _ _).2.1] at hne
          exact absurd rfl hne
        · next hid => exact AList.lookup_insert_ne hid

theorem LedgerInv.readHeld (h : LedgerInv b s) {w : JobRunId}
    (hst : budgetStep cfg b s (.readHeld w) = some s') : LedgerInv b s' := by
  obtain ⟨job, hjob, hst⟩ := Option.bind_eq_some_iff.mp hst
  split at hst
  · next token code releaseBudget hp =>
    cases hst
    refine ⟨⟨h.books.balanced, h.books.capped, h.books.column, h.books.rowless,
      h.books.made, h.books.once, h.books.working⟩, ?_⟩
    refine ⟨h.reads.drawn, h.reads.jobs, fun w' e he => ?_,
      fun w' job' token' o' e row hjob' hp' he hrow ht => ?_⟩
    · dsimp only [BudgetSystem.remember] at he
      rw [Table.lookup_insert'] at he
      split at he
      · next hw => exact ⟨job, hw ▸ hjob, by rw [hp]; rfl⟩
      · exact h.reads.decided w' e he
    · dsimp only [BudgetSystem.remember] at he
      rw [Table.lookup_insert'] at he
      split at he
      · next hw =>
        cases he
        subst hw
        cases hjob.symm.trans hjob'
        rfl
      · exact h.reads.read w' job' token' o' e row hjob' hp' he hrow ht
  · cases hst

/-- A write that leaves the reservation alone. -/
theorem LedgerInv.written (h : LedgerInv b s) {w : JobRunId} {now : Instant}
    {base : AnalysisSystem}
    (hbase : analysisStep cfg s.base (.work w (.persist now)) = some base)
    (hcost : ∀ job token o row, AList.lookup w s.base.workers = some job →
      job.phase = .persist token o → s.base.owns job.analysisId token = true →
      AList.lookup job.analysisId s.base.store.rows = some row →
      (row.outcome now o).reservedCost = row.reservedCost) :
    LedgerInv b (s.withBase base) := by
  refine ⟨?_, h.reads.persisted hbase rfl fun _ _ _ _ _ => rfl⟩
  obtain ⟨job, token, o, hjob, hp, -, hrows⟩ := persist_cases hbase
  rcases hrows with ⟨-, hrows, -⟩ | ⟨row, hrow, htok, hown, hrows, -⟩
  · exact h.books.same hrows
  · refine h.books.rewrite hrow hrows
      (hcost job token o row hjob hp hown hrow) fun _ hs => ?_
    cases o <;> cases hs

theorem LedgerInv.persist (h : LedgerInv b s) {w : JobRunId} {now : Instant}
    (hst : budgetStep cfg b s (.persist w now) = some s') : LedgerInv b s' := by
  obtain ⟨job, hjob, hst⟩ := Option.bind_eq_some_iff.mp hst
  split at hst
  · next token code releaseBudget hp =>
    obtain ⟨read, hread, hst⟩ := Option.bind_eq_some_iff.mp hst
    obtain ⟨base, hbase, rfl⟩ := Option.map_eq_some_iff.mp hst
    by_cases hboth : (s.base.owns job.analysisId token && releaseBudget) = true
    · obtain ⟨hown, hrel⟩ := Bool.and_eq_true_iff.mp hboth
      subst hrel
      rw [if_pos hboth]
      obtain ⟨job₁, token₁, o, hjob₁, hp₁, -, hrows⟩ := persist_cases hbase
      cases hjob.symm.trans hjob₁
      cases hp.symm.trans hp₁
      rcases hrows with ⟨hno, -⟩ | ⟨row, hrow, htok, -, hrows, -⟩
      · rw [hown] at hno
        cases hno
      · -- the token is still in the row, so what was read is what it holds
        have heq := h.reads.read w job token _ read row hjob hp hread hrow htok
        subst heq
        refine ⟨h.books.free hrow hrows, h.reads.persisted hbase rfl ?_⟩
        intro id row' t hrow' ht
        by_cases hid : id = job.analysisId
        · subst hid
          rw [show ((s.withBase base).afterSkip job.analysisId _).base.store.rows
            = _ from hrows, AList.lookup_insert] at hrow'
          cases hrow'
          cases ht
        · show AList.lookup id (if _ then s.held.modify job.analysisId _
            else s.held) = _
          split
          · exact Table.lookup_modify_ne s.held hid _
          · rfl
    · rw [if_neg hboth]
      refine h.written hbase fun job₁ token₁ o row hjob₁ hp₁ hown hrow => ?_
      cases hjob.symm.trans hjob₁
      cases hp.symm.trans hp₁
      have hrel : releaseBudget = false := by
        rw [hown, Bool.true_and] at hboth
        simpa using hboth
      simp [AnalysisRow.outcome, hrel]
  · next hno =>
    obtain ⟨base, hbase, rfl⟩ := Option.map_eq_some_iff.mp hst
    refine h.written hbase fun job₁ token₁ o row hjob₁ hp₁ hown hrow => ?_
    cases hjob.symm.trans hjob₁
    cases o with
    | skip code releaseBudget => exact absurd hp₁ (hno token₁ code releaseBudget)
    | complete content => rfl
    | retry code next refund => rfl
    | fail code => rfl

/-- **Every step keeps the budget's invariants.** -/
theorem LedgerInv.step (h : LedgerInv b s) {act : BudgetAct}
    (hst : budgetStep cfg b s act = some s') : LedgerInv b s' := by
  cases act with
  | claim w now token => exact h.claim hst
  | readHeld w => exact h.readHeld hst
  | persist w now => exact h.persist hst
  | other act => exact h.unbudgeted hst

theorem Books.start : Books b {} where
  balanced := .empty
  capped day x h := by
    rw [show AList.lookup day (∅ : BudgetLedger) = none from rfl] at h
    cases h
  column id row h := by
    rw [show AList.lookup id (∅ : Analyses) = none from rfl] at h
    cases h
  rowless _ _ := rfl
  made e h := by cases h
  once := List.nodup_nil
  working _ id row h := by
    rw [show AList.lookup id (∅ : Analyses) = none from rfl] at h
    cases h

theorem ReadInv.start : ReadInv {} where
  drawn id row t h := by
    rw [show AList.lookup id (∅ : Analyses) = none from rfl] at h
    cases h
  jobs w job t h := by
    rw [show AList.lookup w (∅ : Table JobRunId AnalysisJobRun) = none
      from rfl] at h
    cases h
  decided w e h := by
    rw [show AList.lookup w (∅ : Table JobRunId (Option Reservation)) = none
      from rfl] at h
    cases h
  read w job token o e row h := by
    rw [show AList.lookup w (∅ : Table JobRunId AnalysisJobRun) = none
      from rfl] at h
    cases h

theorem ledgerInv_run {s : BudgetSystem}
    (h : Run (budgetStep cfg b) (fun _ _ => True) {} s) : LedgerInv b s :=
  h.inv (P := LedgerInv b) (fun _ _ _ hi _ hst => hi.step hst)
    ⟨.start, .start⟩

/-! ### Deferrals -/

/-- A claim that the budget denies has written nothing. -/
theorem claim_deferred {s s' : AnalysisSystem} {w : JobRunId} {now t : Instant}
    {token : ClaimToken} {decision : BudgetDecision} {cost : Rat}
    {job : AnalysisJobRun} {reason : String}
    (h : analysisStep cfg s (.work w (.claim now token decision cost))
      = some s') (hjob : AList.lookup w s'.workers = some job)
    (hp : job.phase = .defer reason t) :
    decision.denied = some reason ∧ s'.store.rows = s.store.rows := by
  obtain ⟨job₀, -, h⟩ := Option.bind_eq_some_iff.mp h
  obtain ⟨⟨store, job'⟩, hstep, rfl⟩ := Option.map_eq_some_iff.mp h
  obtain ⟨-, hstep⟩ := Option.ite_none_right_eq_some.mp hstep
  dsimp only at hjob ⊢
  rw [AList.lookup_insert] at hjob
  cases hjob
  dsimp only [claimForProcessing] at hstep
  cases hrow : AList.lookup job₀.analysisId s.store.rows with
  | none =>
      simp only [hrow] at hstep
      cases hstep
      cases hp
  | some row =>
      simp only [hrow] at hstep
      by_cases hc : row.claimable now cfg.maxAttempts = true
      · simp only [if_pos hc] at hstep
        cases hd : decision.denied with
        | none =>
            simp only [hd] at hstep
            cases hstep
            cases hp
        | some reason' =>
            simp only [hd] at hstep
            cases hstep
            cases hp
            exact ⟨rfl, rfl⟩
      · simp only [if_neg hc] at hstep
        cases hstep
        cases hp

/-- What a denied claim leaves: the budget and the rows as they were. -/
theorem budgetStep_deferred {w : JobRunId} {now t : Instant}
    {token : ClaimToken} {job : AnalysisJobRun} {reason : String}
    (hst : budgetStep cfg b s (.claim w now token) = some s')
    (hjob : AList.lookup w s'.base.workers = some job)
    (hp : job.phase = .defer reason t) :
    s'.ledger = s.ledger ∧ s'.held = s.held ∧
      s'.base.store.rows = s.base.store.rows := by
  obtain ⟨job₀, -, hst⟩ := Option.bind_eq_some_iff.mp hst
  dsimp only at hst
  obtain ⟨base, hbase, rfl⟩ := Option.map_eq_some_iff.mp hst
  have hreserve := reserve_cases b s.ledger
    (AList.lookup job₀.analysisId s.held) now
  generalize b.reserve s.ledger (AList.lookup job₀.analysisId s.held) now
    = r at *
  have hworkers : AList.lookup w base.workers = some job := by
    revert hjob
    split
    · unfold BudgetSystem.afterReserve
      split <;> exact id
    · exact id
  obtain ⟨hdenied, hrows⟩ := claim_deferred hbase hworkers hp
  have hnone : r.reservation = none := by
    rcases hreserve with ⟨hnone, -, -⟩ | ⟨cap, cost, -, -, -, hd, -⟩
    · exact hnone
    · rw [hd] at hdenied
      cases hdenied
  simp only [BudgetSystem.afterReserve, hnone, ite_self]
  exact ⟨rfl, rfl, hrows⟩

/-- The row of `_defer` keeps its attempts and its reservation. -/
theorem deferAnalysis_kept (t : Analyses) (id : AnalysisId) (reason : String)
    (now : Instant) {id' : AnalysisId} {row : AnalysisRow}
    (hrow : AList.lookup id' t = some row) :
    ∃ row', AList.lookup id' (deferAnalysis cfg t id reason now) = some row' ∧
      row'.attemptCount = row.attemptCount ∧
      row'.reservedCost = row.reservedCost := by
  unfold deferAnalysis
  rw [Table.lookup_modify, hrow]
  split
  · refine ⟨_, rfl, ?_⟩
    dsimp only
    split <;> exact ⟨rfl, rfl⟩
  · exact ⟨row, rfl, rfl, rfl⟩

theorem budgetStep_defer {w : JobRunId}
    (hst : budgetStep cfg b s (.other (.work w .defer)) = some s') :
    s'.ledger = s.ledger ∧ s'.held = s.held ∧
      ∀ id row, AList.lookup id s.base.store.rows = some row →
        ∃ row', AList.lookup id s'.base.store.rows = some row' ∧
          row'.attemptCount = row.attemptCount ∧
          row'.reservedCost = row.reservedCost := by
  have hst : (analysisStep cfg s.base (.work w .defer)).map s.withBase
      = some s' := hst
  obtain ⟨base, hbase, rfl⟩ := Option.map_eq_some_iff.mp hst
  refine ⟨rfl, rfl, fun id row hrow => ?_⟩
  obtain ⟨job, -, hbase⟩ := Option.bind_eq_some_iff.mp hbase
  obtain ⟨⟨store, job'⟩, hstep, rfl⟩ := Option.map_eq_some_iff.mp hbase
  unfold analysisWorkerStep at hstep
  dsimp only at hstep
  split at hstep
  · cases hstep
    exact deferAnalysis_kept _ _ _ _ hrow
  · cases hstep

end Runs

/-- **The analysis budget ledger.** In every run, whatever the workers and
sweepers do and wherever they crash: the reserved cost of a day is the sum
of the reservations booked on it, it is not negative and within the cap; a
row's reserved cost is its reservation's, and an analysis reserved once at
most; and a claim that the budget defers leaves the ledger, the
reservations and the attempt counts as they were, in both of its
transactions. -/
theorem budgetLedger_balanced (cfg : AnalysisSettings) (b : AnalysisBudget)
    (s : BudgetSystem)
    (h : Run (budgetStep cfg b) (fun _ _ => True) {} s) :
    (∀ day, balance s.ledger day = s.heldOn day ∧
      0 ≤ balance s.ledger day ∧
      ∀ x, AList.lookup day s.ledger = some x →
        ∃ cap, b.cap = some cap ∧ x ≤ cap) ∧
    (∀ id row, AList.lookup id s.base.store.rows = some row →
      row.reservedCost = (AList.lookup id s.held).map (·.amount)) ∧
    (s.made.map (·.1)).Nodup ∧
    (∀ w now token s' job reason t,
      budgetStep cfg b s (.claim w now token) = some s' →
      AList.lookup w s'.base.workers = some job →
      job.phase = .defer reason t →
      s'.ledger = s.ledger ∧ s'.held = s.held ∧
        s'.base.store.rows = s.base.store.rows) ∧
    ∀ w s', budgetStep cfg b s (.other (.work w .defer)) = some s' →
      s'.ledger = s.ledger ∧ s'.held = s.held ∧
      ∀ id row, AList.lookup id s.base.store.rows = some row →
        ∃ row', AList.lookup id s'.base.store.rows = some row' ∧
          row'.attemptCount = row.attemptCount ∧
          row'.reservedCost = row.reservedCost := by
  have hi := (ledgerInv_run h).books
  refine ⟨fun day => ⟨hi.balanced.sum day, hi.balanced.nonneg day,
    hi.capped day⟩, hi.column, hi.once, ?_, ?_⟩
  · intro w now token s' job reason t hst hjob hp
    exact budgetStep_deferred hst hjob hp
  · intro w s' hst
    exact budgetStep_defer hst

/-! ### A day with room for one -/

/-- An estimate of three on a cap of five. -/
def roomForOne : AnalysisBudget where
  required := true
  cap := some 5
  estimate := some 3
  zone := ⟨id, id⟩
  capNonneg x h := by
    cases h
    decide
  estimateNonneg x h := by
    cases h
    decide
  together := rfl

/-- The first analysis reserves, the second is deferred; the first turns
out to have no conversation, and gives its reservation back. -/
def twoAnalyses : List BudgetAct :=
  [.other (.register 1 ⟨7, 3, 2, some 7⟩ none none),
    .other (.register 2 ⟨8, 4, 2, some 8⟩ none none),
    .other (.deliver 1 1), .other (.deliver 2 2), .claim 1 0 10,
    .claim 2 0 20, .other (.work 2 .defer),
    .other (.work 1 (.load 0 0 0 (.skip "empty_conversation"))),
    .readHeld 1, .persist 1 second]

theorem budgetLedger_twoAnalyses :
    ∃ s, runActs (budgetStep {} roomForOne) {} (twoAnalyses.take 7) = some s ∧
      balance s.ledger 0 = 3 ∧ s.heldOn 0 = 3 ∧
    ∃ s', runActs (budgetStep {} roomForOne) {} twoAnalyses = some s' ∧
      balance s'.ledger 0 = 0 ∧ s'.heldOn 0 = 0 := by
  have hbooked : (runActs (budgetStep {} roomForOne) {}
      (twoAnalyses.take 7)).any (fun s => decide (balance s.ledger 0 = 3))
      = true := by
    decide +kernel
  have hfreed : (runActs (budgetStep {} roomForOne) {} twoAnalyses).any
      (fun s => decide (balance s.ledger 0 = 0)) = true := by
    decide +kernel
  obtain ⟨s, hs, hthree⟩ := (Option.any_eq_true _ _).mp hbooked
  obtain ⟨s', hs', hzero⟩ := (Option.any_eq_true _ _).mp hfreed
  have hthree := of_decide_eq_true hthree
  have hzero := of_decide_eq_true hzero
  have h := (budgetLedger_balanced {} roomForOne s (Run.of_runActs hs)).1 0
  have h' := (budgetLedger_balanced {} roomForOne s' (Run.of_runActs hs')).1 0
  exact ⟨s, hs, hthree, h.1.symm.trans hthree, s', hs', hzero,
    h'.1.symm.trans hzero⟩

end CallingAgent
