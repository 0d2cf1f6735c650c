import CallingAgent.Analysis.BudgetLedger

/-!
# Discovery — no unfinished analysis is lost

The sweeper finds its work in the rows alone. Whatever state the workers
left a row in, from some time on one of its two queries selects it: the
one that publishes, or the one that gives up. And a published row is not
published in vain: its claim takes it, puts it off, or ends it. That fails
for a row under work that holds no reservation, once the settings require
one. Every step is taken under settings of its own here.
-/

namespace CallingAgent

open Lib

/-! ## The two queries cover every unfinished row -/

/-- `unpublished_or_old` -/
def AnalysisRow.unpublishedOrOld (row : AnalysisRow) (now : Instant)
    (cfg : AnalysisSettings) : Bool :=
  match row.lastEnqueuedAt with
  | none => true
  | some e =>
      decide (e < now - cfg.republishAfterSeconds * second) ||
        row.nextAttemptAt.any fun t => decide (e < t)

section Queries

variable {cfg : AnalysisSettings} {row : AnalysisRow}

theorem AnalysisRow.publishable_waiting
    (hs : row.status = .pending ∨ row.status = .retryWait) (now : Instant) :
    row.publishable now cfg =
      (row.nextAttemptAt.all (fun t => decide (t ≤ now)) &&
        row.unpublishedOrOld now cfg) := by
  unfold AnalysisRow.publishable AnalysisRow.unpublishedOrOld
  cases row.lastEnqueuedAt <;> rcases hs with hs | hs <;> simp only [hs]

theorem AnalysisRow.publishable_processing (hs : row.status = .processing)
    (now : Instant) :
    row.publishable now cfg =
      (row.leaseExpiresAt.any (fun t => decide (t < now)) &&
        decide (row.attemptCount < cfg.maxAttempts)) := by
  unfold AnalysisRow.publishable
  rw [hs]

theorem AnalysisRow.stuck_processing (hs : row.status = .processing)
    (now : Instant) (n : Nat) :
    row.stuck now n = (decide ((n : Int) ≤ row.attemptCount) &&
      row.leaseExpiresAt.any fun t => decide (t < now)) := by
  unfold AnalysisRow.stuck
  rw [hs]

/-- A time that may be missing has passed, from some time on. -/
theorem eventually_passed (t : Option Instant) :
    ∃ T : Instant, ∀ now, T ≤ now →
      t.all (fun t => decide (t ≤ now)) = true := by
  cases t with
  | none => exact ⟨0, fun _ _ => rfl⟩
  | some t => exact ⟨t, fun now h => decide_eq_true h⟩

theorem AnalysisRow.eventually_old (row : AnalysisRow)
    (cfg : AnalysisSettings) :
    ∃ T : Instant, ∀ now, T ≤ now → row.unpublishedOrOld now cfg = true := by
  unfold AnalysisRow.unpublishedOrOld
  cases row.lastEnqueuedAt with
  | none => exact ⟨0, fun _ _ => rfl⟩
  | some e =>
      refine ⟨e + cfg.republishAfterSeconds * second + 1, fun now h => ?_⟩
      apply Bool.or_eq_true_iff.mpr
      exact .inl (decide_eq_true (Int.lt_sub_right_of_add_lt h))

/-- A waiting row is due once its time has come and its last publication
is old. -/
theorem AnalysisRow.waiting_due
    (hs : row.status = .pending ∨ row.status = .retryWait) :
    ∃ T : Instant, ∀ now, T ≤ now → row.publishable now cfg = true := by
  obtain ⟨T₁, hnext⟩ := eventually_passed row.nextAttemptAt
  obtain ⟨T₂, hold⟩ := row.eventually_old cfg
  have hboth : ∃ T : Instant, T₁ ≤ T ∧ T₂ ≤ T := by
    rcases Int.le_total T₁ T₂ with h | h
    · exact ⟨T₂, h, Int.le_refl _⟩
    · exact ⟨T₁, Int.le_refl _, h⟩
  obtain ⟨T, h₁, h₂⟩ := hboth
  refine ⟨T, fun now h => ?_⟩
  rw [publishable_waiting hs, hnext now (Int.le_trans h₁ h), Bool.true_and]
  exact hold now (Int.le_trans h₂ h)

/-- A row under work is due once its lease has run out, or stuck. -/
theorem AnalysisRow.processing_due {lease : Instant}
    (hs : row.status = .processing) (hlease : row.leaseExpiresAt = some lease)
    {now : Instant} (h : lease < now) :
    row.publishable now cfg = true ∨ row.stuck now cfg.maxAttempts = true := by
  have hexpired : row.leaseExpiresAt.any (fun t => decide (t < now)) = true := by
    rw [hlease]
    exact decide_eq_true h
  by_cases hmax : row.attemptCount < cfg.maxAttempts
  · left
    rw [publishable_processing hs, hexpired, Bool.true_and]
    exact decide_eq_true hmax
  · right
    rw [stuck_processing hs, hexpired, Bool.and_true]
    exact decide_eq_true (Int.not_lt.mp hmax)

/-- **No gap between the queries.** -/
theorem AnalysisRow.Formed.discoverable (h : row.Formed)
    (hopen : row.status.terminal = false) :
    ∃ T : Instant, ∀ now, T ≤ now →
      row.publishable now cfg = true ∨ row.stuck now cfg.maxAttempts = true := by
  have hwaiting : row.status = .pending ∨ row.status = .retryWait →
      ∃ T : Instant, ∀ now, T ≤ now →
        row.publishable now cfg = true ∨
          row.stuck now cfg.maxAttempts = true := by
    intro hs
    obtain ⟨T, hT⟩ := @waiting_due cfg row hs
    exact ⟨T, fun now h => .inl (hT now h)⟩
  cases hs : row.status with
  | pending => exact hwaiting (.inl hs)
  | retryWait => exact hwaiting (.inr hs)
  | processing =>
      obtain ⟨lease, hlease⟩ := Option.isSome_iff_exists.mp (h.processing hs).2
      refine ⟨lease + 1, fun now hnow => ?_⟩
      exact processing_due hs hlease (Int.lt_of_add_one_le hnow)
  | completed =>
      rw [hs] at hopen
      cases hopen
  | failed =>
      rw [hs] at hopen
      cases hopen
  | skipped =>
      rw [hs] at hopen
      cases hopen

/-! ## What is published can be claimed -/

theorem AnalysisRow.publishable_status {now : Instant}
    (hp : row.publishable now cfg = true) :
    (row.status = .pending ∨ row.status = .retryWait) ∨
      row.status = .processing := by
  unfold AnalysisRow.publishable at hp
  cases hs : row.status with
  | pending => exact .inl (.inl rfl)
  | retryWait => exact .inl (.inr rfl)
  | processing => exact .inr rfl
  | completed => simp [hs] at hp
  | failed => simp [hs] at hp
  | skipped => simp [hs] at hp

/-- The publish query selects no row that a claim would not take, as long
as there are attempts left. -/
theorem AnalysisRow.Formed.publishable_claimable (h : row.Formed) {now : Instant}
    (hp : row.publishable now cfg = true)
    (hleft : row.attemptCount < cfg.maxAttempts) :
    row.claimable now cfg.maxAttempts = true := by
  have hleft : decide (row.attemptCount < cfg.maxAttempts) = true :=
    decide_eq_true hleft
  rcases AnalysisRow.publishable_status hp with hs | hs
  · rw [publishable_waiting hs] at hp
    have hnext := (Bool.and_eq_true_iff.mp hp).1
    unfold AnalysisRow.claimable
    rw [hleft, Bool.true_and]
    rcases hs with hs | hs
    · rw [hs]
      exact hnext
    · -- the comparison with a missing time would not be true
      obtain ⟨t, ht⟩ := Option.isSome_iff_exists.mp (h.retryWait hs)
      rw [hs]
      rw [ht] at hnext ⊢
      exact hnext
  · rw [publishable_processing hs] at hp
    unfold AnalysisRow.claimable
    rw [hleft, Bool.true_and, hs]
    exact (Bool.and_eq_true_iff.mp hp).1

/-- A selected row without attempts is a waiting one, and the next thing
that looks at it gives it up. -/
theorem AnalysisRow.publishable_exhausted {now : Instant}
    (hp : row.publishable now cfg = true)
    (hnone : (cfg.maxAttempts : Int) ≤ row.attemptCount) (now' : Instant) :
    row.status.terminal = false ∧ row.claimable now cfg.maxAttempts = false ∧
      row.stuck now' cfg.maxAttempts = true := by
  have hdec : decide (row.attemptCount < cfg.maxAttempts) = false :=
    decide_eq_false (Int.not_lt.mpr hnone)
  have hclaim : row.claimable now cfg.maxAttempts = false := by
    unfold AnalysisRow.claimable
    rw [hdec, Bool.false_and]
  rcases AnalysisRow.publishable_status hp with hs | hs
  · have hstuck : row.stuck now' cfg.maxAttempts = true := by
      unfold AnalysisRow.stuck
      rw [decide_eq_true hnone, Bool.true_and]
      rcases hs with hs | hs <;> rw [hs]
    rcases hs with hs | hs <;> rw [hs] <;> exact ⟨rfl, hclaim, hstuck⟩
  · rw [publishable_processing hs, hdec, Bool.and_false] at hp
    cases hp

end Queries

/-! ## Claims that are taken, put off and refused -/

section Claims

variable {cfg : AnalysisSettings} {s : AnalysisSystem} {w : JobRunId}
  {id : AnalysisId} {row : AnalysisRow} {now : Instant} {token : ClaimToken}
  {decision : BudgetDecision} {cost : Rat}

theorem claim_taken
    (hjob : AList.lookup w s.workers = some { analysisId := id })
    (hfresh : token ∉ s.store.tokens)
    (hrow : AList.lookup id s.store.rows = some row)
    (hc : row.claimable now cfg.maxAttempts = true)
    (hd : decision.denied = none) :
    ∃ s', analysisStep cfg s (.work w (.claim now token decision cost))
        = some s' ∧
      AList.lookup id s'.store.rows
        = some ((row.claimed now cfg.leaseSeconds token).reserve decision cost) ∧
      ∃ n, AList.lookup w s'.workers = some ⟨id, .load token n⟩ := by
  simp only [analysisStep, hjob, Option.bind_some, analysisWorkerStep, hfresh,
    not_false_eq_true, and_self, if_true, claimForProcessing, hrow, hc, hd,
    Option.map_some]
  exact ⟨_, rfl, AList.lookup_insert _, _, AList.lookup_insert _⟩

theorem claim_denied {reason : String}
    (hjob : AList.lookup w s.workers = some { analysisId := id })
    (hfresh : token ∉ s.store.tokens)
    (hrow : AList.lookup id s.store.rows = some row)
    (hc : row.claimable now cfg.maxAttempts = true)
    (hd : decision.denied = some reason) :
    ∃ s', analysisStep cfg s (.work w (.claim now token decision cost))
        = some s' ∧
      s'.store.rows = s.store.rows ∧
      AList.lookup w s'.workers = some ⟨id, .defer reason now⟩ := by
  simp only [analysisStep, hjob, Option.bind_some, analysisWorkerStep, hfresh,
    not_false_eq_true, and_self, if_true, claimForProcessing, hrow, hc, hd,
    Option.map_some]
  exact ⟨_, rfl, rfl, AList.lookup_insert _⟩

theorem claim_refused
    (hjob : AList.lookup w s.workers = some { analysisId := id })
    (hfresh : token ∉ s.store.tokens)
    (hrow : AList.lookup id s.store.rows = some row)
    (hc : row.claimable now cfg.maxAttempts = false) :
    ∃ s', analysisStep cfg s (.work w (.claim now token decision cost))
        = some s' ∧
      s'.store.rows = s.store.rows ∧
      AList.lookup w s'.workers = some ⟨id, .unclaimed⟩ := by
  simp only [analysisStep, hjob, Option.bind_some, analysisWorkerStep, hfresh,
    not_false_eq_true, and_self, if_true, claimForProcessing, hrow, hc,
    Bool.false_eq_true, if_false, Option.map_some]
  exact ⟨_, rfl, rfl, AList.lookup_insert _⟩

/-- `_defer` puts a waiting row off by the recheck interval. -/
theorem defer_putsOff {reason : String}
    (hjob : AList.lookup w s.workers = some ⟨id, .defer reason now⟩)
    (hrow : AList.lookup id s.store.rows = some row)
    (hs : row.status = .pending ∨ row.status = .retryWait) :
    ∃ s', analysisStep cfg s (.work w .defer) = some s' ∧
      AList.lookup id s'.store.rows = some { row with
        nextAttemptAt := some (now + cfg.budgetRecheckSeconds * second)
        errorCode := some reason } := by
  simp only [analysisStep, hjob, Option.bind_some, analysisWorkerStep,
    Option.map_some]
  refine ⟨_, rfl, ?_⟩
  simp only [deferAnalysis, Table.lookup_modify_self, hrow, Option.map_some,
    if_pos hs]

/-- A worker that finds its row without attempts fails it. -/
theorem unclaimed_finalizes {now' : Instant}
    (hjob : AList.lookup w s.workers = some ⟨id, .unclaimed⟩)
    (hrow : AList.lookup id s.store.rows = some row)
    (hopen : row.status.terminal = false)
    (hnone : (cfg.maxAttempts : Int) ≤ row.attemptCount)
    (hstuck : row.stuck now' cfg.maxAttempts = true) :
    ∃ s', analysisStep cfg s (.work w .readUnclaimed) = some s' ∧
      ∃ s'', analysisStep cfg s' (.work w (.finalize now')) = some s'' ∧
        AList.lookup id s''.store.rows = some (row.exhausted now') := by
  have hphase : handleUnclaimed cfg (some row) = .finalize := by
    simp [handleUnclaimed, hopen, hnone]
  simp only [analysisStep, hjob, Option.bind_some, analysisWorkerStep, if_true,
    hrow, hphase, Option.map_some]
  refine ⟨_, rfl, ?_⟩
  simp only [AList.lookup_insert, Option.bind_some, AnalysisJobRun.goto,
    if_true, Option.map_some]
  refine ⟨_, rfl, ?_⟩
  simp [finalizeExhausted, Table.lookup_mapRows, hrow, hstuck]

end Claims

/-! ## With the budget -/

section Budgeted

variable {cfg : AnalysisSettings} {b : AnalysisBudget} {s s' : BudgetSystem}
  {w : JobRunId} {id : AnalysisId} {now : Instant} {token : ClaimToken}

/-- A claim with the budget is a claim with what the budget decides. -/
theorem budgetStep_claim {job : AnalysisJobRun} {base : AnalysisSystem}
    {r : Reserve} (hjob : AList.lookup w s.base.workers = some job)
    (hr : b.reserve s.ledger (AList.lookup job.analysisId s.held) now = r)
    (hbase : analysisStep cfg s.base (.work w (.claim now token r.decision
      ((r.reservation.map (·.amount)).getD 0))) = some base) :
    ∃ s', budgetStep cfg b s (.claim w now token) = some s' ∧
      s'.base = base := by
  unfold budgetStep
  simp only [hjob, Option.bind_some, hr, hbase, Option.map_some]
  refine ⟨_, rfl, ?_⟩
  split
  · exact BudgetSystem.afterReserve_base ..
  · rfl

theorem budgetStep_other {act : AnalysisAct} {base : AnalysisSystem}
    (hb : act.unbudgeted = true)
    (hbase : analysisStep cfg s.base act = some base) :
    budgetStep cfg b s (.other act) = some (s.withBase base) := by
  unfold budgetStep
  simp only [hb, if_true, hbase, Option.map_some]

/-- How a claim of a selected row ends. -/
inductive ClaimEnds (cfg : AnalysisSettings) (b : AnalysisBudget)
    (s : BudgetSystem) (w : JobRunId) (id : AnalysisId) (now : Instant)
    (token : ClaimToken) : Prop
  | taken {row : AnalysisRow} {n : Int} :
      AList.lookup id s.base.store.rows = some row →
      row.status = .processing → row.claimToken = some token →
      AList.lookup w s.base.workers = some ⟨id, .load token n⟩ →
      ClaimEnds cfg b s w id now token
  | deferred {s' : BudgetSystem} {row : AnalysisRow} {t : Instant} :
      budgetStep cfg b s (.other (.work w .defer)) = some s' →
      AList.lookup id s'.base.store.rows = some row →
      row.status.terminal = false → row.nextAttemptAt = some t → now < t →
      ClaimEnds cfg b s w id now token
  | finalized :
      (∀ now', ∃ s', runActs (budgetStep cfg b) s
          [.other (.work w .readUnclaimed), .other (.work w (.finalize now'))]
          = some s' ∧
        ∃ row, AList.lookup id s'.base.store.rows = some row ∧
          row.status = .failed) →
      ClaimEnds cfg b s w id now token

/-- The day has room for one more reservation. -/
def AnalysisBudget.hasRoom (b : AnalysisBudget) (ledger : BudgetLedger)
    (now : Instant) : Bool :=
  match b.cap, b.estimate with
  | some cap, some cost =>
      decide (cost ≤ cap ∧ balance ledger (b.dayFor now) + cost ≤ cap)
  | _, _ => false

/-- A claim is denied when a reservation is required, none is held, and the
day has no room for one. -/
theorem AnalysisBudget.reserve_denied {ledger : BudgetLedger}
    {held : Option Reservation} :
    (b.reserve ledger held now).decision.denied.isSome = true ↔
      b.required = true ∧ held = none ∧ b.hasRoom ledger now = false := by
  unfold AnalysisBudget.reserve AnalysisBudget.hasRoom
  cases b.required with
  | false => simp [BudgetDecision.denied]
  | true =>
      cases held with
      | some e => simp [BudgetDecision.denied]
      | none =>
          cases b.cap with
          | none => simp [BudgetDecision.denied]
          | some cap =>
              cases b.estimate with
              | none => simp [BudgetDecision.denied]
              | some cost =>
                  by_cases hfits : cap < cost
                  · have hno : ¬ cost ≤ cap := Rat.not_le.mpr hfits
                    simp [hfits, hno, BudgetDecision.denied]
                  · have hle : cost ≤ cap := Rat.not_lt.mp hfits
                    cases hday : AList.lookup (b.dayFor now) ledger with
                    | none =>
                        simp [hfits, hle, hday, balance, Rat.zero_add,
                          BudgetDecision.denied]
                    | some reserved =>
                        by_cases hroom : reserved + cost ≤ cap
                        · simp [hfits, hle, hday, balance, hroom,
                            BudgetDecision.denied]
                        · simp [hfits, hday, balance, hroom,
                            BudgetDecision.denied]

/-- The row is under work without a reservation, one is required, and there
is no room for it. -/
def BudgetSystem.stranded (s : BudgetSystem) (b : AnalysisBudget)
    (id : AnalysisId) (row : AnalysisRow) (now : Instant) : Bool :=
  row.status == .processing && b.required && (AList.lookup id s.held).isNone
    && !b.hasRoom s.ledger now

theorem BudgetSystem.stranded_iff {row : AnalysisRow} :
    s.stranded b id row now = true ↔ row.status = .processing ∧
      (b.reserve s.ledger (AList.lookup id s.held) now).decision.denied.isSome
        = true := by
  rw [AnalysisBudget.reserve_denied]
  simp [BudgetSystem.stranded, and_assoc]

/-- A denied row under work stays where it is. -/
theorem stranded_claim {row : AnalysisRow} (hformed : row.Formed)
    (hrow : AList.lookup id s.base.store.rows = some row)
    (hc : row.claimable now cfg.maxAttempts = true)
    (hjob : AList.lookup w s.base.workers = some { analysisId := id })
    (hfresh : token ∉ s.base.store.tokens)
    (hs : s.stranded b id row now = true) :
    ∃ s', budgetStep cfg b s (.claim w now token) = some s' ∧
      ¬ ClaimEnds cfg b s' w id now token := by
  obtain ⟨hp, hdenied⟩ := BudgetSystem.stranded_iff.mp hs
  obtain ⟨r, hr⟩ :
      ∃ r, b.reserve s.ledger (AList.lookup id s.held) now = r := ⟨_, rfl⟩
  obtain ⟨reason, hd⟩ := Option.isSome_iff_exists.mp hdenied
  rw [hr] at hd
  obtain ⟨base, hbase, hrows, hjob'⟩ := claim_denied hjob hfresh hrow hc hd
  obtain ⟨s', hs', rfl⟩ := budgetStep_claim hjob hr hbase
  refine ⟨s', hs', fun hends => ?_⟩
  cases hends with
  | taken _ _ _ hload =>
      rw [hjob'] at hload
      cases hload
  | deferred hstep hlater _ hnext =>
      -- the deferral is for waiting rows only
      have hrow' : AList.lookup id s'.base.store.rows = some row :=
        hrows ▸ hrow
      obtain ⟨-, hbase'⟩ := budgetStep_otherBase hstep
      simp only [analysisStep, hjob', Option.bind_some, analysisWorkerStep,
        Option.map_some, Option.some.injEq] at hbase'
      rw [← hbase'] at hlater
      have hlater : AList.lookup id (deferAnalysis cfg s'.base.store.rows id
        reason now) = some _ := hlater
      simp only [deferAnalysis, Table.lookup_modify_self, hrow',
        Option.map_some, hp, reduceCtorEq, or_self, if_false,
        Option.some.injEq] at hlater
      rw [← hlater, hformed.working hp] at hnext
      cases hnext
  | finalized hends =>
      obtain ⟨s'', hruns, -⟩ := hends now
      obtain ⟨t, hread, -⟩ := Option.bind_eq_some_iff.mp hruns
      obtain ⟨-, hread⟩ := budgetStep_otherBase hread
      simp only [analysisStep, hjob', Option.bind_some, analysisWorkerStep,
        reduceCtorEq, if_false, Option.map_none] at hread

/-- **What is published is not published in vain**, unless the row is
stranded. -/
theorem publishable_claimEnds (hrecheck : 0 < cfg.budgetRecheckSeconds)
    {row : AnalysisRow} (hformed : row.Formed)
    (hrow : AList.lookup id s.base.store.rows = some row)
    (hp : row.publishable now cfg = true)
    (hjob : AList.lookup w s.base.workers = some { analysisId := id })
    (hfresh : token ∉ s.base.store.tokens)
    (hs : s.stranded b id row now = false) :
    ∃ s', budgetStep cfg b s (.claim w now token) = some s' ∧
      ClaimEnds cfg b s' w id now token := by
  obtain ⟨r, hr⟩ :
      ∃ r, b.reserve s.ledger (AList.lookup id s.held) now = r := ⟨_, rfl⟩
  by_cases hleft : row.attemptCount < cfg.maxAttempts
  · have hc := hformed.publishable_claimable hp hleft
    cases hd : r.decision.denied with
    | none =>
        obtain ⟨base, hbase, hrow', n, hjob'⟩ :=
          claim_taken hjob hfresh hrow hc hd
        obtain ⟨s', hs', rfl⟩ := budgetStep_claim hjob hr hbase
        obtain ⟨hs, htoken, -⟩ :=
          (row.claimed now cfg.leaseSeconds token).reserve_columns _ _
        exact ⟨s', hs', .taken hrow' hs htoken hjob'⟩
    | some reason =>
        obtain ⟨base, hbase, hrows, hjob'⟩ :=
          claim_denied hjob hfresh hrow hc hd
        obtain ⟨s', hs', rfl⟩ := budgetStep_claim hjob hr hbase
        have hwaiting : row.status = .pending ∨ row.status = .retryWait := by
          rcases AnalysisRow.publishable_status hp with hwait | hwork
          · exact hwait
          · have hdenied := BudgetSystem.stranded_iff.mpr
              ⟨hwork, by rw [hr, hd]; rfl⟩
            rw [hs] at hdenied
            cases hdenied
        obtain ⟨base', hdefer, hrow'⟩ :=
          defer_putsOff hjob' (hrows ▸ hrow) hwaiting
        refine ⟨s', hs', .deferred (budgetStep_other rfl hdefer) hrow' ?_ rfl
          ?_⟩
        · rcases hwaiting with hs | hs <;> rw [hs] <;> rfl
        · exact Int.lt_add_of_pos_right _
            (Int.mul_pos (Int.natCast_pos.mpr hrecheck) (by decide))
  · have hnone := Int.not_lt.mp hleft
    obtain ⟨hopen, hc, -⟩ := AnalysisRow.publishable_exhausted hp hnone now
    obtain ⟨base, hbase, hrows, hjob'⟩ := claim_refused hjob hfresh hrow hc
    obtain ⟨s', hs', rfl⟩ := budgetStep_claim hjob hr hbase
    refine ⟨s', hs', .finalized fun now' => ?_⟩
    obtain ⟨-, -, hstuck⟩ := AnalysisRow.publishable_exhausted hp hnone now'
    obtain ⟨base₁, h₁, base₂, h₂, hfailed⟩ :=
      unclaimed_finalizes hjob' (hrows ▸ hrow) hopen hnone hstuck
    have hread : budgetStep cfg b s' (.other (.work w .readUnclaimed))
        = some (s'.withBase base₁) := budgetStep_other rfl h₁
    have hlast : budgetStep cfg b (s'.withBase base₁)
        (.other (.work w (.finalize now')))
        = some ((s'.withBase base₁).withBase base₂) := budgetStep_other rfl h₂
    refine ⟨(s'.withBase base₁).withBase base₂, ?_, _, hfailed, rfl⟩
    simp only [runActs, hread, Option.bind_some, hlast]

end Budgeted

/-! ## Settings that change -/

/-- A step, under the settings that its process has read. -/
structure ConfiguredAct where
  cfg : AnalysisSettings
  budget : AnalysisBudget
  act : BudgetAct

def configuredStep (s : BudgetSystem) (a : ConfiguredAct) :
    Option BudgetSystem :=
  budgetStep a.cfg a.budget s a.act

/-- Whatever the settings are, the rows stay formed. -/
theorem configuredRun_formed {s : BudgetSystem}
    (h : Run configuredStep (fun _ _ => True) {} s) (id : AnalysisId)
    (row : AnalysisRow) (hrow : AList.lookup id s.base.store.rows = some row) :
    row.Formed := by
  refine h.inv (P := fun s => ∀ id row,
    AList.lookup id s.base.store.rows = some row → row.Formed) ?_ ?_ id row hrow
  · intro t a t' hi _ hst
    rcases budgetStep_base hst with heq | ⟨act, hact⟩
    · rw [heq]
      exact hi
    · exact (analysisStep_store hact).formed hi
  · intro id row hnone
    cases hnone

/-- **No unfinished analysis becomes undiscoverable, under a condition.** In
every state the workers and sweepers reach, under settings that change from
step to step and whatever the streams hold: a row that is not finished is
from some time on selected by the publish query or by the one that gives up,
if nothing else happens to it; and a claim on a row that the publish query
selects takes it, or is deferred by the budget to a later time, or finds it
exhausted and finalizes it, exactly when the row is not under work without a
reservation that is now required and has no room. -/
theorem analysis_discoverable (s : BudgetSystem)
    (h : Run configuredStep (fun _ _ => True) {} s) (cfg : AnalysisSettings)
    (hrecheck : 0 < cfg.budgetRecheckSeconds) (b : AnalysisBudget) :
    (∀ id row, AList.lookup id s.base.store.rows = some row →
      row.status.terminal = false →
      ∃ T : Instant, ∀ now, T ≤ now →
        row.publishable now cfg = true ∨
          row.stuck now cfg.maxAttempts = true) ∧
    ∀ id row now w token, AList.lookup id s.base.store.rows = some row →
      row.publishable now cfg = true →
      AList.lookup w s.base.workers = some { analysisId := id } →
      token ∉ s.base.store.tokens →
      ∃ s', budgetStep cfg b s (.claim w now token) = some s' ∧
        (ClaimEnds cfg b s' w id now token ↔
          s.stranded b id row now = false) := by
  have hformed := configuredRun_formed h
  refine ⟨fun id row hrow hopen => (hformed id row hrow).discoverable hopen, ?_⟩
  intro id row now w token hrow hp hjob hfresh
  cases hs : s.stranded b id row now with
  | false =>
      obtain ⟨s', hs', hends⟩ := publishable_claimEnds hrecheck
        (hformed id row hrow) hrow hp hjob hfresh hs
      exact ⟨s', hs', fun _ => rfl, fun _ => hends⟩
  | true =>
      have hwork := (BudgetSystem.stranded_iff.mp hs).1
      have hleft : row.attemptCount < cfg.maxAttempts := by
        rw [AnalysisRow.publishable_processing hwork] at hp
        exact of_decide_eq_true (Bool.and_eq_true_iff.mp hp).2
      obtain ⟨s', hs', hno⟩ := stranded_claim (hformed id row hrow) hrow
        ((hformed id row hrow).publishable_claimable hp hleft) hjob hfresh hs
      exact ⟨s', hs', fun hends => absurd hends hno, fun h => by cases h⟩

/-! ### From mock to a provider that costs -/

/-- The mock provider: no reservation is required. -/
def mockAnalysis : AnalysisBudget where
  required := false
  cap := none
  estimate := none
  zone := ⟨id, id⟩
  capNonneg x h := by cases h
  estimateNonneg x h := by cases h
  together := rfl

/-- Both calls are registered under the mock provider. Under the other one
the first of them is under work, and the day has no room for the second. -/
def switchedEarly : List ConfiguredAct :=
  (twoAnalyses.take 2).map (⟨{}, mockAnalysis, ·⟩)
    ++ ((twoAnalyses.drop 2).take 3).map (⟨{}, roomForOne, ·⟩)

theorem analysis_discoverable_twoAnalyses :
    ∃ s row₁ row₂, runActs configuredStep {} switchedEarly = some s ∧
      AList.lookup 1 s.base.store.rows = some row₁ ∧
      (∃ T : Instant, ∀ now, T ≤ now → row₁.publishable now {} = true ∨
        row₁.stuck now 3 = true) ∧
      AList.lookup 2 s.base.store.rows = some row₂ ∧
      ∃ s', budgetStep {} roomForOne s (.claim 2 0 20) = some s' ∧
        ClaimEnds {} roomForOne s' 2 2 0 20 := by
  have hany : (runActs configuredStep {} switchedEarly).any (fun s =>
      (AList.lookup 1 s.base.store.rows).any (fun row =>
        decide (row.status = .processing)) &&
      (AList.lookup 2 s.base.store.rows).any (fun row =>
        row.publishable 0 {} && !s.stranded roomForOne 2 row 0) &&
      decide (AList.lookup 2 s.base.workers = some { analysisId := 2 } ∧
        20 ∉ s.base.store.tokens)) = true := by
    decide +kernel
  obtain ⟨s, hs, hany⟩ := (Option.any_eq_true _ _).mp hany
  obtain ⟨hrows, hdec⟩ := Bool.and_eq_true_iff.mp hany
  obtain ⟨hrow₁, hrow₂⟩ := Bool.and_eq_true_iff.mp hrows
  obtain ⟨row₁, hrow₁, hp₁⟩ := (Option.any_eq_true _ _).mp hrow₁
  obtain ⟨row₂, hrow₂, hp₂⟩ := (Option.any_eq_true _ _).mp hrow₂
  obtain ⟨hp₂, hstays⟩ := Bool.and_eq_true_iff.mp hp₂
  obtain ⟨hjob, hfresh⟩ := of_decide_eq_true hdec
  have hopen : row₁.status.terminal = false := by
    rw [of_decide_eq_true hp₁]
    rfl
  obtain ⟨hfound, hclaim⟩ :=
    analysis_discoverable s (Run.of_runActs hs) {} (by decide) roomForOne
  obtain ⟨s', hs', hends⟩ := hclaim 2 row₂ 0 2 20 hrow₂ hp₂ hjob hfresh
  exact ⟨s, row₁, row₂, hs, hrow₁, hfound 1 row₁ hrow₁ hopen, hrow₂, s', hs',
    hends.mpr (by simpa using hstays)⟩

/-- The first analysis is claimed under the mock provider and its worker
crashes; under the other one the second takes the day's room, and the first
is delivered again when its lease has run out. -/
def switchedLate : List ConfiguredAct :=
  ([.other (.register 1 ⟨7, 3, 2, some 7⟩ none none),
      .other (.register 2 ⟨8, 4, 2, some 8⟩ none none),
      .other (.deliver 1 1), .claim 1 0 10, .other (.work 1 .crash)] :
      List BudgetAct).map (⟨{}, mockAnalysis, ·⟩)
    ++ ([.other (.deliver 2 2), .claim 2 0 20, .other (.deliver 3 1)] :
      List BudgetAct).map (⟨{}, roomForOne, ·⟩)

/-- A sweep, and the claim of the row it published, deferred. -/
def sweptAndDenied : List ConfiguredAct :=
  ([.other (.sweepPublish (121 * second) [1]), .claim 3 (121 * second) 30,
    .other (.work 3 .defer)] : List BudgetAct).map (⟨{}, roomForOne, ·⟩)

/-- The publish query selects the row, its claim neither takes it, nor puts
it off, nor ends it, and the next sweep selects it at once again. -/
theorem switchedLate_stranded :
    ∃ s row, runActs configuredStep {} switchedLate = some s ∧
      AList.lookup 1 s.base.store.rows = some row ∧
      row.publishable (121 * second) {} = true ∧
      AList.lookup 3 s.base.workers = some { analysisId := 1 } ∧
      (∃ s', budgetStep {} roomForOne s (.claim 3 (121 * second) 30) = some s' ∧
        ¬ ClaimEnds {} roomForOne s' 3 1 (121 * second) 30) ∧
      ∃ t row', runActs configuredStep s sweptAndDenied = some t ∧
        AList.lookup 1 t.base.store.rows = some row' ∧
        row'.publishable (121 * second) {} = true := by
  have hany : (runActs configuredStep {} switchedLate).any (fun s =>
      (AList.lookup 1 s.base.store.rows).any (fun row =>
        row.publishable (121 * second) {} && row.claimable (121 * second) 3
          && s.stranded roomForOne 1 row (121 * second)) &&
      decide (AList.lookup 3 s.base.workers = some { analysisId := 1 } ∧
        30 ∉ s.base.store.tokens) &&
      (runActs configuredStep s sweptAndDenied).any fun t =>
        (AList.lookup 1 t.base.store.rows).any fun row =>
          row.publishable (121 * second) {}) = true := by
    decide +kernel
  obtain ⟨s, hs, hany⟩ := (Option.any_eq_true _ _).mp hany
  obtain ⟨hany, hagain⟩ := Bool.and_eq_true_iff.mp hany
  obtain ⟨hrow, hdec⟩ := Bool.and_eq_true_iff.mp hany
  obtain ⟨row, hrow, hp⟩ := (Option.any_eq_true _ _).mp hrow
  obtain ⟨hp, hstranded⟩ := Bool.and_eq_true_iff.mp hp
  obtain ⟨hp, hclaim⟩ := Bool.and_eq_true_iff.mp hp
  obtain ⟨hjob, hfresh⟩ := of_decide_eq_true hdec
  obtain ⟨t, ht, hrow'⟩ := (Option.any_eq_true _ _).mp hagain
  obtain ⟨row', hrow', hp'⟩ := (Option.any_eq_true _ _).mp hrow'
  have hformed := configuredRun_formed (Run.of_runActs hs) 1 row hrow
  exact ⟨s, row, hs, hrow, hp, hjob,
    stranded_claim hformed hrow hclaim hjob hfresh hstranded,
    t, row', ht, hrow', hp'⟩

end CallingAgent
