import CallingAgent.Analysis.Worker
import CallingAgent.Lib.Run

/-!
# The analysis state machine

Whatever commits next, a row changes in one of a few ways, and only two of
them change its token: a claim puts a new one in, an outcome takes it out.
What the state machine promises follows from these alone.
-/

namespace CallingAgent

open Lib

/-! ## What can happen to a row -/

/-- The ways a row can change, where `Fresh` says of a token that it has
not been drawn before. -/
inductive AnalysisRowChange (cfg : AnalysisSettings) (Fresh : ClaimToken → Prop)
    (row : AnalysisRow) : AnalysisRow → Prop
  | kept : AnalysisRowChange cfg Fresh row row
  | deferred (reason : String) (next : Instant) :
      row.status = .pending ∨ row.status = .retryWait →
      AnalysisRowChange cfg Fresh row
        { row with nextAttemptAt := some next, errorCode := some reason }
  | claimed (token : ClaimToken) (now : Instant) (decision : BudgetDecision)
      (cost : Rat) : Fresh token → row.claimable now cfg.maxAttempts = true →
      AnalysisRowChange cfg Fresh row
        ((row.claimed now cfg.leaseSeconds token).reserve decision cost)
  | renewed (lease : Instant) : row.status = .processing →
      AnalysisRowChange cfg Fresh row { row with leaseExpiresAt := some lease }
  | outcome (now : Instant) (o : AnalysisOutcome) : row.status = .processing →
      AnalysisRowChange cfg Fresh row (row.outcome now o)
  | exhausted (now : Instant) : row.stuck now cfg.maxAttempts = true →
      AnalysisRowChange cfg Fresh row (row.exhausted now)
  | published (now : Instant) : row.publishable now cfg = true →
      AnalysisRowChange cfg Fresh row { row with lastEnqueuedAt := some now }

/-- What holds of a row at any time, whatever the settings are. -/
structure AnalysisRow.Formed (row : AnalysisRow) : Prop where
  processing : row.status = .processing →
    row.claimToken.isSome = true ∧ row.leaseExpiresAt.isSome = true
  working : row.status = .processing → row.nextAttemptAt = none
  owned : row.claimToken.isSome = true → row.status = .processing
  retryWait : row.status = .retryWait → row.nextAttemptAt.isSome = true

/-- What holds of a row at any time under the settings. -/
structure AnalysisRow.Ok (cfg : AnalysisSettings) (row : AnalysisRow) : Prop
    extends row.Formed where
  attempts : row.attemptCount ≤ cfg.maxAttempts

section Row

variable {cfg : AnalysisSettings} {Fresh : ClaimToken → Prop}
  {row row' : AnalysisRow}

@[simp] theorem AnalysisRow.reserve_columns (decision : BudgetDecision)
    (cost : Rat) :
    (row.reserve decision cost).status = row.status ∧
    (row.reserve decision cost).claimToken = row.claimToken ∧
    (row.reserve decision cost).leaseExpiresAt = row.leaseExpiresAt ∧
    (row.reserve decision cost).nextAttemptAt = row.nextAttemptAt ∧
    (row.reserve decision cost).attemptCount = row.attemptCount := by
  unfold AnalysisRow.reserve
  split <;> exact ⟨rfl, rfl, rfl, rfl, rfl⟩

theorem AnalysisRow.claimable_attempts {now : Instant} {maxAttempts : Nat}
    (h : row.claimable now maxAttempts = true) :
    row.attemptCount < maxAttempts :=
  of_decide_eq_true (Bool.and_eq_true_iff.mp h).1

/-- A terminal row is neither claimed, nor deferred, nor written to. -/
theorem AnalysisRowChange.terminal (h : AnalysisRowChange cfg Fresh row row')
    (ht : row.status.terminal = true) : row' = row := by
  have hclaim : ∀ now n, row.claimable now n = false := by
    intro now n
    unfold AnalysisRow.claimable
    cases hs : row.status <;> simp [hs, AnalysisStatus.terminal] at ht ⊢
  have hstuck : ∀ now n, row.stuck now n = false := by
    intro now n
    unfold AnalysisRow.stuck
    cases hs : row.status <;> simp [hs, AnalysisStatus.terminal] at ht ⊢
  have hpublish : ∀ now, row.publishable now cfg = false := by
    intro now
    unfold AnalysisRow.publishable
    cases hs : row.status <;> simp [hs, AnalysisStatus.terminal] at ht ⊢
  cases h with
  | kept => rfl
  | deferred reason next hs =>
      rcases hs with hs | hs <;> rw [hs] at ht <;> cases ht
  | claimed token now decision cost _ hc =>
      rw [hclaim] at hc
      cases hc
  | renewed lease hs =>
      rw [hs] at ht
      cases ht
  | outcome now o hs =>
      rw [hs] at ht
      cases ht
  | exhausted now hs =>
      rw [hstuck] at hs
      cases hs
  | published now hp =>
      rw [hpublish] at hp
      cases hp

/-- An outcome gives the claim up. -/
@[simp] theorem AnalysisRow.outcome_token (now : Instant) (o : AnalysisOutcome) :
    (row.outcome now o).claimToken = none := by
  cases o <;> rfl

/-- A finished row owes nothing. -/
theorem AnalysisRow.Formed.of_terminal (ht : row.status.terminal = true)
    (hnone : row.claimToken = none) : row.Formed := by
  refine ⟨fun hs => ?_, fun hs => ?_, fun hs => ?_, fun hs => ?_⟩
  · rw [hs] at ht
    cases ht
  · rw [hs] at ht
    cases ht
  · rw [hnone] at hs
    cases hs
  · rw [hs] at ht
    cases ht

theorem AnalysisRow.outcome_formed (now : Instant) (o : AnalysisOutcome) :
    (row.outcome now o).Formed := by
  cases o with
  | complete content => exact .of_terminal rfl rfl
  | fail code => exact .of_terminal rfl rfl
  | skip code releaseBudget => exact .of_terminal rfl rfl
  | retry code next refund => exact ⟨nofun, nofun, nofun, fun _ => rfl⟩

/-- No outcome adds an attempt. -/
theorem AnalysisRow.outcome_attempts_le (now : Instant) (o : AnalysisOutcome) :
    (row.outcome now o).attemptCount ≤ row.attemptCount := by
  cases o with
  | retry code next refund =>
      show (if refund = true then row.attemptCount - 1 else row.attemptCount) ≤ _
      split <;> omega
  | _ => exact Int.le_refl _

theorem AnalysisRowChange.formed (h : AnalysisRowChange cfg Fresh row row')
    (hf : row.Formed) : row'.Formed := by
  cases h with
  | kept => exact hf
  | deferred reason next hs =>
      refine ⟨hf.processing, fun hp => ?_, hf.owned, fun _ => rfl⟩
      rcases hs with hs | hs <;>
      · have hp : row.status = .processing := hp
        rw [hs] at hp
        cases hp
  | claimed token now decision cost _ hc =>
      obtain ⟨hs, htoken, hlease, hnext, -⟩ :=
        (row.claimed now cfg.leaseSeconds token).reserve_columns decision cost
      refine ⟨fun _ => ⟨?_, ?_⟩, fun _ => ?_, fun _ => hs, fun hr => ?_⟩
      · rw [htoken]
        rfl
      · rw [hlease]
        rfl
      · rw [hnext]
        rfl
      · rw [hs] at hr
        cases hr
  | renewed lease hs =>
      exact ⟨fun hp => ⟨(hf.processing hp).1, rfl⟩, hf.working, hf.owned,
        hf.retryWait⟩
  | outcome now o _ => exact row.outcome_formed now o
  | exhausted now _ => exact row.outcome_formed now _
  | published now _ =>
      exact ⟨hf.processing, hf.working, hf.owned, hf.retryWait⟩

theorem AnalysisRowChange.attempts (h : AnalysisRowChange cfg Fresh row row')
    (hle : row.attemptCount ≤ cfg.maxAttempts) :
    row'.attemptCount ≤ cfg.maxAttempts := by
  cases h with
  | claimed token now decision cost _ hc =>
      have hlt := AnalysisRow.claimable_attempts hc
      obtain ⟨-, -, -, -, hcount⟩ :=
        (row.claimed now cfg.leaseSeconds token).reserve_columns decision cost
      rw [hcount]
      exact hlt
  | outcome now o _ => exact (row.outcome_attempts_le now o).trans hle
  | exhausted now _ => exact (row.outcome_attempts_le now _).trans hle
  | _ => exact hle

/-- A token that is in the row now was there before, or has just been drawn. -/
theorem AnalysisRowChange.token (h : AnalysisRowChange cfg Fresh row row') {token : ClaimToken}
    (ht : row'.claimToken = some token) :
    row.claimToken = some token ∨ Fresh token := by
  cases h with
  | kept => exact .inl ht
  | deferred reason next _ => exact .inl ht
  | claimed new now decision cost hfresh _ =>
      obtain ⟨-, htoken, -⟩ :=
        (row.claimed now cfg.leaseSeconds new).reserve_columns decision cost
      rw [htoken] at ht
      cases ht
      exact .inr hfresh
  | renewed lease _ => exact .inl ht
  | outcome now o _ =>
      rw [AnalysisRow.outcome_token] at ht
      cases ht
  | exhausted now _ =>
      rw [AnalysisRow.exhausted, AnalysisRow.outcome_token] at ht
      cases ht
  | published now _ => exact .inl ht

end Row

/-! ## What can happen to the store -/

/-- The rows change one by one, a new row is a pending one, and an outcome
is recorded with the row it ends. -/
structure StoreStep (cfg : AnalysisSettings) (s s' : AnalysisStore) :
    Prop where
  rows : ∀ id row, AList.lookup id s.rows = some row →
    ∃ row', AList.lookup id s'.rows = some row' ∧
      AnalysisRowChange cfg (fun t => t ∉ s.tokens ∧ t ∈ s'.tokens) row row'
  new : ∀ id row, AList.lookup id s.rows = none →
    AList.lookup id s'.rows = some row →
    row.status = .pending ∧ row.claimToken = none ∧ row.attemptCount = 0
  tokens : ∀ t ∈ s.tokens, t ∈ s'.tokens
  outcomes : s'.outcomes = s.outcomes ∨
    ∃ id token o row row', s'.outcomes = (id, token, o) :: s.outcomes ∧
      AList.lookup id s.rows = some row ∧ row.claimToken = some token ∧
      AList.lookup id s'.rows = some row' ∧ row'.claimToken = none

section Store

variable {cfg : AnalysisSettings} {s s' : AnalysisStore}

/-- A step that writes the rows only, one by one. -/
theorem StoreStep.of_rows {rows : Analyses}
    (h : ∀ id, AList.lookup id rows = AList.lookup id s.rows ∨
      ∃ row row', AList.lookup id s.rows = some row ∧
        AList.lookup id rows = some row' ∧
        AnalysisRowChange cfg (fun _ => False) row row') :
    StoreStep cfg s { s with rows } := by
  have hweak : ∀ {row row' : AnalysisRow},
      AnalysisRowChange cfg (fun _ => False) row row' →
      AnalysisRowChange cfg (fun t => t ∉ s.tokens ∧ t ∈ s.tokens) row row' := by
    intro row row' hc
    cases hc with
    | kept => exact .kept
    | deferred reason next hs => exact .deferred reason next hs
    | claimed token now decision cost hno _ => exact hno.elim
    | renewed lease hs => exact .renewed lease hs
    | outcome now o hs => exact .outcome now o hs
    | exhausted now hs => exact .exhausted now hs
    | published now hp => exact .published now hp
  refine ⟨fun id row hrow => ?_, fun id row hnone hrow => ?_, fun _ ht => ht,
    .inl rfl⟩
  · rcases h id with hsame | ⟨row₀, row', h₀, h', hc⟩
    · exact ⟨row, hsame.trans hrow, .kept⟩
    · cases h₀.symm.trans hrow
      exact ⟨row', h', hweak hc⟩
  · rcases h id with hsame | ⟨row₀, row', h₀, -⟩
    · rw [hsame, hnone] at hrow
      cases hrow
    · rw [hnone] at h₀
      cases h₀

theorem StoreStep.refl : StoreStep cfg s s :=
  .of_rows fun _ => .inl rfl

/-- Rewriting every row by a change of the state machine. -/
theorem StoreStep.mapRows {f : AnalysisId → AnalysisRow → AnalysisRow}
    (h : ∀ id row, AnalysisRowChange cfg (fun _ => False) row (f id row)) :
    StoreStep cfg s { s with rows := s.rows.mapRows f } := by
  refine .of_rows fun id => ?_
  have hlookup := Table.lookup_mapRows s.rows f id
  cases hrow : AList.lookup id s.rows with
  | none =>
      rw [hrow] at hlookup
      exact .inl hlookup
  | some row =>
      rw [hrow] at hlookup
      exact .inr ⟨row, f id row, rfl, hlookup, h id row⟩

theorem storeStep_finalize (now : Instant) (locked : List AnalysisId) :
    StoreStep cfg s
      { s with rows := finalizeExhausted cfg s.rows now locked } := by
  refine .mapRows fun id row => ?_
  split
  · rename_i h
    exact .exhausted now (Bool.and_eq_true_iff.mp h).2
  · exact .kept

theorem storeStep_publish (now : Instant) (published : List AnalysisId) :
    StoreStep cfg s { s with rows := publishDue cfg s.rows now published } := by
  refine .mapRows fun id row => ?_
  split
  · rename_i h
    exact .published now (Bool.and_eq_true_iff.mp h).2
  · exact .kept

theorem storeStep_defer (id : AnalysisId) (reason : String) (now : Instant) :
    StoreStep cfg s
      { s with rows := deferAnalysis cfg s.rows id reason now } := by
  refine .of_rows fun id' => ?_
  unfold deferAnalysis
  rw [Table.lookup_modify]
  by_cases hid : id' = id
  · subst hid
    cases hrow : AList.lookup id' s.rows with
    | none => exact .inl (by simp)
    | some row =>
        refine .inr ⟨row, _, rfl, by rw [if_pos rfl]; rfl, ?_⟩
        dsimp only
        split
        · exact .deferred reason _ (by assumption)
        · exact .kept
  · exact .inl (if_neg hid)

/-- A fenced write reaches the row of the claim, or nothing. -/
theorem fenced_spec (t : Analyses) (id : AnalysisId) (token : ClaimToken)
    (values : AnalysisRow → AnalysisRow) :
    fenced t id token values = (t, false) ∨
      ∃ row, AList.lookup id t = some row ∧ row.claimToken = some token ∧
        row.status = .processing ∧
        fenced t id token values = (AList.insert id (values row) t, true) := by
  unfold fenced
  cases hrow : AList.lookup id t with
  | none => exact .inl rfl
  | some row =>
      dsimp only
      split
      · rename_i h
        exact .inr ⟨row, rfl, h.1, h.2, rfl⟩
      · exact .inl rfl

/-- Nothing is written under a token the row does not have. -/
theorem fenced_superseded {t : Analyses} {id : AnalysisId} {token : ClaimToken}
    (h : ∀ row, AList.lookup id t = some row → row.claimToken ≠ some token)
    (values : AnalysisRow → AnalysisRow) :
    fenced t id token values = (t, false) := by
  rcases fenced_spec t id token values with hno | ⟨row, hrow, htoken, -⟩
  · exact hno
  · exact absurd htoken (h row hrow)

/-- One row is replaced by a change of the state machine. -/
theorem StoreStep.insert {id : AnalysisId} {row row' : AnalysisRow}
    (hrow : AList.lookup id s.rows = some row)
    (hc : AnalysisRowChange cfg (fun _ => False) row row') :
    StoreStep cfg s { s with rows := AList.insert id row' s.rows } := by
  refine .of_rows fun id' => ?_
  rw [Table.lookup_insert']
  by_cases hid : id' = id
  · subst hid
    exact .inr ⟨row, row', hrow, if_pos rfl, hc⟩
  · exact .inl (if_neg hid)

/-! ### The worker's transactions -/

theorem storeStep_claim (id : AnalysisId) {token : ClaimToken} (now : Instant)
    (decision : BudgetDecision) (cost : Rat) (hfresh : token ∉ s.tokens) :
    StoreStep cfg s { s with
      rows := (claimForProcessing cfg s.rows id token now decision cost).1
      tokens := token :: s.tokens } := by
  have hsame : StoreStep cfg s { s with tokens := token :: s.tokens } := by
    refine ⟨fun id row hrow => ⟨row, hrow, .kept⟩, fun id row hnone hrow => ?_,
      fun t ht => List.mem_cons_of_mem _ ht, .inl rfl⟩
    rw [hnone] at hrow
    cases hrow
  unfold claimForProcessing
  split
  · rename_i row hrow
    split
    · rename_i hclaim
      split
      · exact hsame
      · refine ⟨fun id' row' hrow' => ?_, fun id' row' hnone hrow' => ?_,
          fun t ht => List.mem_cons_of_mem _ ht, .inl rfl⟩
        · dsimp only
          rw [Table.lookup_insert']
          by_cases hid : id' = id
          · subst hid
            cases hrow.symm.trans hrow'
            exact ⟨_, if_pos rfl, .claimed token now decision cost
              ⟨hfresh, List.mem_cons_self ..⟩ hclaim⟩
          · exact ⟨row', (if_neg hid).trans hrow', .kept⟩
        · dsimp only at hrow'
          rw [Table.lookup_insert'] at hrow'
          split at hrow'
          · rename_i hid
            rw [hid, hrow] at hnone
            cases hnone
          · rw [hnone] at hrow'
            cases hrow'
    · exact hsame
  · exact hsame

theorem storeStep_renew (id : AnalysisId) (token : ClaimToken) (now : Instant) :
    StoreStep cfg s
      { s with rows := (renewLease cfg s.rows id token now).1 } := by
  unfold renewLease
  rcases fenced_spec s.rows id token _ with hno | ⟨row, hrow, -, hs, hyes⟩
  · rw [hno]
    exact .refl
  · rw [hyes]
    exact .insert hrow (.renewed _ hs)

theorem storeStep_outcome {id : AnalysisId} {token : ClaimToken}
    {now : Instant} {o : AnalysisOutcome}
    (h : (writeOutcome s.rows id token now o).2 = true) :
    StoreStep cfg s { s with
      rows := (writeOutcome s.rows id token now o).1
      outcomes := (id, token, o) :: s.outcomes } := by
  unfold writeOutcome at h ⊢
  rcases fenced_spec s.rows id token (·.outcome now o) with
    hno | ⟨row, hrow, htoken, hs, hyes⟩
  · rw [hno] at h
    cases h
  · rw [hyes]
    have hins : StoreStep cfg s _ := StoreStep.insert hrow (.outcome now o hs)
    exact ⟨hins.rows, hins.new, hins.tokens, .inr ⟨id, token, o, row,
      row.outcome now o, rfl, hrow, htoken, AList.lookup_insert _,
      row.outcome_token now o⟩⟩

theorem workerStep_store {w w' : AnalysisJobRun} {commit : AnalysisCommit}
    (h : analysisWorkerStep cfg s w commit = some (s', w')) : StoreStep cfg s s' := by
  cases commit with
  | claim now token decision cost =>
      obtain ⟨⟨-, hfresh⟩, h⟩ := Option.ite_none_right_eq_some.mp h
      have hclaim := @storeStep_claim cfg s w.analysisId token now decision cost
        hfresh
      dsimp only at h
      split at h <;> cases h <;> exact hclaim
  | defer =>
      unfold analysisWorkerStep at h
      dsimp only at h
      split at h
      · cases h
        exact storeStep_defer ..
      · cases h
  | readUnclaimed =>
      obtain ⟨-, h⟩ := Option.ite_none_right_eq_some.mp h
      cases h
      exact .refl
  | finalize now =>
      obtain ⟨-, h⟩ := Option.ite_none_right_eq_some.mp h
      cases h
      exact storeStep_finalize ..
  | load now elapsed delay input =>
      unfold analysisWorkerStep at h
      dsimp only at h
      split at h
      · split at h <;> cases h <;> exact .refl
      · cases h
  | renew now =>
      unfold analysisWorkerStep at h
      dsimp only at h
      split at h
      · cases h
        exact storeStep_renew ..
      · cases h
  | analyze now elapsed delay answer =>
      unfold analysisWorkerStep at h
      dsimp only at h
      split at h
      · split at h <;> cases h <;> exact .refl
      · cases h
  | persist now =>
      unfold analysisWorkerStep at h
      dsimp only at h
      split at h
      · rename_i token o hp
        split at h
        · rename_i happlied
          cases h
          exact storeStep_outcome happlied
        · rename_i happlied
          cases h
          have hno : (writeOutcome s.rows w.analysisId token now o).1
              = s.rows := by
            unfold writeOutcome at happlied ⊢
            rcases fenced_spec s.rows w.analysisId token (·.outcome now o) with
              hno | ⟨_, _, _, _, hyes⟩
            · rw [hno]
            · rw [hyes] at happlied
              exact absurd rfl happlied
          rw [hno]
          exact .refl
      · cases h
  | crash =>
      cases h
      exact .refl

theorem storeStep_register {id : AnalysisId} {call : CallAnalysis}
    {enqueued next : Option Instant} {rows : Analyses}
    (h : getOrCreatePending s.rows id call enqueued next = some rows) :
    StoreStep cfg s { s with rows } := by
  unfold getOrCreatePending at h
  split at h
  · cases h
    exact .refl
  · obtain ⟨hnew, h⟩ := Option.ite_none_right_eq_some.mp h
    have hnew := Option.isNone_iff_eq_none.mp hnew
    cases h
    refine ⟨fun id' row hrow => ⟨row, ?_, .kept⟩, fun id' row hnone hrow => ?_,
      fun _ ht => ht, .inl rfl⟩
    · refine (AList.lookup_insert_ne ?_).trans hrow
      rintro rfl
      rw [hnew] at hrow
      cases hrow
    · dsimp only at hrow
      rw [Table.lookup_insert'] at hrow
      split at hrow
      · cases hrow
        exact ⟨rfl, rfl, rfl⟩
      · rw [hnone] at hrow
        cases hrow

theorem analysisStep_store {t t' : AnalysisSystem} {act : AnalysisAct}
    (h : analysisStep cfg t act = some t') :
    StoreStep cfg t.store t'.store := by
  cases act with
  | register id call enqueued next =>
      obtain ⟨rows, hrows, rfl⟩ := Option.map_eq_some_iff.mp h
      exact storeStep_register hrows
  | deliver w id =>
      obtain ⟨-, h⟩ := Option.ite_none_right_eq_some.mp h
      cases h
      exact .refl
  | work w commit =>
      obtain ⟨job, -, h⟩ := Option.bind_eq_some_iff.mp h
      obtain ⟨⟨store, job'⟩, hstep, rfl⟩ := Option.map_eq_some_iff.mp h
      exact workerStep_store hstep
  | sweepFinalize now locked =>
      cases h
      exact storeStep_finalize ..
  | sweepPublish now published =>
      cases h
      exact storeStep_publish ..

/-! ## The invariant -/

/-- A token that an outcome was applied under is in no row any more. -/
structure StoreInv (cfg : AnalysisSettings) (s : AnalysisStore) : Prop where
  row : ∀ {id row}, AList.lookup id s.rows = some row → row.Ok cfg
  drawn : ∀ {id row t}, AList.lookup id s.rows = some row →
    row.claimToken = some t → t ∈ s.tokens
  spent : ∀ {id t o row}, (id, t, o) ∈ s.outcomes →
    AList.lookup id s.rows = some row → row.claimToken ≠ some t
  spentDrawn : ∀ {id t o}, (id, t, o) ∈ s.outcomes → t ∈ s.tokens
  once : (s.outcomes.map fun e => (e.1, e.2.1)).Nodup

/-- No row gets a token back that was drawn before and is not in it. -/
theorem StoreStep.superseded (h : StoreStep cfg s s') {id : AnalysisId}
    {t : ClaimToken} (hdrawn : t ∈ s.tokens)
    (hnot : ∀ row, AList.lookup id s.rows = some row →
      row.claimToken ≠ some t) :
    t ∈ s'.tokens ∧ ∀ row, AList.lookup id s'.rows = some row →
      row.claimToken ≠ some t := by
  refine ⟨h.tokens t hdrawn, fun row hrow htoken => ?_⟩
  cases hold : AList.lookup id s.rows with
  | none =>
      rw [(h.new id row hold hrow).2.1] at htoken
      cases htoken
  | some row₀ =>
      obtain ⟨row', hrow', hc⟩ := h.rows id row₀ hold
      cases hrow'.symm.trans hrow
      rcases hc.token htoken with hold' | ⟨hfresh, -⟩
      · exact hnot row₀ hold hold'
      · exact hfresh hdrawn

/-- A new row is formed, and the others stay so. -/
theorem StoreStep.formed (h : StoreStep cfg s s')
    (hi : ∀ id row, AList.lookup id s.rows = some row → row.Formed)
    (id : AnalysisId) (row : AnalysisRow)
    (hrow : AList.lookup id s'.rows = some row) : row.Formed := by
  cases hold : AList.lookup id s.rows with
  | none =>
      obtain ⟨hs, htoken, -⟩ := h.new id row hold hrow
      refine ⟨fun hp => ?_, fun hp => ?_, fun hp => ?_, fun hp => ?_⟩
      · rw [hs] at hp
        cases hp
      · rw [hs] at hp
        cases hp
      · rw [htoken] at hp
        cases hp
      · rw [hs] at hp
        cases hp
  | some row₀ =>
      obtain ⟨row', hrow', hc⟩ := h.rows id row₀ hold
      cases hrow'.symm.trans hrow
      exact hc.formed (hi id row₀ hold)

theorem StoreStep.inv (h : StoreStep cfg s s') (hi : StoreInv cfg s) :
    StoreInv cfg s' := by
  have hspent : ∀ {id t o row}, (id, t, o) ∈ s.outcomes →
      AList.lookup id s'.rows = some row → row.claimToken ≠ some t :=
    fun ho hrow => (h.superseded (hi.spentDrawn ho)
      (fun row hrow => hi.spent ho hrow)).2 _ hrow
  have hrow : ∀ {id row}, AList.lookup id s'.rows = some row →
      row.Ok cfg ∧ ∀ t, row.claimToken = some t → t ∈ s'.tokens := by
    intro id row hrow
    have hformed := h.formed (fun id row h => (hi.row h).toFormed) id row hrow
    cases hold : AList.lookup id s.rows with
    | none =>
        obtain ⟨-, htoken, hcount⟩ := h.new id row hold hrow
        refine ⟨⟨hformed, ?_⟩, fun t ht => ?_⟩
        · rw [hcount]
          exact Int.natCast_nonneg _
        · rw [htoken] at ht
          cases ht
    | some row₀ =>
        obtain ⟨row', hrow', hc⟩ := h.rows id row₀ hold
        cases hrow'.symm.trans hrow
        refine ⟨⟨hformed, hc.attempts (hi.row hold).attempts⟩, fun t ht => ?_⟩
        rcases hc.token ht with hold' | ⟨-, hnew⟩
        · exact h.tokens t (hi.drawn hold hold')
        · exact hnew
  rcases h.outcomes with hsame | ⟨id, token, o, row, row', ho, hlookup, htoken,
    hlookup', hnone⟩
  · refine ⟨fun hr => (hrow hr).1, fun hr ht => (hrow hr).2 _ ht, ?_, ?_, ?_⟩
    · rw [hsame]
      exact hspent
    · rw [hsame]
      exact fun ho => h.tokens _ (hi.spentDrawn ho)
    · rw [hsame]
      exact hi.once
  · -- the outcome was applied under the token of its row
    refine ⟨fun hr => (hrow hr).1, fun hr ht => (hrow hr).2 _ ht,
      @fun id' t' o' row₁ hmem hr => ?_, @fun id' t' o' hmem => ?_, ?_⟩
    · rw [ho] at hmem
      rcases List.mem_cons.mp hmem with heq | hmem
      · cases heq
        cases hlookup'.symm.trans hr
        rw [hnone]
        exact nofun
      · exact hspent hmem hr
    · rw [ho] at hmem
      rcases List.mem_cons.mp hmem with heq | hmem
      · cases heq
        exact h.tokens _ (hi.drawn hlookup htoken)
      · exact h.tokens _ (hi.spentDrawn hmem)
    · rw [ho, List.map_cons, List.nodup_cons]
      refine ⟨fun hmem => ?_, hi.once⟩
      obtain ⟨⟨id', t', o'⟩, hmem, heq⟩ := List.mem_map.mp hmem
      cases heq
      exact hi.spent hmem hlookup htoken

theorem StoreInv.start : StoreInv cfg {} :=
  ⟨nofun, nofun, nofun, nofun, List.nodup_nil⟩

/-- A finished row stays as it is. -/
theorem StoreStep.terminal (h : StoreStep cfg s s') {id : AnalysisId}
    {row : AnalysisRow} (hrow : AList.lookup id s.rows = some row)
    (ht : row.status.terminal = true) :
    AList.lookup id s'.rows = some row := by
  obtain ⟨row', hrow', hc⟩ := h.rows id row hrow
  rw [hc.terminal ht] at hrow'
  exact hrow'

end Store

/-! ## Runs -/

/-- **The analysis state machine**, for any number of workers and sweepers
that commit in any order and crash at any point. -/
theorem analysis_state_machine (cfg : AnalysisSettings) (s : AnalysisSystem)
    (h : Run (analysisStep cfg) (fun _ _ => True) {} s) :
    -- a terminal row is never left, nor written to
    (∀ id row, AList.lookup id s.store.rows = some row →
      row.status.terminal = true → ∀ s',
        Run (analysisStep cfg) (fun _ _ => True) s s' →
        AList.lookup id s'.store.rows = some row) ∧
    -- a claim has one outcome at most
    (s.store.outcomes.map fun e => (e.1, e.2.1)).Nodup ∧
    -- nothing is ever written under a token that was superseded
    (∀ id token, token ∈ s.store.tokens →
      (∀ row, AList.lookup id s.store.rows = some row →
        row.claimToken ≠ some token) → ∀ s',
        Run (analysisStep cfg) (fun _ _ => True) s s' → ∀ values,
        fenced s'.store.rows id token values = (s'.store.rows, false)) ∧
    ∀ id row, AList.lookup id s.store.rows = some row →
      (row.status = .processing →
        row.claimToken.isSome = true ∧ row.leaseExpiresAt.isSome = true) ∧
      (row.status = .retryWait → row.nextAttemptAt.isSome = true) ∧
      row.attemptCount ≤ cfg.maxAttempts := by
  have hi : StoreInv cfg s.store :=
    h.inv (P := fun s => StoreInv cfg s.store)
      (fun _ _ _ hi _ hs => (analysisStep_store hs).inv hi) .start
  refine ⟨fun id row hrow ht s' hrun => ?_, hi.once,
    fun id token hdrawn hnot s' hrun values => ?_, fun id row hrow => ?_⟩
  · exact hrun.inv
      (P := fun s => AList.lookup id s.store.rows = some row)
      (fun _ _ _ hrow _ hs => (analysisStep_store hs).terminal hrow ht) hrow
  · refine fenced_superseded (hrun.inv
      (P := fun s => token ∈ s.store.tokens ∧
        ∀ row, AList.lookup id s.store.rows = some row →
          row.claimToken ≠ some token)
      (fun _ _ _ hp _ hs => (analysisStep_store hs).superseded hp.1 hp.2)
      ⟨hdrawn, hnot⟩).2 values
  · have hok := hi.row hrow
    exact ⟨hok.processing, hok.retryWait, hok.attempts⟩

/-! ## A late completion -/

/-- The lease of the first worker runs out; the second one takes the row
over and completes it, and the first one comes back with its result. -/
def lateCompletion : List AnalysisAct :=
  [.register 1 ⟨7, 3, 2, some 7⟩ none none, .deliver 1 1, .deliver 2 1,
    .work 1 (.claim 0 10 .notRequired 0), .work 1 (.load 0 0 0 .ready),
    .work 1 (.renew 0), .work 2 (.claim (121 * second) 20 .notRequired 0),
    .work 2 (.load 0 0 0 .ready), .work 2 (.renew (121 * second)),
    .work 2 (.analyze 0 0 0 (.result { summary := some "interested" })),
    .work 2 (.persist (122 * second)),
    .work 1 (.analyze 0 0 0 (.result { summary := some "late" })),
    .work 1 (.persist (123 * second))]

theorem analysis_state_machine_lateCompletion :
    ∃ s row, runActs (analysisStep {}) {} lateCompletion = some s ∧
      (AList.lookup 1 s.workers).map (·.phase) = some (.acked .stale) ∧
      AList.lookup 1 s.store.rows = some row ∧
      row.content.summary = some "interested" ∧
      (∀ s', Run (analysisStep {}) (fun _ _ => True) s s' →
        AList.lookup 1 s'.store.rows = some row) ∧
      ∀ s', Run (analysisStep {}) (fun _ _ => True) s s' → ∀ values,
        fenced s'.store.rows 1 10 values = (s'.store.rows, false) := by
  have hany : (runActs (analysisStep {}) {} lateCompletion).any (fun s =>
      decide ((AList.lookup 1 s.workers).map (·.phase) = some (.acked .stale) ∧
        10 ∈ s.store.tokens) &&
      (AList.lookup 1 s.store.rows).any fun row =>
        decide (row.content.summary = some "interested" ∧
          row.status.terminal = true ∧ row.claimToken = none)) = true := by
    decide +kernel
  obtain ⟨s, hs, hany⟩ := (Option.any_eq_true _ _).mp hany
  obtain ⟨hdec, hany⟩ := Bool.and_eq_true_iff.mp hany
  obtain ⟨hstale, hdrawn⟩ := of_decide_eq_true hdec
  obtain ⟨row, hrow, hdec⟩ := (Option.any_eq_true _ _).mp hany
  obtain ⟨hsummary, hterminal, hnone⟩ := of_decide_eq_true hdec
  obtain ⟨hkept, -, hsuperseded, -⟩ :=
    analysis_state_machine {} s (Run.of_runActs hs)
  refine ⟨s, row, hs, hstale, hrow, hsummary, hkept 1 row hrow hterminal,
    hsuperseded 1 10 hdrawn fun row' hrow' => ?_⟩
  cases hrow.symm.trans hrow'
  rw [hnone]
  exact nofun

end CallingAgent
