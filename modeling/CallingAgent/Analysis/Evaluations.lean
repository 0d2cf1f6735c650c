import CallingAgent.Analysis.Accounts

/-!
# The accounts of an analysis — evaluations

Every claim is evaluated once at most, and refunded only after an
evaluation that came before the deadline: the evaluations that stay paid
for are never more than the attempts.
-/

namespace CallingAgent

open Lib

/-! ## The accounts of the evaluations -/

/-- The claim's answer was evaluated before the deadline. -/
def PolledSystem.InTime (cfg : AnalysisSettings) (s : PolledSystem)
    (id : AnalysisId) (t : ClaimToken) : Prop :=
  ∃ e ∈ s.evaluations, e.analysisId = id ∧ e.token = t ∧
    e.elapsed < cfg.qaReadyDeadlineSeconds * second

/-- **What is evaluated and what is refunded.** A claim is evaluated once,
and what is refunded was evaluated in time. -/
structure EvalBooks (cfg : AnalysisSettings) (s : PolledSystem) : Prop where
  claimed : ∀ e ∈ s.evaluations, (e.analysisId, e.token) ∈ s.claims
  once : (s.evaluations.map (·.token)).Nodup
  pending : ∀ w job t, AList.lookup w s.workers = some job →
    job.phase.token = some t → job.phase.decided = false →
    ∀ e ∈ s.evaluations, e.token ≠ t
  ready : ∀ w job t o, AList.lookup w s.workers = some job →
    job.phase = .persist t o → o.refunds = true →
    s.InTime cfg job.analysisId t
  applied : ∀ e ∈ s.base.base.store.outcomes, e.2.2.refunds = true →
    (e.1, e.2.1) ∈ s.claims ∧ s.InTime cfg e.1 e.2.1

section Evaluations

variable {cfg : AnalysisSettings} {p : RetrySchedule} {b : AnalysisBudget}
  {s s' : PolledSystem}

theorem EvalBooks.pendingStep (h : EvalBooks cfg s) (hi : ClaimBooks s)
    {act : PollAct} (hst : pollStep cfg p b s act = some s') {w : JobRunId}
    {job' : AnalysisJobRun} {t : ClaimToken}
    (hjob : AList.lookup w s'.workers = some job')
    (ht : job'.phase.token = some t) (hd : job'.phase.decided = false)
    {e : Evaluation} (he : e ∈ s'.evaluations) : e.token ≠ t := by
  have hold : ∀ {e}, e ∈ s.evaluations → e.token ≠ t := by
    intro e he
    rcases undecided_back hi hst hjob ht hd with ⟨job, hjob, ht, hd⟩ | hfresh
    · exact h.pending w job t hjob ht hd e he
    · rintro rfl
      exact hfresh (hi.drawn _ (h.claimed e he))
  rcases evaluations_cases hst with hsame |
    ⟨w₀, job₀, job₀', t₀, elapsed, hjob₀, ht₀, -, hjob₀', hd₀', -, hnew⟩
  · exact hold (hsame ▸ he)
  · rw [hnew] at he
    rcases List.mem_cons.mp he with rfl | he
    · rintro rfl
      rcases undecided_back hi hst hjob ht hd with ⟨job, hjob₁, ht₁, -⟩ | hfresh
      · -- one worker has the token, and it has decided now
        cases hi.owner w w₀ job job₀ t₀ hjob₁ hjob₀ ht₁ ht₀
        cases hjob.symm.trans hjob₀'
        rw [hd] at hd₀'
        cases hd₀'
      · exact hfresh (hi.drawn _ (hi.jobs w₀ job₀ t₀ hjob₀ ht₀))
    · exact hold he

/-- **Every step keeps the accounts of the evaluations.** -/
theorem EvalBooks.step (h : EvalBooks cfg s) (hi : ClaimBooks s)
    {act : PollAct} (hst : pollStep cfg p b s act = some s') :
    EvalBooks cfg s' := by
  have hintime : ∀ {id t}, s.InTime cfg id t → s'.InTime cfg id t := by
    rintro id t ⟨e, he, hid, htok, hearly⟩
    exact ⟨e, evaluations_mono hst he, hid, htok, hearly⟩
  refine ⟨fun e he => ?_, ?_, fun w job t hjob ht hd e he =>
    h.pendingStep hi hst hjob ht hd he, fun w job' t o hjob hp hr => ?_,
    fun e he hr => ?_⟩
  · rcases evaluations_cases hst with hsame |
      ⟨w, job, _, t, elapsed, hjob, ht, -, -, -, hclaims, hnew⟩
    · exact claims_mono hi hst (h.claimed e (hsame ▸ he))
    · rw [hnew] at he
      rcases List.mem_cons.mp he with rfl | he
      · exact claims_mono hi hst (hi.jobs w job t hjob ht)
      · exact claims_mono hi hst (h.claimed e he)
  · rcases evaluations_cases hst with hsame |
      ⟨w, job, _, t, elapsed, hjob, ht, hd, -, -, -, hnew⟩
    · rw [hsame]
      exact h.once
    · rw [hnew, List.map_cons, List.nodup_cons]
      refine ⟨fun hmem => ?_, h.once⟩
      obtain ⟨e, he, heq⟩ := List.mem_map.mp hmem
      exact h.pending w job t hjob ht hd e he heq
  · rcases poll_decides hst hjob hp with hold | ⟨job, now, createdAt, hid, hdec⟩
    · exact hintime (h.ready w job' t o hold hp hr)
    · rw [hid]
      refine ⟨⟨job.analysisId, t, now - createdAt⟩, ?_, rfl, rfl, ?_⟩
      · rw [hdec.evaluated hr]
        exact List.mem_cons_self ..
      · cases o with
        | retry code next refund =>
            exact ((hdec.scheduled code next refund rfl).2 hr).1
        | complete content => cases hr
        | fail code => cases hr
        | skip code releaseBudget => cases hr
  · have hold : e ∈ s.base.base.store.outcomes →
        (e.1, e.2.1) ∈ s'.claims ∧ s'.InTime cfg e.1 e.2.1 := fun he =>
      ⟨claims_mono hi hst (h.applied e he hr).1, hintime (h.applied e he hr).2⟩
    rcases pollStep_cases hi hst with ⟨w₀, now, token, job, phase, -, hc⟩ |
      ⟨w₀, now, base, -, rfl, hbase⟩ | hplain
    · exact hold (hc.outcomes ▸ he)
    · obtain ⟨job, token, o, hjob, hp, -, hcases⟩ := persist_cases hbase
      rcases hcases with ⟨-, -, houtcomes⟩ | ⟨row, -, -, -, -, houtcomes⟩
      · exact hold (houtcomes ▸ he)
      · rw [show (s.withBase base).base.base.store.outcomes = _ from houtcomes]
          at he
        rcases List.mem_cons.mp he with rfl | he
        · exact ⟨hi.jobs w₀ job token hjob (by rw [hp]; rfl),
            hintime (h.ready w₀ job token o hjob hp hr)⟩
        · exact hold he
    · exact hold (hplain.outcomes ▸ he)

/-- The accounts, together with what the state machine keeps. -/
structure AccountInv (cfg : AnalysisSettings) (s : PolledSystem) : Prop where
  store : StoreInv cfg s.base.base.store
  claims : ClaimBooks s
  evaluations : EvalBooks cfg s

theorem pollStep_base {act : PollAct} (h : pollStep cfg p b s act = some s') :
    ∃ a, budgetStep cfg b s.base a = some s'.base := by
  cases act with
  | register id call enqueued next createdAt =>
      obtain ⟨base, hbase, rfl⟩ := Option.map_eq_some_iff.mp h
      exact ⟨_, hbase.trans (by rw [PolledSystem.register_base])⟩
  | claim w now token =>
      obtain ⟨job, -, h⟩ := Option.bind_eq_some_iff.mp h
      obtain ⟨base, hbase, rfl⟩ := Option.map_eq_some_iff.mp h
      refine ⟨_, hbase.trans (congrArg some ?_)⟩
      exact (s.claimed_base base job.analysisId token).symm
  | load w now rng input =>
      obtain ⟨job, -, h⟩ := Option.bind_eq_some_iff.mp h
      split at h
      · obtain ⟨-, h⟩ := Option.ite_none_right_eq_some.mp h
        obtain ⟨base, hbase, rfl⟩ := Option.map_eq_some_iff.mp h
        exact ⟨_, hbase⟩
      · cases h
  | analyze w now rng retryAfter answer =>
      obtain ⟨job, -, h⟩ := Option.bind_eq_some_iff.mp h
      split at h
      · obtain ⟨base, hbase, rfl⟩ := Option.map_eq_some_iff.mp h
        exact ⟨_, hbase⟩
      · cases h
  | other act =>
      obtain ⟨-, h⟩ := Option.ite_none_right_eq_some.mp h
      obtain ⟨base, hbase, rfl⟩ := Option.map_eq_some_iff.mp h
      exact ⟨_, hbase⟩

theorem AccountInv.step (h : AccountInv cfg s) {act : PollAct}
    (hst : pollStep cfg p b s act = some s') : AccountInv cfg s' := by
  obtain ⟨a, ha⟩ := pollStep_base hst
  exact ⟨h.store.budget ha, h.claims.step hst, h.evaluations.step h.claims hst⟩

theorem rows_start (id : AnalysisId) :
    AList.lookup id ({} : PolledSystem).rows = none := rfl

theorem workers_start (w : JobRunId) :
    AList.lookup w ({} : PolledSystem).workers = none := rfl

theorem AccountInv.start : AccountInv cfg {} where
  store := .start
  claims := by
    refine ⟨fun id row h => ?_, fun id _ => ⟨rfl, rfl⟩, List.nodup_nil,
      fun e he => ?_, fun id row t h => ?_, fun w job t h => ?_,
      fun w w' job job' t h => ?_⟩
    · rw [rows_start] at h
      cases h
    · cases he
    · rw [rows_start] at h
      cases h
    · rw [workers_start] at h
      cases h
    · rw [workers_start] at h
      cases h
  evaluations := by
    refine ⟨fun e he => ?_, List.nodup_nil, fun w job t h => ?_,
      fun w job t o h => ?_, fun e he => ?_⟩
    · cases he
    · rw [workers_start] at h
      cases h
    · rw [workers_start] at h
      cases h
    · cases he

theorem accountInv_run {C : PolledSystem → PollAct → Prop}
    (h : Run (pollStep cfg p b) C {} s) : AccountInv cfg s :=
  h.inv (P := AccountInv cfg) (fun _ _ _ hi _ hst => hi.step hst) .start

/-! ### What stays paid for -/

theorem EvalBooks.spent_nodup (h : EvalBooks cfg s) (id : AnalysisId) :
    ((s.spentOn id).map fun e => (e.analysisId, e.token)).Nodup := by
  have hpairs : (s.evaluations.map fun e => (e.analysisId, e.token)).Nodup := by
    apply List.Nodup.of_map Prod.snd
    rw [List.map_map]
    exact h.once
  exact (List.filter_sublist.map _).nodup hpairs

theorem AccountInv.refunds_nodup (h : AccountInv cfg s) (id : AnalysisId) :
    ((s.refundsOf id).map fun e => (e.1, e.2.1)).Nodup :=
  (List.filter_sublist.map _).nodup h.store.once

/-- **No more is paid for than the attempts.** -/
theorem AccountInv.spent_le (h : AccountInv cfg s) {id : AnalysisId}
    {row : AnalysisRow} (hrow : AList.lookup id s.rows = some row) :
    ((s.spentOn id).length : Int) ≤ row.attemptCount := by
  have hdisjoint : ∀ x ∈ (s.spentOn id).map fun e => (e.analysisId, e.token),
      x ∉ (s.refundsOf id).map fun e => (e.1, e.2.1) := by
    intro x hx hr
    obtain ⟨e, he, rfl⟩ := List.mem_map.mp hx
    obtain ⟨r, hr, heq⟩ := List.mem_map.mp hr
    obtain ⟨-, hkeep⟩ := List.mem_filter.mp he
    obtain ⟨hid, hno⟩ := Bool.and_eq_true_iff.mp hkeep
    have hid := of_decide_eq_true hid
    have hrefunded : s.refunded e = true := by
      refine List.any_eq_true.mpr ⟨r, hid ▸ hr, decide_eq_true ?_⟩
      exact congrArg Prod.snd heq
    rw [hrefunded] at hno
    cases hno
  have hnodup : ((s.spentOn id).map (fun e => (e.analysisId, e.token)) ++
      (s.refundsOf id).map fun e => (e.1, e.2.1)).Nodup :=
    List.nodup_append'.mpr ⟨h.evaluations.spent_nodup id, h.refunds_nodup id,
      hdisjoint⟩
  have hsub : (s.spentOn id).map (fun e => (e.analysisId, e.token)) ++
      (s.refundsOf id).map (fun e => (e.1, e.2.1)) ⊆ s.claimsOf id := by
    intro x hx
    rcases List.mem_append.mp hx with hx | hx
    · obtain ⟨e, he, rfl⟩ := List.mem_map.mp hx
      obtain ⟨he, hkeep⟩ := List.mem_filter.mp he
      exact List.mem_filter.mpr ⟨h.evaluations.claimed e he,
        (Bool.and_eq_true_iff.mp hkeep).1⟩
    · obtain ⟨r, hr, rfl⟩ := List.mem_map.mp hx
      obtain ⟨hr, hkeep⟩ := List.mem_filter.mp hr
      obtain ⟨hid, hrefund⟩ := Bool.and_eq_true_iff.mp hkeep
      exact List.mem_filter.mpr ⟨(h.evaluations.applied r hr hrefund).1, hid⟩
  have hle := (List.subperm_of_subset hnodup hsub).length_le
  rw [List.length_append, List.length_map, List.length_map] at hle
  have hcount := h.claims.count id row hrow
  omega

/-- **What is refunded was evaluated in time**, and once. -/
theorem AccountInv.refund_inTime (h : AccountInv cfg s) {e : Evaluation}
    (he : e ∈ s.evaluations) (hr : s.refunded e = true) :
    e.elapsed < cfg.qaReadyDeadlineSeconds * second := by
  obtain ⟨r, hr, htok⟩ := List.any_eq_true.mp hr
  obtain ⟨hr, hkeep⟩ := List.mem_filter.mp hr
  have htok := of_decide_eq_true htok
  obtain ⟨e', he', -, htok', hearly⟩ :=
    (h.evaluations.applied r hr (Bool.and_eq_true_iff.mp hkeep).2).2
  have heq : e' = e :=
    List.inj_on_of_nodup_map h.evaluations.once he' he (htok'.trans htok)
  exact heq ▸ hearly

end Evaluations

end CallingAgent
