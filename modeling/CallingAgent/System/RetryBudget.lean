import CallingAgent.System.RetryEntries

/-!
# Retry budget — how many attempts a contact gets, and when

The recovery manager decides by the number of the attempt that failed. The
rebuild, where the columns of a waiting contact are empty, goes on from the
latest attempt without asking it. Numbers stay within the policy as long
as that happens only while the policy has a retry left.
-/

namespace CallingAgent

open Lib

/-! ## The rule -/

/-- The number is one that the policy of the contact's campaign allows. -/
def withinPolicy (env : Env) (db : Db) (c : ContactId) (n : Nat) : Prop :=
  ∃ x, db.contact c = some x ∧
    n ≤ (db.effectivePolicy env.settings x.campaignId).maxRetries + 1

/-- Attempt numbers are contiguous from 1, and at most one more than the
policy's retries. -/
structure System.BudgetKept (env : Env) (s : System) : Prop where
  positive : ∀ a y, s.db.attempt a = some y → 1 ≤ y.attemptNumber
  contiguous : ∀ a y m, s.db.attempt a = some y → 1 ≤ m →
    m ≤ y.attemptNumber → ∃ b, s.db.RowOf b y.contactId m
  within : ∀ a y x, s.db.attempt a = some y →
    s.db.contact y.contactId = some x → y.attemptNumber
      ≤ (s.db.effectivePolicy env.settings x.campaignId).maxRetries + 1

/-- What the manager decided about the attempt `d` of a contact: a retry at
`due`, as the policy spaces it and within the provider budget. -/
structure Decided (env : Env) (policy : RetryPolicy) (db : Db)
    (c : ContactId) (d : Disconnect) (now due : Instant) : Prop where
  attempt : db.RowOf d.attemptId c d.attemptNumber
  number : d.attemptNumber ≤ policy.maxRetries
  spacing : ∃ spacing,
    policy.retrySpacingSeconds[d.attemptNumber - 1]? = some spacing ∧
    now + spacing * second ≤ due ∧
    due ≤ now
      + (max spacing env.settings.dograhRetryAfterMaxSeconds : Nat) * second
  budget : d.neverConnected = true → isProviderBudgetReason d.reasonKey = true →
    providerErrorFailures db c d.attemptNumber
      ≤ env.settings.dograhProviderErrorMaxRetries

/-- A new retry time is the manager's, or a dispatch's that has put the
retry off. -/
def Spaced (env : Env) (s : System) (act : SystemAct) (s' : System) : Prop :=
  ∀ c x x' due, s.db.contact c = some x → s'.db.contact c = some x' →
    x'.nextRetryAt = some due → x.nextRetryAt ≠ some due →
    (∃ e jobId, act = .dispatch e jobId true) ∨
      ∃ d, Decided env (s.db.effectivePolicy env.settings x.campaignId) s'.db c
        d s.now due

/-! ## The condition -/

/-- The step moves no contact to another campaign, so its policy stays the
same. -/
def fixedCampaign : SystemAct → Bool
  | .service (.associate _ _) true => false
  | _ => true

/-- Where the rebuild has to derive a retry, because its columns are empty,
the latest attempt has one left. -/
def derivesWithin (env : Env) (s : System) : SystemAct → Bool
  | .rebuild => s.db.contacts.entries.all fun e =>
      !(e.2.status == .retryScheduled && e.2.nextRetryAt.isSome
        && e.2.retryAttemptId.isNone)
      || (latestAttempt s.db e.1).all fun a => a.2.attemptNumber
        ≤ (s.db.effectivePolicy env.settings e.2.campaignId).maxRetries
  | _ => true

def keepsBudget (env : Env) (s : System) (act : SystemAct) : Bool :=
  fixedCampaign act && keepsPlacement env act && derivesWithin env s act

/-- Nothing is queued, scheduled or running, and nobody was called. -/
structure System.Untouched (s : System) : Prop where
  workers : ∀ w, s.worker w = none
  stream : ∀ m, AList.lookup m s.redis.stream = none
  schedule : s.redis.schedule = []
  attempts : ∀ a, s.db.attempt a = none
  columns : ∀ c x, s.db.contact c = some x →
    x.retryAttemptId = none ∧ x.retryAttemptNumber = none
  owned : ∀ c x, s.db.contact c = some x →
    (s.db.campaign x.campaignId).isSome = true

/-! ## Copies of a contact -/

/-- The contact a run has loaded. -/
def Phase.copy : Phase → Option Contact
  | .secondGate _ view | .ready view => some view.contact
  | .sent _ _ contact _ _ | .lookup _ _ contact _ _ _ _ => some contact
  | _ => none

/-- Each loaded contact is in the campaign of its row. -/
def System.CopiesAgree (s : System) : Prop :=
  ∀ w k copy, s.worker w = some k → k.phase.copy = some copy →
    ∃ x, s.db.contact k.job.contactId = some x ∧ copy.campaignId = x.campaignId

section

variable {env : Env} {s s' : System} {act : SystemAct}

theorem recordedFailure_copy {k : Worker} {wact : WorkerAct}
    {f : FailureRecord} (hf : recordedFailure env k wact = some f) :
    k.phase.copy = some f.contact := by
  unfold recordedFailure at hf
  split at hf
  · split at hf
    · next hp _ =>
      cases hf
      rw [hp]
      rfl
    · cases hf
  · split at hf
    · cases hf
    · next hp _ =>
      cases hf
      rw [hp]
      rfl
    · cases hf
  · cases hf

theorem handedContact_campaign {w : AcceptedWebhook} (optedOut : Bool) :
    (w.handedContact optedOut).campaignId = w.contact.campaignId := by
  unfold AcceptedWebhook.handedContact
  cases optedOut <;> cases w.unresolved <;> cases w.outcome.state <;> rfl

/-- A flush of a copy in its own campaign leaves the row's. -/
theorem flush_campaign {loaded new x : Contact}
    (h : new.campaignId = loaded.campaignId) :
    (loaded.flush new x).campaignId = x.campaignId := by
  simp [Contact.flush, h]

/-- Only an association moves a contact. -/
theorem RowChange.campaign {c : ContactId} {x x' : Contact}
    (h : RowChange env s s' c x act x') (hfix : fixedCampaign act = true) :
    x'.campaignId = x.campaignId := by
  cases h with
  | same => rfl
  | service change =>
      cases change with
      | moved => cases hfix
      | @webhook p w found about row =>
          subst row
          unfold AcceptedWebhook.leftContact
          split
          · exact handedContact_campaign _
          · exact (handleDisconnect_shape.campaign).trans
              (handedContact_campaign _)
      | dropped attempt about campaign => exact handleDisconnect_shape.campaign
      | _ => rfl
  | worker running about change =>
      cases change with
      | same => rfl
      | nativeRecovery =>
          exact (handleDisconnect_shape.campaign).trans (flush_campaign rfl)
      | recorded record attempt campaign attempts =>
          exact flush_campaign handleDisconnect_shape.campaign
      | _ => exact flush_campaign rfl
  | dispatched due about change => cases change <;> rfl
  | parked => rfl

/-- A contact that is there stays, in its campaign. -/
theorem SystemEffect.stays (he : SystemEffect env s act s')
    (hfix : fixedCampaign act = true) {c : ContactId} {x : Contact}
    (hx : s.db.contact c = some x) :
    ∃ x', s'.db.contact c = some x' ∧ x'.campaignId = x.campaignId := by
  obtain ⟨x', hx', hch⟩ := he.contact c x hx
  exact ⟨x', hx', hch.campaign hfix⟩

theorem System.CopiesAgree.step (hi : s.CopiesAgree)
    (h : systemStep env s act = some s') (hfix : fixedCampaign act = true) :
    s'.CopiesAgree := by
  have he := systemStep_effect h
  have hstays : ∀ {c : ContactId} {x copy : Contact},
      s.db.contact c = some x → copy.campaignId = x.campaignId →
      ∃ x', s'.db.contact c = some x' ∧ copy.campaignId = x'.campaignId := by
    intro c x copy hx hcopy
    obtain ⟨x', hx', hc⟩ := he.stays hfix hx
    exact ⟨x', hx', hcopy.trans hc.symm⟩
  have hold : ∀ {w k copy}, s.worker w = some k → k.phase.copy = some copy →
      ∃ x', s'.db.contact k.job.contactId = some x' ∧
        copy.campaignId = x'.campaignId := by
    intro w k copy hk hcopy
    obtain ⟨x, hx, hc⟩ := hi w k copy hk hcopy
    exact hstays hx hc
  intro w k copy hk hcopy
  rcases systemStep_worker h hk with ⟨hk₀, -⟩ |
    ⟨m, job, startedAt, rfl, rfl⟩ | ⟨wact, k₀, r, phase, rfl, hk₀, hr, rfl,
      hphase, rfl⟩
  · exact hold hk₀ hcopy
  · cases hcopy
  · cases workerStep_phase hr hphase with
    | cleared => cases hcopy
    | deferring => cases hcopy
    | admitted => cases hcopy
    | settling => cases hcopy
    | secondGate check =>
        cases hcopy
        exact hstays (dialCheck_passed (by rw [check]; rfl)).contact rfl
    | ready check =>
        cases hcopy
        exact hstays (dialCheck_passed (by rw [check]; rfl)).contact rfl
    | orphan check =>
        cases hcopy
        exact hstays (dialCheck_orphan_contact check) rfl
    | passed phase gate =>
        have hcopy₀ : k₀.phase.copy = some copy := by
          rw [phase]
          exact hcopy
        have hrow := hold hk₀ hcopy₀
        exact hrow
    | claimed => cases hcopy
    | sent phase row =>
        cases hcopy
        exact hstays row rfl
    | unsure phase decided =>
        have hcopy₀ : k₀.phase.copy = some copy := by
          rw [phase]
          exact hcopy
        have hrow := hold hk₀ hcopy₀
        exact hrow

/-! ## What the manager saw -/

theorem outcomeDb_local {db : Db} {p : DograhWebhookPayload}
    {w : AcceptedWebhook} {now : Instant} :
    Db.Local w.attempt.contactId w.aid db (outcomeDb env db p w now) := by
  have hopen := (@openOutcome_local env db p w (p.optsOut env)).setAttempt
      (endAttempt w.outcome now (identifyRun p w.unresolved w.attempt))
  unfold outcomeDb
  dsimp only
  split
  · exact (hopen.insertSession _).setContact _
  · exact hopen

theorem outcomeDb_attempts {db : Db} {p : DograhWebhookPayload}
    {w : AcceptedWebhook} {now : Instant} {step : WebhookStep}
    (hs : w.outcome.state = .failedToConnect)
    (h : applyWebhook env db p w now = .ok step) :
    step.db.attempts = (outcomeDb env db p w now).attempts := by
  simp only [applyWebhook, hs] at h
  unfold outcomeDb
  simp only [hs]
  split at h
  · cases h
  · cases h
    rfl

/-- The policy is that of the contact's own campaign. -/
theorem Consulted.policy {db' : Db} {q : Consultation} {x : Contact}
    (hq : Consulted env s db' act q) (hc : s.CopiesAgree)
    (hx : s.db.contact q.contactId = some x) :
    q.db.effectivePolicy env.settings q.contact.campaignId
      = s.db.effectivePolicy env.settings x.campaignId := by
  have hpol : ∀ {db : Db} {g : CampaignId},
      db.retryPolicies = s.db.retryPolicies → g = x.campaignId →
      db.effectivePolicy env.settings g
        = s.db.effectivePolicy env.settings x.campaignId := by
    intro db g hp hg
    unfold Db.effectivePolicy
    rw [hp, hg]
  cases hq with
  | webhook found state =>
      have hrow : s.db.contact _ = some x := hx
      rw [found.contact] at hrow
      cases hrow
      exact hpol outcomeDb_local.policies (handedContact_campaign _)
  | dropped attempt contact campaign =>
      have hrow : s.db.contact _ = some x := hx
      rw [contact] at hrow
      cases hrow
      exact hpol rfl rfl
  | failed running record attempt campaign =>
      obtain ⟨y, hy, hcamp⟩ := hc _ _ _ running (recordedFailure_copy record)
      have hrow : s.db.contact _ = some x := hx
      rw [hy] at hrow
      cases hrow
      exact hpol rfl hcamp
  | native running phase engine answer ko said contact suppressions policies
      never committed row =>
      have hrow : s.db.contact _ = some x := hx
      rw [contact] at hrow
      cases hrow
      exact hpol policies (flush_campaign rfl)

/-- The contact the manager is asked about is there. -/
theorem Consulted.contact {db' : Db} {q : Consultation}
    (hq : Consulted env s db' act q) (hc : s.CopiesAgree) :
    ∃ x, s.db.contact q.contactId = some x := by
  cases hq with
  | webhook found state => exact ⟨_, found.contact⟩
  | dropped attempt contact campaign => exact ⟨_, contact⟩
  | failed running record attempt campaign =>
      obtain ⟨y, hy, -⟩ := hc _ _ _ running (recordedFailure_copy record)
      exact ⟨y, hy⟩
  | native running phase engine answer ko said contact => exact ⟨_, contact⟩

/-- A retry the manager schedules is one its policy allows. -/
theorem Consulted.decided {q : Consultation} {x : Contact} {job : RecoveryJob}
    {due : Instant} (hq : Consulted env s s'.db act q) (hc : s.CopiesAgree)
    (hx : s.db.contact q.contactId = some x)
    (hentry : (q.answer env s.now).entry = some (job, due))
    (hrow : s'.db.RowOf q.disconnect.attemptId q.contactId
      q.disconnect.attemptNumber)
    (hattempts : q.disconnect.neverConnected = true →
      s'.db.attempts = q.db.attempts) :
    Decided env (s.db.effectivePolicy env.settings x.campaignId) s'.db
      q.contactId q.disconnect s.now due := by
  have hpolicy := hq.policy hc hx
  obtain ⟨hretry, hsched⟩ := @handleDisconnect_entry env q.db q.contactId
    q.contact q.campaign q.disconnect s.now (by
      show (q.answer env s.now).entry ≠ none
      simp [hentry])
  rw [hpolicy] at hretry hsched
  obtain ⟨hnumber, hbudget, spacing, hspacing, hdelay⟩ :=
    decideRecovery_scheduled hretry
  have hdue : due = s.now + (retryDelay env spacing
      q.disconnect.retryAfterSeconds : Nat) * second := by
    have h : (q.answer env s.now).entry = _ := congrArg (·.entry) hsched
    rw [hentry] at h
    simp only [scheduleRetry, Option.some.injEq, Prod.mk.injEq] at h
    rw [h.2, hdelay]
  obtain ⟨hlow, hhigh⟩ := @retryDelay_bounds env spacing
    q.disconnect.retryAfterSeconds
  have hsecond : (0 : Int) ≤ second := by decide
  refine ⟨hrow, hnumber, ⟨spacing, hspacing, ?_, ?_⟩, fun hn hr => ?_⟩
  · rw [hdue]
    exact Int.add_le_add_left
      (Int.mul_le_mul_of_nonneg_right (Int.ofNat_le.mpr hlow) hsecond) _
  · rw [hdue]
    exact Int.add_le_add_left
      (Int.mul_le_mul_of_nonneg_right (Int.ofNat_le.mpr hhigh) hsecond) _
  · have hcount := hbudget hn hr
    unfold providerErrorFailures at hcount ⊢
    rw [hattempts hn]
    exact hcount

/-- Only the manager sets a retry time, or a dispatch. -/
theorem Consulted.nextRetry {db' : Db} {q : Consultation} {due : Instant}
    (_ : Consulted env s db' act q)
    (h : (q.answer env s.now).contact.nextRetryAt = some due)
    (hne : q.contact.nextRetryAt ≠ some due) :
    ∃ job, (q.answer env s.now).entry = some (job, due) := by
  have hshape : (q.answer env s.now).Shape q.contactId q.contact
      q.disconnect := handleDisconnect_shape
  rcases hshape.outcome with ⟨hc, -⟩ | ⟨hc, -⟩ | ⟨d, hc, he⟩
  · rw [hc] at h
    exact absurd h hne
  · rw [hc] at h
    exact absurd h hne
  · rw [hc] at h
    cases h
    exact ⟨_, he⟩

theorem handedContact_nextRetry {w : AcceptedWebhook} (optedOut : Bool) :
    (w.handedContact optedOut).nextRetryAt = w.contact.nextRetryAt := by
  unfold AcceptedWebhook.handedContact
  cases optedOut <;> cases w.unresolved <;> cases w.outcome.state <;> rfl

/-- A flush leaves the row's retry time, or writes the session's. -/
theorem flush_nextRetry {loaded new x : Contact} {due : Instant}
    (h : (loaded.flush new x).nextRetryAt = some due)
    (hne : x.nextRetryAt ≠ some due) :
    new.nextRetryAt = some due ∧ loaded.nextRetryAt ≠ some due := by
  have h : writeBack loaded.nextRetryAt new.nextRetryAt x.nextRetryAt
      = some due := h
  rcases writeBack_or loaded.nextRetryAt new.nextRetryAt x.nextRetryAt with
    ⟨hw, hn⟩ | ⟨hw, -⟩
  · rw [hw] at h
    exact ⟨h, fun hl => hn (h.trans hl.symm)⟩
  · rw [hw] at h
    exact absurd h hne

/-- **Where a new retry time comes from.** -/
theorem RowChange.scheduled {c : ContactId} {x x' : Contact} {due : Instant}
    (h : systemStep env s act = some s') (hx : s.db.contact c = some x)
    (hch : RowChange env s s' c x act x') (hdue : x'.nextRetryAt = some due)
    (hne : x.nextRetryAt ≠ some due) :
    (∃ e jobId, act = .dispatch e jobId true) ∨
      ∃ q job, Consulted env s s'.db act q ∧ q.contactId = c ∧
        (q.answer env s.now).entry = some (job, due) ∧
        (q.disconnect.neverConnected = true →
          s'.db.attempts = q.db.attempts) := by
  cases hch with
  | same => exact absurd hdue hne
  | service change =>
      cases change with
      | @webhook p w found about row =>
          subst about row
          unfold AcceptedWebhook.leftContact at hdue
          split at hdue
          · rw [handedContact_nextRetry] at hdue
            exact absurd hdue hne
          · next hs =>
            have hq : Consulted env s s'.db (.service (.dograhWebhook p) true) _ :=
              .webhook found hs
            obtain ⟨job, hentry⟩ := hq.nextRetry hdue (by
              show (w.handedContact _).nextRetryAt ≠ _
              rw [handedContact_nextRetry]
              exact hne)
            refine .inr ⟨_, job, hq, rfl, hentry, fun hn => ?_⟩
            obtain ⟨r, hr, rfl⟩ := Option.map_eq_some_iff.mp h
            have hr : (processDograhWebhook env s.db p s.now).toOption.map
              (fun step => (step.db, step.entry)) = some r := hr
            unfold processDograhWebhook at hr
            rw [admitWebhook_of_found found] at hr
            dsimp only at hr
            cases happly : applyWebhook env s.db p w s.now with
            | error e =>
                rw [happly] at hr
                cases hr
            | ok step =>
                rw [happly] at hr
                cases hr
                have hstate : (w.outcome.state == .failedToConnect) = true := hn
                exact outcomeDb_attempts (by simpa using hstate) happly
      | @dropped aid a reason _ attempt about campaign =>
          subst about
          have hq : Consulted env s s'.db
              (.service (.conversationDrops aid reason) true) _ :=
            .dropped attempt hx campaign
          obtain ⟨job, hentry⟩ := hq.nextRetry hdue hne
          refine .inr ⟨_, job, hq, rfl, hentry, fun hn => ?_⟩
          cases hn
      | _ => exact absurd hdue hne
  | @worker w k wact _ running about change =>
      subst about
      cases change with
      | same => exact absurd hdue hne
      | placed =>
          have hflush := flush_nextRetry hdue hne
          cases hflush.1
      | unplaced =>
          have hflush := flush_nextRetry hdue hne
          cases hflush.1
      | claimed =>
          have hflush := flush_nextRetry hdue hne
          cases hflush.1
      | @nativeRecovery view reads native created r reason db campaign d
          phase engine answer ko said suppressions policies attempts never
          number attempt =>
          have hq : Consulted env s s'.db (.worker w (.gate reads native true))
              ⟨db, k.job.contactId,
                view.contact.flush (claimContact created view.contact) x,
                campaign, d⟩ := by
            refine .native running phase engine answer ko said hx
              suppressions policies never (fun _ => attempts) fun hheld => ⟨number hheld, ?_⟩
            rw [number hheld]
            have hrow := attempt hheld
            unfold Db.RowOf Db.attempt at hrow ⊢
            rw [← attempts]
            exact hrow
          obtain ⟨job, hentry⟩ := hq.nextRetry hdue fun hcopy => by
            have hflush := flush_nextRetry hcopy hne
            cases hflush.1
          exact .inr ⟨_, job, hq, rfl, hentry, fun _ => attempts⟩
      | recorded record attempt campaign attempts =>
          obtain ⟨hnew, hold⟩ := flush_nextRetry hdue hne
          have hq : Consulted env s s'.db (.worker w wact) _ :=
            .failed running record attempt campaign
          obtain ⟨job, hentry⟩ := hq.nextRetry hnew hold
          exact .inr ⟨_, job, hq, rfl, hentry, fun _ => attempts⟩
      | _ =>
          obtain ⟨hnew, hold⟩ := flush_nextRetry hdue hne
          exact absurd hnew hold
  | dispatched due about change => exact .inl ⟨_, _, rfl⟩
  | parked => cases hdue

/-! ## The invariant -/

structure BudgetInv (env : Env) (s : System) : Prop where
  numbers : NumberInv (withinPolicy env) env s
  copies : s.CopiesAgree
  owned : ∀ c x, s.db.contact c = some x →
    (s.db.campaign x.campaignId).isSome = true
  attempts : ∀ a y, s.db.attempt a = some y → y.attemptNumber = 1 ∨
    ∃ b, s.db.Next (withinPolicy env) y.contactId b y.attemptNumber

/-- The policy of a contact does not change. -/
theorem BudgetInv.policy (hi : BudgetInv env s)
    (he : SystemEffect env s act s') {c : ContactId} {x : Contact}
    (hx : s.db.contact c = some x) :
    s'.db.effectivePolicy env.settings x.campaignId
      = s.db.effectivePolicy env.settings x.campaignId := by
  unfold Db.effectivePolicy
  rw [he.policies _ (hi.owned c x hx)]

theorem BudgetInv.grants (hi : BudgetInv env s)
    (h : systemStep env s act = some s') (hc : keepsBudget env s act = true) :
    Grants (withinPolicy env) env s s' act := by
  have he := systemStep_effect h
  obtain ⟨hc, hderived⟩ := Bool.and_eq_true_iff.mp hc
  obtain ⟨hfix, hkeep⟩ := Bool.and_eq_true_iff.mp hc
  have hkept : ∀ c x n, s.db.contact c = some x →
      n ≤ (s.db.effectivePolicy env.settings x.campaignId).maxRetries + 1 →
      withinPolicy env s'.db c n := by
    intro c x n hx hn
    obtain ⟨x', hx', hcamp⟩ := he.stays hfix hx
    refine ⟨x', hx', ?_⟩
    rw [hcamp, hi.policy he hx]
    exact hn
  constructor
  case limit =>
    rintro c n ⟨x, hx, hn⟩
    exact hkept c x n hx hn
  case decided =>
    intro q hq hentry
    obtain ⟨x, hx⟩ := hq.contact hi.copies
    obtain ⟨hretry, -⟩ := handleDisconnect_entry hentry
    rw [hq.policy hi.copies hx] at hretry
    exact hkept _ x _ hx
      (Nat.succ_le_succ (decideRecovery_scheduled hretry).1)
  case derived =>
    rintro rfl c x due a y hx hstatus hdue hid hlatest
    have hm : (⟨c, x⟩ : Sigma fun _ : ContactId => Contact) ∈
        s.db.contacts.entries := AList.mem_lookup_iff.mp hx
    have hall := List.all_eq_true.mp hderived _ hm
    simp only [hstatus, hdue, hid, hlatest, beq_self_eq_true,
      Option.isSome_some, Option.isNone_none, Bool.and_self, Bool.not_true,
      Bool.false_or, Option.all_some, decide_eq_true_eq] at hall
    exact hkept c x _ hx (Nat.succ_le_succ hall)

theorem BudgetInv.step (hi : BudgetInv env s)
    (h : systemStep env s act = some s') (hc : keepsBudget env s act = true) :
    BudgetInv env s' := by
  have he := systemStep_effect h
  have hg := hi.grants h hc
  have hext := hg.extends he
  obtain ⟨hc, -⟩ := Bool.and_eq_true_iff.mp hc
  obtain ⟨hfix, hkeep⟩ := Bool.and_eq_true_iff.mp hc
  constructor
  case numbers => exact hi.numbers.step h hg hkeep
  case copies => exact hi.copies.step h hfix
  case owned =>
    intro c x' hx'
    cases hx : s.db.contact c with
    | none =>
        obtain ⟨campaign, number, rfl, hcampaign⟩ := he.created c x' hx hx'
        exact hcampaign
    | some x =>
        obtain ⟨x'', hx'', hcamp⟩ := he.stays hfix hx
        rw [hx'] at hx''
        cases hx''
        rw [hcamp]
        exact he.campaign_stays (hi.owned c x hx)
  case attempts =>
    intro a y hy
    rcases he.row_cases ⟨y, hy, rfl, rfl⟩ with
      ⟨y₀, hy₀, hc₀, hn₀⟩ | ⟨w, k, wact, -, hk, hck, hnk, -, -⟩
    · rcases hi.attempts a y₀ hy₀ with h1 | ⟨b, hb⟩
      · exact .inl (hn₀ ▸ h1)
      · rw [hc₀, hn₀] at hb
        exact .inr ⟨b, hb.extend hext⟩
    · rw [hck, hnk]
      rcases (hi.numbers.workers w k hk).1 with ⟨h1, -⟩ | ⟨b, -, hb⟩
      · exact .inl h1
      · exact .inr ⟨b, hb.extend hext⟩

/-! ## Every run -/

/-- Going down from a number, every attempt before it is there. -/
theorem BudgetInv.contiguous (hi : BudgetInv env s) {c : ContactId} {n : Nat} :
    ∀ a, s.db.RowOf a c n → 1 ≤ n ∧
      ∀ m, 1 ≤ m → m ≤ n → ∃ b, s.db.RowOf b c m := by
  induction n with
  | zero =>
      rintro a ⟨y, hy, rfl, hn⟩
      rcases hi.attempts a y hy with h1 | ⟨b, ⟨m, hm, -⟩, -⟩
      · omega
      · omega
  | succ n ih =>
      rintro a ⟨y, hy, rfl, hn⟩
      refine ⟨Nat.succ_pos n, fun m h1 hm => ?_⟩
      by_cases hlast : m = n + 1
      · exact ⟨a, y, hy, rfl, hn.trans hlast.symm⟩
      · rcases hi.attempts a y hy with h1' | ⟨b, ⟨k, hk, hrow⟩, -⟩
        · omega
        · have hkn : k = n := by omega
          rw [hkn] at hrow
          exact (ih b hrow).2 m h1 (by omega)

theorem BudgetInv.kept (hi : BudgetInv env s) : s.BudgetKept env where
  positive a y hy := (hi.contiguous a ⟨y, hy, rfl, rfl⟩).1
  contiguous a y m hy h1 hm := (hi.contiguous a ⟨y, hy, rfl, rfl⟩).2 m h1 hm
  within a y x hy hx := by
    rcases hi.attempts a y hy with h1 | ⟨b, -, x', hx', hn⟩
    · omega
    · rw [hx] at hx'
      cases hx'
      exact hn

theorem BudgetInv.spaced (hi : BudgetInv env s)
    (h : systemStep env s act = some s') (hc : keepsBudget env s act = true) :
    Spaced env s act s' := by
  have he := systemStep_effect h
  have hext := (hi.grants h hc).extends he
  obtain ⟨hc, -⟩ := Bool.and_eq_true_iff.mp hc
  obtain ⟨-, hkeep⟩ := Bool.and_eq_true_iff.mp hc
  intro c x x' due hx hx' hdue hne
  obtain ⟨x'', hx'', hch⟩ := he.contact c x hx
  rw [hx'] at hx''
  cases hx''
  rcases hch.scheduled h hx hdue hne with hd | ⟨q, job, hq, rfl, hentry, hat⟩
  · exact .inl hd
  · exact .inr ⟨q.disconnect, hq.decided hi.copies hx hentry
      (hi.numbers.asked hext hkeep hq).1 hat⟩

theorem System.Untouched.inv (h : s.Untouched) : BudgetInv env s where
  numbers :=
    { unique := fun a b x y hx => by
        rw [h.attempts a] at hx
        cases hx
      columns := fun c x hx => .inl (h.columns c x hx)
      entries := fun e he => by
        rw [h.schedule] at he
        cases he
      jobs := fun m job hm => by
        rw [h.stream m] at hm
        cases hm
      workers := fun w k hk => by
        rw [h.workers w] at hk
        cases hk }
  copies w k copy hk := by
    rw [h.workers w] at hk
    cases hk
  owned := h.owned
  attempts a y hy := by
    rw [h.attempts a] at hy
    cases hy

/-- **The retry budget, under a condition.** In every run in which contacts
stay in their campaigns, the rebuild derives a retry only while the policy
has one left, and no native placement loses the commit of its failure:
attempt numbers are contiguous from 1 and at most one more than the policy's
retries, and every retry time is set by a decision of the manager that keeps
the policy's spacing, its cap and the provider budget. -/
theorem run_retryBudget {env : Env} {s₀ s : System} (h₀ : s₀.Untouched)
    (hrun : Run (systemStep env) (fun s act => keepsBudget env s act = true)
      s₀ s) :
    s.BudgetKept env ∧
      ∀ act s', keepsBudget env s act = true →
        systemStep env s act = some s' → Spaced env s act s' := by
  have hi : BudgetInv env s :=
    Run.inv (P := BudgetInv env) (fun _ _ _ hi hc hst => hi.step hst hc) hrun
      h₀.inv
  exact ⟨hi.kept, fun act s' hc hst => hi.spaced hst hc⟩

end

/-! ## A held last attempt -/

/-- `twoActive` under a policy of one retry. -/
def oneRetry : System :=
  { twoActive with
    db := { twoActive.db with
      retryPolicies := AList.insert 1
        { buildDefaultPolicy { callingEngine := .dograh } with
          maxRetries := 1
          retrySpacingSeconds := [3600] } ∅ } }

theorem oneRetry_untouched : oneRetry.Untouched where
  workers _ := rfl
  stream _ := rfl
  schedule := rfl
  attempts _ := rfl
  columns c x hx := by
    rcases twoActive_idle.columns c x hx with h | ⟨a, n, -, -, ⟨m, -, y, hy, -⟩, -⟩
    · exact h
    · cases hy
  owned c x hx := by
    have hrow : oneRetry.db.contact c = if c = 1 then some
        { campaignId := 1, normalizedPhoneNumber := "+919876543210" }
          else none :=
      Table.lookup_insert' _ _ _ _
    rw [hrow] at hx
    split at hx
    · cases hx
      rfl
    · cases hx

/-- The last retry is held. A stale entry of it finds the campaign paused
and sets a retry time, the rebuild derives number 3 from the held row, and
number 3 is claimed once the held one has failed. -/
theorem heldRetry_exceeds :
    ∃ s a y, runActs (systemStep dograhEnv) oneRetry crossedRetries = some s ∧
      s.db.attempt a = some y ∧ y.contactId = 1 ∧ y.attemptNumber = 3 ∧
      (s.db.effectivePolicy dograhEnv.settings 1).maxRetries = 1 := by
  have h : (runActs (systemStep dograhEnv) oneRetry crossedRetries).map
      (fun s => ((s.db.attempt 2).map fun y => (y.contactId, y.attemptNumber),
        (s.db.effectivePolicy dograhEnv.settings 1).maxRetries))
      = some (some (1, 3), 1) := by
    decide +kernel
  obtain ⟨s, hs, hsaw⟩ := Option.map_eq_some_iff.mp h
  obtain ⟨hrow, hmax⟩ := Prod.mk.inj hsaw
  obtain ⟨y, hy, hkey⟩ := Option.map_eq_some_iff.mp hrow
  obtain ⟨hc, hn⟩ := Prod.mk.inj hkey
  exact ⟨s, 2, y, hs, hy, hc, hn, hmax⟩

/-- Without the hold the retry is the last. -/
theorem lastRetry_kept :
    ∃ s, runActs (systemStep dograhEnv) oneRetry
        (gateReached ++ [.worker 2 (.secondLookup (.runs [])),
          .worker 2 (.gate quietGate ⟨"", none, false⟩ true)]) = some s ∧
      s.db.attempts.entries.length = 2 ∧ s.BudgetKept dograhEnv := by
  obtain ⟨s, hs, hrun⟩ := Run.of_holdsAlong (systemStep dograhEnv)
    (keepsBudget dograhEnv) oneRetry
    (gateReached ++ ([.worker 2 (.secondLookup (.runs [])),
      .worker 2 (.gate quietGate ⟨"", none, false⟩ true)] : List SystemAct))
    (by decide +kernel)
  have hlen : (runActs (systemStep dograhEnv) oneRetry
      (gateReached ++ ([.worker 2 (.secondLookup (.runs [])),
        .worker 2 (.gate quietGate ⟨"", none, false⟩ true)] :
          List SystemAct))).map
      (·.db.attempts.entries.length) = some 2 := by
    decide +kernel
  rw [hs] at hlen
  exact ⟨s, hs, Option.some.inj hlen,
    (run_retryBudget oneRetry_untouched hrun).1⟩

end CallingAgent
