import CallingAgent.Model.Database

/-!
# Recovery — the single owner of retry decisions

Mid-call disconnects and never-connected failures both end here. The
manager reads the policy, decides retry or terminal, and leaves the
decision on the contact it was given: it works on the caller's session
copy of the contact, and the caller's commit writes it back.
-/

namespace CallingAgent

open Lib

/-- Why a retry was or was not scheduled (`RecoveryDecision.reason`). -/
inductive RecoveryReason where
  | scheduled
  | suppressed
  | campaignCompleted
  | reasonNotRetryable (key : String)
  | providerErrorBudgetExhausted
  | maxAttemptsReached
  deriving DecidableEq, Repr

structure RecoveryDecision where
  shouldRetry : Bool
  reason : RecoveryReason
  delaySeconds : Nat := 0
  nextAttemptNumber : Nat := 0
  deriving DecidableEq, Repr

/-- `_RULE_ALIASES`: a rate limit is retried under the provider-error
rule. -/
def ruleAlias (key : String) : String :=
  if key = "provider_rate_limited" then "provider_error" else key

/-- `_PROVIDER_BUDGET_REASONS` -/
def isProviderBudgetReason (key : String) : Bool :=
  key == "provider_error" || key == "provider_rate_limited"

/-- What the manager is asked about: the attempt that ended and how. -/
structure Disconnect where
  attemptId : AttemptId
  attemptNumber : Nat
  neverConnected : Bool
  reasonKey : String
  retryAfterSeconds : Option Nat := none

/-- What the manager leaves behind: the contact as its session holds it,
the event it logs on the attempt, and the entry it adds to the schedule
cache. -/
structure RecoveryEffect where
  decision : RecoveryDecision
  contact : Contact
  event : EventType
  entry : Option (RecoveryJob × Instant)

section

variable (env : Env) (db : Db)

/-- `_provider_error_failures` -/
def providerErrorFailures (contactId : ContactId) (attemptNumber : Nat) : Nat :=
  db.attempts.count fun _ a =>
    a.contactId == contactId && a.provider == some "dograh"
      && a.state == .failedToConnect
      && a.connectionFailureReason == some .providerError
      && a.attemptNumber ≤ attemptNumber

/-- The policy's spacing, lengthened (never shortened) by the provider's
hint, which is clamped again here. -/
def retryDelay (spacing : Nat) : Option Nat → Nat
  | some hint =>
      if hint > 0 then
        max spacing (min hint env.settings.dograhRetryAfterMaxSeconds)
      else spacing
  | none => spacing

/-- `RecoveryManager._decide` -/
def decideRecovery (policy : RetryPolicy) (contactId : ContactId)
    (d : Disconnect) : RecoveryDecision :=
  let rules := if d.neverConnected then policy.neverConnectedRules
    else policy.midCallRules
  if !ruleFor rules (ruleAlias d.reasonKey) then
    ⟨false, .reasonNotRetryable d.reasonKey, 0, 0⟩
  else if d.neverConnected && isProviderBudgetReason d.reasonKey
      && providerErrorFailures db contactId d.attemptNumber
        > env.settings.dograhProviderErrorMaxRetries then
    ⟨false, .providerErrorBudgetExhausted, 0, 0⟩
  else if d.attemptNumber > policy.maxRetries then
    ⟨false, .maxAttemptsReached, 0, 0⟩
  else
    match policy.retrySpacingSeconds[d.attemptNumber - 1]? with
    | none => ⟨false, .maxAttemptsReached, 0, 0⟩
    | some spacing =>
        ⟨true, .scheduled, retryDelay env spacing d.retryAfterSeconds,
          d.attemptNumber + 1⟩

/-- `RecoveryManager._schedule` -/
def scheduleRetry (contactId : ContactId) (contact : Contact) (d : Disconnect)
    (decision : RecoveryDecision) (now : Instant) : RecoveryEffect :=
  let due := now + decision.delaySeconds * second
  { decision
    contact := { contact with
      status := .retryScheduled
      nextRetryAt := some due
      retryAttemptId := some d.attemptId
      retryAttemptNumber := some decision.nextAttemptNumber }
    event := .recoveryScheduled
    entry := some (.new d.attemptId contactId contact.campaignId
      decision.nextAttemptNumber, due) }

/-- `RecoveryManager._terminalize`: a suppressed contact is already
closed and is not relabelled. -/
def terminalize (contact : Contact) (reason : RecoveryReason) :
    RecoveryEffect where
  decision := ⟨false, reason, 0, 0⟩
  contact := if reason = .suppressed then contact
    else { contact with status := .completedPartial }
  event := .recoveryTerminalized
  entry := none

/-- `RecoveryManager.handle_disconnect`, on the session's copy of the
contact and its campaign. -/
def handleDisconnect (contactId : ContactId) (contact : Contact)
    (campaign : Campaign) (d : Disconnect) (now : Instant) : RecoveryEffect :=
  if contact.status = .closed
      ∨ db.suppressions.isSuppressed env contact.normalizedPhoneNumber = true
  then terminalize contact .suppressed
  else if campaign.status = .completed then
    terminalize contact .campaignCompleted
  else
    let decision := decideRecovery env db
      (db.effectivePolicy env.settings contact.campaignId) contactId d
    if decision.shouldRetry then
      scheduleRetry contactId contact d decision now
    else terminalize contact decision.reason

/-- The manager is going to schedule a retry: nothing forbids one, and the
policy still has one. -/
def retryAllowed (contactId : ContactId) (contact : Contact)
    (campaign : Campaign) (d : Disconnect) : Bool :=
  contact.status != .closed
    && !db.suppressions.isSuppressed env contact.normalizedPhoneNumber
    && campaign.status != .completed
    && (decideRecovery env db
      (db.effectivePolicy env.settings contact.campaignId) contactId
      d).shouldRetry

end

/-! ## What the manager can do -/

section

variable {env : Env} {db : Db} {contactId : ContactId} {contact : Contact}
  {campaign : Campaign} {d : Disconnect} {now : Instant}

/-- The contact the manager leaves: as it was, terminal, or waiting for
the next attempt. -/
structure RecoveryEffect.Shape (contactId : ContactId) (contact : Contact)
    (d : Disconnect) (e : RecoveryEffect) : Prop where
  event : e.event = .recoveryScheduled ∨ e.event = .recoveryTerminalized
  campaign : e.contact.campaignId = contact.campaignId
  attemptCount : e.contact.attemptCount = contact.attemptCount
  phone : e.contact.normalizedPhoneNumber = contact.normalizedPhoneNumber
  purged : e.contact.purgedAt = contact.purgedAt
  outcome :
    (e.contact = contact ∧ e.entry = none) ∨
    (e.contact = { contact with status := .completedPartial }
      ∧ e.entry = none) ∨
    (∃ due, e.contact = { contact with
        status := .retryScheduled
        nextRetryAt := some due
        retryAttemptId := some d.attemptId
        retryAttemptNumber := some (d.attemptNumber + 1) } ∧
      e.entry = some (.new d.attemptId contactId contact.campaignId
        (d.attemptNumber + 1), due))

theorem terminalize_shape (reason : RecoveryReason) :
    (terminalize contact reason).Shape contactId contact d := by
  unfold terminalize
  by_cases h : reason = .suppressed <;> constructor <;> simp [h]

/-- A decision to retry names the next attempt number. -/
theorem decideRecovery_next {policy : RetryPolicy}
    (h : (decideRecovery env db policy contactId d).shouldRetry = true) :
    (decideRecovery env db policy contactId d).nextAttemptNumber
      = d.attemptNumber + 1 := by
  unfold decideRecovery at h ⊢
  grind

/-- **What the manager can do**, case by case. -/
theorem handleDisconnect_shape :
    (handleDisconnect env db contactId contact campaign d now).Shape contactId
      contact d := by
  unfold handleDisconnect
  split
  · exact terminalize_shape _
  · split
    · exact terminalize_shape _
    · simp only
      split
      · next h =>
        have hn := decideRecovery_next h
        constructor <;> simp [scheduleRetry, hn]
      · exact terminalize_shape _

/-- The manager never makes a contact pending. -/
theorem RecoveryEffect.Shape.onward {e : RecoveryEffect}
    (h : e.Shape contactId contact d) : contact.Onward e.contact := by
  refine ⟨h.attemptCount, fun hp => ?_⟩
  rcases h.outcome with ⟨hc, _⟩ | ⟨hc, _⟩ | ⟨due, hc, _⟩
  · rwa [hc] at hp
  · rw [hc] at hp; cases hp
  · rw [hc] at hp; cases hp

/-- Suppression always wins: a closed or suppressed contact is left as it
is and gets no retry. -/
theorem handleDisconnect_suppressed
    (h : contact.status = .closed
      ∨ db.suppressions.isSuppressed env contact.normalizedPhoneNumber
        = true) :
    handleDisconnect env db contactId contact campaign d now
      = terminalize contact .suppressed := by
  unfold handleDisconnect
  rw [if_pos h]

theorem handleDisconnect_retry
    (h : retryAllowed env db contactId contact campaign d = true) :
    handleDisconnect env db contactId contact campaign d now
      = scheduleRetry contactId contact d (decideRecovery env db
          (db.effectivePolicy env.settings contact.campaignId) contactId d)
          now := by
  simp only [retryAllowed, Bool.and_eq_true, bne_iff_ne, ne_eq,
    Bool.not_eq_true'] at h
  obtain ⟨⟨⟨hc, hs⟩, hd⟩, hr⟩ := h
  unfold handleDisconnect
  simp [hc, hs, hd, hr]

/-- Without a retry the contact is terminal, or suppression has won and it
is left as it is. -/
theorem handleDisconnect_noRetry
    (h : retryAllowed env db contactId contact campaign d = false) :
    (handleDisconnect env db contactId contact campaign d now).entry = none ∧
      ((handleDisconnect env db contactId contact campaign d now).contact
          = contact ∧ (contact.status = .closed
            ∨ db.suppressions.isSuppressed env contact.normalizedPhoneNumber
              = true) ∨
        (handleDisconnect env db contactId contact campaign d now).contact
          = { contact with status := .completedPartial } ∧
          db.suppressions.isSuppressed env contact.normalizedPhoneNumber
            = false) := by
  unfold handleDisconnect
  split
  · next hs => exact ⟨rfl, .inl ⟨by simp [terminalize], hs⟩⟩
  · next hs =>
    have hfree := Bool.eq_false_iff.mpr (not_or.mp hs).2
    split
    · exact ⟨rfl, .inr ⟨by simp [terminalize], hfree⟩⟩
    · next hd =>
      dsimp only
      split
      · next hr =>
        obtain ⟨hc, hs⟩ := not_or.mp hs
        simp [retryAllowed, hc, hs, hd, hr] at h
      · have hne : (decideRecovery env db
            (db.effectivePolicy env.settings contact.campaignId) contactId
            d).reason ≠ .suppressed := by
          unfold decideRecovery
          grind
        exact ⟨rfl, .inr ⟨by simp [terminalize, hne], hfree⟩⟩

/-- A contact that is neither closed nor suppressed leaves its status: it
becomes terminal or is scheduled. -/
theorem handleDisconnect_status
    (h : ¬ (contact.status = .closed
      ∨ db.suppressions.isSuppressed env contact.normalizedPhoneNumber
        = true)) :
    (handleDisconnect env db contactId contact campaign d now).contact.status
        = .completedPartial ∨
      (handleDisconnect env db contactId contact campaign d now).contact.status
        = .retryScheduled := by
  unfold handleDisconnect
  rw [if_neg h]
  split
  · left; rfl
  · simp only
    split
    · right; rfl
    · left
      have hne : (decideRecovery env db
          (db.effectivePolicy env.settings contact.campaignId) contactId
          d).reason ≠ .suppressed := by
        unfold decideRecovery
        grind
      simp [terminalize, hne]

/-- A retry is within the policy's numbers, spacing and budget. -/
theorem decideRecovery_scheduled {policy : RetryPolicy}
    (h : (decideRecovery env db policy contactId d).shouldRetry = true) :
    d.attemptNumber ≤ policy.maxRetries ∧
      (d.neverConnected = true → isProviderBudgetReason d.reasonKey = true →
        providerErrorFailures db contactId d.attemptNumber
          ≤ env.settings.dograhProviderErrorMaxRetries) ∧
      ∃ spacing, policy.retrySpacingSeconds[d.attemptNumber - 1]?
          = some spacing ∧
        (decideRecovery env db policy contactId d).delaySeconds
          = retryDelay env spacing d.retryAfterSeconds := by
  unfold decideRecovery at h ⊢
  generalize (if d.neverConnected then policy.neverConnectedRules
    else policy.midCallRules) = rules at h ⊢
  dsimp only at h ⊢
  split at h
  · cases h
  · next hrule =>
    rw [if_neg hrule]
    split at h
    · cases h
    · next hbudget =>
      rw [if_neg hbudget]
      split at h
      · cases h
      · next hmax =>
        rw [if_neg hmax]
        split at h
        · cases h
        · next spacing hspacing =>
          refine ⟨Nat.le_of_not_lt hmax, fun hn hr => ?_, spacing, hspacing,
            rfl⟩
          simp only [hn, hr, Bool.and_self, Bool.true_and, gt_iff_lt,
            decide_eq_true_eq] at hbudget
          exact Nat.le_of_not_lt hbudget

/-- The provider's hint lengthens the spacing, up to its cap. -/
theorem retryDelay_bounds (spacing : Nat) (hint : Option Nat) :
    spacing ≤ retryDelay env spacing hint ∧
      retryDelay env spacing hint
        ≤ max spacing env.settings.dograhRetryAfterMaxSeconds := by
  unfold retryDelay
  cases hint with
  | none => exact ⟨Nat.le_refl _, Nat.le_max_left _ _⟩
  | some n =>
      dsimp only
      split <;> omega

/-- An entry means that a retry was decided. -/
theorem handleDisconnect_entry
    (h : (handleDisconnect env db contactId contact campaign d now).entry
      ≠ none) :
    (decideRecovery env db (db.effectivePolicy env.settings
        contact.campaignId) contactId d).shouldRetry = true ∧
      handleDisconnect env db contactId contact campaign d now
        = scheduleRetry contactId contact d (decideRecovery env db
          (db.effectivePolicy env.settings contact.campaignId) contactId d)
          now := by
  cases hr : retryAllowed env db contactId contact campaign d with
  | false => exact absurd (handleDisconnect_noRetry hr).1 h
  | true =>
      refine ⟨?_, handleDisconnect_retry hr⟩
      unfold retryAllowed at hr
      exact (Bool.and_eq_true_iff.mp hr).2

end

end CallingAgent
