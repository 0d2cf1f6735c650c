import CallingAgent.Services.ClaimedJob

/-!
# Redelivery — a job whose outcome is on record

A worker can die between the commit of an outcome and the acknowledgement of
its message. The message is then delivered again, against whatever the rows,
the gates and the clock have become. A recorded outcome is recognised by the
call id of the attempt or, on an engine without idempotency keys, by the
attempt itself.
-/

namespace CallingAgent

open Lib

/-- An outcome of the job's attempt was committed: a call id, or on the
Dograh engine any resolution but a provider hold; and the attempt was
counted. -/
structure OutcomeRecorded (env : Env) (db : Db) (job : DialJob) : Prop where
  attempt : ∃ aid a,
    db.attemptByContactAndNumber job.contactId job.attemptNumber = some aid ∧
    db.attempt aid = some a ∧
    (a.providerCallId.isSome = true ∨
      env.settings.callingEngine = .dograh ∧ a.state ≠ .initiated ∧
        isHeldAttempt db aid a = false)
  counted : ∀ c, db.contact job.contactId = some c → c.attemptCount ≠ 0

section

variable (env : Env) (db : Db) (job : DialJob) (w : WorkWorld)

/-- The delivery gets as far as the dialer. -/
def reachesDial : Bool :=
  outboundGate env.settings w.earlyGate matches .open
    && !(db.campaign job.campaignId).any (·.status = .paused)
    && closedWindow env db job w.arrivedAt matches some (false, _)
    && w.admitted

/-- The delivery is turned away, because the campaign is paused or its
window is closed. -/
def turnedAway : Bool :=
  outboundGate env.settings w.earlyGate matches .open
    && ((db.campaign job.campaignId).any (·.status = .paused)
      || closedWindow env db job w.arrivedAt matches some (true, _))

/-- The redelivery is acknowledged: the dialer recognises it, or the call
that was placed is recognised without it. -/
def settlesRecorded : Bool :=
  reachesDial env db job w
    || turnedAway env db job w && alreadyDialed db job

variable {env db job w}

/-- A call id is on record. -/
theorem alreadyDialed_iff : alreadyDialed db job = true ↔ ∃ aid a,
    db.attemptByContactAndNumber job.contactId job.attemptNumber = some aid ∧
    db.attempt aid = some a ∧ a.providerCallId.isSome = true := by
  unfold alreadyDialed
  cases db.attemptByContactAndNumber job.contactId job.attemptNumber with
  | none => simp
  | some aid => cases ha : db.attempt aid <;> simp [ha]

/-- A counted contact is not owed its first dial. -/
theorem OutcomeRecorded.not_rebuildable (h : OutcomeRecorded env db job) :
    rebuildable db job = false := by
  unfold rebuildable
  cases hc : db.contact job.contactId with
  | none => simp
  | some c =>
      have hcount := h.counted c hc
      simp [Contact.owedFirstDial, hcount]

/-- The dialer recognises the outcome. -/
theorem OutcomeRecorded.dial_eq (h : OutcomeRecorded env db job)
    (d : DialWorld) :
    ∃ o, dial env db job d = ⟨some o, db, [], none⟩ ∧
      (o = .alreadyProcessed ∨ o = .notEligible) := by
  obtain ⟨aid, a, hfind, ha, hdone⟩ := h.attempt
  have hcheck : ∃ o, dialCheck env db job d.checkedAt = .stop o ∧
      (o = .alreadyProcessed ∨ o = .notEligible) := by
    unfold dialCheck
    split
    · rw [hfind]
      dsimp only
      rw [ha]
      dsimp only
      rcases hdone with hcall | ⟨hengine, hstate, hheld⟩
      · rw [if_pos hcall]
        exact ⟨_, rfl, .inl rfl⟩
      · split
        · exact ⟨_, rfl, .inl rfl⟩
        · rw [if_neg (by rw [hengine]; decide), hheld,
            if_neg Bool.false_ne_true]
          unfold checkUnresolvedClaim
          rw [if_pos hstate]
          exact ⟨_, rfl, .inl rfl⟩
    · exact ⟨_, rfl, .inr rfl⟩
  obtain ⟨o, ho, hcases⟩ := hcheck
  refine ⟨o, ?_, hcases⟩
  unfold dial
  rw [ho]

/-- What a closed window makes of the message. -/
theorem OutcomeRecorded.settleOutsideWindow_eq (h : OutcomeRecorded env db job)
    (r : Redis) (m : MessageId) (due : Option Instant) :
    (settleOutsideWindow db r m job due).2
      = if alreadyDialed db job then r.ack m
        else
          match due, job.isRecovery, job.previousAttemptId with
          | some t, true, some previous =>
              (r.schedulePut (.retry
                { jobId := some job.jobId
                  attemptId := previous
                  contactId := job.contactId
                  campaignId := job.campaignId
                  attemptNumber := job.attemptNumber }) t).ack m
          | _, _, _ => r := by
  unfold settleOutsideWindow
  rw [h.not_rebuildable]
  cases due with
  | none => cases alreadyDialed db job <;> rfl
  | some t =>
      cases alreadyDialed db job with
      | true => rfl
      | false =>
          cases job.isRecovery with
          | false => rfl
          | true => cases job.previousAttemptId <;> rfl

end

/-- **A recorded outcome is final.** A redelivery asks for no call and
changes no row. Its message is acknowledged when it reaches the dialer, and
when the call id is on record although the campaign is paused or its window
closed; otherwise it is left pending, or a retry goes back to the schedule
for the next opening. -/
theorem redelivery_of_recorded_outcome (env : Env) (db : Db) (r : Redis)
    (m : MessageId) (job : DialJob) (w : WorkWorld)
    (h : OutcomeRecorded env db job) :
    (processClaimedJob env db r m job w).1.requests = [] ∧
    (processClaimedJob env db r m job w).1.db = db ∧
    (settlesRecorded env db job w = true →
      (processClaimedJob env db r m job w).2 = r.ack m) ∧
    (settlesRecorded env db job w = false →
      (processClaimedJob env db r m job w).2 = r ∨
      ∃ due previous, closedWindow env db job w.arrivedAt = some (true, some due) ∧
        job.isRecovery = true ∧ job.previousAttemptId = some previous ∧
        alreadyDialed db job = false ∧
        (processClaimedJob env db r m job w).2
          = (r.schedulePut (.retry
              { jobId := some job.jobId
                attemptId := previous
                contactId := job.contactId
                campaignId := job.campaignId
                attemptNumber := job.attemptNumber }) due).ack m) := by
  unfold settlesRecorded reachesDial turnedAway processClaimedJob
  cases hgate : outboundGate env.settings w.earlyGate with
  | raised => exact ⟨rfl, rfl, by simp, fun _ => .inl rfl⟩
  | blocked reason => exact ⟨rfl, rfl, by simp, fun _ => .inl rfl⟩
  | «open» =>
      dsimp only
      by_cases hp : (db.campaign job.campaignId).any (·.status = .paused) = true
      · -- paused: only a call id settles it
        rw [if_pos hp]
        refine ⟨rfl, rfl, ?_⟩
        simp only [hp, settlePaused, h.not_rebuildable]
        cases alreadyDialed db job <;> simp
      · rw [if_neg hp]
        rw [Bool.not_eq_true] at hp
        cases hw : closedWindow env db job w.arrivedAt with
        | none => exact ⟨rfl, rfl, by simp [hp], fun _ => .inl rfl⟩
        | some x =>
            obtain ⟨closed, due⟩ := x
            cases closed with
            | true =>
                refine ⟨rfl, rfl, ?_⟩
                dsimp only
                rw [h.settleOutsideWindow_eq]
                cases hd : alreadyDialed db job with
                | true => simp [hp]
                | false =>
                    refine ⟨by simp [hp], fun _ => ?_⟩
                    rw [if_neg Bool.false_ne_true]
                    split
                    · next t previous hrec hprev =>
                      exact .inr ⟨t, previous, rfl, hrec, hprev, rfl, rfl⟩
                    · exact .inl rfl
            | false =>
                dsimp only
                cases hadm : w.admitted with
                | false => exact ⟨rfl, rfl, by simp [hp], fun _ => .inl rfl⟩
                | true =>
                    obtain ⟨o, hdial, ho⟩ := h.dial_eq w.toDialWorld
                    rw [if_pos rfl, hdial]
                    rcases ho with rfl | rfl
                    · exact ⟨rfl, rfl, fun _ => rfl, by simp [hp]⟩
                    · exact ⟨rfl, rfl, fun _ => rfl, by simp [hp]⟩

/-! ## A worker that died before it acknowledged -/

def firstJob : DialJob :=
  { jobId := 1, campaignId := 1, contactId := 1, attemptNumber := 1 }

/-- The message of `firstJob`, still pending. -/
def pendingFirstJob : Redis where
  stream := AList.insert 1 firstJob ∅
  lastMessageId := 1

/-- What the first delivery committed. -/
def firstCall : Db :=
  (processClaimedJob dograhEnv twoCampaigns pendingFirstJob 1 firstJob
    acceptingWorld).1.db

/-- It placed a call; the redelivery places none, and is acknowledged. -/
theorem redelivery_of_recorded_outcome_firstCall :
    (firstCall.attempt 0).map (·.providerCallId) = some (some "501") ∧
    (processClaimedJob dograhEnv firstCall pendingFirstJob 1 firstJob
      acceptingWorld).1.requests = [] ∧
    (processClaimedJob dograhEnv firstCall pendingFirstJob 1 firstJob
      acceptingWorld).2 = pendingFirstJob.ack 1 := by
  have hcall : alreadyDialed firstCall firstJob = true := by decide +kernel
  obtain ⟨aid, a, hfind, ha, hid⟩ := alreadyDialed_iff.mp hcall
  have hcounted : (firstCall.contact firstJob.contactId).all
      (fun c => decide (c.attemptCount ≠ 0)) = true := by
    decide +kernel
  have hrecorded : OutcomeRecorded dograhEnv firstCall firstJob := by
    refine ⟨⟨aid, a, hfind, ha, .inl hid⟩, fun c hc => ?_⟩
    rw [hc, Option.all_some, decide_eq_true_eq] at hcounted
    exact hcounted
  obtain ⟨hquiet, -, hack, -⟩ := redelivery_of_recorded_outcome dograhEnv
    firstCall pendingFirstJob 1 firstJob acceptingWorld hrecorded
  exact ⟨by decide +kernel, hquiet, hack (by decide +kernel)⟩

/-- The kill switch is engaged when the message is delivered again. -/
def frozenWorld : WorkWorld :=
  { acceptingWorld with
    earlyGate := { quietGate with killSwitch := .value { killSwitch := true } } }

/-- The native engine recorded a failed attempt, and the contact waits for
its retry. -/
def failedNatively : Db where
  campaigns := AList.insert 1 { status := .active } ∅
  contacts := AList.insert 1
    { campaignId := 1, normalizedPhoneNumber := "+919876543210"
      status := .retryScheduled, attemptCount := 1
      nextRetryAt := some (noon + 3600 * second), retryAttemptId := some 1
      retryAttemptNumber := some 2 } ∅
  attempts := AList.insert 1
    { contactId := 1, attemptNumber := 1, state := .failedToConnect
      connectionFailureReason := some .noAnswer, provider := some "mock"
      startedAt := noon, endedAt := some noon } ∅

/-- The provider takes the call this time. -/
def takingWorld : WorkWorld :=
  { acceptingWorld with createCall := some ⟨.initiated, some "CA1", none⟩ }

/-- A redelivery under the kill switch is not acknowledged; and on the native
engine a failed attempt is dialed again, its retry forgotten. -/
theorem redelivery_not_always_settled :
    (AList.lookup 1 (processClaimedJob dograhEnv firstCall pendingFirstJob 1
      firstJob frozenWorld).2.stream).isSome = true ∧
    (processClaimedJob (plainEnv {}) failedNatively pendingFirstJob 1 firstJob
      takingWorld).1.requests.length = 1 ∧
    ((processClaimedJob (plainEnv {}) failedNatively pendingFirstJob 1 firstJob
      takingWorld).1.db.contact 1).map (fun c => (c.status, c.nextRetryAt))
      = some (.inConversation, none) := by
  decide +kernel

end CallingAgent
