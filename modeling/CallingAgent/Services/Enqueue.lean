import CallingAgent.Model.Redis
import CallingAgent.Services.Campaigns
import CallingAgent.Services.Dialer

/-!
# Enqueue — first attempts onto the dial stream

The scan of a campaign queues one first-attempt job for every contact that
is pending and was never attempted; that same condition is what the settle
paths take as "PostgreSQL can rebuild this job".
-/

namespace CallingAgent

open Lib

/-- Pending and never attempted: the contact's first dial is owed. -/
def Contact.owedFirstDial (c : Contact) : Bool :=
  c.status == .pending && c.attemptCount == 0

/-- `eligible_enqueue_page`: what the scan of a campaign selects. -/
def enqueueSelects (campaignId : CampaignId) (c : Contact) : Bool :=
  c.campaignId == campaignId && c.owedFirstDial

/-- `MAX_ENQUEUE_PER_REQUEST` -/
def maxEnqueuePerRequest : Nat := 100000

section

variable (env : Env) (db : Db)

/-- The contacts the scan visits, by primary key. -/
def enqueueCandidates (campaignId : CampaignId) : List ContactId :=
  ((db.contacts.entries.filter fun e => enqueueSelects campaignId e.2).map
    (·.1)).insertionSort (· ≤ ·)

/-- The scan: suppressed contacts are skipped, guarded ones are already
queued, and a full backlog ends it. -/
def enqueueScan (campaignId : CampaignId) (jobId : ContactId → Nat) :
    Nat → List ContactId → Redis → Redis
  | _, [], r => r
  | 0, _, r => r
  | budget + 1, c :: rest, r =>
      match db.contact c with
      | none => enqueueScan campaignId jobId (budget + 1) rest r
      | some contact =>
          if db.suppressions.isSuppressed env contact.normalizedPhoneNumber then
            enqueueScan campaignId jobId (budget + 1) rest r
          else
            match r.enqueueOnce env.settings.queueMaxBacklog
                { jobId := jobId c, campaignId, contactId := c,
                  attemptNumber := 1 } with
            | (r', .queued) => enqueueScan campaignId jobId budget rest r'
            | (r', .guarded) =>
                enqueueScan campaignId jobId (budget + 1) rest r'
            | (r', .backlogFull) => r'

/-- `enqueue_campaign`, on the kill switch as it was read. -/
def enqueueCampaign (r : Redis) (campaignId : CampaignId)
    (jobId : ContactId → Nat) (gate : GateReads) : Except AppError Redis :=
  match db.campaign campaignId with
  | none => .error (campaignNotFound campaignId)
  | some campaign =>
      if campaign.status ≠ .active then
        .error (.validation ("Campaign is " ++ campaign.status.value
          ++ ", not active -- cannot enqueue"))
      else
        match killSwitchGate env.settings gate with
        | .open => .ok (enqueueScan env db campaignId jobId
            maxEnqueuePerRequest (enqueueCandidates db campaignId) r)
        | .blocked .killSwitchUnavailable =>
            .error (.serviceUnavailable "Outbound control state is unavailable")
        | _ => .error (.conflict
            "Outbound calling is disabled by the global kill switch")

end

/-! ## Settling a job that may not be dialed now -/

/-- The contact is still owed the first dial this job is about: the scan
would queue it again. -/
def rebuildable (db : Db) (job : DialJob) : Bool :=
  job.attemptNumber == 1 && !job.isRecovery
    && ((db.contact job.contactId).map (·.owedFirstDial)).getD false

/-- A call was placed for this job's attempt. -/
def alreadyDialed (db : Db) (job : DialJob) : Bool :=
  ((db.attemptByContactAndNumber job.contactId job.attemptNumber).bind
    fun a => (db.attempt a).bind (·.providerCallId)).isSome

/-- `_settle_paused` -/
def settlePaused (db : Db) (r : Redis) (m : MessageId) (job : DialJob) :
    JobOutcome × Redis :=
  if rebuildable db job then
    (.campaignPaused, (r.deleteGuard job.idempotencyKey).ack m)
  else if alreadyDialed db job then (.alreadyProcessed, r.ack m)
  else (.campaignPausedHeld, r)

/-- `_closed_window`: closed, and the next opening if it can be told.
`none` is a `ValueError` of the window arithmetic. -/
def closedWindow (env : Env) (db : Db) (job : DialJob) (now : Instant) :
    Option (Bool × Option Instant) :=
  match db.campaign job.campaignId with
  | none => some (false, none)
  | some campaign =>
      if campaign.status ≠ .active then some (false, none)
      else
        let policy := db.effectivePolicy env.settings job.campaignId
        match windowIsOpen env campaign policy now with
        | .ok true => some (false, none)
        | .ok false =>
            match nextOpenTime env campaign policy now with
            | .ok t => some (true, some t)
            | .error .startEqualsEnd => none
            | .error _ => some (true, none)
        | .error .startEqualsEnd => none
        | .error _ => some (true, none)

/-- `_settle_outside_window`: the job is put where it will be found again
before its message is acknowledged. -/
def settleOutsideWindow (db : Db) (r : Redis) (m : MessageId) (job : DialJob)
    (due : Option Instant) : JobOutcome × Redis :=
  match due with
  | some t =>
      if rebuildable db job then
        (.windowDeferred, ((r.schedulePut (.dial job) t).deleteGuard
          job.idempotencyKey).ack m)
      else if alreadyDialed db job then (.alreadyProcessed, r.ack m)
      else
        match job.isRecovery, job.previousAttemptId with
        | true, some previous =>
            (.windowDeferred, (r.schedulePut (.retry
              { jobId := some job.jobId
                attemptId := previous
                contactId := job.contactId
                campaignId := job.campaignId
                attemptNumber := job.attemptNumber }) t).ack m)
        | _, _ => (.windowHeld, r)
  | none =>
      if alreadyDialed db job then (.alreadyProcessed, r.ack m)
      else (.windowHeld, r)

/-! ## Dead letters -/

/-- `_record_dead_letter`, on a message whose job could be read: a contact
that has not started dialing is parked. -/
def recordDeadLetter (db : Db) (job : DialJob) : Db :=
  db.modifyContact job.contactId fun c =>
    if c.status = .pending ∨ c.status = .retryScheduled then
      { c.clearSchedule with status := .needsReview }
    else c

end CallingAgent
