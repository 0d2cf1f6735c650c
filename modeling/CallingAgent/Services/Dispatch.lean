import CallingAgent.Services.Enqueue

/-!
# Recovery dispatch — due entries back onto the dial stream

A due entry is claimed off the schedule, re-checked, and either becomes a
dial job, goes back with a later due time, or is dropped. PostgreSQL holds
the same retry in three columns of the contact, from which a lost schedule
is rebuilt.
-/

namespace CallingAgent

open Lib

/-- `PAUSE_RECHECK_SECONDS` -/
def pauseRecheck : Int := 60 * second

/-- `DISPATCH_ERROR_RETRY_SECONDS` -/
def dispatchErrorRetry : Int := 30 * second

section

variable (env : Env) (db : Db)

/-- `_next_window_time`: when to look again, `none` when dialing is allowed
now. The outer `none` is a `ValueError`. -/
def nextWindowTime (campaignId : CampaignId) (campaign : Campaign)
    (now : Instant) : Option (Option Instant) :=
  let policy := db.effectivePolicy env.settings campaignId
  match windowIsOpen env campaign policy now with
  | .ok true => some none
  | .ok false =>
      match nextOpenTime env campaign policy now with
      | .ok t => some (some t)
      | .error .startEqualsEnd => none
      | .error _ => some (some (now + pauseRecheck))
  | .error .startEqualsEnd => none
  | .error _ => some (some (now + pauseRecheck))

/-- What becomes of a due retry. -/
inductive RetryVerdict where
  /-- the contact or the campaign is gone -/
  | targetMissing
  /-- this retry will not run: its columns are cleared -/
  | skip
  /-- not now -/
  | later (due : Instant)
  | enqueue
  /-- an exception: nothing is kept, the entry is put back -/
  | raised
  deriving DecidableEq, Repr

/-- The checks of `_process_one`. -/
def retryVerdict (job : RecoveryJob) (now : Instant) : RetryVerdict :=
  match db.contact job.contactId, db.campaign job.campaignId with
  | some contact, some campaign =>
      if contact.status = .closed
          ∨ db.suppressions.isSuppressed env contact.normalizedPhoneNumber then
        .skip
      else if contact.purgedAt.isSome ∨ contact.status ≠ .retryScheduled then
        .skip
      else if campaign.status = .completed then .skip
      else if campaign.status = .paused then .later (now + pauseRecheck)
      else
        match nextWindowTime env db job.campaignId campaign now with
        | none => .raised
        | some (some t) => .later t
        | some none =>
            -- a row for this attempt number counts as dialed, held or not
            if (db.attemptByContactAndNumber job.contactId
                job.attemptNumber).isSome then .skip
            else .enqueue
  | _, _ => .targetMissing

/-- `contact.next_retry_at = due` -/
def setNextRetry (due : Instant) (c : Contact) : Contact :=
  { c with nextRetryAt := some due }

/-- `_process_one`, on a schedule the entry was claimed off. -/
def dispatchRetry (r : Redis) (job : RecoveryJob) (jobId : Nat)
    (now : Instant) : Db × Redis :=
  match retryVerdict env db job now with
  | .targetMissing => (db, r)
  | .raised => (db, r.scheduleAddMissing (.retry job) (now + dispatchErrorRetry))
  | .skip =>
      ((db.modifyContact job.contactId Contact.clearSchedule).logEvent
        job.attemptId .recoverySkipped now, r)
  | .later due =>
      ((db.modifyContact job.contactId (setNextRetry due)).logEvent
        job.attemptId .recoverySkipped now, r.schedulePut (.retry job) due)
  | .enqueue =>
      let redispatch :=
        now + (env.settings.retryRedispatchSeconds : Int) * second
      let dialJob : DialJob :=
        { jobId, campaignId := job.campaignId, contactId := job.contactId,
          attemptNumber := job.attemptNumber, isRecovery := true,
          previousAttemptId := some job.attemptId }
      match r.enqueueOnce env.settings.queueMaxBacklog dialJob with
      | (r', .backlogFull) =>
          (db.modifyContact job.contactId (setNextRetry (now + pauseRecheck)),
            r'.schedulePut (.retry job) (now + pauseRecheck))
      | (r', .guarded) =>
          ((db.modifyContact job.contactId (setNextRetry redispatch)).logEvent
            job.attemptId .recoverySkipped now, r')
      | (r', .queued) =>
          ((db.modifyContact job.contactId (setNextRetry redispatch)).logEvent
            job.attemptId .reconnectStarted now, r')

/-- `_process_deferred_dial`, on a schedule the entry was claimed off. -/
def dispatchDial (r : Redis) (job : DialJob) (now : Instant) : Redis :=
  match db.contact job.contactId, db.campaign job.campaignId with
  | some contact, some campaign =>
      if !contact.owedFirstDial then r
      else if db.suppressions.isSuppressed env contact.normalizedPhoneNumber then
        r
      else if campaign.status = .paused then
        r.schedulePut (.dial job) (now + pauseRecheck)
      else if campaign.status ≠ .active then r
      else
        match nextWindowTime env db job.campaignId campaign now with
        | none => r.scheduleAddMissing (.dial job) (now + dispatchErrorRetry)
        | some (some t) => r.schedulePut (.dial job) t
        | some none =>
            match r.enqueueOnce env.settings.queueMaxBacklog job with
            | (r', .backlogFull) =>
                r'.schedulePut (.dial job) (now + pauseRecheck)
            | (r', _) => r'
  | _, _ => r

/-- `dispatch_due_recovery_jobs`, on one entry that is due. -/
def dispatchEntry (r : Redis) (e : ScheduleEntry) (jobId : Nat)
    (now : Instant) : Db × Redis :=
  match e with
  | .retry job => dispatchRetry env db (r.scheduleClaim e) job jobId now
  | .dial job => (db, dispatchDial env db (r.scheduleClaim e) job now)

/-! ## Rebuild -/

/-- The most recent attempt of a contact. -/
def latestAttempt (c : ContactId) : Option (AttemptId × CallAttempt) :=
  ((db.attempts.entries.filter fun e => e.2.contactId == c).argmax
    fun e => e.2.attemptNumber).map fun e => (e.1, e.2)

/-- `_job_for` -/
def jobFor (id : ContactId) (c : Contact) : Option RecoveryJob :=
  match c.retryAttemptId, c.retryAttemptNumber with
  | some attemptId, some number =>
      some (.new attemptId id c.campaignId number)
  | _, _ => (latestAttempt db id).map fun (attemptId, a) =>
      .new attemptId id c.campaignId (a.attemptNumber + 1)

/-- The entry the rebuild restores for a contact, if any. -/
def rebuildEntry (id : ContactId) (c : Contact) :
    Option (ScheduleEntry × Instant) :=
  match c.status, c.nextRetryAt with
  | .retryScheduled, some due => (jobFor db id c).map fun j => (.retry j, due)
  | _, _ => none

/-- `rebuild_retry_schedule` -/
def rebuildRetrySchedule (r : Redis) : Redis :=
  (db.contacts.entries.filterMap fun e => rebuildEntry db e.1 e.2).foldl
    (fun r x => r.scheduleAddMissing x.1 x.2) r

end

end CallingAgent
