import CallingAgent.Lib.UnitOfWork
import CallingAgent.Model.Settings

/-!
# Records — the rows of the store

Each record has the columns of its table that some modelled function
reads or writes.
-/

namespace CallingAgent

abbrev CampaignId := Nat
abbrev ContactId := Nat
abbrev AttemptId := Nat

structure Campaign where
  status : CampaignStatus := .draft
  timezone : String := "Asia/Kolkata"
  defaultRegion : String := "IN"
  legalHold : Bool := false

structure Contact where
  campaignId : CampaignId
  normalizedPhoneNumber : String
  status : ContactStatus := .pending
  attemptCount : Nat := 0
  nextRetryAt : Option Instant := none
  retryAttemptId : Option AttemptId := none
  retryAttemptNumber : Option Nat := none
  legalHold : Bool := false
  purgedAt : Option Instant := none

/-- `_clear_schedule`: nothing is left for the rebuild to restore. -/
def Contact.clearSchedule (c : Contact) : Contact :=
  { c with nextRetryAt := none, retryAttemptId := none,
           retryAttemptNumber := none }

open Lib in
/-- What a session that loaded `loaded` and ends with `new` leaves of the
row `current`. -/
def Contact.flush (loaded new current : Contact) : Contact where
  campaignId := writeBack loaded.campaignId new.campaignId current.campaignId
  normalizedPhoneNumber := writeBack loaded.normalizedPhoneNumber
    new.normalizedPhoneNumber current.normalizedPhoneNumber
  status := writeBack loaded.status new.status current.status
  attemptCount :=
    writeBack loaded.attemptCount new.attemptCount current.attemptCount
  nextRetryAt :=
    writeBack loaded.nextRetryAt new.nextRetryAt current.nextRetryAt
  retryAttemptId :=
    writeBack loaded.retryAttemptId new.retryAttemptId current.retryAttemptId
  retryAttemptNumber := writeBack loaded.retryAttemptNumber
    new.retryAttemptNumber current.retryAttemptNumber
  legalHold := writeBack loaded.legalHold new.legalHold current.legalHold
  purgedAt := writeBack loaded.purgedAt new.purgedAt current.purgedAt

/-- A row nobody else touched ends as the session left it. -/
@[simp] theorem Contact.flush_fresh (loaded new : Contact) :
    loaded.flush new loaded = new := by
  simp [Contact.flush]

/-- A session that changed nothing writes nothing. -/
@[simp] theorem Contact.flush_clean (loaded current : Contact) :
    loaded.flush loaded current = current := by
  simp [Contact.flush]

/-- The contact only went on: its attempts are counted as before, and if
it is pending now it was pending before. -/
structure Contact.Onward (c c' : Contact) : Prop where
  attemptCount : c'.attemptCount = c.attemptCount
  pending : c'.status = .pending → c.status = .pending

theorem Contact.Onward.refl (c : Contact) : c.Onward c := ⟨rfl, id⟩

theorem Contact.Onward.trans {a b c : Contact} (h₁ : a.Onward b)
    (h₂ : b.Onward c) : a.Onward c :=
  ⟨h₂.attemptCount.trans h₁.attemptCount, fun h => h₁.pending (h₂.pending h)⟩

structure CallAttempt where
  contactId : ContactId
  attemptNumber : Nat
  state : CallAttemptState
  connectionFailureReason : Option NeverConnectedFailureReason := none
  disconnectReason : Option MidCallDisconnectReason := none
  provider : Option String := none
  providerCallId : Option String := none
  dograhWorkflowId : Option Nat := none
  startedAt : Instant
  endedAt : Option Instant := none
  durationSeconds : Option Rat := none

/-- One row of the per-attempt event log. `occurredAt` is the start of the
transaction that wrote it. -/
structure CallEvent where
  callAttemptId : AttemptId
  eventType : EventType
  occurredAt : Instant

structure RetryPolicy where
  maxRetries : Nat
  retrySpacingSeconds : List Nat
  neverConnectedRules : List (String × Bool)
  midCallRules : List (String × Bool)
  windowStart : TimeOfDay
  windowEnd : TimeOfDay

/-- `DEFAULT_NEVER_CONNECTED_RULES` -/
def defaultNeverConnectedRules : List (String × Bool) :=
  [("no_answer", true), ("busy", true), ("invalid_number", false),
   ("rejected", false), ("network_error", true), ("provider_error", true)]

/-- `DEFAULT_MID_CALL_RULES` -/
def defaultMidCallRules : List (String × Bool) :=
  [("technical_issue", true), ("network_problem", true),
   ("provider_error", true), ("ai_error", true), ("unknown", true),
   ("customer_hangup", false)]

/-- `build_default_policy` -/
def buildDefaultPolicy (s : Settings) : RetryPolicy where
  maxRetries := s.defaultMaxRetries
  retrySpacingSeconds := s.defaultRetrySpacingSeconds
  neverConnectedRules := defaultNeverConnectedRules
  midCallRules := defaultMidCallRules
  windowStart := s.defaultCallingWindowStart
  windowEnd := s.defaultCallingWindowEnd

/-- `rules.get(key, False)` -/
def ruleFor (rules : List (String × Bool)) (key : String) : Bool :=
  (rules.lookup key).getD false

/-- Every reason of a taxonomy has a rule in the default policy. -/
theorem defaultNeverConnectedRules_total (r : NeverConnectedFailureReason) :
    (defaultNeverConnectedRules.lookup r.value).isSome := by
  cases r <;> decide

theorem defaultMidCallRules_total (r : MidCallDisconnectReason) :
    (defaultMidCallRules.lookup r.value).isSome := by
  cases r <;> decide

structure Suppression where
  contactId : Option ContactId
  phoneNumber : String
  reason : Option String
  source : SuppressionSource
  createdBy : Option String

/-- A job on the dial stream (`DialJob`). `jobId` is a fresh identifier. -/
structure DialJob where
  jobId : Nat := 0
  campaignId : CampaignId
  contactId : ContactId
  attemptNumber : Nat
  /-- `recovery_type is not None` -/
  isRecovery : Bool := false
  previousAttemptId : Option AttemptId := none
  deriving DecidableEq, Repr

/-- `DialJob.idempotency_key`: `campaign:contact:number`. -/
structure IdempotencyKey where
  campaignId : CampaignId
  contactId : ContactId
  attemptNumber : Nat
  deriving DecidableEq, Repr

def DialJob.idempotencyKey (j : DialJob) : IdempotencyKey :=
  ⟨j.campaignId, j.contactId, j.attemptNumber⟩

/-- A retry on the recovery schedule (`RecoveryJob`). Its `job_id` is
derived from the other fields (`none`), or carried over from a dial job. -/
structure RecoveryJob where
  jobId : Option Nat := none
  attemptId : AttemptId
  contactId : ContactId
  campaignId : CampaignId
  attemptNumber : Nat
  deriving DecidableEq, Repr

/-- `RecoveryJob.new` -/
def RecoveryJob.new (attemptId : AttemptId) (contactId : ContactId)
    (campaignId : CampaignId) (attemptNumber : Nat) : RecoveryJob :=
  { attemptId, contactId, campaignId, attemptNumber }

def RecoveryJob.idempotencyKey (j : RecoveryJob) : IdempotencyKey :=
  ⟨j.campaignId, j.contactId, j.attemptNumber⟩

/-- A member of the recovery schedule: a retry, or a first attempt that
was deferred to the next opening of its calling window. -/
inductive ScheduleEntry where
  | retry (job : RecoveryJob)
  | dial (job : DialJob)
  deriving DecidableEq, Repr

end CallingAgent
