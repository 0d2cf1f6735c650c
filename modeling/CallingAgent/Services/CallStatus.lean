import CallingAgent.Model.Errors
import CallingAgent.Services.OutboundGate

/-!
# Call status and the sweeper — the other writers of an attempt's state

The native provider reports a call as connected or failed; the sweeper
stops treating an attempt as in flight when no outcome ever arrived. Each
is one transaction on an attempt and its contact.
-/

namespace CallingAgent

open Lib

/-! ## Native call status -/

/-- `TelephonyCallStatusWebhook` -/
structure CallStatusPayload where
  eventId : String
  providerCallId : String
  status : String
  failureReason : Option String := none

/-- `NeverConnectedFailureReason(text)` -/
def parseFailureReason (text : String) : Option NeverConnectedFailureReason :=
  [.noAnswer, .busy, .invalidNumber, .rejected, .networkError,
    .providerError].find? fun r : NeverConnectedFailureReason => r.value == text

/-- The attempt and the contact as `process_call_status` leaves them. -/
def callStatusRows (db : Db) (aid : AttemptId) (attempt : CallAttempt)
    (p : CallStatusPayload) (now : Instant) : Except AppError Db :=
  if p.status = "connected" then
    .ok ((db.modifyAttempt aid fun a => { a with state := .connected })
      |>.modifyContact attempt.contactId fun c =>
        { c with status := .inConversation })
  else if p.status = "failed" then
    match (p.failureReason.filter fun r => r.toList ≠ []) with
    | none => .ok (db.modifyAttempt aid fun a =>
        { a with state := .failedToConnect, endedAt := some now })
    | some text =>
        match parseFailureReason text with
        | none => .error (.conflict ("Unknown failure_reason '" ++ text ++ "'"))
        | some reason => .ok (db.modifyAttempt aid fun a =>
            { a with state := .failedToConnect, endedAt := some now,
                     connectionFailureReason := some reason })
  else .error (.conflict ("Unknown call status '" ++ p.status ++ "'"))

/-- `process_call_status` -/
def processCallStatus (db : Db) (p : CallStatusPayload) (now : Instant) :
    Except AppError Db :=
  if db.processedEvents.contains p.eventId then .ok db
  else
    match db.attemptByProviderCallId p.providerCallId with
    | none => .error (.notFound
        ("No call attempt found for " ++ p.providerCallId))
    | some aid =>
        match db.attempt aid with
        | none => .error (.notFound
            ("No call attempt found for " ++ p.providerCallId))
        | some attempt =>
            if attempt.endedAt.isSome then
              .error (.conflict "Call attempt already has a terminal outcome")
            else
              (callStatusRows db aid attempt p now).map
                (·.insertProcessedEvent p.eventId)

/-! ## Sweeper -/

section

variable (env : Env) (db : Db)

/-- An attempt the sweep selects: claimed long ago, and its contact still
dialing. -/
def isStuck (attempt : CallAttempt) (contact : Contact) (now : Instant) :
    Bool :=
  attempt.state == .initiated
    && attempt.startedAt
      < now - (env.settings.sweeperStuckAfterSeconds : Int) * second
    && contact.status == .dialing

/-- `_mark_for_review`: without a run id the attempt is failed as
ambiguous, so a late webhook is still adopted. -/
def markForReview (aid : AttemptId) (attempt : CallAttempt) (now : Instant) :
    Db :=
  let marked := if attempt.providerCallId.isSome then db
    else (db.modifyAttempt aid fun a =>
        { a with provider := a.provider.or (some "dograh"),
                 state := .failedToConnect,
                 connectionFailureReason := some .providerError,
                 endedAt := some now }).logEvent aid ambiguousTriggerEvent now
  (marked.modifyContact attempt.contactId fun c =>
    { c with status := .needsReview }).logEvent aid .sweeperNeedsReview now

/-- One row of `sweep_stuck_attempts`; `none` where it selects nothing. -/
def sweepAttempt (gate : GateReads) (aid : AttemptId) (now : Instant) :
    Option Db :=
  if killSwitchGate env.settings gate ≠ .open then none
  else
    match db.attempt aid with
    | none => none
    | some attempt =>
        match db.contact attempt.contactId with
        | none => none
        | some contact =>
            if isStuck env attempt contact now then
              some (markForReview db aid attempt now)
            else none

end

end CallingAgent
