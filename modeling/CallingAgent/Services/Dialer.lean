import CallingAgent.Services.DograhWebhook
import CallingAgent.Services.Eligibility
import CallingAgent.Services.OutboundGate

/-!
# The dialer — from a queued job to a placed call

One job is checked, gated, claimed and placed. The checks read; the second
reconciliation gate may first look up whether the previous, ambiguous
attempt created a call after all; the claim is committed before the
non-idempotent trigger; and what the trigger answered is recorded after
it. Each stage is a function of the database as it is when the stage runs
and of the copies of the rows its session loaded earlier.
-/

namespace CallingAgent

open Lib

/-! ## Outcomes and answers -/

inductive JobOutcome where
  | admittedAndDialed
  | notAdmitted
  | notEligible
  | alreadyProcessed
  | ambiguousRecovery
  | inFlight
  | reconciled
  | reconcileMultiple
  | outboundBlocked
  | providerHalted
  | reconcileDeferred
  | reconcileExpired
  | campaignPaused
  | campaignPausedHeld
  | outsideWindow
  | windowDeferred
  | windowHeld
  | budgetBlocked
  | deadlineExceeded
  deriving DecidableEq, Repr

/-- `_LEFT_UNACKED`: the message stays pending. -/
def JobOutcome.leftUnacked : JobOutcome → Bool
  | .inFlight | .reconcileDeferred | .outboundBlocked | .providerHalted
  | .budgetBlocked | .campaignPausedHeld | .windowHeld => true
  | _ => false

/-- What the run listing answered. -/
inductive LookupResult where
  | runs (ids : List Nat)
  /-- a failed lookup is never "no call exists" -/
  | failed
  deriving DecidableEq, Repr

/-- The ways a request can fail below HTTP. -/
inductive TransportFailure where
  | connectTimeout
  | poolTimeout
  | readTimeout
  | writeTimeout
  | otherTimeout
  | connectionLost
  | connectError
  | otherHttpError
  deriving DecidableEq, Repr

def TransportFailure.category : TransportFailure → DograhErrorCategory
  | .connectTimeout | .poolTimeout | .connectError => .connectionError
  | .readTimeout | .writeTimeout | .connectionLost => .ambiguousRequest
  | .otherTimeout => .timeout
  | .otherHttpError => .unknownProviderError

/-- What came of one trigger. -/
inductive TriggerResponse where
  | accepted (runId : Nat)
  /-- the client could not be built: no request left the process -/
  | notConfigured
  /-- an HTTP error status, with a bounded `Retry-After` -/
  | http (status : Nat) (retryAfter : Option Nat)
  /-- a 2xx without a usable run id -/
  | malformed (status : Nat)
  | transport (f : TransportFailure)
  deriving DecidableEq, Repr

/-- The error `DograhClient` raises for an answer. -/
def TriggerResponse.error : TriggerResponse → Option DograhApiError
  | .accepted _ | .notConfigured => none
  | .http status retryAfter =>
      some ⟨status, classifyStatusCode status,
        if status = 429 then retryAfter else none⟩
  | .malformed status => some ⟨status, .ambiguousRequest, none⟩
  | .transport f => some ⟨0, f.category, none⟩

/-- A request left the process. -/
def TriggerResponse.requested : TriggerResponse → Bool
  | .notConfigured => false
  | _ => true

/-- What the dialer does with an answer. -/
inductive TriggerDecision where
  | accept (runId : Nat)
  /-- the provider, not the contact, is at fault -/
  | hold (category : String)
  /-- ask the run listing first -/
  | reconcile (failure : TriggerFailure)
  | fail (failure : TriggerFailure)
  deriving DecidableEq, Repr

/-- The branches of `_place_call_via_dograh` on an answer; `streak` is the
length of the run of permanent failures across contacts. -/
def decideTrigger (s : Settings) (streak : Nat) :
    TriggerResponse → TriggerDecision
  | .accepted runId => .accept runId
  | .notConfigured => .hold "configuration_error"
  | r =>
      match r.error with
      | none => .hold "configuration_error"
      | some e =>
          match providerConfigurationCategory e with
          | some category => .hold category
          | none =>
              let failure := classifyTriggerError e
              match failure.policy with
              | .ambiguous => .reconcile failure
              | .permanent =>
                  if streak ≥ s.providerHaltSystemicThreshold then
                    .hold "systemic_failure"
                  else .fail failure
              | _ => .fail failure

/-! ## Checks -/

section

variable (env : Env) (db : Db)

/-- `_is_held_attempt`: recorded by the provider-configuration hold and
never triggered since. -/
def isHeldAttempt (aid : AttemptId) (a : CallAttempt) : Bool :=
  a.providerCallId.isNone && a.state == .failedToConnect
    && db.latestEventType aid == some heldEventType

/-- What a session that passed the checks has loaded. -/
structure DialView where
  contact : Contact
  held : Option AttemptId
  /-- a row of the attempt was found without a call; its columns are not
  read again -/
  seen : Bool := false

/-- Where the checks of `_dial` end. -/
inductive DialCheck where
  | stop (o : JobOutcome)
  /-- an exception leaves `_dial` -/
  | raised
  /-- an unresolved claim, too old to be in flight: look its run up -/
  | orphan (aid : AttemptId) (attempt : CallAttempt) (contact : Contact)
  /-- the previous attempt is an unresolved ambiguous trigger: look its
  run up before the retry is dialed -/
  | secondGate (previous : AttemptId) (view : DialView)
  | ready (view : DialView)

/-- `_resolve_unresolved_dograh_claim`, up to its lookup. -/
def checkUnresolvedClaim (aid : AttemptId) (existing : CallAttempt)
    (contact : Contact) (now : Instant) : DialCheck :=
  if existing.state ≠ .initiated then .stop .alreadyProcessed
  else if now - existing.startedAt
      < env.settings.dograhConnectTimeout + env.settings.dograhReadTimeout
        + 5 * second then .stop .inFlight
  else .orphan aid existing contact

/-- `_second_reconciliation_gate`, up to its lookup. -/
def checkPrevious (job : DialJob) (view : DialView) : DialCheck :=
  match db.attemptByContactAndNumber job.contactId (job.attemptNumber - 1) with
  | none => .ready view
  | some prev =>
      match db.attempt prev with
      | none => .ready view
      | some previous =>
          if previous.state = .initiated then .stop .alreadyProcessed
          else if previous.providerCallId.isSome
              || !isUnresolvedAmbiguousTrigger db prev previous then
            .ready view
          else .secondGate prev view

/-- The part of the checks after the duplicate test. -/
def checkEligible (job : DialJob) (campaign : Campaign) (view : DialView)
    (now : Instant) : DialCheck :=
  if campaign.status = .paused then .stop .campaignPaused
  else
    match dialEligibility env db view.contact job.campaignId campaign now with
    | .raised => .raised
    | .ineligible r =>
        .stop (if r.transient then .outsideWindow else .notEligible)
    | .eligible =>
        if env.settings.callingEngine = .dograh ∧ job.attemptNumber > 1 then
          checkPrevious db job view
        else .ready view

/-- `_dial` up to the outbound gate. -/
def dialCheck (job : DialJob) (now : Instant) : DialCheck :=
  match db.contact job.contactId, db.campaign job.campaignId with
  | some contact, some campaign =>
      match db.attemptByContactAndNumber job.contactId job.attemptNumber with
      | none => checkEligible env db job campaign { contact, held := none } now
      | some aid =>
          match db.attempt aid with
          | none =>
              checkEligible env db job campaign { contact, held := none } now
          | some existing =>
              if existing.providerCallId.isSome then .stop .alreadyProcessed
              else if env.settings.callingEngine = .native then
                checkEligible env db job campaign ⟨contact, none, true⟩ now
              else if isHeldAttempt db aid existing then
                checkEligible env db job campaign ⟨contact, some aid, true⟩ now
              else checkUnresolvedClaim env aid existing contact now
  | _, _ => .stop .notEligible

/-- What a run behind the checks has loaded. -/
def DialCheck.view : DialCheck → Option DialView
  | .secondGate _ view | .ready view => some view
  | _ => none

/-! ## Reconciliation with the run listing -/

/-- `_resolve_found_runs` on one run: adopt it. `none` is the unique
constraint on run ids, which another attempt already holds. -/
def adoptRun (aid : AttemptId) (loaded : Option CallAttempt) (run : Nat)
    (txStart : Instant) : Option Db :=
  if runOwnedByOther db aid (toString run) then none
  else some ((db.modifyAttempt aid fun a =>
      { a with
        provider := writeColumn (loaded.map (·.provider)) (some "dograh")
          a.provider
        providerCallId := writeColumn (loaded.map (·.providerCallId))
          (some (toString run)) a.providerCallId }).logEvent aid
      .dograhTriggerReconciled txStart)

/-- `_resolve_found_runs`: one run is adopted, several are never chosen
between. -/
def resolveFoundRuns (aid : AttemptId) (loaded : Option CallAttempt)
    (txStart : Instant) : List Nat → Option (JobOutcome × Db)
  | [run] => (adoptRun db aid loaded run txStart).map (.reconciled, ·)
  | _ => some (.reconcileMultiple,
      db.logEvent aid .dograhReconcileMultiple txStart)

/-- `_defer_or_expire_reconciliation` -/
def deferOrExpire (previous : AttemptId) (contactId : ContactId)
    (contact : Contact) : JobOutcome × Db :=
  if db.reconciliationDeferrals.count previous
      ≥ env.settings.dograhReconcileMaxDeferrals then
    (.reconcileExpired, db.modifyContact contactId
      (contact.flush { contact with status := .completedPartial }))
  else
    (.reconcileDeferred, { db with
      reconciliationDeferrals := previous :: db.reconciliationDeferrals })

/-- What the second gate concludes from its lookup. -/
inductive SecondGate where
  | stop (o : JobOutcome) (db : Db)
  | raised
  | pass

/-- `_second_reconciliation_gate` from its lookup on. The previous attempt
is read again under a lock; the contact is the copy loaded before. -/
def secondGate (job : DialJob) (previous : AttemptId) (view : DialView)
    (lookup : LookupResult) (txStart : Instant) : SecondGate :=
  match lookup with
  | .failed =>
      let r := deferOrExpire env db previous job.contactId view.contact
      .stop r.1 r.2
  | .runs ids =>
      match db.attempt previous with
      | none => .raised
      | some prev =>
          if prev.state ≠ .failedToConnect ∨ prev.providerCallId.isSome
              ∨ (db.attemptByContactAndNumber job.contactId
                  job.attemptNumber).isSome then
            .stop .alreadyProcessed db
          else if ids = [] then .pass
          else
            let reopened := (db.modifyAttempt previous reopenAttempt)
              |>.modifyContact job.contactId
                (view.contact.flush (reopenContact view.contact))
            match resolveFoundRuns reopened previous (some (reopenAttempt prev))
                txStart ids with
            | none => .raised
            | some (o, db') => .stop o db'

/-! ## Claim -/

/-- `_Prior`: the contact as it was just before the claim. -/
structure Prior where
  status : ContactStatus
  attemptCount : Nat

/-- The contact as the claim leaves it in its session. -/
def claimContact (created : Bool) (c : Contact) : Contact :=
  { c.clearSchedule with
    attemptCount := if created then c.attemptCount + 1 else c.attemptCount
    status := .dialing }

/-- `_resume_held_attempt`: the row is reused. -/
def resumeAttempt (now : Instant) (a : CallAttempt) : CallAttempt :=
  { a with state := .initiated, connectionFailureReason := none,
           endedAt := none, startedAt := now }

/-- A claim of the attempt row. -/
inductive Claim where
  /-- another delivery claimed it between the check and here -/
  | lost
  | claimed (aid : AttemptId) (prior : Prior) (db : Db)

/-- The durable claim: the held row is resumed, or the row is inserted,
and the contact is dialing. `get_or_create` reads again, so the unique
constraint on contact and number decides; a row that the session has seen is
still the copy without a call. -/
def claimAttempt (job : DialJob) (view : DialView) (txStart now : Instant) :
    Claim :=
  let prior : Prior := ⟨view.contact.status, view.contact.attemptCount⟩
  let write (created : Bool) (db : Db) : Db :=
    db.modifyContact job.contactId
      (view.contact.flush (claimContact created view.contact))
  match view.held with
  | some aid =>
      .claimed aid prior (write true
        ((db.modifyAttempt aid (resumeAttempt now)).logEvent aid
          resumedEventType txStart))
  | none =>
      match db.attemptByContactAndNumber job.contactId job.attemptNumber with
      | some aid =>
          if !view.seen && ((db.attempt aid).bind (·.providerCallId)).isSome
              || env.settings.callingEngine == .dograh then .lost
          else .claimed aid prior (write false db)
      | none =>
          .claimed db.attempts.nextKey prior (write true (db.insertAttempt
            { contactId := job.contactId
              attemptNumber := job.attemptNumber
              state := .initiated
              startedAt := txStart }))

/-! ## Recording what a trigger came to -/

/-- The terminal never-connected columns, written into the row as it is
now. -/
def failAttempt (loaded : Option CallAttempt) (now : Instant)
    (a : CallAttempt) : CallAttempt :=
  { a with
    provider :=
      writeColumn (loaded.map (·.provider)) (some "dograh") a.provider
    state := writeColumn (loaded.map (·.state)) .failedToConnect a.state
    connectionFailureReason := writeColumn
      (loaded.map (·.connectionFailureReason)) (some .providerError)
      a.connectionFailureReason
    endedAt := some now }

/-- `_record_dograh_trigger_failure`: the attempt is failed, whatever it
is by now, and the recovery manager decides on the copy of the contact
the session loaded before the request. -/
def recordTriggerFailure (aid : AttemptId) (loaded : Option CallAttempt)
    (contactId : ContactId) (contact : Contact) (event : EventType)
    (failure : TriggerFailure) (txStart now : Instant) :
    Db × Option (RecoveryJob × Instant) :=
  let db := (db.modifyAttempt aid (failAttempt loaded now)).logEvent aid event
    txStart
  match db.attempt aid, db.campaign contact.campaignId with
  | some attempt, some campaign =>
      let e := handleDisconnect env db contactId contact campaign
        { attemptId := aid, attemptNumber := attempt.attemptNumber,
          neverConnected := true, reasonKey := failure.reasonKey,
          retryAfterSeconds := failure.retryAfterSeconds } now
      ((db.modifyContact contactId (contact.flush e.contact)).logEvent aid
        e.event txStart, e.entry)
  | _, _ => (db, none)

/-- `_hold_for_provider_halt`: the attempt is recorded, the contact goes
back where it was, and the halt is engaged. -/
def holdForProviderHalt (aid : AttemptId) (contactId : ContactId)
    (contact : Contact) (prior : Prior) (txStart now : Instant) : Db :=
  { (db.modifyAttempt aid (failAttempt none now)).logEvent aid heldEventType
      txStart |>.modifyContact contactId
        (contact.flush { contact with status := prior.status,
                                      attemptCount := prior.attemptCount })
    with controls := { db.controls with providerHalt := true } }

/-- The accepted trigger: the run id is remembered; the state stays
INITIATED until the webhook. -/
def acceptTrigger (aid : AttemptId) (run : Nat) (txStart : Instant) :
    Option Db :=
  if runOwnedByOther db aid (toString run) then none
  else some ((db.modifyAttempt aid fun a =>
      { a with provider := some "dograh",
               providerCallId := some (toString run) }).logEvent aid
      .dograhCallTriggered txStart)

/-! ## The native engine -/

/-- `ProviderOutcome` -/
inductive ProviderOutcome where
  | initiated
  | failed
  | ambiguous
  deriving DecidableEq, Repr

/-- `ProviderCallResult` -/
structure ProviderCallResult where
  outcome : ProviderOutcome
  providerCallId : Option String := none
  failureReason : Option NeverConnectedFailureReason := none
  deriving DecidableEq, Repr

/-- The native branch of `_place_call`, on the result the provider ended
with. The claim is not committed yet, so the rows are the session's own.
A conversation that fails to start is logged and nothing more. -/
def placeNative (provider : String) (aid : AttemptId) (contactId : ContactId)
    (result : ProviderCallResult) (conversationStarts : Bool)
    (txStart now : Instant) : Db × Option (RecoveryJob × Instant) :=
  if result.outcome = .initiated then
    let placed := (db.modifyAttempt aid fun a =>
        { a with provider := some provider,
                 providerCallId := result.providerCallId,
                 state := .connected })
      |>.modifyContact contactId fun c => { c with status := .inConversation }
    (if conversationStarts then placed.insertSession aid else placed, none)
  else
    let failed := db.modifyAttempt aid fun a =>
      { a with provider := some provider, state := .failedToConnect,
               connectionFailureReason := result.failureReason,
               endedAt := some now }
    match result.failureReason, failed.attempt aid, failed.contact contactId with
    | some reason, some attempt, some contact =>
        match failed.campaign contact.campaignId with
        | none => (failed, none)
        | some campaign =>
            let e := handleDisconnect env failed contactId contact campaign
              { attemptId := aid, attemptNumber := attempt.attemptNumber,
                neverConnected := true, reasonKey := reason.value } now
            ((failed.setContact contactId e.contact).logEvent aid e.event
              txStart, e.entry)
    | _, _, _ => (failed, none)

end

end CallingAgent
