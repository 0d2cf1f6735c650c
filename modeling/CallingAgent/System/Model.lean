import CallingAgent.Conversation.Orchestrator
import CallingAgent.Lib.Run
import CallingAgent.Services.CallStatus
import CallingAgent.Services.ClaimedJob
import CallingAgent.Services.OptOut

/-!
# The system — workers, services and the stores between them

Dialer workers, the API, the webhooks, the sweeper and the dispatcher are
separate processes on one database and one Redis. A run of the dialer is
cut where another process can come between its steps: after each commit,
and before and after each request to the provider. A transaction of any
other service is one step.
-/

namespace CallingAgent

open Lib

/-! ## Workers -/

abbrev WorkerId := Nat
abbrev RequestId := Nat

/-- A trigger request that left for the provider. -/
structure TriggerRequest where
  attemptId : AttemptId
  contactId : ContactId
  attemptNumber : Nat
  /-- it ended in a definite no-call -/
  noCall : Bool := false
  deriving DecidableEq, Repr

/-- How far a worker is with its delivery, and what its session has loaded
by then. -/
inductive Phase where
  | delivered
  /-- past the early checks, waiting for its lease -/
  | cleared
  /-- the window was found closed before admission -/
  | deferring (due : Option Instant)
  | admitted
  /-- the run of the previous attempt is being looked up -/
  | secondGate (previous : AttemptId) (view : DialView)
  | ready (view : DialView)
  /-- the claim is committed -/
  | claimed (aid : AttemptId) (prior : Prior)
  /-- the trigger request is out -/
  | sent (aid : AttemptId) (prior : Prior) (contact : Contact)
      (sentAt : Instant) (request : RequestId)
  /-- the run of this attempt is being looked up -/
  | lookup (aid : AttemptId) (loaded : Option CallAttempt) (contact : Contact)
      (event : EventType) (failure : TriggerFailure) (otherwise : JobOutcome)
      (txStart : Instant)
  /-- the run is over and committed, its message not settled yet -/
  | settling (outcome : JobOutcome)

/-- The lease is held: from admission to the end of the run. -/
def Phase.holdsLease : Phase → Bool
  | .delivered | .cleared | .deferring _ | .settling _ => false
  | _ => true

structure Worker where
  message : MessageId
  job : DialJob
  /-- start of the transaction the run checks in -/
  startedAt : Instant
  phase : Phase

structure System where
  db : Db
  redis : Redis := {}
  now : Instant
  workers : Table WorkerId Worker := ∅
  requests : Table RequestId TriggerRequest := ∅

namespace System

variable (s : System)

def worker (w : WorkerId) : Option Worker := AList.lookup w s.workers

def request (i : RequestId) : Option TriggerRequest :=
  AList.lookup i s.requests

/-- Some worker holds the lease of a job. -/
def leased (key : IdempotencyKey) : Bool :=
  s.workers.any fun _ x =>
    x.phase.holdsLease && x.job.idempotencyKey == key

end System

/-- What a step of a worker leaves; without a phase its delivery is
over. -/
structure WorkerStep where
  db : Db
  redis : Redis
  requests : Table RequestId TriggerRequest
  phase : Option Phase

/-- What the native provider and the conversation start answer. -/
structure NativeAnswer where
  provider : String
  /-- `none` when the provider raised -/
  result : Option ProviderCallResult
  conversationStarts : Bool

inductive WorkerAct where
  /-- the checks before admission -/
  | early (reads : GateReads)
  /-- admission: the lease is taken -/
  | acquire
  | check
  | secondLookup (result : LookupResult)
  /-- the outbound gate and the claim; the native engine also places the
  call before it commits -/
  | gate (reads : GateReads) (native : NativeAnswer) (commits : Bool)
  | notConfigured (haltWritable : Bool)
  | send
  | answer (response : TriggerResponse) (streak : Nat) (haltWritable : Bool)
      (commits : Bool)
  | firstLookup (result : LookupResult) (commits : Bool)
  | settle
  /-- the process dies, or its deadline expires -/
  | crash

section

variable (env : Env) (s : System) (x : Worker)

/-- Nothing is written. -/
def System.stay (phase : Option Phase) : WorkerStep :=
  ⟨s.db, s.redis, s.requests, phase⟩

/-- The end of a run with a commit. -/
def System.finish (db : Db) (o : JobOutcome) : WorkerStep :=
  ⟨db, s.redis, s.requests, some (.settling o)⟩

/-- The end of a run that may have scheduled a retry. The schedule is
written before the commit, so a lost commit leaves the entry behind. -/
def System.record (commits : Bool) (r : Db × Option (RecoveryJob × Instant))
    (o : JobOutcome) : WorkerStep :=
  { db := if commits then r.1 else s.db
    redis := s.redis.scheduleRetry r.2
    requests := s.requests
    phase := if commits then some (.settling o) else none }

/-- `_process_claimed_job` up to admission. -/
def earlyStep (reads : GateReads) : WorkerStep :=
  match outboundGate env.settings reads with
  | .open =>
      if (s.db.campaign x.job.campaignId).any (·.status = .paused) then
        s.stay (some (.settling .campaignPaused))
      else
        match closedWindow env s.db x.job s.now with
        | none => s.stay none
        | some (true, due) => s.stay (some (.deferring due))
        | some (false, _) => s.stay (some .cleared)
  | _ => s.stay none

/-- `_dial` up to its first lookup or to the outbound gate. -/
def checkStep : WorkerStep :=
  match dialCheck env s.db x.job s.now with
  | .stop o => s.stay (some (.settling o))
  | .raised => s.stay none
  | .orphan aid attempt contact =>
      s.stay (some (.lookup aid (some attempt) contact ambiguousTriggerEvent
        orphanedClaim .ambiguousRecovery x.startedAt))
  | .secondGate previous view => s.stay (some (.secondGate previous view))
  | .ready view => s.stay (some (.ready view))

/-- `_second_reconciliation_gate` from its lookup on. -/
def secondLookupStep (previous : AttemptId) (view : DialView)
    (result : LookupResult) : WorkerStep :=
  match secondGate env s.db x.job previous view result x.startedAt with
  | .stop o db => s.finish db o
  | .raised => s.stay none
  | .pass => s.stay (some (.ready view))

/-- The native placement; its claim is part of the same transaction. -/
def nativeStep (claimed : Db) (aid : AttemptId) (native : NativeAnswer)
    (commits : Bool) : WorkerStep :=
  match native.result with
  | none => s.stay none
  | some r => s.record commits (placeNative env claimed native.provider aid
      x.job.contactId r native.conversationStarts x.startedAt s.now)
      .admittedAndDialed

/-- The outbound gate and the claim. -/
def gateStep (view : DialView) (reads : GateReads) (native : NativeAnswer)
    (commits : Bool) : WorkerStep :=
  match outboundGate env.settings reads with
  | .raised => s.stay none
  | .blocked reason => s.stay (some (.settling
      (if reason.isBudget then .budgetBlocked else .outboundBlocked)))
  | .open =>
      match claimAttempt env s.db x.job view x.startedAt s.now with
      | .lost => s.stay (some (.settling .alreadyProcessed))
      | .claimed aid prior db =>
          match env.settings.callingEngine with
          | .dograh =>
              ⟨db, s.redis, s.requests, some (.claimed aid prior)⟩
          | .native => nativeStep env s x db aid native commits

/-- The client could not be built: no request left. -/
def notConfiguredStep (aid : AttemptId) (prior : Prior) (haltWritable : Bool) :
    WorkerStep :=
  match s.db.contact x.job.contactId with
  | none => s.stay none
  | some contact =>
      if haltWritable then
        s.finish (holdForProviderHalt s.db aid x.job.contactId contact prior
          s.now s.now) .providerHalted
      else s.stay none

/-- The trigger request leaves. -/
def sendStep (aid : AttemptId) (prior : Prior) : WorkerStep :=
  match s.db.contact x.job.contactId with
  | none => s.stay none
  | some contact =>
      { db := s.db
        redis := s.redis
        requests := AList.insert s.requests.nextKey
          { attemptId := aid, contactId := x.job.contactId,
            attemptNumber := x.job.attemptNumber } s.requests
        phase := some (.sent aid prior contact s.now s.requests.nextKey) }

/-- The request ended in a definite no-call. -/
def TriggerRequest.refuse (r : TriggerRequest) : TriggerRequest :=
  { r with noCall := true }

/-- `_place_call_via_dograh` from the provider's answer on. -/
def answerStep (aid : AttemptId) (prior : Prior) (contact : Contact)
    (sentAt : Instant) (request : RequestId) (response : TriggerResponse)
    (streak : Nat) (haltWritable commits : Bool) : WorkerStep :=
  match decideTrigger env.settings streak response with
  | .accept run =>
      match acceptTrigger s.db aid run sentAt with
      | some db => s.finish db .admittedAndDialed
      | none => s.stay none
  | .hold _ =>
      if haltWritable then
        { s.finish (holdForProviderHalt s.db aid x.job.contactId contact prior
            sentAt s.now) .providerHalted with
          requests := s.requests.modify request TriggerRequest.refuse }
      else s.stay none
  | .reconcile failure =>
      s.stay (some (.lookup aid (s.db.attempt aid) contact
        (triggerEventType failure) failure .admittedAndDialed sentAt))
  | .fail failure =>
      s.record commits (recordTriggerFailure env s.db aid none x.job.contactId
        contact (triggerEventType failure) failure sentAt s.now)
        .admittedAndDialed

/-- `_reconcile_with_dograh` from its lookup on, and the failure that is
recorded when it resolves nothing. -/
def firstLookupStep (aid : AttemptId) (loaded : Option CallAttempt)
    (contact : Contact) (event : EventType) (failure : TriggerFailure)
    (otherwise : JobOutcome) (txStart : Instant) (result : LookupResult)
    (commits : Bool) : WorkerStep :=
  match result with
  | .runs (run :: runs) =>
      match resolveFoundRuns s.db aid loaded txStart (run :: runs) with
      | some (o, db) => s.finish db o
      | none => s.stay none
  | _ =>
      s.record commits (recordTriggerFailure env s.db aid loaded
        x.job.contactId contact event failure txStart s.now) otherwise

/-- The message of a run that is over is settled or acknowledged. -/
def settleStep (o : JobOutcome) : WorkerStep :=
  { s.stay none with
    redis := (settleRun env s.redis x.message x.job s.now
      ⟨some o, s.db, [], none⟩).2 }

/-- The same before admission, outside the window. -/
def deferStep (due : Option Instant) : WorkerStep :=
  { s.stay none with
    redis := (settleOutsideWindow s.db s.redis x.message x.job due).2 }

/-- One step of a worker; an action that does not fit its phase is no
step. -/
def workerStep : WorkerAct → Option WorkerStep
  | .early reads =>
      match x.phase with
      | .delivered => some (earlyStep env s x reads)
      | _ => none
  | .acquire =>
      match x.phase with
      | .cleared =>
          if s.leased x.job.idempotencyKey then none
          else some (s.stay (some .admitted))
      | _ => none
  | .check =>
      match x.phase with
      | .admitted => some (checkStep env s x)
      | _ => none
  | .secondLookup result =>
      match x.phase with
      | .secondGate previous view =>
          some (secondLookupStep env s x previous view result)
      | _ => none
  | .gate reads native commits =>
      match x.phase with
      | .ready view => some (gateStep env s x view reads native commits)
      | _ => none
  | .notConfigured haltWritable =>
      match x.phase with
      | .claimed aid prior => some (notConfiguredStep s x aid prior haltWritable)
      | _ => none
  | .send =>
      match x.phase with
      | .claimed aid prior => some (sendStep s x aid prior)
      | _ => none
  | .answer response streak haltWritable commits =>
      match x.phase with
      | .sent aid prior contact sentAt request =>
          if response.requested then
            some (answerStep env s x aid prior contact sentAt request response
              streak haltWritable commits)
          else none
      | _ => none
  | .firstLookup result commits =>
      match x.phase with
      | .lookup aid loaded contact event failure otherwise txStart =>
          some (firstLookupStep env s x aid loaded contact event failure
            otherwise txStart result commits)
      | _ => none
  | .settle =>
      match x.phase with
      | .settling o => some (settleStep env s x o)
      | .deferring due => some (deferStep s x due)
      | _ => none
  | .crash => some (s.stay none)

end

/-! ## Services -/

/-- The transactions of the other processes. -/
inductive ServiceOp where
  | updateCampaign (campaign : CampaignId) (data : CampaignUpdate)
  | associate (campaign : CampaignId) (contact : ContactId)
  | removeContact (campaign : CampaignId) (contact : ContactId)
  | deactivateContact (contact : ContactId)
  | createContact (campaign : CampaignId) (phoneNumber : String)
  | importContacts (phoneNumbers : List String)
  | addSuppression (phoneNumber : String) (reason : Option String)
      (contact : Option ContactId) (actor : String)
  | erase (fingerprint : String → String) (subject : ErasureSubject)
      (suppress : Bool) (actor : String)
  | dograhWebhook (payload : DograhWebhookPayload)
  | callStatus (payload : CallStatusPayload)
  | sweep (reads : GateReads) (aid : AttemptId)
  | conversationOptOut (aid : AttemptId)
  | conversationEnds (aid : AttemptId) (reason : EndReason)
      (pendingPoints : List String)
  | conversationDrops (aid : AttemptId) (reason : MidCallDisconnectReason)
  | setControls (controls : OutboundControls)

/-- The attempt of a conversation of ours: it has a session, and the call
is not run by the provider. -/
def Db.conversationAttempt (db : Db) (aid : AttemptId) : Option CallAttempt :=
  (db.attempt aid).filter fun a =>
    db.sessions.contains aid && a.provider != some "dograh"

/-- One transaction, with the retry it scheduled; a refused one is no
step. -/
def serviceStep (env : Env) (db : Db) (now : Instant) :
    ServiceOp → Option (Db × Option (RecoveryJob × Instant))
  | .updateCampaign c data => (updateCampaign db c data).toOption.map (·, none)
  | .associate c contact => (associate env db c contact).toOption.map (·, none)
  | .removeContact c contact => (removeContact db c contact).toOption.map (·, none)
  | .deactivateContact contact =>
      (deactivateContact db contact).toOption.map (·, none)
  | .createContact c number =>
      (createContact env db c number).toOption.map (·, none)
  | .importContacts numbers =>
      (importContacts env db numbers).toOption.map (·, none)
  | .addSuppression number reason contact actor =>
      (addSuppression env db number reason contact actor).toOption.map (·, none)
  | .erase fingerprint subject suppress actor =>
      (erase env fingerprint db subject suppress actor now).toOption.map
        (·, none)
  | .dograhWebhook p =>
      (processDograhWebhook env db p now).toOption.map
        fun step => (step.db, step.entry)
  | .callStatus p => (processCallStatus db p now).toOption.map (·, none)
  | .sweep reads aid => (sweepAttempt env db reads aid now).map (·, none)
  | .conversationOptOut aid =>
      (db.conversationAttempt aid).bind fun a =>
        (db.contact a.contactId).map fun contact =>
          (applySuppression env db a.contactId contact, none)
  | .conversationEnds aid reason pendingPoints =>
      (db.conversationAttempt aid).map fun a =>
        (Conversation.endingRows db aid a.contactId
          (Conversation.endingStatus reason pendingPoints) now, none)
  | .conversationDrops aid reason =>
      (db.conversationAttempt aid).map fun a =>
        Conversation.disconnectRows env db aid a.contactId reason now
  | .setControls controls => some ({ db with controls }, none)

/-! ## One step of the system -/

inductive SystemAct where
  /-- a message is delivered, or redelivered, to an idle worker, inside a
  transaction that may have begun before -/
  | read (w : WorkerId) (message : MessageId) (startedAt : Instant)
  | worker (w : WorkerId) (act : WorkerAct)
  | service (op : ServiceOp) (commits : Bool)
  | enqueue (campaign : CampaignId) (jobId : ContactId → Nat)
      (reads : GateReads)
  | dispatch (entry : ScheduleEntry) (jobId : Nat) (commits : Bool)
  | rebuild
  | flush
  | deadLetter (message : MessageId) (recorded : Bool)
  | expireGuard (key : IdempotencyKey)
  | tick (elapsed : Nat)

/-- An idle worker takes a delivery. -/
def System.deliver (s : System) (w : WorkerId) (m : MessageId) (job : DialJob)
    (startedAt : Instant) : System :=
  { s with workers := s.workers.put w (some ⟨m, job, startedAt, .delivered⟩) }

/-- A worker is in its next phase, or idle. -/
def System.advance (s : System) (w : WorkerId) (x : Worker) (r : WorkerStep) :
    System where
  db := r.db
  redis := r.redis
  now := s.now
  workers := s.workers.put w (r.phase.map fun phase => { x with phase })
  requests := r.requests

def systemStep (env : Env) (s : System) : SystemAct → Option System
  | .read w m startedAt =>
      if startedAt ≤ s.now ∧ s.worker w = none then
        (AList.lookup m s.redis.stream).map fun job =>
          s.deliver w m job startedAt
      else none
  | .worker w act =>
      (s.worker w).bind fun x => (workerStep env s x act).map (s.advance w x)
  | .service op commits =>
      (serviceStep env s.db s.now op).map fun r =>
        { s with
          db := if commits then r.1 else s.db
          redis := s.redis.scheduleRetry r.2 }
  | .enqueue c jobId reads =>
      (enqueueCampaign env s.db s.redis c jobId reads).toOption.map
        fun redis => { s with redis }
  | .dispatch e jobId commits =>
      if s.redis.schedule.any fun y => y.1 = e ∧ y.2 ≤ s.now then
        let r := dispatchEntry env s.db s.redis e jobId s.now
        some { s with db := if commits then r.1 else s.db, redis := r.2 }
      else none
  | .rebuild => some { s with redis := rebuildRetrySchedule s.db s.redis }
  | .flush =>
      some { s with redis := { lastMessageId := s.redis.lastMessageId } }
  | .deadLetter m recorded =>
      (AList.lookup m s.redis.stream).map fun job =>
        { s with
          db := if recorded then recordDeadLetter s.db job else s.db
          redis := s.redis.ack m }
  | .expireGuard key => some { s with redis := s.redis.deleteGuard key }
  | .tick d => some { s with now := s.now + d + 1 }

/-- What an operation commits, it has returned. -/
theorem ok_of_toOption {ε α : Type} {x : Except ε α} {a : α}
    (h : x.toOption = some a) : x = .ok a := by
  cases x with
  | error e => cases h
  | ok b => exact congrArg Except.ok (Option.some.inj h)

/-- A transaction of a refusing service, when it was not refused. -/
theorem toOption_map_some {α : Type} {r : Except AppError α} {b : α × Option
    (RecoveryJob × Instant)} (h : r.toOption.map (·, none) = some b) :
    r = .ok b.1 := by
  obtain ⟨a, ha, rfl⟩ := Option.map_eq_some_iff.mp h
  exact ok_of_toOption ha

/-- The clock stands still, unless it ticks. -/
theorem systemStep_clock {env : Env} {s s' : System} {act : SystemAct}
    (h : systemStep env s act = some s') :
    s'.now = s.now ∨ ∃ d, act = .tick d ∧ s' = { s with now := s.now + d + 1 } := by
  cases act with
  | read w m startedAt =>
      simp only [systemStep] at h
      split at h
      · obtain ⟨job, -, rfl⟩ := Option.map_eq_some_iff.mp h
        exact .inl rfl
      · cases h
  | worker w wact =>
      obtain ⟨k, -, h⟩ := Option.bind_eq_some_iff.mp h
      obtain ⟨r, -, rfl⟩ := Option.map_eq_some_iff.mp h
      exact .inl rfl
  | service op commits =>
      obtain ⟨r, -, rfl⟩ := Option.map_eq_some_iff.mp h
      exact .inl rfl
  | enqueue g jobId reads =>
      obtain ⟨r, -, rfl⟩ := Option.map_eq_some_iff.mp h
      exact .inl rfl
  | dispatch e jobId commits =>
      simp only [systemStep] at h
      split at h
      · cases h
        exact .inl rfl
      · cases h
  | deadLetter m recorded =>
      obtain ⟨job, -, rfl⟩ := Option.map_eq_some_iff.mp h
      exact .inl rfl
  | tick d =>
      cases h
      exact .inr ⟨d, rfl, rfl⟩
  | rebuild | flush | expireGuard =>
      cases h
      exact .inl rfl

end CallingAgent
