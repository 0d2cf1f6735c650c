import CallingAgent.Services.Dialer

/-!
# A dial — one job from its checks to the provider's answer

`dial` strings the stages of the dialer together for one job, with
everything outside the database as input: what the gate reads, what the
two run listings and the trigger answer, and the instants at which it all
happens. An exception ends the run at the last commit.
-/

namespace CallingAgent

open Lib

/-! ## One run of `_dial` -/

/-- What the world answers during one run. -/
structure DialWorld where
  /-- start of the run's transaction -/
  startedAt : Instant
  /-- the clock at the eligibility check and the claim -/
  checkedAt : Instant
  /-- start of the transaction after the claim, before the trigger -/
  sentAt : Instant
  /-- the clock when the trigger has answered -/
  answeredAt : Instant
  gate : GateReads
  firstLookup : LookupResult
  secondLookup : LookupResult
  trigger : TriggerResponse
  /-- consecutive permanent failures across contacts -/
  streak : Nat
  /-- `provider_halt.engage` can write -/
  haltWritable : Bool
  /-- the native provider's name -/
  providerName : String
  /-- `create_outbound_call`; `none` when it raised -/
  createCall : Option ProviderCallResult
  /-- `find_call_by_idempotency_key`; `none` when it raised -/
  findCall : Option ProviderCallResult
  conversationStarts : Bool

/-- A request to a provider to place a call. -/
inductive PlaceRequest where
  | trigger (aid : AttemptId) (toNumber : String)
  | create (key : IdempotencyKey) (toNumber : String)
  deriving DecidableEq, Repr

/-- What a run leaves: how it ended (`none` for an exception), what is
committed, what it asked of a provider, and what it scheduled. -/
structure DialRun where
  outcome : Option JobOutcome
  db : Db
  requests : List PlaceRequest := []
  entry : Option (RecoveryJob × Instant) := none

section

variable (env : Env) (db : Db) (job : DialJob) (w : DialWorld)

/-- The failure an orphaned claim is recorded as. -/
def orphanedClaim : TriggerFailure := ⟨.ambiguous, "provider_error", none⟩

/-- `_reconcile_with_dograh`, and the failure that is recorded when it
resolves nothing. -/
def reconcileOrRecord (aid : AttemptId) (contact : Contact)
    (event : EventType) (failure : TriggerFailure) (otherwise : JobOutcome)
    (txStart : Instant) (sent : List PlaceRequest) : DialRun :=
  match w.firstLookup with
  | .runs (run :: runs) =>
      match resolveFoundRuns db aid (db.attempt aid) txStart (run :: runs) with
      | some (o, db') => ⟨some o, db', sent, none⟩
      | none => ⟨none, db, sent, none⟩
  | _ =>
      let r := recordTriggerFailure env db aid (db.attempt aid) job.contactId
        contact event failure txStart w.answeredAt
      ⟨some otherwise, r.1, sent, r.2⟩

/-- `_trigger_event_type` -/
def triggerEventType (failure : TriggerFailure) : EventType :=
  if failure.policy = .ambiguous then ambiguousTriggerEvent
  else .dograhTriggerFailed

/-- `_place_call_via_dograh`, from the committed claim on. -/
def placeCallViaDograh (aid : AttemptId) (prior : Prior) : DialRun :=
  match db.contact job.contactId with
  | none => ⟨none, db, [], none⟩
  | some contact =>
      let sent := if w.trigger.requested then
          [PlaceRequest.trigger aid contact.normalizedPhoneNumber] else []
      match decideTrigger env.settings w.streak w.trigger with
      | .accept run =>
          match acceptTrigger db aid run w.sentAt with
          | some db' => ⟨some .admittedAndDialed, db', sent, none⟩
          | none => ⟨none, db, sent, none⟩
      | .hold _ =>
          if w.haltWritable then
            ⟨some .providerHalted, holdForProviderHalt db aid job.contactId
              contact prior w.sentAt w.answeredAt, sent, none⟩
          else ⟨none, db, sent, none⟩
      | .reconcile failure =>
          reconcileOrRecord env db job w aid contact (triggerEventType failure)
            failure .admittedAndDialed w.sentAt sent
      | .fail failure =>
          let r := recordTriggerFailure env db aid none job.contactId contact
            (triggerEventType failure) failure w.sentAt w.answeredAt
          ⟨some .admittedAndDialed, r.1, sent, r.2⟩

/-- The native branch of `_place_call`: nothing is committed before the
request, so an exception undoes the claim as well. -/
def placeCallNative (claimed : Db) (aid : AttemptId) : DialRun :=
  match claimed.contact job.contactId with
  | none => ⟨none, db, [], none⟩
  | some contact =>
      let sent :=
        [PlaceRequest.create job.idempotencyKey contact.normalizedPhoneNumber]
      -- a timeout is never taken for "no call was placed"
      let result := w.createCall.bind fun r =>
        if r.outcome = .ambiguous then w.findCall else some r
      match result with
      | none => ⟨none, db, sent, none⟩
      | some r =>
          let placed := placeNative env claimed w.providerName aid job.contactId
            r w.conversationStarts w.startedAt w.answeredAt
          ⟨some .admittedAndDialed, placed.1, sent, placed.2⟩

/-- The rest of `_dial` behind the checks: the outbound gate, the claim,
and the call. -/
def gateAndPlace (view : DialView) : DialRun :=
  match outboundGate env.settings w.gate with
  | .raised => ⟨none, db, [], none⟩
  | .blocked reason =>
      ⟨some (if reason.isBudget then .budgetBlocked else .outboundBlocked), db,
        [], none⟩
  | .open =>
      match claimAttempt env db job view w.startedAt w.checkedAt with
      | .lost => ⟨some .alreadyProcessed, db, [], none⟩
      | .claimed aid prior claimed =>
          match env.settings.callingEngine with
          | .dograh => placeCallViaDograh env claimed job w aid prior
          | .native => placeCallNative env db job w claimed aid

/-- `_dial`, with the commit of what it returns. -/
def dial : DialRun :=
  match dialCheck env db job w.checkedAt with
  | .stop o => ⟨some o, db, [], none⟩
  | .raised => ⟨none, db, [], none⟩
  | .orphan aid _ contact =>
      reconcileOrRecord env db job w aid contact ambiguousTriggerEvent
        orphanedClaim .ambiguousRecovery w.startedAt []
  | .secondGate previous view =>
      match secondGate env db job previous view w.secondLookup w.startedAt with
      | .stop o db' => ⟨some o, db', [], none⟩
      | .raised => ⟨none, db, [], none⟩
      | .pass => gateAndPlace env db job w view
  | .ready view => gateAndPlace env db job w view

end

/-! ## What the checks have found -/

section

variable {env : Env} {db : Db} {job : DialJob} {now : Instant}

/-- What is known of a run that is behind the checks. -/
structure DialView.Passed (env : Env) (db : Db) (job : DialJob)
    (now : Instant) (view : DialView) : Prop where
  contact : db.contact job.contactId = some view.contact
  eligible : ∃ campaign, db.campaign job.campaignId = some campaign ∧
    Eligible env db view.contact job.campaignId campaign now
  held : ∀ aid, view.held = some aid →
    db.attemptByContactAndNumber job.contactId job.attemptNumber = some aid ∧
      ∃ a, db.attempt aid = some a ∧ isHeldAttempt db aid a = true
  unclaimed : view.held = none → env.settings.callingEngine = .dograh →
    db.attemptByContactAndNumber job.contactId job.attemptNumber = none

/-- The previous attempt never adds to what was loaded. -/
theorem checkPrevious_view {view view' : DialView}
    (h : (checkPrevious db job view).view = some view') : view' = view := by
  unfold checkPrevious at h
  grind [DialCheck.view]

theorem checkEligible_view {campaign : Campaign} {view view' : DialView}
    (h : (checkEligible env db job campaign view now).view = some view') :
    view' = view ∧
      Eligible env db view.contact job.campaignId campaign now := by
  unfold checkEligible at h
  by_cases hp : campaign.status = .paused
  · rw [if_pos hp] at h; cases h
  · rw [if_neg hp] at h
    cases he : dialEligibility env db view.contact job.campaignId campaign
        now with
    | raised => rw [he] at h; cases h
    | ineligible r => rw [he] at h; cases h
    | eligible =>
        rw [he] at h
        refine ⟨?_, dialEligibility_eligible_iff.mp he⟩
        simp only at h
        split at h
        · exact checkPrevious_view h
        · exact (Option.some.inj h).symm

/-- **The checks are complete**: a run gets behind them only with a
contact that exists and was found eligible, and with the attempt row
either absent or held. -/
theorem dialCheck_passed {view : DialView}
    (h : (dialCheck env db job now).view = some view) :
    view.Passed env db job now := by
  unfold dialCheck at h
  cases hc : db.contact job.contactId with
  | none => simp [hc, DialCheck.view] at h
  | some contact =>
    cases hg : db.campaign job.campaignId with
    | none => simp [hc, hg, DialCheck.view] at h
    | some campaign =>
      simp only [hc, hg] at h
      cases ha : db.attemptByContactAndNumber job.contactId
          job.attemptNumber with
      | none =>
          simp only [ha] at h
          obtain ⟨rfl, he⟩ := checkEligible_view h
          exact ⟨hc, ⟨campaign, hg, he⟩, by simp, fun _ _ => ha⟩
      | some aid =>
          obtain ⟨existing, hrow, -⟩ := Db.attemptByContactAndNumber_some ha
          simp only [ha, hrow] at h
          split at h
          · cases h
          · split at h
            · next hn =>
              obtain ⟨rfl, he⟩ := checkEligible_view h
              exact ⟨hc, ⟨campaign, hg, he⟩, by simp,
                fun _ hd => by rw [hn] at hd; cases hd⟩
            · split at h
              · next hheld =>
                obtain ⟨rfl, he⟩ := checkEligible_view h
                refine ⟨hc, ⟨campaign, hg, he⟩, ?_, by simp⟩
                intro aid' haid
                cases haid
                exact ⟨ha, existing, hrow, hheld⟩
              · unfold checkUnresolvedClaim at h
                grind [DialCheck.view]

end

end CallingAgent
