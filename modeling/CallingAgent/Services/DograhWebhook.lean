import CallingAgent.Services.DograhOutcome
import CallingAgent.Services.Reconciliation
import CallingAgent.Services.Recovery
import CallingAgent.Services.Suppression

/-!
# The completion webhook — how a call's outcome is learnt and applied

A successful trigger only means that the provider accepted the job; this
webhook is the one place that learns what became of the call. A delivery
is first admitted (is the event new, does it belong to the attempt, is the
attempt still open, is the status final) and only then applied.
-/

namespace CallingAgent

open Lib

/-! ## Payload -/

/-- A JSON `int | str`. -/
inductive RunId where
  | int (n : Int)
  | str (s : String)
  deriving DecidableEq, Repr

/-- `str(value)` -/
def RunId.text : RunId → String
  | .int n => toString n
  | .str s => s

/-- `bool(value)` -/
def RunId.truthy : RunId → Bool
  | .int n => n ≠ 0
  | .str s => s ≠ ""

structure DograhWebhookPayload where
  callAttemptId : String
  contactId : Option String := none
  campaignId : Option String := none
  workflowRunId : Option RunId := none
  workflowId : Option RunId := none
  callStatus : Option String := none
  callDisposition : Option String := none
  mappedCallDisposition : Option String := none
  /-- `float(duration_seconds)`, when it is a finite number. -/
  durationSeconds : Option Rat := none

/-- The event identity: the run id, or the attempt id where no (truthy)
run id was captured. -/
def DograhWebhookPayload.eventId (p : DograhWebhookPayload) : String :=
  "dograh:" ++
    match p.workflowRunId with
    | some r => if r.truthy then r.text else p.callAttemptId
    | none => p.callAttemptId

/-- `_parse_positive_int` -/
def parsePositiveInt : Option RunId → Option Nat
  | some (.int n) => if n > 0 then some n.toNat else none
  | some (.str s) =>
      match parseInt s with
      | some n => if n > 0 then some n.toNat else none
      | none => none
  | none => none

instance (priority := 10000) minOfRats : Min Rat := Rat.instMin

/-- `_parse_duration`: negative is unknown, and a day is the cap. -/
def parseDuration : Option Rat → Option Rat
  | some q => if q < 0 then none else some (min q (24 * 3600))
  | none => none

/-! ## Admission -/

/-- The outcomes a delivery is answered with. -/
inductive WebhookOutcome where
  | alreadyProcessed
  | nonFinalIgnored
  | neverConnected
  | droppedMidCall
  | endedNormally
  deriving DecidableEq, Repr

/-- A processed final outcome. -/
def WebhookOutcome.final : WebhookOutcome → Bool
  | .neverConnected | .droppedMidCall | .endedNormally => true
  | .alreadyProcessed | .nonFinalIgnored => false

/-- The `problem` of a delivery that does not belong to the attempt. -/
inductive CorrelationProblem where
  | attemptNotDograh
  | contactMismatch
  | campaignMismatch
  | runMismatch
  | runOwnedByOtherAttempt
  deriving DecidableEq, Repr

inductive WebhookError where
  /-- 422 -/
  | notAUuid
  /-- 404 -/
  | noCallAttempt
  /-- 404 -/
  | contactOrCampaignMissing
  /-- 409 -/
  | correlation (problem : CorrelationProblem)
  /-- the unique constraint of `conversation_session` -/
  | sessionExists
  | assertion
  deriving DecidableEq, Repr

section

variable (env : Env) (db : Db)

/-- Another attempt holds this run id. -/
def runOwnedByOther (aid : AttemptId) (runId : String) : Bool :=
  db.attempts.any fun k a => a.providerCallId == some runId && k != aid

/-- `_validate_correlation` -/
def validateCorrelation (p : DograhWebhookPayload) (aid : AttemptId)
    (attempt : CallAttempt) (contact : Contact) (unresolved : Bool) :
    Option CorrelationProblem :=
  if ¬ (attempt.provider = none ∨ attempt.provider = some "dograh") then
    some .attemptNotDograh
  else if p.contactId.any (· ≠ env.uuid.text attempt.contactId) then
    some .contactMismatch
  else if p.campaignId.any (· ≠ env.uuid.text contact.campaignId) then
    some .campaignMismatch
  else
    match p.workflowRunId with
    | none => none
    | some run =>
        if attempt.providerCallId.any (· ≠ run.text) then some .runMismatch
        else if (attempt.providerCallId.isNone || unresolved)
            && runOwnedByOther db aid run.text then
          some .runOwnedByOtherAttempt
        else none

/-- What admission hands on. -/
structure AcceptedWebhook where
  aid : AttemptId
  attempt : CallAttempt
  contact : Contact
  campaign : Campaign
  unresolved : Bool
  outcome : CallOutcome

/-- The three ways admission ends. -/
inductive Admission where
  | rejected (e : WebhookError)
  /-- answered without touching anything -/
  | answered (o : WebhookOutcome)
  | accepted (w : AcceptedWebhook)

/-- `process_dograh_webhook` up to the claim of the event. -/
def admitWebhook (p : DograhWebhookPayload) : Admission :=
  if db.processedEvents.contains p.eventId then .answered .alreadyProcessed
  else
    match env.uuid.parse p.callAttemptId with
    | none => .rejected .notAUuid
    | some aid =>
    match db.attempt aid with
    | none => .rejected .noCallAttempt
    | some attempt =>
    match db.contact attempt.contactId with
    | none => .rejected .contactOrCampaignMissing
    | some contact =>
    match db.campaign contact.campaignId with
    | none => .rejected .contactOrCampaignMissing
    | some campaign =>
        let unresolved := isUnresolvedAmbiguousTrigger db aid attempt
        match validateCorrelation env db p aid attempt contact unresolved with
        | some problem => .rejected (.correlation problem)
        | none =>
            if !unresolved && attempt.state.isTerminal then
              .answered .alreadyProcessed
            else
              let outcome :=
                classifyCallOutcome env p.callStatus p.callDisposition
              if outcome.nonFinal then .answered .nonFinalIgnored
              else .accepted ⟨aid, attempt, contact, campaign, unresolved,
                outcome⟩

/-! ## Application -/

/-- The attempt with what the delivery says about the run itself: its id
(where the attempt has none, or is reopened), its length, its workflow. -/
def identifyRun (p : DograhWebhookPayload) (unresolved : Bool)
    (a : CallAttempt) : CallAttempt :=
  let run := p.workflowRunId.map RunId.text
  let adopts := run.isSome && (unresolved || a.providerCallId.isNone)
  let a := if unresolved then reopenAttempt a else a
  { a with
    provider := if adopts then some "dograh" else a.provider
    providerCallId := if adopts then run else a.providerCallId
    durationSeconds := (parseDuration p.durationSeconds).or a.durationSeconds
    dograhWorkflowId := a.dograhWorkflowId.or (parsePositiveInt p.workflowId) }

/-- What a processed delivery leaves. -/
structure WebhookStep where
  outcome : WebhookOutcome
  db : Db
  entry : Option (RecoveryJob × Instant)

/-- The attempt with a terminal outcome. -/
def endAttempt (o : CallOutcome) (now : Instant) (a : CallAttempt) :
    CallAttempt :=
  match o.state with
  | .failedToConnect =>
      { a with state := .failedToConnect, endedAt := some now,
               connectionFailureReason := o.neverConnectedReason }
  | .droppedMidCall =>
      { a with state := .droppedMidCall, endedAt := some now,
               disconnectReason := o.midCallReason }
  | _ => { a with state := .endedNormally, endedAt := some now }

/-- The session after the event is claimed, the run identified, and an
opt-out honoured: the database it has flushed to and its copy of the
contact. -/
def openOutcome (p : DograhWebhookPayload) (w : AcceptedWebhook)
    (optedOut : Bool) : Db × Contact :=
  let contact := if w.unresolved then reopenContact w.contact else w.contact
  let db := db.insertProcessedEvent p.eventId
    |>.setAttempt w.aid (identifyRun p w.unresolved w.attempt)
    |>.setContact w.attempt.contactId contact
  if optedOut then
    (suppressForOptOut env db w.attempt.contactId contact,
      { contact with status := .closed })
  else (db, contact)

/-- The hand-over to the recovery manager. -/
def recoverOutcome (db : Db) (w : AcceptedWebhook) (contact : Contact)
    (neverConnected : Bool) (reasonKey : String) (outcome : WebhookOutcome)
    (now : Instant) : WebhookStep :=
  let e := handleDisconnect env db w.attempt.contactId contact w.campaign
    { attemptId := w.aid, attemptNumber := w.attempt.attemptNumber,
      neverConnected, reasonKey } now
  { outcome
    db := (db.setContact w.attempt.contactId e.contact).logEvent w.aid e.event
      now
    entry := e.entry }

/-- `process_dograh_webhook` from the claim of the event on. -/
def applyWebhook (p : DograhWebhookPayload) (w : AcceptedWebhook)
    (now : Instant) : Except WebhookError WebhookStep :=
  let optedOut := isOptOut env p.callDisposition p.mappedCallDisposition
    env.settings.dograhOptOutDispositions
  let (db, contact) := openOutcome env db p w optedOut
  let attempt := endAttempt w.outcome now (identifyRun p w.unresolved w.attempt)
  let db := db.setAttempt w.aid attempt
  match w.outcome.state with
  | .failedToConnect =>
      match w.outcome.neverConnectedReason with
      | none => .error .assertion
      | some r =>
          .ok (recoverOutcome env db w contact true
            (w.outcome.reasonKey.getD r.value) .neverConnected now)
  | .droppedMidCall =>
      if db.sessions.contains w.aid then .error .sessionExists
      else
        match w.outcome.midCallReason with
        | none => .error .assertion
        | some r =>
            let db := db.insertSession w.aid
            let contact := if optedOut then contact
              else { contact with status := .disconnected }
            .ok (recoverOutcome env (db.setContact w.attempt.contactId contact)
              w contact false (w.outcome.reasonKey.getD r.value)
              .droppedMidCall now)
  | _ =>
      if db.sessions.contains w.aid then .error .sessionExists
      else
        let contact := if optedOut then contact
          else { contact with status := .completed }
        .ok
          { outcome := .endedNormally
            db := (db.insertSession w.aid).setContact w.attempt.contactId
              contact
            entry := none }

/-- `process_dograh_webhook`. An error rolls everything back. -/
def processDograhWebhook (p : DograhWebhookPayload) (now : Instant) :
    Except WebhookError WebhookStep :=
  match admitWebhook env db p with
  | .rejected e => .error e
  | .answered o => .ok ⟨o, db, none⟩
  | .accepted w => applyWebhook env db p w now

end

/-! ## What a delivery can do -/

section

variable {env : Env} {db : Db} {p : DograhWebhookPayload}
  {w : AcceptedWebhook} {now : Instant} {step : WebhookStep}

/-- What an accepted delivery has found. -/
structure AcceptedWebhook.Found (env : Env) (db : Db)
    (p : DograhWebhookPayload) (w : AcceptedWebhook) : Prop where
  fresh : db.processedEvents.contains p.eventId = false
  aid : env.uuid.parse p.callAttemptId = some w.aid
  attempt : db.attempt w.aid = some w.attempt
  contact : db.contact w.attempt.contactId = some w.contact
  campaign : db.campaign w.contact.campaignId = some w.campaign
  unresolved : w.unresolved = isUnresolvedAmbiguousTrigger db w.aid w.attempt
  correlated :
    validateCorrelation env db p w.aid w.attempt w.contact w.unresolved = none
  open_ : w.unresolved = true ∨ w.attempt.state.isTerminal = false
  outcome : w.outcome = classifyCallOutcome env p.callStatus p.callDisposition
  final : w.outcome.nonFinal = false

theorem admitWebhook_accepted (h : admitWebhook env db p = .accepted w) :
    w.Found env db p := by
  unfold admitWebhook at h
  split at h
  · cases h
  next hfresh =>
  split at h
  · cases h
  next aid haid =>
  split at h
  · cases h
  next attempt hattempt =>
  split at h
  · cases h
  next contact hcontact =>
  split at h
  · cases h
  next campaign hcampaign =>
  simp only at h
  split at h
  · cases h
  next hcorr =>
  split at h
  · cases h
  next hopen =>
  split at h
  · cases h
  next hfinal =>
  obtain rfl := Admission.accepted.inj h
  have hopen' : isUnresolvedAmbiguousTrigger db aid attempt = true ∨
      attempt.state.isTerminal = false := by
    cases hu : isUnresolvedAmbiguousTrigger db aid attempt with
    | true => exact .inl rfl
    | false =>
        rw [hu] at hopen
        exact .inr (by simpa using hopen)
  constructor
  case fresh => simpa using hfresh
  case aid => exact haid
  case attempt => exact hattempt
  case contact => exact hcontact
  case campaign => exact hcampaign
  case unresolved => dsimp only
  case correlated => exact hcorr
  case open_ => exact hopen'
  case outcome => dsimp only
  case final => simpa using hfinal

/-- The two answers admission gives by itself. -/
theorem admitWebhook_answered {o : WebhookOutcome}
    (h : admitWebhook env db p = .answered o) :
    o = .alreadyProcessed ∨ o = .nonFinalIgnored := by
  unfold admitWebhook at h
  repeat' split at h
  all_goals first
    | cases h; exact .inl rfl
    | cases h
    | skip
  simp only at h
  repeat' split at h
  all_goals first
    | cases h; exact .inl rfl
    | cases h; exact .inr rfl
    | cases h

/-- Conversely, a delivery that meets every condition is accepted. -/
theorem admitWebhook_of_found (h : w.Found env db p) :
    admitWebhook env db p = .accepted w := by
  have hopen : (!w.unresolved && w.attempt.state.isTerminal) = false := by
    rcases h.open_ with h | h <;> simp [h]
  have hfinal := h.final
  rw [h.outcome] at hfinal
  unfold admitWebhook
  simp only [h.fresh, h.aid, h.attempt, h.contact, h.campaign,
    ← h.unresolved, h.correlated, hopen, hfinal, Bool.false_eq_true, if_false]
  rw [← h.outcome]

/-- **What a processed delivery changes**: its own attempt, as a whole;
its own contact; the log of its attempt, by at most one recovery event. -/
structure WebhookStep.Spec (p : DograhWebhookPayload) (db : Db)
    (w : AcceptedWebhook) (now : Instant) (step : WebhookStep) : Prop where
  final : step.outcome.final = true
  attempt : ∀ k, step.db.attempt k =
    if k = w.aid then
      some (endAttempt w.outcome now (identifyRun p w.unresolved w.attempt))
    else db.attempt k
  contact_ne : ∀ c, c ≠ w.attempt.contactId →
    step.db.contact c = db.contact c
  contact : ∃ c, step.db.contact w.attempt.contactId = some c ∧
    c.campaignId = w.contact.campaignId ∧ w.contact.Onward c
  campaigns : ∀ c, step.db.campaign c = db.campaign c
  events :
    step.db.events = db.events ∧ w.outcome.state ≠ .failedToConnect ∨ ∃ ty,
      (ty = .recoveryScheduled ∨ ty = .recoveryTerminalized) ∧
        step.db.events = ⟨w.aid, ty, now⟩ :: db.events
  processed : step.db.processedEvents = p.eventId :: db.processedEvents
  sessions : step.db.sessions = db.sessions ∧
      w.outcome.state = .failedToConnect ∨
    step.db.sessions = w.aid :: db.sessions ∧
      w.outcome.state ≠ .failedToConnect

/-- What the session has flushed once the outcome is open, and its copy of
the contact. -/
structure OpenOutcomeSpec (p : DograhWebhookPayload) (db : Db)
    (w : AcceptedWebhook) (r : Db × Contact) : Prop where
  events : r.1.events = db.events
  sessions : r.1.sessions = db.sessions
  processed : r.1.processedEvents = p.eventId :: db.processedEvents
  campaigns : ∀ c, r.1.campaign c = db.campaign c
  attempt : ∀ k, r.1.attempt k =
    if k = w.aid then
      (db.attempt k).map fun _ => identifyRun p w.unresolved w.attempt
    else db.attempt k
  contact_ne : ∀ c, c ≠ w.attempt.contactId → r.1.contact c = db.contact c
  contact : (db.contact w.attempt.contactId).isSome →
    (r.1.contact w.attempt.contactId).isSome
  campaign : r.2.campaignId = w.contact.campaignId
  onward : w.contact.Onward r.2

/-- A reopened contact is dialing. -/
theorem reopened_onward (unresolved : Bool) (c : Contact) :
    c.Onward (if unresolved = true then reopenContact c else c) := by
  cases unresolved with
  | false => exact .refl c
  | true => exact ⟨rfl, fun h => by cases h⟩

theorem openOutcome_spec (env : Env) (db : Db) (p : DograhWebhookPayload)
    (w : AcceptedWebhook) (optedOut : Bool) :
    OpenOutcomeSpec p db w (openOutcome env db p w optedOut) := by
  unfold openOutcome
  cases optedOut with
  | false =>
      constructor
      case onward => exact reopened_onward _ _
      case campaign => cases w.unresolved <;> rfl
      all_goals simp +contextual [Db.attempt_setAttempt, Db.contact_setContact]
  | true =>
      constructor
      case onward =>
        refine (reopened_onward w.unresolved w.contact).trans
          ⟨rfl, fun h => ?_⟩
        cases h
      case campaign => cases w.unresolved <;> rfl
      all_goals simp +contextual [suppressForOptOut, Db.attempt_setAttempt,
        Db.contact_setContact, Db.contact_modifyContact]

/-- The hand-over writes the contact and logs one event on the attempt. -/
theorem recoverOutcome_spec (env : Env) (db₀ : Db) (w : AcceptedWebhook)
    (c : Contact) (never : Bool) (key : String) (o : WebhookOutcome)
    (now : Instant) :
    (recoverOutcome env db₀ w c never key o now).outcome = o ∧
    ∃ ty c', (ty = EventType.recoveryScheduled ∨ ty = .recoveryTerminalized) ∧
      c'.campaignId = c.campaignId ∧ c.Onward c' ∧
      (recoverOutcome env db₀ w c never key o now).db =
        (db₀.setContact w.attempt.contactId c').logEvent w.aid ty now := by
  have hs : (handleDisconnect env db₀ w.attempt.contactId c w.campaign
      { attemptId := w.aid, attemptNumber := w.attempt.attemptNumber,
        neverConnected := never, reasonKey := key } now).Shape
      w.attempt.contactId c _ := handleDisconnect_shape
  exact ⟨rfl, _, _, hs.event, hs.campaign, hs.onward, rfl⟩

/-- Writing the ended attempt over the identified one. -/
theorem setAttempt_end {db₀ : Db} {a : CallAttempt} (a' : CallAttempt)
    {k : AttemptId}
    (h : ∀ j, db₀.attempt j =
      if j = k then (db.attempt j).map fun _ => a else db.attempt j)
    (hk : (db.attempt k).isSome) (j : AttemptId) :
    (db₀.setAttempt k a').attempt j = if j = k then some a' else db.attempt j := by
  rw [Db.attempt_setAttempt, h]
  by_cases hj : j = k
  · subst hj
    obtain ⟨b, hb⟩ := Option.isSome_iff_exists.mp hk
    simp [hb]
  · simp [hj]

/-- **The apply lemma**: every processed delivery meets its
specification. -/
theorem applyWebhook_spec (hf : w.Found env db p)
    (h : applyWebhook env db p w now = .ok step) : step.Spec p db w now := by
  have hattempt : (db.attempt w.aid).isSome := by simp [hf.attempt]
  have hcontact : (db.contact w.attempt.contactId).isSome := by
    simp [hf.contact]
  simp only [applyWebhook] at h
  generalize isOptOut env p.callDisposition p.mappedCallDisposition
    env.settings.dograhOptOutDispositions = optedOut at h
  have hspec := openOutcome_spec env db p w optedOut
  generalize openOutcome env db p w optedOut = r at h hspec
  obtain ⟨db₀, c₀⟩ := r
  have hatt := setAttempt_end
    (endAttempt w.outcome now (identifyRun p w.unresolved w.attempt))
    hspec.attempt hattempt
  obtain ⟨b₀, hb₀⟩ := Option.isSome_iff_exists.mp (hspec.contact hcontact)
  have hcamp : c₀.campaignId = w.contact.campaignId := hspec.campaign
  have hon : w.contact.Onward c₀ := hspec.onward
  have hne : ∀ c, c ≠ w.attempt.contactId → db₀.contact c = db.contact c :=
    hspec.contact_ne
  have hca : ∀ c, db₀.campaign c = db.campaign c := hspec.campaigns
  have hev : db₀.events = db.events := hspec.events
  have hpr : db₀.processedEvents = p.eventId :: db.processedEvents :=
    hspec.processed
  have hse : db₀.sessions = db.sessions := hspec.sessions
  simp only at h hb₀ hatt
  split at h
  · next hstate =>
    split at h
    · cases h
    next r hr =>
    obtain ⟨ho, ty, c', hty, hc', hon', hdb⟩ := recoverOutcome_spec env
      (db₀.setAttempt w.aid (endAttempt w.outcome now
        (identifyRun p w.unresolved w.attempt))) w c₀ true
      (w.outcome.reasonKey.getD r.value) .neverConnected now
    obtain rfl := Except.ok.inj h
    constructor
    case final => rw [ho]; rfl
    case attempt => rw [hdb]; simpa using hatt
    case contact_ne =>
      intro c hc
      simp [hdb, Db.contact_setContact, hc, hne c hc]
    case contact =>
      exact ⟨c', by simp [hdb, Db.contact_setContact, hb₀], hc'.trans hcamp,
        hon.trans hon'⟩
    case campaigns => intro c; simp [hdb, hca c]
    case events => exact .inr ⟨ty, hty, by simp [hdb, hev]⟩
    case processed => simp [hdb, hpr]
    case sessions => exact .inl ⟨by simp [hdb, hse], hstate⟩
  · next hstate =>
    split at h
    · cases h
    split at h
    · cases h
    next r hr =>
    obtain ⟨c₁, hc₁, hcamp₁, hon₁⟩ : ∃ c₁ : Contact,
        (if optedOut = true then c₀ else { c₀ with status := .disconnected })
          = c₁ ∧ c₁.campaignId = c₀.campaignId ∧ c₀.Onward c₁ := by
      cases optedOut with
      | true => exact ⟨_, rfl, rfl, .refl c₀⟩
      | false => exact ⟨_, rfl, rfl, rfl, fun h => by cases h⟩
    rw [hc₁] at h
    obtain ⟨ho, ty, c', hty, hc', hon', hdb⟩ := recoverOutcome_spec env
      (((db₀.setAttempt w.aid (endAttempt w.outcome now
        (identifyRun p w.unresolved w.attempt))).insertSession w.aid).setContact
          w.attempt.contactId c₁) w c₁ false
      (w.outcome.reasonKey.getD r.value) .droppedMidCall now
    obtain rfl := Except.ok.inj h
    constructor
    case final => rw [ho]; rfl
    case attempt => rw [hdb]; simpa using hatt
    case contact_ne =>
      intro c hc
      simp [hdb, Db.contact_setContact, hc, hne c hc]
    case contact =>
      exact ⟨c', by simp [hdb, Db.contact_setContact, hb₀],
        hc'.trans (hcamp₁.trans hcamp), (hon.trans hon₁).trans hon'⟩
    case campaigns => intro c; simp [hdb, hca c]
    case events => exact .inr ⟨ty, hty, by simp [hdb, hev]⟩
    case processed => simp [hdb, hpr]
    case sessions =>
      exact .inr ⟨by simp [hdb, hse], by simp [hstate]⟩
  · next hfail hdrop =>
    split at h
    · cases h
    obtain ⟨c₁, hc₁, hcamp₁, hon₁⟩ : ∃ c₁ : Contact,
        (if optedOut = true then c₀ else { c₀ with status := .completed })
          = c₁ ∧ c₁.campaignId = c₀.campaignId ∧ c₀.Onward c₁ := by
      cases optedOut with
      | true => exact ⟨_, rfl, rfl, .refl c₀⟩
      | false => exact ⟨_, rfl, rfl, rfl, fun h => by cases h⟩
    rw [hc₁] at h
    obtain rfl := Except.ok.inj h
    constructor
    case final => rfl
    case attempt => simpa using hatt
    case contact_ne =>
      intro c hc
      simp [Db.contact_setContact, hc, hne c hc]
    case contact =>
      exact ⟨c₁, by simp [Db.contact_setContact, hb₀], hcamp₁.trans hcamp,
        hon.trans hon₁⟩
    case campaigns => intro c; simp [hca c]
    case events => exact .inl ⟨by simp [hev], by simpa using hfail⟩
    case processed => simp [hpr]
    case sessions => exact .inr ⟨by simp [hse], by simpa using hfail⟩

/-- A delivery is answered without a trace, or it was admitted and did
what the specification says. -/
theorem processDograhWebhook_cases
    (h : processDograhWebhook env db p now = .ok step) :
    step.outcome.final = false ∧ step.db = db ∧ step.entry = none ∨
      ∃ w, w.Found env db p ∧ step.Spec p db w now := by
  unfold processDograhWebhook at h
  cases ha : admitWebhook env db p with
  | rejected e => rw [ha] at h; cases h
  | answered o =>
      rw [ha] at h
      obtain rfl := Except.ok.inj h
      rcases admitWebhook_answered ha with rfl | rfl
      · exact .inl ⟨rfl, rfl, rfl⟩
      · exact .inl ⟨rfl, rfl, rfl⟩
  | accepted w =>
      rw [ha] at h
      have hw := admitWebhook_accepted ha
      exact .inr ⟨w, hw, applyWebhook_spec hw h⟩

theorem processDograhWebhook_final
    (h : processDograhWebhook env db p now = .ok step)
    (hf : step.outcome.final = true) :
    ∃ w, w.Found env db p ∧ step.Spec p db w now := by
  rcases processDograhWebhook_cases h with ⟨hn, _⟩ | h
  · rw [hf] at hn; cases hn
  · exact h

end

end CallingAgent
