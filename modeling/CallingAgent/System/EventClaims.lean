import CallingAgent.System.LateOutcome

/-!
# Event claims — concurrent deliveries of webhooks

Every delivery runs in a transaction of its own: it looks whether its event
is new, loads the rows it is about, claims the event by a unique insert,
and commits. The claim decides between concurrent deliveries of one event.
The completion webhook claims before it changes anything; the call-status
webhook assigns its rows first, and the savepoint of the claim flushes them
before it is taken, so that a lost claim does not undo them.
-/

namespace CallingAgent

open Lib

/-! ## The call-status session -/

/-- A flushed attempt: the columns the session changed. -/
def CallAttempt.flush (loaded new current : CallAttempt) : CallAttempt where
  contactId := writeBack loaded.contactId new.contactId current.contactId
  attemptNumber :=
    writeBack loaded.attemptNumber new.attemptNumber current.attemptNumber
  state := writeBack loaded.state new.state current.state
  connectionFailureReason := writeBack loaded.connectionFailureReason
    new.connectionFailureReason current.connectionFailureReason
  disconnectReason := writeBack loaded.disconnectReason new.disconnectReason
    current.disconnectReason
  provider := writeBack loaded.provider new.provider current.provider
  providerCallId :=
    writeBack loaded.providerCallId new.providerCallId current.providerCallId
  dograhWorkflowId := writeBack loaded.dograhWorkflowId new.dograhWorkflowId
    current.dograhWorkflowId
  startedAt := writeBack loaded.startedAt new.startedAt current.startedAt
  endedAt := writeBack loaded.endedAt new.endedAt current.endedAt
  durationSeconds := writeBack loaded.durationSeconds new.durationSeconds
    current.durationSeconds

/-- The rows a call-status delivery has loaded. -/
structure StatusLoad where
  aid : AttemptId
  attempt : CallAttempt
  contact : Option Contact

/-- What it assigns to the attempt; `none` for a refused status. -/
def assignAttempt (p : CallStatusPayload) (now : Instant) (a : CallAttempt) :
    Option CallAttempt :=
  if p.status = "connected" then some { a with state := .connected }
  else if p.status = "failed" then
    match p.failureReason.filter fun r => r.toList ≠ [] with
    | none => some { a with state := .failedToConnect, endedAt := some now }
    | some text => (parseFailureReason text).map fun reason =>
        { a with state := .failedToConnect, endedAt := some now,
                 connectionFailureReason := some reason }
  else none

/-- What it assigns to the contact. -/
def assignContact (p : CallStatusPayload) (c : Contact) : Contact :=
  if p.status = "connected" then { c with status := .inConversation } else c

/-- The flush of both. -/
def StatusLoad.flush (x : StatusLoad) (p : CallStatusPayload) (now : Instant)
    (db : Db) : Db :=
  let attempts := match assignAttempt p now x.attempt with
    | some new => db.modifyAttempt x.aid (x.attempt.flush new)
    | none => db
  match x.contact with
  | some c => attempts.modifyContact x.attempt.contactId
      (c.flush (assignContact p c))
  | none => attempts

/-- The flush updates the attempt row, and takes its lock. -/
def StatusLoad.locksAttempt (x : StatusLoad) (p : CallStatusPayload) : Bool :=
  p.status != "connected" || x.attempt.state != .connected

/-- The flush updates the contact row, and takes its lock. -/
def StatusLoad.locksContact (x : StatusLoad) (p : CallStatusPayload) : Bool :=
  p.status == "connected" && x.contact.any (·.status != .inConversation)

/-! ## Transactions -/

inductive WebhookDelivery where
  | callStatus (p : CallStatusPayload)
  | dograh (p : DograhWebhookPayload)

def WebhookDelivery.eventId : WebhookDelivery → String
  | .callStatus p => p.eventId
  | .dograh p => p.eventId

/-- How far a delivery is, and what its session holds by then. -/
inductive DeliveryStage where
  /-- its event was new when it looked -/
  | checked
  /-- answered `already_processed` without a claim -/
  | answered
  | statusLoaded (p : CallStatusPayload) (x : StatusLoad)
  | statusFlushed (p : CallStatusPayload) (x : StatusLoad)
  | statusClaimed (p : CallStatusPayload) (x : StatusLoad) (won : Bool)
  | dograhLoaded (p : DograhWebhookPayload) (w : AcceptedWebhook)
  | dograhClaimed (p : DograhWebhookPayload) (w : AcceptedWebhook) (won : Bool)

structure DeliveryTx where
  delivery : WebhookDelivery
  /-- the clock of the handler -/
  now : Instant
  stage : DeliveryStage

/-- The result is `already_processed`. -/
def DeliveryTx.alreadyProcessed (t : DeliveryTx) : Bool :=
  match t.stage with
  | .answered | .statusClaimed _ _ false | .dograhClaimed _ _ false => true
  | _ => false

/-- The event row is inserted and not committed yet. -/
def DeliveryTx.holdsEvent (t : DeliveryTx) (event : String) : Bool :=
  match t.stage with
  | .statusClaimed _ _ true | .dograhClaimed _ _ true =>
      t.delivery.eventId == event
  | _ => false

/-- The attempt row is updated and not committed yet. -/
def DeliveryTx.holdsAttempt (t : DeliveryTx) (aid : AttemptId) : Bool :=
  match t.stage with
  | .statusFlushed p x | .statusClaimed p x _ =>
      x.aid == aid && x.locksAttempt p
  | _ => false

def DeliveryTx.holdsContact (t : DeliveryTx) (c : ContactId) : Bool :=
  match t.stage with
  | .statusFlushed p x | .statusClaimed p x _ =>
      x.attempt.contactId == c && x.locksContact p
  | _ => false

structure ClaimState where
  /-- what is committed -/
  db : Db
  redis : Redis := {}
  open_ : Table Nat DeliveryTx := ∅

namespace ClaimState

variable (s : ClaimState)

def tx (i : Nat) : Option DeliveryTx := AList.lookup i s.open_

/-- Another transaction holds the lock. -/
def othersHold (i : Nat) (holds : DeliveryTx → Bool) : Bool :=
  s.open_.any fun k t => k != i && holds t

/-- A transaction begins, and looks whether its event is new. -/
def start (i : Nat) (d : WebhookDelivery) (now : Instant) : ClaimState :=
  let stage : DeliveryStage :=
    if s.db.processedEvents.contains d.eventId then .answered else .checked
  { s with open_ := AList.insert i ⟨d, now, stage⟩ s.open_ }

/-- The transaction goes on, or is over. -/
def advance (i : Nat) (t : DeliveryTx) (stage : Option DeliveryStage) :
    ClaimState :=
  { s with open_ := s.open_.put i (stage.map fun stage => { t with stage }) }

end ClaimState

inductive ClaimAct where
  /-- a request arrives, and looks whether its event is new -/
  | begin_ (i : Nat) (d : WebhookDelivery) (now : Instant)
  | load (i : Nat)
  /-- the savepoint flushes the session -/
  | flush (i : Nat)
  /-- the unique insert; it waits for another transaction that holds it -/
  | claim (i : Nat)
  | commit (i : Nat)
  /-- the process dies, or the request fails -/
  | abort (i : Nat)

section

variable (env : Env) (s : ClaimState)

/-- The rows of a delivery whose event was new, and its refusals. -/
def loadDelivery : WebhookDelivery → Option DeliveryStage
  | .callStatus p =>
      (s.db.attemptByProviderCallId p.providerCallId).bind fun aid =>
        (s.db.attempt aid).bind fun a =>
          if a.endedAt.isSome then none
          else some (.statusLoaded p ⟨aid, a, s.db.contact a.contactId⟩)
  | .dograh p =>
      -- the event is not looked up a second time
      match admitWebhook env { s.db with processedEvents := [] } p with
      | .accepted w => some (.dograhLoaded p w)
      | .answered .alreadyProcessed => some .answered
      | _ => none

/-- What a completion webhook that won its event commits, with the retry
it schedules. -/
def commitWebhook (p : DograhWebhookPayload) (w : AcceptedWebhook)
    (now : Instant) : Option (Db × Option (RecoveryJob × Instant)) :=
  (applyWebhook env s.db p w now).toOption.map fun step =>
    let db := match step.db.attempt w.aid, s.db.attempt w.aid with
      | some new, some current =>
          step.db.setAttempt w.aid (w.attempt.flush new current)
      | _, _ => step.db
    let db := match db.contact w.attempt.contactId,
        s.db.contact w.attempt.contactId with
      | some new, some current =>
          db.setContact w.attempt.contactId (w.contact.flush new current)
      | _, _ => db
    (db, step.entry)

def claimStep : ClaimAct → Option ClaimState
  | .begin_ i d now =>
      if (s.tx i).isSome then none
      else some (s.start i d now)
  | .load i =>
      (s.tx i).bind fun t =>
        match t.stage with
        | .checked => some (s.advance i t (loadDelivery env s t.delivery))
        | _ => none
  | .flush i =>
      (s.tx i).bind fun t =>
        match t.stage with
        | .statusLoaded p x =>
            if x.locksAttempt p && s.othersHold i (·.holdsAttempt x.aid)
              || x.locksContact p
                && s.othersHold i (·.holdsContact x.attempt.contactId) then none
            else if (assignAttempt p t.now x.attempt).isNone then
              some (s.advance i t none)
            else some (s.advance i t (some (.statusFlushed p x)))
        | _ => none
  | .claim i =>
      (s.tx i).bind fun t =>
        if s.othersHold i (·.holdsEvent t.delivery.eventId) then none
        else
          let won := !s.db.processedEvents.contains t.delivery.eventId
          match t.stage with
          | .statusFlushed p x =>
              some (s.advance i t (some (.statusClaimed p x won)))
          | .dograhLoaded p w =>
              some (s.advance i t (some (.dograhClaimed p w won)))
          | _ => none
  | .commit i =>
      (s.tx i).bind fun t =>
        match t.stage with
        | .answered => some (s.advance i t none)
        | .statusClaimed p x won =>
            let db := x.flush p t.now s.db
            let db := if won then db.insertProcessedEvent p.eventId else db
            some { s.advance i t none with db }
        | .dograhClaimed p w won =>
            if won then
              if s.othersHold i (·.holdsAttempt w.aid)
                  || s.othersHold i (·.holdsContact w.attempt.contactId) then
                none
              else (commitWebhook env s p w t.now).map fun r =>
                { s.advance i t none with
                  db := r.1
                  redis := s.redis.scheduleRetry r.2 }
            else some (s.advance i t none)
        | _ => none
  | .abort i => (s.tx i).map fun t => s.advance i t none

end

/-! ## What a lost claim leaves -/

/-- Everything a delivery can change is as it was. -/
structure Db.SameRows (db db' : Db) : Prop where
  attempts : ∀ a, db'.attempt a = db.attempt a
  contacts : ∀ c, db'.contact c = db.contact c
  events : db'.events = db.events
  suppressions : db'.suppressions = db.suppressions
  sessions : db'.sessions = db.sessions
  processed : db'.processedEvents = db.processedEvents

theorem Db.SameRows.refl (db : Db) : db.SameRows db :=
  ⟨fun _ => rfl, fun _ => rfl, rfl, rfl, rfl, rfl⟩

/-- A column is left alone: its loaded value was assigned again, or it holds
the assigned value already. -/
def columnKept {α : Type} [DecidableEq α] (loaded new current : α) : Bool :=
  new = loaded || new = current

theorem columnKept_iff {α : Type} [DecidableEq α] {loaded new current : α} :
    columnKept loaded new current = true ↔
      writeBack loaded new current = current := by
  simp [columnKept, writeBack_eq_current]

/-- A call-status delivery has nothing left to say: the attempt it reports
connected was or is CONNECTED, and its contact was or is IN_CONVERSATION; or
the attempt it reports failed was or is FAILED_TO_CONNECT, with the same end
and the same reason. -/
def StatusLoad.idle (x : StatusLoad) (p : CallStatusPayload) (now : Instant)
    (db : Db) : Bool :=
  let ended : Bool := (db.attempt x.aid).all fun a =>
    columnKept x.attempt.state .failedToConnect a.state
      && columnKept x.attempt.endedAt (some now) a.endedAt
  if p.status = "connected" then
    ((db.attempt x.aid).all fun a =>
        columnKept x.attempt.state .connected a.state)
      && x.contact.all fun c =>
        (db.contact x.attempt.contactId).all fun r =>
          columnKept c.status .inConversation r.status
  else if p.status = "failed" then
    match p.failureReason.filter fun r => r.toList ≠ [] with
    | none => ended
    | some text => (parseFailureReason text).all fun reason =>
        ended && (db.attempt x.aid).all fun a =>
          columnKept x.attempt.connectionFailureReason (some reason)
            a.connectionFailureReason
  else true

/-- A delivery whose commit leaves everything alone. -/
def DeliveryTx.harmless (t : DeliveryTx) (db : Db) : Bool :=
  match t.stage with
  | .statusClaimed p x _ => x.idle p t.now db
  | _ => true

/-- What is committed is the same in two states. -/
structure ClaimState.Unchanged (s s' : ClaimState) : Prop where
  rows : s.db.SameRows s'.db
  redis : s'.redis = s.redis

/-- The commit of a delivery that is not answered `already_processed`. -/
def ClaimState.processes (s : ClaimState) : ClaimAct → Bool
  | .commit i => (s.tx i).any fun t => !t.alreadyProcessed
  | _ => false

/-- Anything but a commit that undoes what another delivery committed. -/
def ClaimState.harmless (s : ClaimState) : ClaimAct → Bool
  | .commit i =>
      (s.tx i).all fun t => !t.alreadyProcessed || t.harmless s.db
  | _ => true

/-- A state, with the states around every step that was no commit of a
processed delivery. -/
structure ClaimHistory where
  state : ClaimState
  quiet : List (ClaimState × ClaimState)

def historyStep (env : Env) (h : ClaimHistory) (act : ClaimAct) :
    Option ClaimHistory :=
  (claimStep env h.state act).map fun s' =>
    { state := s'
      quiet :=
        if h.state.processes act then h.quiet
        else (h.state, s') :: h.quiet }

/-- No such step changed anything. -/
def ClaimHistory.Kept (h : ClaimHistory) : Prop :=
  ∀ r ∈ h.quiet, r.1.Unchanged r.2

def ClaimHistory.harmless (h : ClaimHistory) (act : ClaimAct) : Bool :=
  h.state.processes act || h.state.harmless act

section

variable {env : Env} {s s' : ClaimState} {i : Nat} {t : DeliveryTx}
  {p : CallStatusPayload} {x : StatusLoad} {now : Instant} {db : Db}

/-- The assignment changes three columns at most. -/
theorem assignAttempt_flush {a new current : CallAttempt}
    (h : assignAttempt p now a = some new) :
    a.flush new current = current ↔
      columnKept a.state new.state current.state = true ∧
      columnKept a.endedAt new.endedAt current.endedAt = true ∧
      columnKept a.connectionFailureReason new.connectionFailureReason
        current.connectionFailureReason = true := by
  have hcols : new =
      { a with
        state := new.state
        endedAt := new.endedAt
        connectionFailureReason := new.connectionFailureReason } := by
    unfold assignAttempt at h
    split at h
    · cases h; rfl
    · split at h
      · split at h
        · cases h; rfl
        · obtain ⟨r, -, rfl⟩ := Option.map_eq_some_iff.mp h
          rfl
      · cases h
  rw [hcols]
  cases current
  simp [CallAttempt.flush, columnKept_iff]
  tauto

theorem assignContact_flush (c current : Contact) :
    c.flush (assignContact p c) current = current ↔
      columnKept c.status (assignContact p c).status current.status
        = true := by
  have hcols : assignContact p c
      = { c with status := (assignContact p c).status } := by
    unfold assignContact
    split <;> rfl
  rw [hcols]
  cases current
  simp [Contact.flush, columnKept_iff]

/-- A rewrite leaves a row alone where it is the identity. -/
theorem modifyAttempt_same {aid : AttemptId} {f : CallAttempt → CallAttempt} :
    (∀ a, (db.modifyAttempt aid f).attempt a = db.attempt a) ↔
      ∀ r, db.attempt aid = some r → f r = r := by
  constructor
  · intro h r hr
    have ha := h aid
    rw [Db.attempt_modifyAttempt, if_pos rfl, hr] at ha
    exact Option.some.inj ha
  · intro h a
    rw [Db.attempt_modifyAttempt]
    by_cases ha : a = aid
    · subst ha
      rw [if_pos rfl]
      cases hr : db.attempt a with
      | none => rfl
      | some r => exact congrArg some (h r hr)
    · rw [if_neg ha]

theorem modifyContact_same {c : ContactId} {f : Contact → Contact} :
    (∀ k, (db.modifyContact c f).contact k = db.contact k) ↔
      ∀ r, db.contact c = some r → f r = r := by
  constructor
  · intro h r hr
    have hc := h c
    rw [Db.contact_modifyContact, if_pos rfl, hr] at hc
    exact Option.some.inj hc
  · intro h k
    rw [Db.contact_modifyContact]
    by_cases hk : k = c
    · subst hk
      rw [if_pos rfl]
      cases hr : db.contact k with
      | none => rfl
      | some r => exact congrArg some (h r hr)
    · rw [if_neg hk]

/-- The flush of one session changes the attempt row only. -/
theorem StatusLoad.flush_attempt (a : AttemptId) :
    (x.flush p now db).attempt a
      = (match assignAttempt p now x.attempt with
          | some new => db.modifyAttempt x.aid (x.attempt.flush new)
          | none => db).attempt a := by
  unfold StatusLoad.flush
  cases x.contact <;> rfl

theorem StatusLoad.flush_contact (c : ContactId) :
    (x.flush p now db).contact c
      = (match x.contact with
          | some loaded => db.modifyContact x.attempt.contactId
              (loaded.flush (assignContact p loaded))
          | none => db).contact c := by
  unfold StatusLoad.flush
  cases assignAttempt p now x.attempt <;> cases x.contact <;> rfl

theorem StatusLoad.flush_rest :
    (x.flush p now db).events = db.events ∧
    (x.flush p now db).suppressions = db.suppressions ∧
    (x.flush p now db).sessions = db.sessions ∧
    (x.flush p now db).processedEvents = db.processedEvents := by
  unfold StatusLoad.flush
  cases assignAttempt p now x.attempt <;> cases x.contact <;>
    exact ⟨rfl, rfl, rfl, rfl⟩

/-- The attempt columns of a session, left alone. -/
theorem StatusLoad.attempts_same_iff :
    (∀ a, (x.flush p now db).attempt a = db.attempt a) ↔
      (assignAttempt p now x.attempt).all (fun new =>
        (db.attempt x.aid).all fun current =>
          columnKept x.attempt.state new.state current.state
            && columnKept x.attempt.endedAt new.endedAt current.endedAt
            && columnKept x.attempt.connectionFailureReason
              new.connectionFailureReason current.connectionFailureReason)
        = true := by
  simp only [StatusLoad.flush_attempt]
  cases h : assignAttempt p now x.attempt with
  | none => simp
  | some new =>
      simp only [modifyAttempt_same, assignAttempt_flush h]
      cases db.attempt x.aid <;> simp [and_assoc]

theorem StatusLoad.contacts_same_iff :
    (∀ c, (x.flush p now db).contact c = db.contact c) ↔
      x.contact.all (fun c =>
        (db.contact x.attempt.contactId).all fun current =>
          columnKept c.status (assignContact p c).status current.status)
        = true := by
  simp only [StatusLoad.flush_contact]
  cases x.contact with
  | none => simp
  | some loaded =>
      simp only [modifyContact_same, assignContact_flush]
      cases db.contact x.attempt.contactId <;> simp

theorem columnKept_loaded {α : Type} [DecidableEq α] (loaded current : α) :
    columnKept loaded loaded current = true := by
  simp [columnKept]

/-- What a delivery has to say is what its session assigns. -/
theorem StatusLoad.idle_iff :
    x.idle p now db = true ↔
      (assignAttempt p now x.attempt).all (fun new =>
        (db.attempt x.aid).all fun current =>
          columnKept x.attempt.state new.state current.state
            && columnKept x.attempt.endedAt new.endedAt current.endedAt
            && columnKept x.attempt.connectionFailureReason
              new.connectionFailureReason current.connectionFailureReason)
        = true ∧
      x.contact.all (fun c =>
        (db.contact x.attempt.contactId).all fun current =>
          columnKept c.status (assignContact p c).status current.status)
        = true := by
  unfold StatusLoad.idle assignAttempt assignContact
  by_cases hconn : p.status = "connected"
  · simp [hconn, columnKept_loaded]
  · by_cases hfail : p.status = "failed"
    · simp only [hfail, if_neg (show ¬ "failed" = "connected" by decide),
        if_true]
      cases p.failureReason.filter fun r => r.toList ≠ [] with
      | none => simp [columnKept_loaded]
      | some text =>
          cases hr : parseFailureReason text with
          | none => simp [hr, columnKept_loaded]
          | some reason =>
              cases db.attempt x.aid <;> simp [hr, columnKept_loaded]
    · simp [hconn, hfail, columnKept_loaded]

/-- The flush of a call-status session leaves everything alone exactly when
it has nothing left to say. -/
theorem StatusLoad.flush_same_iff :
    db.SameRows (x.flush p now db) ↔ x.idle p now db = true := by
  rw [StatusLoad.idle_iff, ← StatusLoad.attempts_same_iff,
    ← StatusLoad.contacts_same_iff]
  constructor
  · intro h
    exact ⟨h.attempts, h.contacts⟩
  · rintro ⟨hattempts, hcontacts⟩
    obtain ⟨hevents, hsup, hsessions, hprocessed⟩ := x.flush_rest
    exact ⟨hattempts, hcontacts, hevents, hsup, hsessions, hprocessed⟩

/-- **The commit of a delivery answered `already_processed`.** Whatever the
other deliveries have committed in between, it leaves everything as it is
if and only if it is harmless: every completion webhook is, and so is a
call-status delivery that made no claim or has nothing to write. -/
theorem commit_unchanged_iff (ht : s.tx i = some t)
    (hr : t.alreadyProcessed = true)
    (h : claimStep env s (.commit i) = some s') :
    s.Unchanged s' ↔ t.harmless s.db = true := by
  simp only [claimStep, ht, Option.bind_some] at h
  unfold DeliveryTx.alreadyProcessed at hr
  unfold DeliveryTx.harmless
  cases hstage : t.stage with
  | answered =>
      rw [hstage] at h
      cases h
      exact ⟨fun _ => rfl, fun _ => ⟨.refl _, rfl⟩⟩
  | statusClaimed p x won =>
      rw [hstage] at h hr
      cases won with
      | true => cases hr
      | false =>
          cases h
          rw [← StatusLoad.flush_same_iff]
          exact ⟨fun h => h.rows, fun h => ⟨h, rfl⟩⟩
  | dograhClaimed p w won =>
      rw [hstage] at h hr
      cases won with
      | true => cases hr
      | false =>
          cases h
          exact ⟨fun _ => rfl, fun _ => ⟨.refl _, rfl⟩⟩
  | checked => rw [hstage] at hr; cases hr
  | statusLoaded p x => rw [hstage] at hr; cases hr
  | statusFlushed p x => rw [hstage] at hr; cases hr
  | dograhLoaded p w => rw [hstage] at hr; cases hr

/-- Nothing is committed before the commit. -/
theorem claimStep_pending {act : ClaimAct} (hact : ∀ i, act ≠ .commit i)
    (h : claimStep env s act = some s') : s.Unchanged s' := by
  have hkeeps : ∀ (i : Nat) (t : DeliveryTx) (stage : Option DeliveryStage),
      s.Unchanged (s.advance i t stage) :=
    fun _ _ _ => ⟨.refl _, rfl⟩
  cases act with
  | begin_ i d now =>
      simp only [claimStep] at h
      split at h
      · cases h
      · cases h
        exact ⟨.refl _, rfl⟩
  | load i =>
      obtain ⟨t, -, h⟩ := Option.bind_eq_some_iff.mp h
      split at h
      · cases h
        exact hkeeps ..
      · cases h
  | flush i =>
      obtain ⟨t, -, h⟩ := Option.bind_eq_some_iff.mp h
      split at h
      · split at h
        · cases h
        · split at h <;> cases h <;> exact hkeeps ..
      · cases h
  | claim i =>
      obtain ⟨t, -, h⟩ := Option.bind_eq_some_iff.mp h
      split at h
      · cases h
      · split at h
        · cases h; exact hkeeps ..
        · cases h; exact hkeeps ..
        · cases h
  | commit i => exact absurd rfl (hact i)
  | abort i =>
      obtain ⟨t, -, rfl⟩ := Option.map_eq_some_iff.mp h
      exact hkeeps ..

/-- A step that is no commit of a processed delivery changes nothing exactly
when it is harmless. -/
theorem claimStep_unchanged_iff {act : ClaimAct}
    (hq : s.processes act = false) (h : claimStep env s act = some s') :
    s.Unchanged s' ↔ s.harmless act = true := by
  cases act with
  | commit i =>
      obtain ⟨t, ht, -⟩ := Option.bind_eq_some_iff.mp h
      have hr : t.alreadyProcessed = true := by
        simpa [ClaimState.processes, ht] using hq
      rw [commit_unchanged_iff ht hr h]
      simp [ClaimState.harmless, ht, hr]
  | _ =>
      exact ⟨fun _ => rfl, fun _ => claimStep_pending (by simp) h⟩

/-- One step extends the record of the quiet steps. -/
theorem historyStep_unchanged_iff {h₀ h₁ : ClaimHistory} {act : ClaimAct}
    (h : historyStep env h₀ act = some h₁) :
    h₁.Kept ↔ h₀.Kept ∧ h₀.harmless act = true := by
  obtain ⟨s', hs, rfl⟩ := Option.map_eq_some_iff.mp h
  unfold ClaimHistory.Kept ClaimHistory.harmless
  cases hp : h₀.state.processes act with
  | true => simp
  | false =>
      have hnew := claimStep_unchanged_iff hp hs
      simp [← hnew, and_comm]

/-- **Whoever is answered `already_processed` changes nothing, exactly
when.** Over any interleaving of any deliveries, from any state: all that
is not the commit of a processed delivery leaves attempts, contacts, events,
sessions, suppressions and schedules as the others left them if and only if
every commit of a delivery answered `already_processed` is harmless. -/
theorem alreadyProcessed_unchanged_iff (env : Env) (acts : List ClaimAct)
    (s : ClaimState) (h : ClaimHistory)
    (hrun : runActs (historyStep env) ⟨s, []⟩ acts = some h) :
    h.Kept ↔
      holdsAlong (historyStep env) ClaimHistory.harmless ⟨s, []⟩ acts
        = true := by
  have hgen : ∀ (acts : List ClaimAct) (h₀ : ClaimHistory),
      runActs (historyStep env) h₀ acts = some h →
      (h.Kept ↔ h₀.Kept ∧
        holdsAlong (historyStep env) ClaimHistory.harmless h₀ acts
          = true) := by
    intro acts
    induction acts with
    | nil =>
        intro h₀ hrun
        cases hrun
        simp [holdsAlong]
    | cons act acts ih =>
        intro h₀ hrun
        obtain ⟨h₁, hstep, hrest⟩ := Option.bind_eq_some_iff.mp hrun
        rw [ih h₁ hrest, historyStep_unchanged_iff hstep]
        simp [holdsAlong, hstep, and_assoc]
  have hfirst : ClaimHistory.Kept ⟨s, []⟩ := by
    intro r hr
    cases hr
  rw [hgen acts _ hrun]
  exact and_iff_right hfirst

end

/-! ## A connected call that fails in between -/

/-- A call the native provider has accepted. -/
def acceptedCall : ClaimState where
  db :=
    { campaigns := AList.insert 1 { status := .active } ∅
      contacts := AList.insert 1
        { campaignId := 1, normalizedPhoneNumber := "+919876543210",
          status := .dialing, attemptCount := 1 } ∅
      attempts := AList.insert 0
        { contactId := 1, attemptNumber := 1, state := .initiated,
          provider := some "mock", providerCallId := some "call-1",
          startedAt := noon } ∅ }

def connectedReport : CallStatusPayload := ⟨"event-1", "call-1", "connected", none⟩

def failedReport : CallStatusPayload :=
  ⟨"event-2", "call-1", "failed", some "network_error"⟩

/-- One delivery from its first look to its commit. -/
def fromLoad (i : Nat) : List ClaimAct :=
  [.load i, .flush i, .claim i, .commit i]

/-- "connected" is delivered twice at a time, then the call fails; the
second delivery of "connected" comes last to its claim. -/
def crossedReports : List ClaimAct :=
  ([.begin_ 1 (.callStatus connectedReport) noon,
    .begin_ 2 (.callStatus connectedReport) noon, .load 2] : List ClaimAct) ++
  fromLoad 1 ++
  ([.begin_ 3 (.callStatus failedReport) noon] : List ClaimAct) ++
  fromLoad 3 ++
  ([.flush 2, .claim 2, .commit 2] : List ClaimAct)

/-- The second delivery is answered `already_processed`, and the attempt
that had failed is connected again. -/
theorem crossedReports_overwrite :
    ∃ h : ClaimHistory,
      runActs (historyStep dograhEnv) ⟨acceptedCall, []⟩ crossedReports
        = some h ∧
      ¬ h.Kept ∧
      h.quiet.head?.map (fun r => (r.1.db.attempt 0).map (·.state))
        = some (some .failedToConnect) ∧
      (h.state.db.attempt 0).map (·.state) = some .connected := by
  have h : (runActs (historyStep dograhEnv) ⟨acceptedCall, []⟩
      crossedReports).any (fun h =>
        h.quiet.head?.any (fun r =>
            (r.1.db.attempt 0).any (·.state == .failedToConnect)
            && (r.2.db.attempt 0).any (·.state == .connected))
          && (h.state.db.attempt 0).any (·.state == .connected)) = true := by
    decide +kernel
  obtain ⟨h, hrun, hsaw⟩ := (Option.any_eq_true _ _).mp h
  simp only [Bool.and_eq_true, Option.any_eq_true, beq_iff_eq] at hsaw
  obtain ⟨⟨r, hr, ⟨a, ha, hstate⟩, ⟨a', ha', hstate'⟩⟩, ⟨b, hb, hlast⟩⟩ := hsaw
  refine ⟨h, hrun, fun hkept => ?_, by simp [hr, ha, hstate],
    by simp [hb, hlast]⟩
  have hsame := (hkept r (List.mem_of_mem_head? hr)).rows.attempts 0
  rw [ha, ha'] at hsame
  cases hsame
  rw [hstate] at hstate'
  cases hstate'

/-- The same deliveries one after the other: the second "connected" is
answered at once, and nothing is lost. -/
theorem serialReports_kept :
    ∃ h : ClaimHistory,
      runActs (historyStep dograhEnv) ⟨acceptedCall, []⟩
        ([.begin_ 1 (.callStatus connectedReport) noon] ++ fromLoad 1 ++
          [.begin_ 3 (.callStatus failedReport) noon] ++ fromLoad 3 ++
          [.begin_ 2 (.callStatus connectedReport) noon, .commit 2])
        = some h ∧
      h.Kept ∧ (h.state.db.attempt 0).map (·.state) = some .failedToConnect := by
  have h : holdsAlong (historyStep dograhEnv) ClaimHistory.harmless
      ⟨acceptedCall, []⟩
      (([.begin_ 1 (.callStatus connectedReport) noon] :
        List ClaimAct) ++ fromLoad 1 ++
        ([.begin_ 3 (.callStatus failedReport) noon] :
          List ClaimAct) ++ fromLoad 3 ++
        ([.begin_ 2 (.callStatus connectedReport) noon, .commit 2] :
          List ClaimAct)) = true ∧
      (runActs (historyStep dograhEnv) ⟨acceptedCall, []⟩
        (([.begin_ 1 (.callStatus connectedReport) noon] :
          List ClaimAct) ++ fromLoad 1 ++
          ([.begin_ 3 (.callStatus failedReport) noon] :
            List ClaimAct) ++ fromLoad 3 ++
          ([.begin_ 2 (.callStatus connectedReport) noon, .commit 2] :
            List ClaimAct))).any
        (fun h => (h.state.db.attempt 0).map (·.state)
          == some .failedToConnect) = true := by
    decide +kernel
  obtain ⟨hharmless, hsaw⟩ := h
  obtain ⟨h, hrun, hlast⟩ := (Option.any_eq_true _ _).mp hsaw
  exact ⟨h, hrun, (alreadyProcessed_unchanged_iff _ _ _ _ hrun).mpr hharmless,
    beq_iff_eq.mp hlast⟩

end CallingAgent
