import CallingAgent.Services.DograhWebhook

/-!
# The contact after a delivery — what the completion webhook leaves of it

A processed delivery reopens the contact of a provisional failure, honours
an opt-out, and then completes the contact or hands it to the recovery
manager. This is the contact it leaves, exactly.
-/

namespace CallingAgent

open Lib

section

variable (env : Env) (db : Db) (p : DograhWebhookPayload)
  (w : AcceptedWebhook) (now : Instant)

/-- The delivery carries an opt-out. -/
def DograhWebhookPayload.optsOut : Bool :=
  isOptOut env p.callDisposition p.mappedCallDisposition
    env.settings.dograhOptOutDispositions

/-- The contact before the recovery manager is asked, if it is. -/
def AcceptedWebhook.handedContact (optedOut : Bool) : Contact :=
  let c := if w.unresolved then reopenContact w.contact else w.contact
  if optedOut then { c with status := .closed }
  else match w.outcome.state with
    | .failedToConnect => c
    | .droppedMidCall => { c with status := .disconnected }
    | _ => { c with status := .completed }

/-- What the manager is asked about. -/
def AcceptedWebhook.disconnect : Disconnect where
  attemptId := w.aid
  attemptNumber := w.attempt.attemptNumber
  neverConnected := w.outcome.state == .failedToConnect
  reasonKey := w.outcome.reasonKey.getD <|
    match w.outcome.state with
    | .failedToConnect => (w.outcome.neverConnectedReason.map (·.value)).getD ""
    | _ => (w.outcome.midCallReason.map (·.value)).getD ""

/-- The session's database when the manager is asked. -/
def outcomeDb : Db :=
  let r := openOutcome env db p w (p.optsOut env)
  let db := r.1.setAttempt w.aid
    (endAttempt w.outcome now (identifyRun p w.unresolved w.attempt))
  match w.outcome.state with
  | .droppedMidCall => (db.insertSession w.aid).setContact w.attempt.contactId
      (w.handedContact (p.optsOut env))
  | _ => db

/-- The manager's answer. -/
def AcceptedWebhook.recovery : RecoveryEffect :=
  handleDisconnect env (outcomeDb env db p w now) w.attempt.contactId
    (w.handedContact (p.optsOut env)) w.campaign w.disconnect now

end

section

variable {env : Env} {db : Db} {p : DograhWebhookPayload}
  {w : AcceptedWebhook} {now : Instant} {step : WebhookStep}

theorem openOutcome_contact (optedOut : Bool) :
    (openOutcome env db p w optedOut).2 =
      if optedOut = true then
        { (if w.unresolved then reopenContact w.contact else w.contact) with
          status := .closed }
      else if w.unresolved then reopenContact w.contact else w.contact := by
  cases optedOut <;> rfl

/-- **What a processed delivery leaves of its contact**: a call that ended
normally completes it, and any other outcome is the manager's decision. -/
theorem applyWebhook_contact (hf : w.Found env db p)
    (h : applyWebhook env db p w now = .ok step) :
    if w.outcome.state = .endedNormally then
      step.entry = none ∧ step.db.contact w.attempt.contactId
        = some (w.handedContact (p.optsOut env))
    else
      step.entry = (w.recovery env db p now).entry ∧
        step.db.contact w.attempt.contactId
          = some (w.recovery env db p now).contact := by
  have hwf : w.outcome.WellFormed := by
    rw [hf.outcome]; exact classifyCallOutcome_wellFormed ..
  have hsome : ∃ b, (openOutcome env db p w (p.optsOut env)).1.contact
      w.attempt.contactId = some b := by
    have hspec := openOutcome_spec env db p w (p.optsOut env)
    exact Option.isSome_iff_exists.mp (hspec.contact (by simp [hf.contact]))
  have hcopy := @openOutcome_contact env db p w (p.optsOut env)
  simp only [applyWebhook] at h
  rw [show isOptOut env p.callDisposition p.mappedCallDisposition
    env.settings.dograhOptOutDispositions = p.optsOut env from rfl] at h
  simp only [AcceptedWebhook.recovery, outcomeDb, AcceptedWebhook.disconnect,
    AcceptedWebhook.handedContact]
  generalize p.optsOut env = optedOut at h hsome hcopy ⊢
  generalize openOutcome env db p w optedOut = r at h hsome hcopy ⊢
  generalize (if w.unresolved then reopenContact w.contact else w.contact)
    = c₁ at h hcopy ⊢
  obtain ⟨db₀, c₀⟩ := r
  obtain ⟨b, hb⟩ := hsome
  dsimp only at h hb hcopy
  subst hcopy
  rcases hwf.state with hs | hs | hs
  · obtain ⟨reason, hreason⟩ :=
      Option.isSome_iff_exists.mp (hwf.neverConnected hf.final hs)
    simp only [hs, hreason] at h ⊢
    obtain rfl := Except.ok.inj h
    simp [recoverOutcome, Db.contact_setContact, hb]
  · obtain ⟨reason, hreason⟩ := Option.isSome_iff_exists.mp (hwf.midCall hs)
    simp only [hs, hreason] at h ⊢
    split at h
    · cases h
    obtain rfl := Except.ok.inj h
    have hnever : (CallAttemptState.droppedMidCall == .failedToConnect)
        = false := rfl
    cases optedOut <;>
      simp [recoverOutcome, Db.contact_setContact, hb, hnever]
  · simp only [hs] at h ⊢
    split at h
    · cases h
    obtain rfl := Except.ok.inj h
    cases optedOut <;> simp [Db.contact_setContact, hb]

/-- The manager leaves a reopened contact closed exactly if the report of the
failure opts out. -/
theorem recovery_closed_iff (hu : w.unresolved = true)
    (hnever : w.outcome.state = .failedToConnect) :
    (w.recovery env db p now).contact.status = .closed
      ↔ p.optsOut env = true := by
  unfold AcceptedWebhook.recovery
  cases p.optsOut env with
  | true =>
      rw [handleDisconnect_suppressed (.inl rfl)]
      exact ⟨fun _ => rfl, fun _ => rfl⟩
  | false =>
      have hopen : (w.handedContact false).status = .dialing := by
        unfold AcceptedWebhook.handedContact
        rw [hu, hnever]
        rfl
      rcases (@handleDisconnect_shape env (outcomeDb env db p w now)
        w.attempt.contactId (w.handedContact false) w.campaign w.disconnect
        now).outcome with ⟨h, -⟩ | ⟨h, -⟩ | ⟨_, h, -⟩
      · rw [h, hopen]
        simp
      · rw [h]
        simp
      · rw [h]
        simp

theorem isSome_setContact {k c : ContactId} {row : Contact} :
    ((db.setContact k row).contact c).isSome = (db.contact c).isSome := by
  rw [Db.contact_setContact]
  split <;> simp

theorem isSome_modifyContact {k c : ContactId} {f : Contact → Contact} :
    ((db.modifyContact k f).contact c).isSome = (db.contact c).isSome := by
  rw [Db.contact_modifyContact]
  split <;> simp

end

/-! ## By the kind of the outcome -/

section

variable (env : Env) (db : Db) (p : DograhWebhookPayload)
  (w : AcceptedWebhook) (now : Instant)

/-- The session's database once the attempt is written. -/
def endedDb : Db :=
  (openOutcome env db p w (p.optsOut env)).1.setAttempt w.aid
    (endAttempt w.outcome now (identifyRun p w.unresolved w.attempt))

/-- Its copy of the contact then. -/
def AcceptedWebhook.openedContact : Contact :=
  (openOutcome env db p w (p.optsOut env)).2

/-- Without an opt-out the contact gets the status of a call that connected. -/
def AcceptedWebhook.connectedContact (status : ContactStatus) : Contact :=
  if p.optsOut env then w.openedContact env db p
  else { w.openedContact env db p with status }

/-- What applying a delivery does. -/
inductive WebhookApplied : WebhookStep → Prop where
  | neverConnected {reason : NeverConnectedFailureReason}
      (state : w.outcome.state = .failedToConnect)
      (known : w.outcome.neverConnectedReason = some reason) :
      WebhookApplied (recoverOutcome env (endedDb env db p w now) w
        (w.openedContact env db p) true
        (w.outcome.reasonKey.getD reason.value) .neverConnected now)
  | droppedMidCall {reason : MidCallDisconnectReason}
      (state : w.outcome.state = .droppedMidCall)
      (known : w.outcome.midCallReason = some reason) :
      WebhookApplied (recoverOutcome env
        (((endedDb env db p w now).insertSession w.aid).setContact
          w.attempt.contactId (w.connectedContact env db p .disconnected)) w
        (w.connectedContact env db p .disconnected) false
        (w.outcome.reasonKey.getD reason.value) .droppedMidCall now)
  | endedNormally (failed : w.outcome.state ≠ .failedToConnect)
      (dropped : w.outcome.state ≠ .droppedMidCall) :
      WebhookApplied
        { outcome := .endedNormally
          db := ((endedDb env db p w now).insertSession w.aid).setContact
            w.attempt.contactId (w.connectedContact env db p .completed)
          entry := none }

end

section

variable {env : Env} {db : Db} {p : DograhWebhookPayload}
  {w : AcceptedWebhook} {now : Instant} {step : WebhookStep}

/-- **A delivery that is applied** does what its kind of outcome does. -/
theorem applyWebhook_applied (h : applyWebhook env db p w now = .ok step) :
    WebhookApplied env db p w now step := by
  simp only [applyWebhook] at h
  rw [show isOptOut env p.callDisposition p.mappedCallDisposition
    env.settings.dograhOptOutDispositions = p.optsOut env from rfl] at h
  split at h
  · next state =>
    split at h
    · cases h
    · next reason known =>
      cases h
      exact .neverConnected state known
  · next state =>
    split at h
    · cases h
    · split at h
      · cases h
      · next reason known =>
        cases h
        exact .droppedMidCall state known
  · next failed dropped =>
    split at h
    · cases h
    · cases h
      exact .endedNormally failed dropped

/-- No delivery creates or deletes a contact. -/
theorem applyWebhook_isSome {c : ContactId}
    (h : applyWebhook env db p w now = .ok step) :
    (step.db.contact c).isSome = (db.contact c).isSome := by
  have hended : ((endedDb env db p w now).contact c).isSome
      = (db.contact c).isSome := by
    unfold endedDb
    cases p.optsOut env with
    | false => exact isSome_setContact
    | true => exact isSome_modifyContact.trans isSome_setContact
  cases applyWebhook_applied h with
  | neverConnected => exact isSome_setContact.trans hended
  | droppedMidCall =>
      exact (isSome_setContact.trans isSome_setContact).trans hended
  | endedNormally => exact isSome_setContact.trans hended

/-- Without an opt-out nothing is suppressed. -/
theorem outcomeDb_suppressions (h : p.optsOut env = false) :
    (outcomeDb env db p w now).suppressions = db.suppressions := by
  unfold outcomeDb
  rw [h]
  dsimp only
  split <;> rfl

/-- An opt-out leaves the contact closed, and the manager with it. -/
theorem retryAllowed_optsOut (h : p.optsOut env = true) (db : Db) :
    retryAllowed env db w.attempt.contactId (w.handedContact (p.optsOut env))
      w.campaign w.disconnect = false := by
  simp [retryAllowed, AcceptedWebhook.handedContact, h]

/-- Only a reopened contact of a suppressed number is left dialing. -/
theorem handedContact_dialing (optedOut : Bool)
    (h : (w.handedContact optedOut).status = .dialing) :
    optedOut = false ∧ w.outcome.state = .failedToConnect ∧
      (w.unresolved = false → w.contact.status = .dialing) := by
  cases optedOut with
  | true => simp [AcceptedWebhook.handedContact] at h
  | false =>
      refine ⟨rfl, ?_⟩
      unfold AcceptedWebhook.handedContact at h
      cases hs : w.outcome.state <;> simp only [hs] at h <;>
        cases hu : w.unresolved <;> simp_all [reopenContact]

theorem handedContact_phone (optedOut : Bool) :
    (w.handedContact optedOut).normalizedPhoneNumber
      = w.contact.normalizedPhoneNumber := by
  unfold AcceptedWebhook.handedContact
  cases optedOut <;> cases w.unresolved <;> cases w.outcome.state <;> rfl

/-- A contact that waits for a retry is handed over as it was found. -/
theorem handedContact_waiting (optedOut : Bool)
    (h : (w.handedContact optedOut).status = .retryScheduled) :
    w.handedContact optedOut = w.contact := by
  unfold AcceptedWebhook.handedContact at h ⊢
  cases optedOut <;> cases hu : w.unresolved <;> cases hs : w.outcome.state <;>
    simp_all [reopenContact]

end

end CallingAgent
