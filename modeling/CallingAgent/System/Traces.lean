import CallingAgent.System.Outcomes

/-!
# Traces — events and sessions only come in addition

No step of the system removes an event or a conversation session. A session
is added for the attempt whose outcome a webhook brings, and for one that
the native provider has connected.
-/

namespace CallingAgent

open Lib

/-- Events stay, and what sessions are added are of the attempts `P`. -/
structure Db.Appends (P : AttemptId → Prop) (db db' : Db) : Prop where
  events : db.events <:+ db'.events
  sessions : ∀ a ∈ db'.sessions, a ∈ db.sessions ∨ P a

namespace Db.Appends

variable {P Q : AttemptId → Prop} {db db' db'' : Db}

theorem same (he : db'.events = db.events) (hs : db'.sessions = db.sessions) :
    Db.Appends P db db' :=
  ⟨he ▸ List.suffix_rfl, fun _ ha => Or.inl (hs ▸ ha)⟩

theorem refl (db : Db) : Db.Appends P db db := same rfl rfl

theorem trans (h : Db.Appends P db db') (h' : Db.Appends P db' db'') :
    Db.Appends P db db'' where
  events := h.events.trans h'.events
  sessions a ha := (h'.sessions a ha).elim (h.sessions a) Or.inr

theorem mono (h : Db.Appends P db db') (hPQ : ∀ a, P a → Q a) :
    Db.Appends Q db db' :=
  ⟨h.events, fun a ha => (h.sessions a ha).imp_right (hPQ a)⟩

theorem log (h : Db.Appends P db db') (a : AttemptId) (ty : EventType)
    (t : Instant) : Db.Appends P db (db'.logEvent a ty t) :=
  ⟨h.events.trans (List.suffix_cons _ _), h.sessions⟩

theorem contact (h : Db.Appends P db db') (c : ContactId)
    (f : Contact → Contact) : Db.Appends P db (db'.modifyContact c f) :=
  ⟨h.events, h.sessions⟩

theorem setContact (h : Db.Appends P db db') (c : ContactId) (row : Contact) :
    Db.Appends P db (db'.setContact c row) :=
  ⟨h.events, h.sessions⟩

theorem attempt (h : Db.Appends P db db') (a : AttemptId)
    (f : CallAttempt → CallAttempt) : Db.Appends P db (db'.modifyAttempt a f) :=
  ⟨h.events, h.sessions⟩

theorem setAttempt (h : Db.Appends P db db') (a : AttemptId)
    (row : CallAttempt) : Db.Appends P db (db'.setAttempt a row) :=
  ⟨h.events, h.sessions⟩

theorem session (h : Db.Appends P db db') {a : AttemptId} (hp : P a) :
    Db.Appends P db (db'.insertSession a) := by
  refine ⟨h.events, fun k hk => ?_⟩
  rcases List.mem_cons.mp hk with rfl | hk
  · exact Or.inr hp
  · exact h.sessions k hk

theorem hasEvent (h : Db.Appends P db db') {a : AttemptId} {ty : EventType}
    (he : db.hasEvent a ty = true) : db'.hasEvent a ty = true := by
  obtain ⟨e, hmem, hp⟩ := List.any_eq_true.mp he
  exact List.any_eq_true.mpr ⟨e, h.events.mem hmem, hp⟩

end Db.Appends

section

variable {P : AttemptId → Prop} {env : Env} {db db' : Db} {now : Instant}

/-! ## Services -/

theorem updateCampaign_appends {c : CampaignId} {data : CampaignUpdate}
    (h : updateCampaign db c data = .ok db') : Db.Appends P db db' := by
  have hframe : ∃ f, db' = db.modifyCampaign c f := by
    unfold updateCampaign at h
    grind
  obtain ⟨f, rfl⟩ := hframe
  exact .same rfl rfl

theorem associate_appends {c : CampaignId} {contact : ContactId}
    (h : associate env db c contact = .ok db') : Db.Appends P db db' := by
  rcases associate_ok h with rfl | ⟨_, _, _, _, _, _, rfl⟩
  · exact .refl _
  · exact .same rfl rfl

theorem removeContact_appends {c : CampaignId} {contact : ContactId}
    (h : removeContact db c contact = .ok db') : Db.Appends P db db' := by
  have hframe : ∃ f, db' = db.modifyContact contact f := by
    unfold removeContact at h
    grind
  obtain ⟨f, rfl⟩ := hframe
  exact .same rfl rfl

theorem deactivateContact_appends {contact : ContactId}
    (h : deactivateContact db contact = .ok db') : Db.Appends P db db' := by
  have hframe : ∃ f, db' = db.modifyContact contact f := by
    unfold deactivateContact at h
    grind
  obtain ⟨f, rfl⟩ := hframe
  exact .same rfl rfl

theorem createContact_appends {c : CampaignId} {number : String}
    (h : createContact env db c number = .ok db') : Db.Appends P db db' := by
  have hframe : ∃ row, db' = db.insertContact row := by
    unfold createContact at h
    grind
  obtain ⟨row, rfl⟩ := hframe
  exact .same rfl rfl

theorem insertNumbers_appends (c : CampaignId) (numbers : List String)
    (db : Db) :
    Db.Appends P db (numbers.foldl (fun db n => db.insertContact
      { campaignId := c, normalizedPhoneNumber := n }) db) := by
  induction numbers generalizing db with
  | nil => exact .refl db
  | cons n numbers ih =>
      have hone : Db.Appends P db (db.insertContact
          { campaignId := c, normalizedPhoneNumber := n }) := .same rfl rfl
      exact hone.trans (ih _)

theorem importContacts_appends {numbers : List String}
    (h : importContacts env db numbers = .ok db') : Db.Appends P db db' := by
  unfold importContacts at h
  split at h
  · cases h
  · split at h
    · cases h
      exact .refl db
    · cases h
      have hcampaign : Db.Appends P db (db.insertCampaign
          { timezone := env.settings.defaultTimezone
            defaultRegion := env.settings.defaultRegion }
          (buildDefaultPolicy env.settings)) :=
        .same rfl rfl
      exact hcampaign.trans (insertNumbers_appends ..)

theorem addSuppression_appends {number : String} {reason : Option String}
    {contact : Option ContactId} {actor : String}
    (h : addSuppression env db number reason contact actor = .ok db') :
    Db.Appends P db db' := by
  have hframe : ∃ t, db' = db.setSuppressions t := by
    unfold addSuppression at h
    grind
  obtain ⟨t, rfl⟩ := hframe
  exact .same rfl rfl

theorem erase_appends {fingerprint : String → String}
    {subject : ErasureSubject} {suppress : Bool} {actor : String}
    (h : erase env fingerprint db subject suppress actor now = .ok db') :
    Db.Appends P db db' := by
  unfold erase at h
  split at h
  · cases h
  · cases h
    exact .refl db
  · split at h
    · cases h
    · cases h
      exact .same rfl rfl

theorem callStatus_appends {p : CallStatusPayload}
    (h : processCallStatus db p now = .ok db') : Db.Appends P db db' := by
  have hrows : ∀ {aid : AttemptId} {a : CallAttempt} {db₀ : Db},
      callStatusRows db aid a p now = .ok db₀ → Db.Appends P db db₀ := by
    intro aid a db₀ h
    unfold callStatusRows at h
    split at h
    · cases h
      exact .same rfl rfl
    · split at h
      · split at h
        · cases h
          exact .same rfl rfl
        · split at h <;> cases h
          exact .same rfl rfl
      · cases h
  unfold processCallStatus at h
  split at h
  · cases h
    exact .refl db
  split at h
  · cases h
  split at h
  · cases h
  split at h
  · cases h
  next aid _ _ a _ _ =>
  cases hr : callStatusRows db aid a p now with
  | error e => rw [hr] at h; cases h
  | ok db₀ =>
      rw [hr] at h
      cases h
      exact (hrows hr).trans (.same rfl rfl)

theorem markForReview_appends {aid : AttemptId} {a : CallAttempt} :
    Db.Appends P db (markForReview db aid a now) := by
  unfold markForReview
  split
  · exact ((Db.Appends.refl db).contact _ _).log _ _ _
  · exact ((((Db.Appends.refl db).attempt _ _).log _ _ _).contact _ _).log _ _ _

theorem disconnectRows_appends {aid : AttemptId} {c : ContactId}
    {reason : MidCallDisconnectReason} :
    Db.Appends P db (Conversation.disconnectRows env db aid c reason now).1 := by
  unfold Conversation.disconnectRows
  dsimp only
  split
  · split
    · exact (((Db.Appends.refl db).log _ _ _).attempt _ _).contact _ _
    · exact (((((Db.Appends.refl db).log _ _ _).attempt _ _).contact _ _
        ).setContact _ _).log _ _ _
  · exact (((Db.Appends.refl db).log _ _ _).attempt _ _).contact _ _

/-- A webhook that is applied opens a session for its attempt alone. -/
theorem applyWebhook_appends {p : DograhWebhookPayload} {w : AcceptedWebhook}
    {step : WebhookStep} (hp : P w.aid)
    (h : applyWebhook env db p w now = .ok step) :
    Db.Appends P db step.db := by
  have hopen : Db.Appends P db (openOutcome env db p w (p.optsOut env)).1 := by
    cases p.optsOut env <;> exact .same rfl rfl
  have hended : Db.Appends P db (endedDb env db p w now) :=
    hopen.setAttempt w.aid
      (endAttempt w.outcome now (identifyRun p w.unresolved w.attempt))
  cases applyWebhook_applied h with
  | neverConnected => exact (hended.setContact _ _).log _ _ _
  | droppedMidCall =>
      exact (((hended.session hp).setContact _ _).setContact _ _).log _ _ _
  | endedNormally => exact (hended.session hp).setContact _ _

/-! ## Workers -/

theorem recordTriggerFailure_appends {aid : AttemptId}
    {loaded : Option CallAttempt} {c : ContactId} {contact : Contact}
    {event : EventType} {failure : TriggerFailure} {txStart : Instant} :
    Db.Appends P db (recordTriggerFailure env db aid loaded c contact event
      failure txStart now).1 := by
  have hfail := ((Db.Appends.refl (P := P) db).attempt aid
    (failAttempt loaded now)).log aid event txStart
  unfold recordTriggerFailure
  dsimp only
  split
  · exact (hfail.contact _ _).log _ _ _
  · exact hfail

theorem acceptTrigger_appends {aid : AttemptId} {run : Nat} {txStart : Instant}
    (h : acceptTrigger db aid run txStart = some db') : Db.Appends P db db' := by
  unfold acceptTrigger at h
  split at h <;> cases h
  exact ((Db.Appends.refl db).attempt _ _).log _ _ _

theorem resolveFoundRuns_appends {aid : AttemptId}
    {loaded : Option CallAttempt} {runs : List Nat} {o : JobOutcome}
    {txStart : Instant}
    (h : resolveFoundRuns db aid loaded txStart runs = some (o, db')) :
    Db.Appends P db db' := by
  unfold resolveFoundRuns at h
  split at h
  · obtain ⟨db₀, hadopt, heq⟩ := Option.map_eq_some_iff.mp h
    cases heq
    unfold adoptRun at hadopt
    split at hadopt <;> cases hadopt
    exact ((Db.Appends.refl db).attempt _ _).log _ _ _
  · cases h
    exact (Db.Appends.refl db).log _ _ _

theorem secondGate_appends {job : DialJob} {previous : AttemptId}
    {view : DialView} {lookup : LookupResult} {txStart : Instant}
    {o : JobOutcome}
    (h : secondGate env db job previous view lookup txStart = .stop o db') :
    Db.Appends P db db' := by
  unfold secondGate at h
  split at h
  · cases h
    unfold deferOrExpire
    split
    · exact (Db.Appends.refl db).contact _ _
    · exact .same rfl rfl
  · split at h
    · cases h
    · split at h
      · cases h
        exact .refl db
      · split at h
        · cases h
        · dsimp only at h
          split at h
          · cases h
          · next hres =>
            cases h
            exact (((Db.Appends.refl db).attempt _ _).contact _ _).trans
              (resolveFoundRuns_appends hres)

theorem claimAttempt_appends {job : DialJob} {view : DialView}
    {txStart : Instant} {aid : AttemptId} {prior : Prior}
    (h : claimAttempt env db job view txStart now = .claimed aid prior db') :
    Db.Appends P db db' := by
  unfold claimAttempt at h
  dsimp only at h
  split at h
  · cases h
    exact (((Db.Appends.refl db).attempt _ _).log _ _ _).contact _ _
  · split at h
    · split at h <;> cases h
      exact (Db.Appends.refl db).contact _ _
    · cases h
      have hone : Db.Appends P db (db.insertAttempt
          { contactId := job.contactId, attemptNumber := job.attemptNumber,
            state := .initiated, startedAt := txStart }) :=
        .same rfl rfl
      exact hone.contact _ _

/-- The attempt is connected, where there is one. -/
def Db.connected (db : Db) (a : AttemptId) : Prop :=
  ∀ y, db.attempt a = some y → y.state = .connected

/-- The native provider opens a session for the attempt it connects. -/
theorem placeNative_appends {provider : String} {aid : AttemptId}
    {c : ContactId} {result : ProviderCallResult} {starts : Bool}
    {txStart : Instant} :
    Db.Appends
      (placeNative env db provider aid c result starts txStart now).1.connected
      db (placeNative env db provider aid c result starts txStart now).1 := by
  unfold placeNative
  split
  · cases starts with
    | false => exact ((Db.Appends.refl db).attempt _ _).contact _ _
    | true =>
        refine (((Db.Appends.refl db).attempt _ _).contact _ _).session ?_
        intro y hy
        have hy : ((db.modifyAttempt aid fun a =>
            { a with provider := some provider,
                     providerCallId := result.providerCallId,
                     state := .connected }).attempt aid) = some y := hy
        rw [Db.attempt_modifyAttempt, if_pos rfl] at hy
        obtain ⟨_, _, rfl⟩ := Option.map_eq_some_iff.mp hy
        rfl
  · dsimp only
    split
    · split
      · exact (Db.Appends.refl db).attempt _ _
      · exact (((Db.Appends.refl db).attempt _ _).setContact _ _).log _ _ _
    · exact (Db.Appends.refl db).attempt _ _

theorem holdForProviderHalt_appends {aid : AttemptId} {c : ContactId}
    {contact : Contact} {prior : Prior} {txStart : Instant} :
    Db.Appends P db
      (holdForProviderHalt db aid c contact prior txStart now) := by
  have hrows := (((Db.Appends.refl (P := P) db).attempt aid
    (failAttempt none now)).log aid heldEventType txStart).contact c
      (contact.flush { contact with status := prior.status,
                                    attemptCount := prior.attemptCount })
  exact ⟨hrows.events, hrows.sessions⟩

theorem nativeStep_appends {s : System} {x : Worker} {aid : AttemptId}
    {claimed : Db} {native : NativeAnswer} {commits : Bool}
    (h : Db.Appends P s.db claimed)
    (hP : ∀ a, (nativeStep env s x claimed aid native commits).db.connected a →
      P a) :
    Db.Appends P s.db (nativeStep env s x claimed aid native commits).db := by
  unfold nativeStep at hP ⊢
  split
  · exact .refl _
  · next r hr =>
    cases commits with
    | false => exact .refl _
    | true =>
        rw [hr] at hP
        exact h.trans (placeNative_appends.mono hP)

/-- A worker opens sessions for connected attempts alone. -/
theorem workerStep_appends {s : System} {x : Worker} {wact : WorkerAct}
    {r : WorkerStep} (h : workerStep env s x wact = some r) :
    Db.Appends r.db.connected s.db r.db := by
  cases wact with
  | early reads =>
      cases hp : x.phase <;> simp [workerStep, hp] at h
      subst h
      unfold earlyStep
      repeat' split
      all_goals exact .refl _
  | acquire =>
      cases hp : x.phase <;> simp [workerStep, hp] at h
      obtain ⟨_, rfl⟩ := h
      exact .refl _
  | check =>
      cases hp : x.phase <;> simp [workerStep, hp] at h
      subst h
      unfold checkStep
      split <;> exact .refl _
  | secondLookup result =>
      cases hp : x.phase <;> simp [workerStep, hp] at h
      subst h
      unfold secondLookupStep
      split
      · next hg => exact secondGate_appends hg
      · exact .refl _
      · exact .refl _
  | gate reads native commits =>
      cases hp : x.phase <;> simp [workerStep, hp] at h
      subst h
      unfold gateStep
      split
      · exact .refl _
      · exact .refl _
      · split
        · exact .refl _
        · next hc =>
          split
          · exact claimAttempt_appends hc
          · exact nativeStep_appends (claimAttempt_appends hc) fun _ h => h
  | notConfigured haltWritable =>
      cases hp : x.phase <;> simp [workerStep, hp] at h
      subst h
      unfold notConfiguredStep
      split
      · exact .refl _
      · split
        · exact holdForProviderHalt_appends
        · exact .refl _
  | send =>
      cases hp : x.phase <;> simp [workerStep, hp] at h
      subst h
      unfold sendStep
      split <;> exact .refl _
  | answer response streak haltWritable commits =>
      cases hp : x.phase <;> simp [workerStep, hp] at h
      obtain ⟨_, rfl⟩ := h
      unfold answerStep
      split
      · split
        · next ha => exact acceptTrigger_appends ha
        · exact .refl _
      · split
        · exact holdForProviderHalt_appends
        · exact .refl _
      · exact .refl _
      · cases commits with
        | false => exact .refl _
        | true => exact recordTriggerFailure_appends
  | firstLookup result commits =>
      cases hp : x.phase <;> simp [workerStep, hp] at h
      subst h
      unfold firstLookupStep
      split
      · split
        · next hr => exact resolveFoundRuns_appends hr
        · exact .refl _
      · cases commits with
        | false => exact .refl _
        | true => exact recordTriggerFailure_appends
  | settle =>
      cases hp : x.phase <;> simp [workerStep, hp] at h
      · subst h
        exact .refl _
      · subst h
        exact .refl _
  | crash =>
      cases h
      exact .refl _

/-! ## One step -/

theorem dispatchEntry_appends {r : Redis} {e : ScheduleEntry} {jobId : Nat} :
    Db.Appends P db (dispatchEntry env db r e jobId now).1 := by
  have hrow := fun (c : ContactId) (f : Contact → Contact) =>
    (Db.Appends.refl (P := P) db).contact c f
  cases e with
  | dial job => exact .refl _
  | retry job =>
      unfold dispatchEntry dispatchRetry
      dsimp only
      split
      · exact .refl _
      · exact .refl _
      · exact (hrow _ _).log _ _ _
      · exact (hrow _ _).log _ _ _
      · split
        · exact hrow _ _
        · exact (hrow _ _).log _ _ _
        · exact (hrow _ _).log _ _ _

/-- A committed transaction of another process. -/
theorem serviceStep_appends {op : ServiceOp}
    {r : Db × Option (RecoveryJob × Instant)}
    (h : serviceStep env db now op = some r)
    (hP : ∀ p step aid, op = .dograhWebhook p →
      processDograhWebhook env db p now = .ok step →
      step.outcome.final = true → env.uuid.parse p.callAttemptId = some aid →
      P aid) : Db.Appends P db r.1 := by
  cases op with
  | updateCampaign c data => exact updateCampaign_appends (toOption_map_some h)
  | associate c contact => exact associate_appends (toOption_map_some h)
  | removeContact c contact => exact removeContact_appends (toOption_map_some h)
  | deactivateContact contact => exact deactivateContact_appends (toOption_map_some h)
  | createContact c number => exact createContact_appends (toOption_map_some h)
  | importContacts numbers => exact importContacts_appends (toOption_map_some h)
  | addSuppression number reason contact actor =>
      have hadded := toOption_map_some h
      exact addSuppression_appends hadded
  | erase fingerprint subject suppress actor => exact erase_appends (toOption_map_some h)
  | dograhWebhook p =>
      obtain ⟨step, hp, rfl⟩ := Option.map_eq_some_iff.mp h
      have hp := ok_of_toOption hp
      unfold processDograhWebhook at hp
      cases ha : admitWebhook env db p with
      | rejected e => rw [ha] at hp; cases hp
      | answered o =>
          rw [ha] at hp
          cases hp
          exact .refl _
      | accepted w =>
          rw [ha] at hp
          have hf := admitWebhook_accepted ha
          refine applyWebhook_appends (hP p step w.aid rfl ?_
            (applyWebhook_spec hf hp).final hf.aid) hp
          rw [processDograhWebhook, ha]
          exact hp
  | callStatus p => exact callStatus_appends (toOption_map_some h)
  | sweep reads aid =>
      obtain ⟨db₁, hs, rfl⟩ := Option.map_eq_some_iff.mp h
      unfold sweepAttempt at hs
      split at hs
      · cases hs
      · split at hs
        · cases hs
        · split at hs
          · cases hs
          · split at hs <;> cases hs
            exact markForReview_appends
  | conversationOptOut aid =>
      obtain ⟨a, _, h⟩ := Option.bind_eq_some_iff.mp h
      obtain ⟨contact, _, rfl⟩ := Option.map_eq_some_iff.mp h
      exact .same rfl rfl
  | conversationEnds aid reason pendingPoints =>
      obtain ⟨a, _, rfl⟩ := Option.map_eq_some_iff.mp h
      exact (((Db.Appends.refl db).log _ _ _).attempt _ _).contact _ _
  | conversationDrops aid reason =>
      obtain ⟨a, _, rfl⟩ := Option.map_eq_some_iff.mp h
      exact disconnectRows_appends
  | setControls controls =>
      cases h
      exact .same rfl rfl

/-- **Events and sessions along a step.** The events so far stay, and a
session that is new is that of an attempt whose final outcome the step
brings, or of one that is connected. -/
theorem systemStep_appends {s s' : System} {act : SystemAct}
    (h : systemStep env s act = some s') :
    Db.Appends (fun a => finalizedBy env s act = some a ∨ s'.db.connected a)
      s.db s'.db := by
  cases act with
  | read w m startedAt =>
      simp only [systemStep] at h
      split at h
      · obtain ⟨job, _, rfl⟩ := Option.map_eq_some_iff.mp h
        exact .refl _
      · cases h
  | worker w wact =>
      obtain ⟨k, _, h⟩ := Option.bind_eq_some_iff.mp h
      obtain ⟨r, hr, rfl⟩ := Option.map_eq_some_iff.mp h
      exact (workerStep_appends hr).mono fun _ => .inr
  | service op commits =>
      obtain ⟨r, hr, rfl⟩ := Option.map_eq_some_iff.mp h
      cases commits with
      | false => exact .refl _
      | true =>
          refine serviceStep_appends hr ?_
          rintro p step aid rfl hp hfinal haid
          left
          simp only [finalizedBy, hp, hfinal, if_true, haid]
  | enqueue c jobId reads =>
      obtain ⟨redis, _, rfl⟩ := Option.map_eq_some_iff.mp h
      exact .refl _
  | dispatch e jobId commits =>
      simp only [systemStep] at h
      split at h
      · cases h
        cases commits with
        | false => exact .refl _
        | true => exact dispatchEntry_appends
      · cases h
  | rebuild =>
      cases h
      exact .refl _
  | flush =>
      cases h
      exact .refl _
  | deadLetter m recorded =>
      obtain ⟨job, _, rfl⟩ := Option.map_eq_some_iff.mp h
      cases recorded with
      | false => exact .refl _
      | true => exact (Db.Appends.refl s.db).contact _ _
  | expireGuard key =>
      cases h
      exact .refl _
  | tick d =>
      cases h
      exact .refl _

end

end CallingAgent
