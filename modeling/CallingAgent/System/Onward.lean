import CallingAgent.Services.WebhookFinality
import CallingAgent.System.Attempts

/-!
# Services — what each transaction leaves of contacts and attempts

Every service goes onward: attempt rows are kept in the sense of
`AttemptsKept`, contacts stay, their attempts are counted as before, and
nothing but a creation or an association makes one pending.
-/

namespace CallingAgent

open Lib

/-! ## Contacts that go on -/

/-- Every contact goes on, and a new one was never attempted. -/
structure ContactsOnward (db db' : Db) : Prop where
  row : ∀ c x, db.contact c = some x →
    ∃ x', db'.contact c = some x' ∧ x.Onward x'
  created : ∀ c x', db.contact c = none → db'.contact c = some x' →
    x'.attemptCount = 0

namespace ContactsOnward

variable {db db' db'' : Db} {c : ContactId} {f : Contact → Contact}

theorem of_eq (h : ∀ c, db'.contact c = db.contact c) :
    ContactsOnward db db' where
  row c x hx := ⟨x, (h c).trans hx, .refl x⟩
  created c x' hn hx := by
    rw [h c, hn] at hx
    cases hx

theorem refl (db : Db) : ContactsOnward db db := of_eq fun _ => rfl

theorem trans (h₁ : ContactsOnward db db') (h₂ : ContactsOnward db' db'') :
    ContactsOnward db db'' where
  row c x hx := by
    obtain ⟨y, hy, hxy⟩ := h₁.row c x hx
    obtain ⟨z, hz, hyz⟩ := h₂.row c y hy
    exact ⟨z, hz, hxy.trans hyz⟩
  created c z hn hz := by
    cases hy : db'.contact c with
    | none => exact h₂.created c z hy hz
    | some y =>
        obtain ⟨z', hz', hyz⟩ := h₂.row c y hy
        rw [hz] at hz'
        cases hz'
        rw [hyz.attemptCount]
        exact h₁.created c y hn hy

theorem modify (h : ∀ x, db.contact c = some x → x.Onward (f x)) :
    ContactsOnward db (db.modifyContact c f) where
  row k x hx := by
    rw [Db.contact_modifyContact]
    by_cases hk : k = c
    · subst hk
      exact ⟨f x, by simp [hx], h x hx⟩
    · exact ⟨x, by simp [hk, hx], .refl x⟩
  created k x' hn hx := by
    rw [Db.contact_modifyContact, hn] at hx
    split at hx <;> cases hx

theorem insert {row : Contact} (h : row.attemptCount = 0) :
    ContactsOnward db (db.insertContact row) where
  row k x hx := by
    have hne : k ≠ db.contacts.nextKey := (Table.lt_nextKey hx).ne
    exact ⟨x, by rw [Db.contact_insertContact, if_neg hne, hx], .refl x⟩
  created k x' hn hx := by
    rw [Db.contact_insertContact] at hx
    split at hx
    · cases hx
      exact h
    · rw [hn] at hx
      cases hx

end ContactsOnward

/-- Attempts are kept and contacts go on. -/
structure Onward (db db' : Db) : Prop where
  attempts : AttemptsKept db db'
  contacts : ContactsOnward db db'

namespace Onward

variable {db db' db'' : Db}

theorem refl (db : Db) : Onward db db := ⟨.refl db, .refl db⟩

theorem trans (h₁ : Onward db db') (h₂ : Onward db' db'') :
    Onward db db'' :=
  ⟨h₁.attempts.trans h₂.attempts, h₁.contacts.trans h₂.contacts⟩

/-- A write beside contacts, attempts and events. -/
theorem of_eq (hc : ∀ c, db'.contact c = db.contact c)
    (ha : ∀ a, db'.attempt a = db.attempt a) (he : db'.events = db.events) :
    Onward db db' :=
  ⟨.of_eq ha he, .of_eq hc⟩

theorem contact {c : ContactId} {f : Contact → Contact}
    (h : ∀ x, db.contact c = some x → x.Onward (f x)) :
    Onward db (db.modifyContact c f) :=
  ⟨.of_eq (fun _ => rfl) rfl, .modify h⟩

/-- A status other than pending is written. -/
theorem status {c : ContactId} {st : ContactStatus} (h : st ≠ .pending) :
    Onward db (db.modifyContact c fun x => { x with status := st }) :=
  contact fun _ _ => ⟨rfl, fun hp => absurd hp h⟩

theorem attempt {a : AttemptId} {f : CallAttempt → CallAttempt}
    (h : AttemptsKept db (db.modifyAttempt a f)) :
    Onward db (db.modifyAttempt a f) :=
  ⟨h, .of_eq fun _ => rfl⟩

theorem log {a : AttemptId} {ty : EventType} {t : Instant}
    (h : ty ≠ heldEventType) : Onward db (db.logEvent a ty t) :=
  ⟨.log h, .of_eq fun _ => rfl⟩

end Onward

/-! ## Campaigns and contacts -/

section

variable {env : Env} {db db' : Db} {now : Instant}

theorem updateCampaign_onward {c : CampaignId} {data : CampaignUpdate}
    (h : updateCampaign db c data = .ok db') : Onward db db' := by
  have hframe : ∃ f, db' = db.modifyCampaign c f := by
    unfold updateCampaign at h
    grind
  obtain ⟨f, rfl⟩ := hframe
  exact .of_eq (fun _ => rfl) (fun _ => rfl) rfl

/-- An association leaves the attempts alone. -/
theorem associate_attempts {c : CampaignId} {contact : ContactId}
    (h : associate env db c contact = .ok db') : AttemptsKept db db' := by
  rcases associate_ok h with rfl | ⟨_, _, _, _, _, _, rfl⟩
  · exact .refl _
  · exact .of_eq (fun _ => rfl) rfl

theorem removeContact_onward {c : CampaignId} {contact : ContactId}
    (h : removeContact db c contact = .ok db') : Onward db db' := by
  have hframe : db' = db.modifyContact contact
      fun x => { x with status := .closed } := by
    unfold removeContact at h
    grind
  rw [hframe]
  exact .status (by decide)

theorem deactivateContact_onward {contact : ContactId}
    (h : deactivateContact db contact = .ok db') : Onward db db' := by
  have hframe : db' = db.modifyContact contact
      fun x => { x with status := .closed } := by
    unfold deactivateContact at h
    grind
  rw [hframe]
  exact .status (by decide)

theorem insertContact_onward {row : Contact} (h : row.attemptCount = 0) :
    Onward db (db.insertContact row) :=
  ⟨.of_eq (fun _ => rfl) rfl, .insert h⟩

theorem createContact_onward {c : CampaignId} {number : String}
    (h : createContact env db c number = .ok db') : Onward db db' := by
  have hframe : ∃ n, db' = db.insertContact
      { campaignId := c, normalizedPhoneNumber := n } := by
    unfold createContact at h
    grind
  obtain ⟨n, rfl⟩ := hframe
  exact insertContact_onward rfl

theorem insertNumbers_onward (c : CampaignId) (numbers : List String)
    (db : Db) :
    Onward db (numbers.foldl (fun db n => db.insertContact
      { campaignId := c, normalizedPhoneNumber := n }) db) := by
  induction numbers generalizing db with
  | nil => exact .refl db
  | cons n numbers ih => exact (insertContact_onward rfl).trans (ih _)

theorem importContacts_onward {numbers : List String}
    (h : importContacts env db numbers = .ok db') : Onward db db' := by
  unfold importContacts at h
  split at h
  · cases h
  · split at h
    · cases h
      exact .refl db
    · cases h
      have hcampaign : Onward db (db.insertCampaign
          { timezone := env.settings.defaultTimezone
            defaultRegion := env.settings.defaultRegion }
          (buildDefaultPolicy env.settings)) :=
        .of_eq (fun _ => rfl) (fun _ => rfl) rfl
      exact hcampaign.trans (insertNumbers_onward ..)

theorem addSuppression_onward {number : String} {reason : Option String}
    {contact : Option ContactId} {actor : String}
    (h : addSuppression env db number reason contact actor = .ok db') :
    Onward db db' := by
  have hframe : ∃ t, db' = db.setSuppressions t := by
    unfold addSuppression at h
    grind
  obtain ⟨t, rfl⟩ := hframe
  exact .of_eq (fun _ => rfl) (fun _ => rfl) rfl

/-- A scrubbed contact is terminal. -/
theorem scrubContact_onward (id : ContactId) (c : Contact) :
    c.Onward (scrubContact now id c) := by
  refine ⟨rfl, fun h => ?_⟩
  unfold scrubContact at h
  dsimp only at h
  split at h <;> cases h

theorem erase_onward {fingerprint : String → String}
    {subject : ErasureSubject} {suppress : Bool} {actor : String}
    (h : erase env fingerprint db subject suppress actor now = .ok db') :
    Onward db db' := by
  unfold erase at h
  split at h
  · cases h
  · cases h
    exact .refl db
  · next e164 _ =>
    split at h
    · cases h
    · cases h
      refine ⟨.of_eq (fun _ => rfl) rfl, ?_, ?_⟩
      · intro c x hx
        refine ⟨_, by
          show AList.lookup c (Table.mapRows _ _) = _
          rw [Table.lookup_mapRows]
          exact congrArg _ hx, ?_⟩
        dsimp only
        split
        · exact scrubContact_onward c x
        · exact .refl x
      · intro c x' hn hx
        have hl : AList.lookup c db.contacts = none := hn
        have : AList.lookup c (db.contacts.mapRows fun id c =>
            if c.normalizedPhoneNumber == e164 then scrubContact now id c
            else c) = some x' := hx
        rw [Table.lookup_mapRows, hl] at this
        cases this

theorem recordDeadLetter_onward (job : DialJob) :
    Onward db (recordDeadLetter db job) := by
  refine .contact fun x _ => ?_
  split
  · exact ⟨rfl, fun h => by cases h⟩
  · exact .refl x

/-! ## Calls -/

/-- The attempt a processed delivery leaves goes on from the one it
found. -/
theorem endAttempt_kept {p : DograhWebhookPayload} {w : AcceptedWebhook}
    (hf : w.Found env db p) :
    w.attempt.Kept (endAttempt w.outcome now
      (identifyRun p w.unresolved w.attempt)) := by
  have hwf : w.outcome.WellFormed :=
    hf.outcome ▸ classifyCallOutcome_wellFormed env _ _
  have hstate : (endAttempt w.outcome now (identifyRun p w.unresolved
      w.attempt)).state = w.outcome.state := endAttempt_state hwf
  have hterm : w.outcome.state.isTerminal = true := by
    rcases hwf.state with h | h | h <;> rw [h] <;> rfl
  constructor
  case contactId =>
    unfold endAttempt identifyRun
    rcases hwf.state with h | h | h <;> rw [h] <;> cases w.unresolved <;> rfl
  case attemptNumber =>
    unfold endAttempt identifyRun
    rcases hwf.state with h | h | h <;> rw [h] <;> cases w.unresolved <;> rfl
  case run =>
    intro hr
    rw [endAttempt_providerCallId,
      identifyRun_providerCallId (unresolved_noRun hf)]
    cases hp : w.attempt.providerCallId with
    | none => rw [hp] at hr; cases hr
    | some r => rfl
  case notReopened =>
    intro _ h
    rw [hstate] at h
    rw [h] at hterm
    cases hterm
  case ended =>
    intro _
    refine ⟨fun _ => ?_, fun hl => ?_⟩
    · unfold endAttempt
      split <;> rfl
    · rw [hstate, CallAttemptState.isLive, hterm] at hl
      cases hl

theorem dograhWebhook_onward {p : DograhWebhookPayload} {step : WebhookStep}
    (ht : ∀ a, db.HoldsBy a now)
    (h : processDograhWebhook env db p now = .ok step) :
    Onward db step.db := by
  rcases processDograhWebhook_cases h with ⟨_, hdb, _⟩ | ⟨w, hf, hs⟩
  · rw [hdb]
    exact .refl db
  have hwf : w.outcome.WellFormed :=
    hf.outcome ▸ classifyCallOutcome_wellFormed env _ _
  -- at most one event is added, and it is no hold
  have hlog : ∃ db₀ : Db, step.db.events = db₀.events ∧
      AttemptsKept db db₀ ∧
      (∀ k, db₀.attempt k = db.attempt k) ∧
      (w.outcome.state = .failedToConnect →
        db₀.latestEventType w.aid ≠ some heldEventType) := by
    rcases hs.events with ⟨he, hne⟩ | ⟨ty, hty, he⟩
    · exact ⟨db, he, .refl db, fun _ => rfl, fun h => absurd h hne⟩
    · have hno : ty ≠ heldEventType := by
        rcases hty with rfl | rfl <;> decide
      exact ⟨db.logEvent w.aid ty now, he, .log hno, fun _ => rfl,
        fun _ => Db.latestHeld_hidden hno (ht w.aid)⟩
  obtain ⟨db₀, he, hkept, hsame, hhidden⟩ := hlog
  constructor
  case contacts =>
    constructor
    case row =>
      intro c x hx
      by_cases hc : c = w.attempt.contactId
      · subst hc
        obtain ⟨x', hx', _, hon⟩ := hs.contact
        rw [hf.contact] at hx
        cases hx
        exact ⟨x', hx', hon⟩
      · exact ⟨x, (hs.contact_ne c hc).trans hx, .refl x⟩
    case created =>
      intro c x' hn hx
      have hc : c ≠ w.attempt.contactId := by
        intro hc
        rw [hc, hf.contact] at hn
        cases hn
      rw [hs.contact_ne c hc, hn] at hx
      cases hx
  case attempts =>
    constructor
    case row =>
      intro k x hx
      by_cases hk : k = w.aid
      · subst hk
        rw [hf.attempt] at hx
        cases hx
        exact ⟨_, hs.attempt_self, endAttempt_kept hf⟩
      · exact ⟨x, by rw [hs.attempt, if_neg hk]; exact hx, .refl x⟩
    case fresh =>
      intro k hn
      have hk : k ≠ w.aid := by
        intro hk
        rw [hk, hf.attempt] at hn
        cases hn
      rw [hs.attempt, if_neg hk]
      exact hn
    case holds =>
      intro e hm hty
      rw [he] at hm
      exact hkept.holds e hm hty
    case held =>
      intro k hk
      rw [Db.held_iff] at hk
      obtain ⟨x, hx, hn, hst, hl⟩ := hk
      rw [Db.latestEventType_congr he] at hl
      by_cases hka : k = w.aid
      · subst hka
        rw [hs.attempt_self] at hx
        cases hx
        rw [endAttempt_state hwf] at hst
        exact absurd hl (hhidden hst)
      · rw [hs.attempt, if_neg hka] at hx
        exact hkept.held k (Db.held_iff.mpr
          ⟨x, (hsame k).trans hx, hn, hst, hl⟩)

/-- The attempt a provider's call id names has that id. -/
theorem attemptByProviderCallId_some {id : String} {aid : AttemptId}
    (h : db.attemptByProviderCallId id = some aid) :
    ∃ x, db.attempt aid = some x ∧ x.providerCallId = some id := by
  obtain ⟨x, hx, hp⟩ := Table.findKey_some h
  exact ⟨x, hx, by simpa using hp⟩

/-- Ending an attempt in the state it did not have before. -/
theorem kept_of_end {a a' : CallAttempt} (hc : a'.contactId = a.contactId)
    (hn : a'.attemptNumber = a.attemptNumber)
    (hr : a'.providerCallId = a.providerCallId)
    (hs : a'.state.isTerminal = true) (he : a'.endedAt.isSome = true) :
    a.Kept a' where
  contactId := hc
  attemptNumber := hn
  run h := hr ▸ h
  notReopened _ h := by rw [h] at hs; cases hs
  ended _ := by
    refine ⟨fun _ => he, fun hl => ?_⟩
    rw [CallAttemptState.isLive, hs] at hl
    cases hl

/-- A row with a run id may be rewritten as long as it keeps one. -/
theorem AttemptsKept.modify_withRun {a : AttemptId} {x : CallAttempt}
    {f : CallAttempt → CallAttempt} (hx : db.attempt a = some x)
    (hr : (f x).providerCallId.isSome = true) (hk : x.Kept (f x)) :
    AttemptsKept db (db.modifyAttempt a f) := by
  refine .modify (fun y hy => ?_) (fun y hy _ hnone => ?_)
  · rw [hx] at hy
    cases hy
    exact hk
  · rw [hx] at hy
    cases hy
    rw [hnone] at hr
    cases hr

theorem callStatusRows_onward {aid : AttemptId} {x : CallAttempt}
    {p : CallStatusPayload} (hx : db.attempt aid = some x)
    (hr : x.providerCallId.isSome = true) (ho : x.endedAt = none)
    (h : callStatusRows db aid x p now = .ok db') : Onward db db' := by
  unfold callStatusRows at h
  split at h
  · cases h
    refine (Onward.attempt (.modify_withRun hx hr ⟨rfl, rfl, id, ?_, ?_⟩)).trans
      (.status (by decide))
    · intro _ hi
      cases hi
    · intro he
      refine ⟨fun ht => (by cases ht), fun _ => ?_⟩
      -- an attempt without an end is not terminal
      unfold CallAttemptState.isLive
      cases ht : x.state.isTerminal with
      | false => rfl
      | true =>
          have := he ht
          rw [ho] at this
          cases this
  · split at h
    · split at h
      · cases h
        exact .attempt (.modify_withRun hx hr (kept_of_end rfl rfl rfl rfl rfl))
      · split at h
        · cases h
        · cases h
          exact .attempt (.modify_withRun hx hr
            (kept_of_end rfl rfl rfl rfl rfl))
    · cases h

theorem callStatus_onward {p : CallStatusPayload}
    (h : processCallStatus db p now = .ok db') : Onward db db' := by
  unfold processCallStatus at h
  split at h
  · cases h
    exact .refl db
  split at h
  · cases h
  next aid haid =>
  obtain ⟨x, hx, hp⟩ := attemptByProviderCallId_some haid
  rw [hx] at h
  dsimp only at h
  split at h
  · cases h
  next hopen =>
  cases hrows : callStatusRows db aid x p now with
  | error e => rw [hrows] at h; cases h
  | ok db₀ =>
      rw [hrows] at h
      cases h
      have hrun : x.providerCallId.isSome = true := by rw [hp]; rfl
      exact (callStatusRows_onward hx hrun (by simpa using hopen) hrows).trans
        (.of_eq (fun _ => rfl) (fun _ => rfl) rfl)

theorem sweep_onward {reads : GateReads} {aid : AttemptId}
    (ht : ∀ a, db.HoldsBy a now)
    (h : sweepAttempt env db reads aid now = some db') : Onward db db' := by
  unfold sweepAttempt at h
  split at h
  · cases h
  split at h
  · cases h
  next attempt _ =>
  split at h
  · cases h
  split at h
  · cases h
    unfold markForReview
    dsimp only
    refine Onward.trans ?_ ((Onward.status (by decide)).trans
      (.log (by decide)))
    split
    · exact .refl db
    · exact ⟨.modifyLog (fun _ _ => kept_of_end rfl rfl rfl rfl rfl) (by decide)
        (ht aid), .of_eq fun _ => rfl⟩
  · cases h

/-! ## Conversations and recovery -/

theorem endingRows_onward {aid : AttemptId} {c : ContactId} {reason : EndReason}
    {pendingPoints : List String} :
    Onward db (Conversation.endingRows db aid c
      (Conversation.endingStatus reason pendingPoints) now) := by
  unfold Conversation.endingRows
  refine (Onward.log (by decide)).trans
    ((Onward.attempt (.modify ?_ ?_)).trans (.status ?_))
  · exact fun _ _ => kept_of_end rfl rfl rfl rfl rfl
  · intro _ _ hs
    cases hs
  · unfold Conversation.endingStatus
    split
    · decide
    · split <;> decide

theorem handleDisconnect_event {contactId : ContactId} {contact : Contact}
    {campaign : Campaign} {d : Disconnect} :
    (handleDisconnect env db contactId contact campaign d now).event
      ≠ heldEventType := by
  have hs : (handleDisconnect env db contactId contact campaign d now).Shape
      contactId contact d := handleDisconnect_shape
  rcases hs.event with h | h
  · rw [h]; decide
  · rw [h]; decide

theorem disconnectRows_onward {aid : AttemptId} {c : ContactId}
    {reason : MidCallDisconnectReason} :
    Onward db (Conversation.disconnectRows env db aid c reason now).1 := by
  have hdropped : Onward db (((db.logEvent aid .conversationDisconnected
      now).modifyAttempt aid fun a =>
        { a with state := .droppedMidCall, disconnectReason := some reason,
                 endedAt := some now }).modifyContact c
      fun x => { x with status := .disconnected }) := by
    refine (Onward.log (by decide)).trans
      ((Onward.attempt (.modify ?_ ?_)).trans (.status (by decide)))
    · exact fun _ _ => kept_of_end rfl rfl rfl rfl rfl
    · intro _ _ hs
      cases hs
  unfold Conversation.disconnectRows
  dsimp only
  split
  · next attempt contact _ hcontact =>
    split
    · exact hdropped
    · refine hdropped.trans ((Onward.contact ?_).trans
        (.log handleDisconnect_event))
      intro x hx
      rw [hcontact] at hx
      cases hx
      exact handleDisconnect_shape.onward
  · exact hdropped

/-- A retry that was not dialed leaves only its schedule columns. -/
theorem dispatchRetry_onward {r : Redis} {job : RecoveryJob} {jobId : Nat} :
    Onward db (dispatchRetry env db r job jobId now).1 := by
  have hclear : Onward db (db.modifyContact job.contactId
      Contact.clearSchedule) :=
    .contact fun _ _ => ⟨rfl, id⟩
  have hset : ∀ due, Onward db (db.modifyContact job.contactId
      (setNextRetry due)) :=
    fun due => .contact fun _ _ => ⟨rfl, id⟩
  unfold dispatchRetry
  split
  · exact .refl db
  · exact .refl db
  · exact hclear.trans (.log (by decide))
  · exact (hset _).trans (.log (by decide))
  · dsimp only
    split
    · exact hset _
    · exact (hset _).trans (.log (by decide))
    · exact (hset _).trans (.log (by decide))

theorem dispatchEntry_onward {r : Redis} {e : ScheduleEntry} {jobId : Nat} :
    Onward db (dispatchEntry env db r e jobId now).1 := by
  cases e with
  | retry job => exact dispatchRetry_onward
  | dial job => exact .refl db

/-- **Every service goes onward**, if no hold is stamped in its future;
an association may make a contact pending. -/
theorem serviceStep_onward {op : ServiceOp}
    {r : Db × Option (RecoveryJob × Instant)} (ht : ∀ a, db.HoldsBy a now)
    (hop : ∀ c contact, op ≠ .associate c contact)
    (h : serviceStep env db now op = some r) : Onward db r.1 := by
  cases op with
  | updateCampaign c data => exact updateCampaign_onward (toOption_map_some h)
  | associate c contact => exact absurd rfl (hop c contact)
  | removeContact c contact => exact removeContact_onward (toOption_map_some h)
  | deactivateContact contact =>
      exact deactivateContact_onward (toOption_map_some h)
  | createContact c number => exact createContact_onward (toOption_map_some h)
  | importContacts numbers => exact importContacts_onward (toOption_map_some h)
  | addSuppression number reason contact actor =>
      have hadded := toOption_map_some h
      exact addSuppression_onward hadded
  | erase fingerprint subject suppress actor =>
      exact erase_onward (toOption_map_some h)
  | dograhWebhook p =>
      obtain ⟨step, hp, rfl⟩ := Option.map_eq_some_iff.mp h
      exact dograhWebhook_onward ht (ok_of_toOption hp)
  | callStatus p => exact callStatus_onward (toOption_map_some h)
  | sweep reads aid =>
      obtain ⟨db', hs, rfl⟩ := Option.map_eq_some_iff.mp h
      exact sweep_onward ht hs
  | conversationOptOut aid =>
      obtain ⟨a, _, h⟩ := Option.bind_eq_some_iff.mp h
      obtain ⟨contact, _, rfl⟩ := Option.map_eq_some_iff.mp h
      have hs : Onward db (db.setSuppressions (db.suppressions.insertIfAbsent
          env contact.normalizedPhoneNumber .agentInCall
          (some "opt-out during AI conversation") (some a.contactId)).1) :=
        .of_eq (fun _ => rfl) (fun _ => rfl) rfl
      exact hs.trans (.status (by decide))
  | conversationEnds aid reason pendingPoints =>
      obtain ⟨a, _, rfl⟩ := Option.map_eq_some_iff.mp h
      exact endingRows_onward
  | conversationDrops aid reason =>
      obtain ⟨a, _, rfl⟩ := Option.map_eq_some_iff.mp h
      exact disconnectRows_onward
  | setControls controls =>
      cases h
      exact .of_eq (fun _ => rfl) (fun _ => rfl) rfl

theorem serviceStep_attempts {op : ServiceOp}
    {r : Db × Option (RecoveryJob × Instant)} (ht : ∀ a, db.HoldsBy a now)
    (h : serviceStep env db now op = some r) : AttemptsKept db r.1 := by
  by_cases hop : ∃ c contact, op = .associate c contact
  · obtain ⟨c, contact, rfl⟩ := hop
    exact associate_attempts (toOption_map_some h)
  · exact (serviceStep_onward ht
      (fun c contact he => hop ⟨c, contact, he⟩) h).attempts

/-! ## What a worker records -/

/-- The columns of a failed trigger, over whatever the row is by now. -/
theorem failAttempt_kept (loaded : Option CallAttempt) (a : CallAttempt) :
    a.Kept (failAttempt loaded now a) := by
  have hstate : (failAttempt loaded now a).state = .failedToConnect ∨
      (failAttempt loaded now a).state = a.state := by
    rcases writeColumn_or (loaded.map (·.state)) .failedToConnect a.state with
      h | ⟨h, _⟩
    · exact .inl h
    · exact .inr h
  refine ⟨rfl, rfl, id, fun hn hi => ?_, fun _ => ⟨fun _ => rfl, fun hl => ?_⟩⟩
  · rcases hstate with h | h
    · rw [h] at hi; cases hi
    · exact hn (h ▸ hi)
  · rcases hstate with h | h
    · rw [h] at hl; cases hl
    · exact h ▸ hl

/-- A contact copy written back over the row it was loaded from, or over
what the row is by now. -/
theorem flush_onward {loaded new current : Contact} (h : loaded.Onward new) :
    current.Onward (loaded.flush new current) := by
  refine ⟨?_, fun hp => ?_⟩
  · simp [Contact.flush, writeBack, h.attemptCount]
  · unfold Contact.flush writeBack at hp
    dsimp only at hp
    split at hp
    · exact hp
    · next hne => exact absurd (hp.trans (h.pending hp).symm) hne

/-- **A recorded failure** keeps the attempts if its transaction began
after the holds of its attempt. -/
theorem recordTriggerFailure_onward {aid : AttemptId}
    {loaded : Option CallAttempt} {c : ContactId} {contact : Contact}
    {event : EventType} {failure : TriggerFailure} {txStart : Instant}
    (hty : event ≠ heldEventType) (ht : db.HoldsBy aid txStart) :
    Onward db (recordTriggerFailure env db aid loaded c contact event failure
      txStart now).1 := by
  have hfail : Onward db ((db.modifyAttempt aid
      (failAttempt loaded now)).logEvent aid event txStart) :=
    ⟨.modifyLog (fun x _ => failAttempt_kept loaded x) hty ht,
      .of_eq fun _ => rfl⟩
  unfold recordTriggerFailure
  dsimp only
  split
  · refine hfail.trans ((Onward.contact fun x _ => flush_onward
      handleDisconnect_shape.onward).trans (.log handleDisconnect_event))
  · exact hfail

/-- A run id is written, or the row keeps the one it has. -/
theorem writeRun_onward {aid : AttemptId} {f : CallAttempt → CallAttempt}
    (hk : ∀ x : CallAttempt, (f x).contactId = x.contactId ∧
      (f x).attemptNumber = x.attemptNumber ∧ (f x).state = x.state ∧
      (f x).endedAt = x.endedAt)
    (hr : ∀ x : CallAttempt, (f x).providerCallId.isSome = true ∨
      (f x).providerCallId = x.providerCallId) :
    Onward db (db.modifyAttempt aid f) := by
  refine .attempt (.modify (fun x _ => ?_) fun x _ hs hn => ?_)
  · obtain ⟨hc, hnum, hs, he⟩ := hk x
    refine ⟨hc, hnum, fun h => ?_, fun h => hs ▸ h, fun h => ⟨?_, ?_⟩⟩
    · rcases hr x with hr | hr
      · exact hr
      · rw [hr]; exact h
    · rw [CallAttempt.Ended, hs, he]
      exact h
    · rw [hs]; exact id
  · refine ⟨(hk x).2.2.1 ▸ hs, ?_⟩
    rcases hr x with hr | hr
    · rw [hn] at hr; cases hr
    · rw [← hr]; exact hn

theorem acceptTrigger_onward {aid : AttemptId} {run : Nat} {txStart : Instant}
    (h : acceptTrigger db aid run txStart = some db') : Onward db db' := by
  unfold acceptTrigger at h
  split at h
  · cases h
  · cases h
    refine Onward.trans (writeRun_onward ?_ ?_) (.log ?_)
    · exact fun _ => ⟨rfl, rfl, rfl, rfl⟩
    · exact fun _ => .inl rfl
    · decide

/-- What the listing resolves: one run is adopted, several are only
logged. -/
theorem resolveFoundRuns_onward {aid : AttemptId} {loaded : Option CallAttempt}
    {runs : List Nat} {o : JobOutcome} {txStart : Instant}
    (h : resolveFoundRuns db aid loaded txStart runs = some (o, db')) :
    Onward db db' := by
  unfold resolveFoundRuns at h
  split at h
  · next run =>
    obtain ⟨db₀, hadopt, heq⟩ := Option.map_eq_some_iff.mp h
    cases heq
    unfold adoptRun at hadopt
    split at hadopt
    · cases hadopt
    · cases hadopt
      refine Onward.trans (writeRun_onward ?_ fun x => ?_) (.log ?_)
      · exact fun _ => ⟨rfl, rfl, rfl, rfl⟩
      · rcases writeColumn_or (loaded.map (·.providerCallId))
          (some (toString run)) x.providerCallId with h | ⟨h, _⟩
        · exact .inl (by rw [h]; rfl)
        · exact .inr h
      · decide
  · cases h
    exact .log (by decide)

end

end CallingAgent
