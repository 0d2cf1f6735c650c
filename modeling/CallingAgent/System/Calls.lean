import CallingAgent.System.RetryBudget

/-!
# Calls — a contact and its attempts, together

A step writes one contact and one attempt of it, or contacts alone. For
statements that tie a contact's status to the states of its attempts this
is what a step makes of both at once.
-/

namespace CallingAgent

open Lib

/-! ## References -/

section

variable (env : Env) (db : Db) (c : ContactId)

/-- The contact is there. -/
def Db.HasContact : Prop := ∃ x, db.contact c = some x

/-- The attempt is one of the contact's. -/
def Db.CallOf (a : AttemptId) : Prop :=
  ∃ y, db.attempt a = some y ∧ y.contactId = c

/-- A loaded contact names a campaign that is there. -/
def Db.Owned (x : Contact) : Prop := (db.campaign x.campaignId).isSome = true

/-- What a run behind its checks holds is about the contact of its job. -/
structure DialView.InOrder (view : DialView) : Prop where
  contact : db.HasContact c
  owned : db.Owned view.contact
  held : ∀ a, view.held = some a →
    env.settings.callingEngine = .dograh ∧ db.CallOf c a

def Phase.InOrder : Phase → Prop
  | .secondGate previous view =>
      db.CallOf c previous ∧ view.InOrder env db c
  | .ready view => view.InOrder env db c
  | .claimed a _ => db.HasContact c ∧ db.CallOf c a
  | .sent a _ contact _ _ | .lookup a _ contact _ _ _ _ =>
      db.HasContact c ∧ db.CallOf c a ∧ db.Owned contact
  | _ => True

end

/-- Attempts have their contacts, contacts their campaigns, and runs are
about their jobs. -/
structure System.InOrder (env : Env) (s : System) : Prop where
  owner : ∀ a y, s.db.attempt a = some y → s.db.HasContact y.contactId
  owned : ∀ c x, s.db.contact c = some x → s.db.Owned x
  runs : ∀ w k, s.worker w = some k → k.phase.InOrder env s.db k.job.contactId

section

variable {env : Env} {s s' : System} {act : SystemAct} {c : ContactId}

/-- References stay. -/
structure Db.Refers (db db' : Db) : Prop where
  contact : ∀ c, db.HasContact c → db'.HasContact c
  call : ∀ c a, db.CallOf c a → db'.CallOf c a
  owned : ∀ x, db.Owned x → db'.Owned x

theorem SystemEffect.refers (h : SystemEffect env s act s') :
    s.db.Refers s'.db where
  contact c := by
    rintro ⟨x, hx⟩
    obtain ⟨x', hx', -⟩ := h.contact c x hx
    exact ⟨x', hx'⟩
  call c a := by
    rintro ⟨y, hy, rfl⟩
    obtain ⟨y', hy', hch⟩ := h.attempt a y hy
    exact ⟨y', hy', hch.kept.1⟩
  owned _ := h.campaign_stays

theorem DialView.InOrder.mono {db db' : Db} {view : DialView}
    (h : view.InOrder env db c) (hr : db.Refers db') :
    view.InOrder env db' c where
  contact := hr.contact c h.contact
  owned := hr.owned _ h.owned
  held a ha := ⟨(h.held a ha).1, hr.call c a (h.held a ha).2⟩

theorem Phase.InOrder.mono {db db' : Db} {p : Phase}
    (h : p.InOrder env db c) (hr : db.Refers db') : p.InOrder env db' c := by
  cases p with
  | secondGate previous view => exact ⟨hr.call c _ h.1, h.2.mono hr⟩
  | ready view => exact DialView.InOrder.mono h hr
  | claimed a prior => exact ⟨hr.contact c h.1, hr.call c a h.2⟩
  | sent a prior contact sentAt request =>
      exact ⟨hr.contact c h.1, hr.call c a h.2.1, hr.owned _ h.2.2⟩
  | lookup a loaded contact event failure otherwise txStart =>
      exact ⟨hr.contact c h.1, hr.call c a h.2.1, hr.owned _ h.2.2⟩
  | _ => trivial

/-- A contact stays in a campaign that is there. -/
theorem RowChange.owned {x x' : Contact} (hr : s.db.Refers s'.db)
    (hx : s.db.Owned x) (h : RowChange env s s' c x act x') :
    s'.db.Owned x' := by
  by_cases hfix : fixedCampaign act = true
  · unfold Db.Owned
    rw [h.campaign hfix]
    exact hr.owned x hx
  · cases h with
    | same => exact hr.owned x hx
    | service change =>
        cases change with
        | same => exact hr.owned x hx
        | moved open_ away target => exact hr.owned { x with campaignId := _ } target
        | _ => exact absurd rfl hfix
    | _ => exact absurd rfl hfix

/-- What the checks hand on. -/
theorem System.InOrder.checked (hi : s.InOrder env) {job : DialJob}
    {view : DialView} (hv : (dialCheck env s.db job s.now).view = some view) :
    view.InOrder env s.db job.contactId := by
  have hp := dialCheck_passed hv
  refine ⟨⟨_, hp.contact⟩, hi.owned _ _ hp.contact, fun a ha => ?_⟩
  obtain ⟨y, hy, hyc, -⟩ := Db.attemptByContactAndNumber_some (hp.held a ha).1
  exact ⟨dialCheck_held hv ha, y, hy, hyc⟩

/-- The previous attempt is one of the contact. -/
theorem dialCheck_previous {db : Db} {job : DialJob} {now : Instant}
    {previous : AttemptId} {view : DialView}
    (h : dialCheck env db job now = .secondGate previous view) :
    db.CallOf job.contactId previous := by
  have hprev : ∀ {v : DialView},
      checkPrevious db job v = .secondGate previous view →
      db.CallOf job.contactId previous := by
    intro v hc
    unfold checkPrevious at hc
    split at hc
    · cases hc
    · next prev hfound =>
      obtain ⟨y, hy, hyc, -⟩ := Db.attemptByContactAndNumber_some hfound
      have hc : prev = previous := by grind
      exact ⟨y, hc ▸ hy, hyc⟩
  have helig : ∀ {campaign : Campaign} {v : DialView},
      checkEligible env db job campaign v now = .secondGate previous view →
      db.CallOf job.contactId previous := by
    intro campaign v hc
    unfold checkEligible at hc
    split at hc
    · cases hc
    · split at hc
      · cases hc
      · cases hc
      · split at hc
        · exact hprev hc
        · cases hc
  unfold dialCheck at h
  split at h
  · split at h
    · exact helig h
    · split at h
      · exact helig h
      · split at h
        · cases h
        · split at h
          · exact helig h
          · split at h
            · exact helig h
            · unfold checkUnresolvedClaim at h
              grind
  · cases h

/-- **References stay in order**, whatever the step. -/
theorem System.InOrder.step (hi : s.InOrder env)
    (h : systemStep env s act = some s') : s'.InOrder env := by
  have he := systemStep_effect h
  have hr := he.refers
  constructor
  case owner =>
    intro a y' hy'
    cases hy : s.db.attempt a with
    | some y =>
        obtain ⟨y'', hy'', hch⟩ := he.attempt a y hy
        rw [hy'] at hy''
        cases hy''
        rw [hch.kept.1]
        exact hr.contact _ (hi.owner a y hy)
    | none =>
        obtain ⟨w, k, wact, -, hk, -, -, hins⟩ := he.inserted a y' hy hy'
        rw [hins.key.1]
        have hp := hi.runs w k hk
        refine hr.contact _ ?_
        cases hins with
        | claimed phase =>
            rw [phase] at hp
            exact hp.contact
        | native phase =>
            rw [phase] at hp
            exact hp.contact
  case owned =>
    intro c x' hx'
    cases hx : s.db.contact c with
    | none =>
        obtain ⟨campaign, number, rfl, hg⟩ := he.created c x' hx hx'
        exact hg
    | some x =>
        obtain ⟨x'', hx'', hch⟩ := he.contact c x hx
        rw [hx'] at hx''
        cases hx''
        exact hch.owned hr (hi.owned c x hx)
  case runs =>
    intro w k hk
    rcases systemStep_worker h hk with ⟨hold, -⟩ |
      ⟨m, job, startedAt, rfl, rfl⟩ | ⟨wact, k₀, r, phase, rfl, hk₀, hrs, rfl,
        hphase, rfl⟩
    · exact (hi.runs w k hold).mono hr
    · trivial
    · have hp := hi.runs w k₀ hk₀
      cases workerStep_phase hrs hphase with
      | cleared => trivial
      | deferring => trivial
      | admitted => trivial
      | settling => trivial
      | secondGate check =>
          exact ⟨hr.call _ _ (dialCheck_previous check),
            (hi.checked (by rw [check]; rfl)).mono hr⟩
      | ready check => exact (hi.checked (by rw [check]; rfl)).mono hr
      | orphan check =>
          have hx := dialCheck_orphan_contact check
          obtain ⟨y, hy, hyc, -⟩ := dialCheck_orphan check
          exact ⟨hr.contact _ ⟨_, hx⟩, hr.call _ _ ⟨y, hy, hyc⟩,
            hr.owned _ (hi.owned _ _ hx)⟩
      | passed phase gate =>
          rw [phase] at hp
          exact DialView.InOrder.mono hp.2 hr
      | claimed phase engine claim =>
          rw [phase] at hp
          refine ⟨hr.contact _ hp.contact, ?_⟩
          obtain ⟨-, created, hspec⟩ := claimAttempt_spec claim
          rename_i view _ _ _ aid _
          cases hheld : view.held with
          | none =>
              obtain ⟨y, hy, hyc, -⟩ := hspec.row hheld
              exact ⟨y, hy, hyc⟩
          | some a =>
              obtain rfl := hspec.held a hheld
              exact hr.call _ _ (hp.held a hheld).2
      | sent phase row =>
          rw [phase] at hp
          exact ⟨hr.contact _ hp.1, hr.call _ _ hp.2,
            hr.owned _ (hi.owned _ _ row)⟩
      | unsure phase decided =>
          rw [phase] at hp
          exact ⟨hr.contact _ hp.1, hr.call _ _ hp.2.1, hr.owned _ hp.2.2⟩

end

/-! ## Changes -/

/-- What a step that leaves every attempt alone makes of a contact. -/
inductive Beside (env : Env) (s : System) (c : ContactId) (x : Contact) :
    SystemAct → Contact → Prop
  | same {act : SystemAct} : Beside env s c x act x
  | moved {campaign : CampaignId} {number : String}
      (away : x.campaignId ≠ campaign) :
      Beside env s c x (.service (.associate campaign c) true)
        { x with campaignId := campaign, status := .pending,
                 normalizedPhoneNumber := number }
  | closed {act : SystemAct} : Beside env s c x act { x with status := .closed }
  | erased {act : SystemAct} : Beside env s c x act (scrubContact s.now c x)
  | reviewed {act : SystemAct} :
      Beside env s c x act { x with status := .needsReview }
  | expired {act : SystemAct} {view : DialView} :
      Beside env s c x act
        (view.contact.flush { view.contact with status := .completedPartial } x)
  | dispatched {act : SystemAct} {job : RecoveryJob} {x' : Contact}
      (change : DispatchContact env s job x x') : Beside env s c x act x'
  | parked {act : SystemAct} :
      Beside env s c x act { x.clearSchedule with status := .needsReview }

/-- What a step makes of a contact together with the attempt `a` of it, by
the state the attempt is left in. -/
inductive CallStep (env : Env) (s : System) (c : ContactId) (a : AttemptId)
    (x : Contact) : SystemAct → Contact → CallAttemptState → Prop
  | webhook {p : DograhWebhookPayload} {w : AcceptedWebhook}
      (found : w.Found env s.db p) (about : w.attempt.contactId = c)
      (aid : w.aid = a) :
      CallStep env s c a x (.service (.dograhWebhook p) true)
        (w.leftContact env s.db p s.now) w.outcome.state
  | connected {p : CallStatusPayload} {y : CallAttempt}
      (attempt : s.db.attempt a = some y) (open_ : y.endedAt = none) :
      CallStep env s c a x (.service (.callStatus p) true)
        { x with status := .inConversation } .connected
  | failed {p : CallStatusPayload} (status : p.status = "failed")
      (found : s.db.attemptByProviderCallId p.providerCallId = some a) :
      CallStep env s c a x (.service (.callStatus p) true) x .failedToConnect
  | swept {reads : GateReads} :
      CallStep env s c a x (.service (.sweep reads a) true)
        { x with status := .needsReview } .failedToConnect
  | ended {reason : EndReason} {pendingPoints : List String} :
      CallStep env s c a x
        (.service (.conversationEnds a reason pendingPoints) true)
        { x with status := Conversation.endingStatus reason pendingPoints }
        .endedNormally
  | dropped {reason : MidCallDisconnectReason} {y : CallAttempt}
      {campaign : Campaign} (attempt : s.db.conversationAttempt a = some y)
      (about : y.contactId = c)
      (campaign_ : s.db.campaign x.campaignId = some campaign) :
      CallStep env s c a x (.service (.conversationDrops a reason) true)
        (dropRecovery env s.db a y c x campaign reason s.now).contact
        .droppedMidCall
  | reopened {w : WorkerId} {k : Worker} {view : DialView} {ids : List Nat}
      (running : s.worker w = some k) (about : k.job.contactId = c)
      (phase : k.phase = .secondGate a view) :
      CallStep env s c a x (.worker w (.secondLookup (.runs ids)))
        (view.contact.flush (reopenContact view.contact) x) .initiated
  | ran {w : WorkerId} {k : Worker} {wact : WorkerAct} {y : CallAttempt}
      {loaded : Option CallAttempt} {run : Nat} (running : s.worker w = some k)
      (attempt : s.db.attempt a = some y)
      (record : recordedRun env k wact = some (a, loaded, run)) :
      CallStep env s c a x (.worker w wact) x y.state
  | claimed {w : WorkerId} {k : Worker} {view : DialView} {reads : GateReads}
      {native : NativeAnswer} {commits created : Bool}
      (running : s.worker w = some k) (about : k.job.contactId = c)
      (phase : k.phase = .ready view)
      (engine : env.settings.callingEngine = .dograh) :
      CallStep env s c a x (.worker w (.gate reads native commits))
        (view.contact.flush (claimContact created view.contact) x) .initiated
  | placed {w : WorkerId} {k : Worker} {view : DialView} {reads : GateReads}
      {native : NativeAnswer} {created : Bool}
      (running : s.worker w = some k) (about : k.job.contactId = c)
      (phase : k.phase = .ready view) :
      CallStep env s c a x (.worker w (.gate reads native true))
        { view.contact.flush (claimContact created view.contact) x with
          status := .inConversation } .connected
  | unplaced {w : WorkerId} {k : Worker} {view : DialView} {reads : GateReads}
      {native : NativeAnswer} {created : Bool} {r : ProviderCallResult}
      (running : s.worker w = some k) (about : k.job.contactId = c)
      (phase : k.phase = .ready view)
      (engine : env.settings.callingEngine = .native)
      (answer : native.result = some r) (ko : r.outcome ≠ .initiated)
      (silent : r.failureReason = none) :
      CallStep env s c a x (.worker w (.gate reads native true))
        (view.contact.flush (claimContact created view.contact) x)
        .failedToConnect
  | nativeRecovery {w : WorkerId} {k : Worker} {view : DialView}
      {reads : GateReads} {native : NativeAnswer} {created : Bool}
      {r : ProviderCallResult} {db : Db} {campaign : Campaign} {d : Disconnect}
      (running : s.worker w = some k) (about : k.job.contactId = c)
      (phase : k.phase = .ready view)
      (engine : env.settings.callingEngine = .native)
      (answer : native.result = some r) (ko : r.outcome ≠ .initiated)
      (suppressions : db.suppressions = s.db.suppressions) :
      CallStep env s c a x (.worker w (.gate reads native true))
        (handleDisconnect env db c
          (view.contact.flush (claimContact created view.contact) x) campaign
          d s.now).contact .failedToConnect
  | held {w : WorkerId} {k : Worker} {wact : WorkerAct} {h : HoldRecord}
      (running : s.worker w = some k) (about : k.job.contactId = c)
      (record : recordedHold env s k wact = some h) (aid : h.aid = a) :
      CallStep env s c a x (.worker w wact)
        (h.contact.flush { h.contact with status := h.prior.status,
                                          attemptCount := h.prior.attemptCount }
          x) .failedToConnect
  | recorded {w : WorkerId} {k : Worker} {wact : WorkerAct} {f : FailureRecord}
      {y : CallAttempt} {campaign : Campaign} (running : s.worker w = some k)
      (about : k.job.contactId = c)
      (record : recordedFailure env k wact = some f) (aid : f.aid = a)
      (attempt : s.db.attempt a = some y) :
      CallStep env s c a x (.worker w wact)
        (f.contact.flush (f.recovery env s.db c y campaign s.now).contact x)
        (failAttempt f.loaded s.now y).state

/-- A step that leaves every attempt alone. -/
structure ContactsOnly (env : Env) (s : System) (act : SystemAct) (db' : Db) :
    Prop where
  attempt : ∀ a, db'.attempt a = s.db.attempt a
  contact : ∀ c x, s.db.contact c = some x →
    ∃ x', db'.contact c = some x' ∧ Beside env s c x act x'

/-- A step that writes the contact `c` and its attempt `a`. -/
structure CallWrite (env : Env) (s : System) (act : SystemAct) (db' : Db)
    (c : ContactId) (a : AttemptId) (x x' : Contact) (y' : CallAttempt) :
    Prop where
  local_ : Db.Local c a s.db db'
  before : s.db.contact c = some x
  contact : db'.contact c = some x'
  attempt : db'.attempt a = some y'
  owner : y'.contactId = c
  mine : ∀ y, s.db.attempt a = some y → y.contactId = c
  change : CallStep env s c a x act x' y'.state

/-- Either. -/
def CallsOrContacts (env : Env) (s : System) (act : SystemAct) (db' : Db) :
    Prop :=
  ContactsOnly env s act db' ∨
    ∃ c a x x' y', CallWrite env s act db' c a x x' y'

/-! ## The steps -/

section

variable {env : Env} {s s' : System} {act : SystemAct}

theorem ContactsOnly.refl : ContactsOnly env s act s.db :=
  ⟨fun _ => rfl, fun _ x hx => ⟨x, hx, .same⟩⟩

/-- The attempt was there before. -/
theorem CallsOrContacts.rewrites {db' : Db} {c : ContactId} {a : AttemptId}
    {x x' : Contact} {y : CallAttempt} {g : CallAttempt → CallAttempt}
    {st : CallAttemptState} (hl : Db.Local c a s.db db') (hx : s.db.contact c = some x)
    (hx' : db'.contact c = some x') (hy : s.db.attempt a = some y)
    (hc : y.contactId = c) (hy' : db'.attempt a = (s.db.attempt a).map g)
    (hg : (g y).contactId = y.contactId)
    (hst : (g y).state = st) (hch : CallStep env s c a x act x' st) :
    CallsOrContacts env s act db' := by
  subst hst
  refine .inr ⟨c, a, x, x', g y, hl, hx, hx', by rw [hy', hy]; rfl,
    hg.trans hc, fun z hz => ?_, hch⟩
  rw [hy] at hz
  cases hz
  exact hc

/-- The service may write an attempt. -/
def ServiceOp.reportsCall : ServiceOp → Bool
  | .dograhWebhook _ | .callStatus _ | .sweep .. | .conversationEnds ..
  | .conversationDrops .. => true
  | _ => false

theorem ServiceEffect.contactsOnly {op : ServiceOp}
    {r : Db × Option (RecoveryJob × Instant)}
    (h : ServiceEffect env s.db s.now op r) (hop : op.reportsCall = false) :
    ContactsOnly env s (.service op true) r.1 where
  attempt a := by
    cases hy : s.db.attempt a with
    | none => exact h.noAttempt a hy
    | some y =>
        obtain ⟨y', hy', hch⟩ := h.attempt a y hy
        cases hch with
        | same => exact hy'
        | _ => cases hop
  contact c x hx := by
    obtain ⟨x', hx', hch⟩ := h.contact c x hx
    refine ⟨x', hx', ?_⟩
    cases hch with
    | same => exact .same
    | moved open_ away => exact .moved away
    | removed => exact .closed
    | deactivated => exact .closed
    | erased => exact .erased
    | optedOut => exact .closed
    | _ => cases hop

theorem serviceStep_calls (hi : s.InOrder env) {op : ServiceOp}
    {r : Db × Option (RecoveryJob × Instant)}
    (h : serviceStep env s.db s.now op = some r) :
    CallsOrContacts env s (.service op true) r.1 := by
  by_cases hop : op.reportsCall = false
  · exact .inl ((serviceStep_effect h).contactsOnly hop)
  cases op with
  | dograhWebhook p =>
      obtain ⟨step, hp, rfl⟩ := Option.map_eq_some_iff.mp h
      have hp := ok_of_toOption hp
      rcases dograhWebhook_rows hp with ⟨hdb, -⟩ | ⟨w, hr⟩
      · refine .inl ?_
        show ContactsOnly env s _ step.db
        rw [hdb]
        exact .refl
      · have hf := hr.found
        refine .inr ⟨_, _, _, _, _, hr.local_, hf.contact, hr.contact,
          hr.attempt, ?_, fun y hy => ?_, ?_⟩
        · exact (endAttempt_kept hf).contactId
        · rw [hf.attempt] at hy
          cases hy
          rfl
        · have hwf : w.outcome.WellFormed :=
            hf.outcome ▸ classifyCallOutcome_wellFormed env _ _
          rw [endAttempt_state hwf]
          exact .webhook hf rfl rfl
  | callStatus p =>
      have h := toOption_map_some h
      rcases processCallStatus_cases h with hdb | ⟨aid, y, haid, hy, hopen,
        ⟨-, hdb⟩ | ⟨hs, reason, hdb⟩⟩
      · rw [hdb]
        exact .inl .refl
      · obtain ⟨x, hx⟩ := hi.owner aid y hy
        rw [hdb]
        refine .rewrites ((((Db.Local.refl _).modifyAttempt _).modifyContact
          _).insertProcessedEvent _) hx ?_ hy rfl
          Db.attempt_modify_self rfl rfl (.connected hy hopen)
        · rw [(Db.insertProcessedEvent_frame ..).1, Db.contact_modify_self,
            (Db.modifyAttempt_frame ..).1, hx]
          rfl
      · obtain ⟨x, hx⟩ := hi.owner aid y hy
        rw [hdb]
        exact .rewrites (((Db.Local.refl _).modifyAttempt
          _).insertProcessedEvent _) hx hx hy rfl Db.attempt_modify_self rfl
          rfl (.failed hs haid)
  | sweep reads aid =>
      obtain ⟨db', hs, rfl⟩ := Option.map_eq_some_iff.mp h
      obtain ⟨y, x, hy, hx, -, rfl⟩ := sweepAttempt_cases hs
      cases hrun : y.providerCallId with
      | none =>
          refine .inr ⟨y.contactId, aid, x, _, _, markForReview_local, hx,
            markForReview_contact hx, markForReview_attempt hy hrun, rfl,
            fun z hz => ?_, .swept⟩
          rw [hy] at hz
          cases hz
          rfl
      | some run =>
          refine .inl ⟨fun k => ?_, fun k z hz => ?_⟩
          · unfold markForReview
            rw [if_pos (by simp [hrun])]
            rfl
          · by_cases hk : k = y.contactId
            · subst hk
              rw [hx] at hz
              cases hz
              exact ⟨_, markForReview_contact hx, .reviewed⟩
            · exact ⟨z, (markForReview_local.contact k hk).trans hz, .same⟩
  | conversationEnds aid reason pendingPoints =>
      obtain ⟨y, ha, rfl⟩ := Option.map_eq_some_iff.mp h
      have hy := conversationAttempt_some ha
      obtain ⟨x, hx⟩ := hi.owner aid y hy
      refine .rewrites ((((Db.Local.refl _).logEvent _ _ _).modifyAttempt
        _).modifyContact _) hx ?_ hy rfl Db.attempt_modify_self rfl rfl .ended
      · show (Conversation.endingRows s.db aid y.contactId _ s.now).contact _ = _
        rw [Conversation.endingRows, Db.contact_modify_self, (Db.modifyAttempt_frame ..).1,
          (Db.logEvent_frame ..).1, hx]
        rfl
  | conversationDrops aid reason =>
      obtain ⟨y, ha, rfl⟩ := Option.map_eq_some_iff.mp h
      have hy := conversationAttempt_some ha
      obtain ⟨x, hx⟩ := hi.owner aid y hy
      obtain ⟨hlocal, hattempt⟩ := @disconnectRows_rows env s.db s.now aid y
        reason hy
      obtain ⟨campaign, hg⟩ := Option.isSome_iff_exists.mp (hi.owned _ x hx)
      refine .inr ⟨y.contactId, aid, x, _, _, hlocal, hx, ?_, hattempt, rfl,
        fun z hz => ?_, .dropped ha rfl hg⟩
      · rw [disconnectRows_eq hy, hx]
        dsimp only
        rw [hg]
        dsimp only
        rw [(Db.logEvent_frame ..).1, Db.contact_setContact, if_pos rfl,
          droppedRows_contact, hx]
        rfl
      · rw [hy] at hz
        cases hz
        rfl
  | _ => exact absurd rfl hop

/-! ### Workers -/

variable {w : WorkerId} {k : Worker} {wact : WorkerAct}

/-- A run that records a hold or a failure is about its contact, and has
an attempt of it. -/
theorem System.InOrder.recorded (hi : s.InOrder env) (hk : s.worker w = some k)
    {f : FailureRecord} (hf : recordedFailure env k wact = some f) :
    (∃ x, s.db.contact k.job.contactId = some x) ∧
      s.db.CallOf k.job.contactId f.aid ∧ s.db.Owned f.contact := by
  have hp := hi.runs w k hk
  unfold recordedFailure at hf
  split at hf
  · split at hf
    · next hphase _ =>
      cases hf
      rw [hphase] at hp
      exact hp
    · cases hf
  · split at hf
    · cases hf
    · next hphase _ =>
      cases hf
      rw [hphase] at hp
      exact hp
    · cases hf
  · cases hf

theorem System.InOrder.heldRun (hi : s.InOrder env) (hk : s.worker w = some k)
    {h : HoldRecord} (hr : recordedHold env s k wact = some h) :
    (∃ x, s.db.contact k.job.contactId = some x) ∧
      s.db.CallOf k.job.contactId h.aid := by
  have hp := hi.runs w k hk
  unfold recordedHold at hr
  split at hr
  · split at hr
    · next hphase =>
      obtain ⟨x, -, rfl⟩ := Option.map_eq_some_iff.mp hr
      rw [hphase] at hp
      exact hp
    · cases hr
  · split at hr
    · next hphase _ =>
      cases hr
      rw [hphase] at hp
      exact ⟨hp.1, hp.2.1⟩
    · cases hr
  · cases hr

theorem System.InOrder.ranRun (hi : s.InOrder env) (hk : s.worker w = some k)
    {a : AttemptId} {loaded : Option CallAttempt} {run : Nat}
    (hr : recordedRun env k wact = some (a, loaded, run)) :
    (∃ x, s.db.contact k.job.contactId = some x) ∧
      s.db.CallOf k.job.contactId a := by
  have hp := hi.runs w k hk
  unfold recordedRun at hr
  split at hr
  · split at hr
    · next hphase _ =>
      cases hr
      rw [hphase] at hp
      exact ⟨hp.1, hp.2.1⟩
    · cases hr
  · split at hr
    · next hphase =>
      cases hr
      rw [hphase] at hp
      exact ⟨hp.1, hp.2.1⟩
    · cases hr
  · cases hr

theorem hold_calls (hi : s.InOrder env) (hk : s.worker w = some k)
    {h : HoldRecord} (hr : recordedHold env s k wact = some h) :
    CallsOrContacts env s (.worker w wact) (holdForProviderHalt s.db h.aid
      k.job.contactId h.contact h.prior h.txStart s.now) := by
  obtain ⟨⟨x, hx⟩, y, hy, hyc⟩ := hi.heldRun hk hr
  have hlocal : Db.Local k.job.contactId h.aid s.db
      (((s.db.modifyAttempt h.aid (failAttempt none s.now)).logEvent h.aid
        heldEventType h.txStart).modifyContact k.job.contactId
          (h.contact.flush { h.contact with
            status := h.prior.status, attemptCount := h.prior.attemptCount })) :=
    (((Db.Local.refl s.db).modifyAttempt _).logEvent _ _ _).modifyContact _
  refine .rewrites ⟨hlocal.contact, hlocal.attempt, rfl, rfl, rfl⟩ hx ?_ hy hyc
    Db.attempt_modify_self rfl rfl (.held hk rfl hr rfl)
  show (Db.modifyContact _ _ _).contact _ = _
  rw [Db.contact_modify_self, (Db.logEvent_frame ..).1,
    (Db.modifyAttempt_frame ..).1, hx]
  rfl

theorem record_calls (hi : s.InOrder env) (hk : s.worker w = some k)
    {f : FailureRecord} (hf : recordedFailure env k wact = some f)
    {commits : Bool} {o : JobOutcome} :
    CallsOrContacts env s (.worker w wact) (s.record commits
      (recordTriggerFailure env s.db f.aid f.loaded k.job.contactId f.contact
        f.event f.failure f.txStart s.now) o).db := by
  obtain ⟨⟨x, hx⟩, ⟨y, hy, hyc⟩, hg⟩ := hi.recorded hk hf
  obtain ⟨campaign, hg⟩ := Option.isSome_iff_exists.mp hg
  unfold System.record
  cases commits with
  | false => exact .inl .refl
  | true =>
      have hrows : (f.rows s.db s.now).attempt f.aid
          = (s.db.attempt f.aid).map (failAttempt f.loaded s.now) :=
        Db.attempt_modify_self
      have hattempt : (f.rows s.db s.now).attempt f.aid
          = some (failAttempt f.loaded s.now y) := by
        rw [hrows, hy]
        rfl
      show CallsOrContacts env s _ (recordTriggerFailure env s.db f.aid
        f.loaded k.job.contactId f.contact f.event f.failure f.txStart
        s.now).1
      unfold recordTriggerFailure
      rw [show (s.db.modifyAttempt f.aid
        (failAttempt f.loaded s.now)).logEvent f.aid f.event f.txStart
          = f.rows s.db s.now from rfl]
      dsimp only
      rw [hattempt, show (f.rows s.db s.now).campaign f.contact.campaignId
        = some campaign from hg]
      dsimp only
      refine .rewrites (((((Db.Local.refl s.db).modifyAttempt _).logEvent _ _
        _).modifyContact _).logEvent _ _ _) hx ?_ hy hyc hrows rfl rfl
        (show CallStep env s k.job.contactId f.aid x (.worker w wact)
          (f.contact.flush (f.recovery env s.db k.job.contactId y campaign
            s.now).contact x) _ from .recorded hk rfl hf rfl hy)
      rw [(Db.logEvent_frame ..).1, Db.contact_modify_self, FailureRecord.rows,
        (Db.logEvent_frame ..).1, (Db.modifyAttempt_frame ..).1, hx]
      rfl

theorem run_calls (hi : s.InOrder env) (hk : s.worker w = some k)
    {a : AttemptId} {loaded : Option CallAttempt} {run : Nat} {ty : EventType}
    {t : Instant} (hr : recordedRun env k wact = some (a, loaded, run)) :
    CallsOrContacts env s (.worker w wact)
      ((s.db.modifyAttempt a (writeRun loaded run)).logEvent a ty t) := by
  obtain ⟨⟨x, hx⟩, y, hy, hyc⟩ := hi.ranRun hk hr
  have hstate : (writeRun loaded run y).state = y.state := rfl
  exact .rewrites (((Db.Local.refl s.db).modifyAttempt _).logEvent _ _ _) hx hx
    hy hyc Db.attempt_modify_self rfl hstate (.ran hk hy hr)

theorem secondLookup_calls (hi : s.InOrder env) (hk : s.worker w = some k)
    {previous : AttemptId} {view : DialView} {result : LookupResult}
    (hp : k.phase = .secondGate previous view) :
    CallsOrContacts env s (.worker w (.secondLookup result))
      (secondLookupStep env s k previous view result).db := by
  have hview := hi.runs w k hk
  rw [hp] at hview
  obtain ⟨⟨y, hy, hyc⟩, hview⟩ := hview
  obtain ⟨x, hx⟩ := hview.contact
  unfold secondLookupStep
  split
  case h_2 => exact .inl .refl
  case h_3 => exact .inl .refl
  next o db' hgate =>
  show CallsOrContacts env s _ db'
  rcases secondGate_cases hgate with ⟨rfl, rfl⟩ | rfl | ⟨ids, prev, rfl, h⟩
  · unfold deferOrExpire
    split
    · refine .inl ⟨fun _ => rfl, fun c z hz => ?_⟩
      show ∃ x', (Db.modifyContact _ _ _).contact c = some x' ∧ _
      rw [Db.contact_modifyContact]
      split
      · rw [hz]
        exact ⟨_, rfl, .expired⟩
      · exact ⟨z, hz, .same⟩
    · exact .inl ⟨fun _ => rfl, fun c z hz => ⟨z, hz, .same⟩⟩
  · exact .inl .refl
  · rw [h.attempt] at hy
    cases hy
    obtain ⟨y', hy', hrow⟩ := h.row
    have hkept : y'.contactId = k.job.contactId ∧ y'.state = .initiated := by
      rcases hrow with rfl | ⟨run, -, rfl⟩ <;> exact ⟨hyc, rfl⟩
    refine .inr ⟨_, previous, x, _, y', h.local_, hx, by rw [h.contact, hx]; rfl,
      hy', hkept.1, fun z hz => ?_, ?_⟩
    · rw [h.attempt] at hz
      cases hz
      exact hyc
    · rw [hkept.2]
      exact .reopened hk rfl hp

/-- The row a claim is on is one of the contact's. -/
theorem ClaimSpec.call {view : DialView} {aid : AttemptId} {created : Bool}
    {db : Db} (h : ClaimSpec env s k view aid created db)
    (hview : view.InOrder env s.db k.job.contactId) :
    (∃ y, db.attempt aid = some y ∧ y.contactId = k.job.contactId) ∧
      ∀ y, s.db.attempt aid = some y → y.contactId = k.job.contactId := by
  have hkept : ∀ y, s.db.attempt aid = some y → ∃ y₀, db.attempt aid = some y₀ ∧
      y₀.contactId = y.contactId := by
    intro y hy
    obtain ⟨y₀, hy₀, ⟨-, rfl⟩ | ⟨rfl, -⟩⟩ := h.attempt y hy
    · exact ⟨_, hy₀, rfl⟩
    · exact ⟨_, hy₀, rfl⟩
  cases hheld : view.held with
  | none =>
      obtain ⟨y', hy', hc, -⟩ := h.row hheld
      refine ⟨⟨y', hy', hc⟩, fun y hy => ?_⟩
      obtain ⟨y₀, hy₀, hc₀⟩ := hkept y hy
      rw [hy'] at hy₀
      cases hy₀
      exact hc₀.symm.trans hc
  | some a =>
      obtain rfl := h.held a hheld
      obtain ⟨-, y, hy, hyc⟩ := hview.held a hheld
      obtain ⟨y₀, hy₀, hc₀⟩ := hkept y hy
      refine ⟨⟨y₀, hy₀, hc₀.trans hyc⟩, fun z hz => ?_⟩
      rw [hy] at hz
      cases hz
      exact hyc

theorem native_calls (hk : s.worker w = some k) {view : DialView}
    {reads : GateReads} {native : NativeAnswer} {commits created : Bool}
    {aid : AttemptId} {db : Db} (hp : k.phase = .ready view)
    (he : env.settings.callingEngine = .native)
    (hview : view.InOrder env s.db k.job.contactId)
    (h : ClaimSpec env s k view aid created db)
    (howned : ∀ x, s.db.contact k.job.contactId = some x → s.db.Owned x) :
    CallsOrContacts env s (.worker w (.gate reads native commits))
      (nativeStep env s k db aid native commits).db := by
  unfold nativeStep
  split
  · exact .inl .refl
  next r hr =>
  unfold System.record
  cases commits with
  | false => exact .inl .refl
  | true =>
      obtain ⟨x, hx⟩ := hview.contact
      obtain ⟨⟨y, hy, hyc⟩, hmine⟩ := h.call hview
      have hplaced : Placed env db aid k.job.contactId native r s.now
          (placeNative env db native.provider aid k.job.contactId r
            native.conversationStarts k.startedAt s.now).1 :=
        placeNative_rows
      show CallsOrContacts env s _ (placeNative env db native.provider aid
        k.job.contactId r native.conversationStarts k.startedAt s.now).1
      generalize (placeNative env db native.provider aid k.job.contactId r
        native.conversationStarts k.startedAt s.now).1 = db' at hplaced ⊢
      have hclaimed : db.contact k.job.contactId = some (view.contact.flush
          (claimContact created view.contact) x) := by
        rw [h.contact, hx]
        rfl
      have hattempt : db'.attempt aid = some (nativeAttempt native r s.now y) := by
        rw [hplaced.attempt, hy]
        rfl
      have howner : (nativeAttempt native r s.now y).contactId
          = k.job.contactId := by
        unfold nativeAttempt
        split <;> exact hyc
      have hstate : (nativeAttempt native r s.now y).state
          = if r.outcome = .initiated then .connected
            else .failedToConnect := by
        unfold nativeAttempt
        split <;> rfl
      have hlocal := h.local_.trans hplaced.local_
      rcases hplaced.contact with ⟨hok, hc⟩ | ⟨hko, ⟨hc, hsilent⟩ |
        ⟨reason, y', x', campaign, hreason, -, hx', -, -, hc⟩⟩
      · refine .inr ⟨_, aid, x, _, _, hlocal, hx,
          by rw [hc, hclaimed]; rfl, hattempt, howner, hmine, ?_⟩
        rw [hstate, if_pos hok]
        exact .placed hk rfl hp
      · refine .inr ⟨_, aid, x, _, _, hlocal, hx, hc.trans hclaimed, hattempt,
          howner, hmine, ?_⟩
        rw [hstate, if_neg hko]
        refine .unplaced hk rfl hp he hr hko ?_
        -- the attempt was claimed, and the campaign of a contact is there
        rcases hsilent _ hclaimed with h₁ | h₁ | h₁
        · exact h₁
        · rw [hy] at h₁
          cases h₁
        · have hg := howned x hx
          have hsame : (view.contact.flush (claimContact created view.contact)
            x).campaignId = x.campaignId := flush_campaign rfl
          unfold Db.Owned Db.campaign at hg
          unfold Db.campaign at h₁
          rw [h.local_.campaigns, hsame] at h₁
          rw [h₁] at hg
          cases hg
      · rw [hclaimed] at hx'
        cases hx'
        refine .inr ⟨_, aid, x, _, _, hlocal, hx, hc, hattempt, howner, hmine,
          ?_⟩
        rw [hstate, if_neg hko]
        exact .nativeRecovery hk rfl hp he hr hko h.suppressions

theorem gate_calls (hi : s.InOrder env) (hk : s.worker w = some k)
    {view : DialView} {reads : GateReads} {native : NativeAnswer}
    {commits : Bool} (hp : k.phase = .ready view) :
    CallsOrContacts env s (.worker w (.gate reads native commits))
      (gateStep env s k view reads native commits).db := by
  have hview := hi.runs w k hk
  rw [hp] at hview
  have hview : view.InOrder env s.db k.job.contactId := hview
  unfold gateStep
  split
  · exact .inl .refl
  · exact .inl .refl
  · split
    · exact .inl .refl
    · next aid prior db hclaim =>
      obtain ⟨-, created, h⟩ := claimAttempt_spec hclaim
      split
      · next he =>
        obtain ⟨x, hx⟩ := hview.contact
        obtain ⟨⟨y, hy, hyc⟩, hmine⟩ := h.call hview
        refine .inr ⟨_, aid, x, _, y, h.local_, hx,
          by rw [h.contact, hx]; rfl, hy, hyc, hmine, ?_⟩
        rw [h.started he y hy]
        exact .claimed hk rfl hp he
      · next he => exact native_calls hk hp he hview h fun x => hi.owned _ x

/-- **Every step of a worker**, on its contact and its attempt. -/
theorem workerStep_calls (hi : s.InOrder env) (hk : s.worker w = some k)
    {r : WorkerStep} (h : workerStep env s k wact = some r) :
    CallsOrContacts env s (.worker w wact) r.db := by
  cases wact with
  | early reads =>
      cases hp : k.phase <;> simp [workerStep, hp] at h
      subst h
      unfold earlyStep
      split
      · split
        · exact .inl .refl
        · split <;> exact .inl .refl
      · exact .inl .refl
  | acquire =>
      cases hp : k.phase <;> simp [workerStep, hp] at h
      obtain ⟨_, rfl⟩ := h
      exact .inl .refl
  | check =>
      cases hp : k.phase <;> simp [workerStep, hp] at h
      subst h
      unfold checkStep
      split <;> exact .inl .refl
  | secondLookup result =>
      cases hp : k.phase <;> simp [workerStep, hp] at h
      subst h
      exact secondLookup_calls hi hk hp
  | gate reads native commits =>
      cases hp : k.phase <;> simp [workerStep, hp] at h
      subst h
      exact gate_calls hi hk hp
  | notConfigured haltWritable =>
      cases hp : k.phase <;> simp [workerStep, hp] at h
      subst h
      unfold notConfiguredStep
      split
      · exact .inl .refl
      · next aid prior _ contact hc =>
        split
        · next hw =>
          subst hw
          exact hold_calls (h := ⟨aid, contact, prior, s.now⟩) hi hk
            (by simp [recordedHold, hp, hc])
        · exact .inl .refl
  | send =>
      cases hp : k.phase <;> simp [workerStep, hp] at h
      subst h
      unfold sendStep
      split <;> exact .inl .refl
  | answer response streak haltWritable commits =>
      cases hp : k.phase <;> simp [workerStep, hp] at h
      obtain ⟨_, rfl⟩ := h
      next aid prior contact sentAt request _ =>
      unfold answerStep
      split
      · next run hd =>
        split
        · next db haccept =>
          unfold acceptTrigger at haccept
          split at haccept
          · cases haccept
          · cases haccept
            exact @run_calls _ _ _ _ _ hi hk _ none run _ _
              (by simp [recordedRun, hp, hd])
        · exact .inl .refl
      · next hd =>
        split
        · next hw =>
          subst hw
          exact hold_calls (h := ⟨aid, contact, prior, sentAt⟩) hi hk
            (by simp [recordedHold, hp, hd])
        · exact .inl .refl
      · exact .inl .refl
      · next failure hd =>
        exact record_calls (f := ⟨aid, none, contact,
          triggerEventType failure, failure, sentAt⟩) hi hk
          (by simp [recordedFailure, hp, hd])
  | firstLookup result commits =>
      cases hp : k.phase <;> simp [workerStep, hp] at h
      subst h
      next aid loaded contact event failure otherwise txStart =>
      unfold firstLookupStep
      split
      · next run runs =>
        split
        · next o db hres =>
          unfold resolveFoundRuns at hres
          split at hres
          · next run hruns =>
            obtain ⟨db₁, hadopt, heq⟩ := Option.map_eq_some_iff.mp hres
            cases heq
            cases hruns
            unfold adoptRun at hadopt
            split at hadopt
            · cases hadopt
            · cases hadopt
              exact @run_calls _ _ _ _ _ hi hk _ loaded run _ _
                (by simp [recordedRun, hp])
          · cases hres
            exact .inl ⟨fun _ => rfl, fun c x hx => ⟨x, hx, .same⟩⟩
        · exact .inl .refl
      · next hnone =>
        refine record_calls (f := ⟨aid, loaded, contact, event, failure,
          txStart⟩) hi hk ?_
        cases result with
        | failed => simp [recordedFailure, hp]
        | runs ids =>
            cases ids with
            | nil => simp [recordedFailure, hp]
            | cons run runs => exact absurd rfl (hnone run runs)
  | settle =>
      cases hp : k.phase <;> simp [workerStep, hp] at h
      · subst h
        exact .inl .refl
      · subst h
        exact .inl .refl
  | crash =>
      cases h
      exact .inl .refl

/-- **Every step**, on a contact and its attempt, or on contacts alone. -/
theorem systemStep_calls (hi : s.InOrder env)
    (h : systemStep env s act = some s') :
    CallsOrContacts env s act s'.db := by
  have he := systemStep_effect h
  -- the steps beside services and workers
  have hplain : (∀ w wact, act ≠ .worker w wact) →
      (∀ op, act ≠ .service op true) → CallsOrContacts env s act s'.db := by
    intro hw hs
    refine .inl ⟨fun a => ?_, fun c x hx => ?_⟩
    · cases hy : s.db.attempt a with
      | some y =>
          obtain ⟨y', hy', hch⟩ := he.attempt a y hy
          cases hch with
          | same => exact hy'
          | service change => exact absurd rfl (hs _)
          | worker running change => exact absurd rfl (hw _ _)
      | none =>
          cases hy' : s'.db.attempt a with
          | none => rfl
          | some y' =>
              obtain ⟨w, k, wact, hact, -⟩ := he.inserted a y' hy hy'
              exact absurd hact (hw w wact)
    · obtain ⟨x', hx', hch⟩ := he.contact c x hx
      refine ⟨x', hx', ?_⟩
      cases hch with
      | same => exact .same
      | service change => exact absurd rfl (hs _)
      | worker running about change => exact absurd rfl (hw _ _)
      | dispatched due about change => exact .dispatched change
      | parked message about waiting => exact .parked
  cases act with
  | worker w wact =>
      obtain ⟨k, hk, h⟩ := Option.bind_eq_some_iff.mp h
      obtain ⟨r, hr, rfl⟩ := Option.map_eq_some_iff.mp h
      exact workerStep_calls hi hk hr
  | service op commits =>
      obtain ⟨r, hr, rfl⟩ := Option.map_eq_some_iff.mp h
      cases commits with
      | false => exact .inl .refl
      | true => exact serviceStep_calls hi hr
  | _ => exact hplain (fun _ _ h => (by cases h)) fun _ h => (by cases h)

end

end CallingAgent
