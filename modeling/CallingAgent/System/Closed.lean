import CallingAgent.System.EventClaims
import CallingAgent.System.RetryEntries

/-!
# Closed — what happens to a contact that must not be called

Removal, deactivation, an opt-out and an erasure close a contact, also
while a call of it is in progress. From that moment on: which steps leave
it closed, and what keeps the dialer away from it. A webhook is a transaction
of its own that loads its rows, claims its event and commits, and the contact
may be closed between any two of these.
-/

namespace CallingAgent

open Lib

/-! ## The rule -/

/-- The columns of a scheduled retry. -/
def Contact.retry (x : Contact) : Option Instant × Option AttemptId × Option Nat :=
  (x.nextRetryAt, x.retryAttemptId, x.retryAttemptNumber)

/-- A run past its checks that has not asked for a call yet. -/
def Phase.behindChecks : Phase → Bool
  | .secondGate _ _ | .ready _ | .claimed _ _ => true
  | _ => false

/-- No run of the dialer is about to call the contact. -/
def System.NoDial (s : System) (c : ContactId) : Prop :=
  ∀ w k, s.worker w = some k → k.job.contactId = c →
    k.phase.behindChecks = false

/-- The contact is closed, and its retry columns are as they were in `x`, or
cleared. -/
def System.StaysClosed (s : System) (c : ContactId) (x : Contact) : Prop :=
  ∃ x', s.db.contact c = some x' ∧ x'.status = .closed ∧
    (x'.retry = x.retry ∨ x'.retry = (none, none, none))

/-- The step places a call to the contact, or sends its trigger. -/
def System.Dials (s : System) (c : ContactId) : SystemAct → Prop
  | .worker w .send | .worker w (.gate ..) =>
      ∃ k, s.worker w = some k ∧ k.job.contactId = c
  | _ => False

/-- The step schedules no retry of the contact; the retry of a dial job may
go back to the schedule it came from. -/
def System.SchedulesNone (env : Env) (s : System) (act : SystemAct)
    (s' : System) (c : ContactId) : Prop :=
  ∀ job due, (ScheduleEntry.retry job, due) ∈ s'.redis.schedule →
    job.contactId = c →
    (∃ t, (ScheduleEntry.retry job, t) ∈ s.redis.schedule) ∨
      putsRetryBack env s act = true

/-! ## The condition -/

/-- What reports on a call of the contact leaves a closed contact closed. -/
def sparesClosed (env : Env) (c : ContactId) (s : System) : SystemAct → Bool
  | .service (.dograhWebhook p) _ =>
      match admitWebhook env s.db p with
      | .accepted w => w.attempt.contactId != c || p.optsOut env
          || (!w.unresolved && w.outcome.state == .failedToConnect)
      | _ => true
  | .service (.callStatus p) _ => p.status != "connected"
      || (s.db.attemptByProviderCallId p.providerCallId).all fun a =>
        (s.db.attempt a).all (·.contactId != c)
  | .service (.conversationEnds aid reason pendingPoints) _ =>
      Conversation.endingStatus reason pendingPoints == .closed
        || (s.db.conversationAttempt aid).all (·.contactId != c)
  | .service (.conversationDrops aid _) _ =>
      (s.db.conversationAttempt aid).all (·.contactId != c)
  | .worker w act => (s.worker w).all fun k => k.job.contactId != c
      || ((recordedFailure env k act).all fun f => f.contact.status == .closed
          || s.db.suppressions.isSuppressed env
            f.contact.normalizedPhoneNumber)
        && (recordedHold env s k act).all fun h =>
          h.prior.status == h.contact.status
  | _ => true

/-! ## The contact -/

section

variable {env : Env} {s s' : System} {act : SystemAct} {c : ContactId}
  {x : Contact}

/-- A spared delivery hands a closed contact on closed. -/
theorem handedContact_closed {w : AcceptedWebhook} {optedOut : Bool}
    (h : optedOut = true ∨
      w.unresolved = false ∧ w.outcome.state = .failedToConnect)
    (hclosed : w.contact.status = .closed) :
    (w.handedContact optedOut).status = .closed := by
  unfold AcceptedWebhook.handedContact
  cases optedOut with
  | true => rfl
  | false =>
      rcases h with h | ⟨hu, hs⟩
      · cases h
      · rw [hu, hs]
        exact hclosed

/-- Of a closed or suppressed copy the manager changes nothing. -/
theorem answer_suppressed {q : Consultation} {now : Instant}
    (h : q.contact.status = .closed ∨ q.db.suppressions.isSuppressed env
      q.contact.normalizedPhoneNumber = true) :
    (q.answer env now).contact = q.contact ∧
      (q.answer env now).entry = none := by
  unfold Consultation.answer
  rw [handleDisconnect_suppressed h]
  exact ⟨rfl, rfl⟩

/-- The manager changes nothing of a closed contact. -/
theorem Consulted.spared {q : Consultation} {db' : Db} {x : Contact}
    (hq : Consulted env s db' act q) (hc : q.contactId = c)
    (hx : s.db.contact c = some x) (hclosed : x.status = .closed)
    (hdial : s.NoDial c) (hspare : sparesClosed env c s act = true) :
    (q.answer env s.now).contact = q.contact ∧
      (q.answer env s.now).entry = none := by
  apply answer_suppressed
  cases hq with
  | @webhook p w commits found state =>
      have hc : w.attempt.contactId = c := hc
      have hrow : w.contact = x :=
        Option.some.inj (found.contact.symm.trans (hc ▸ hx))
      simp only [sparesClosed, admitWebhook_of_found found, hc, bne_self_eq_false,
        Bool.false_or, Bool.or_eq_true, Bool.and_eq_true, Bool.not_eq_true',
        beq_iff_eq] at hspare
      exact .inl (handedContact_closed hspare (hrow ▸ hclosed))
  | @dropped aid a _ reason _ commits attempt contact campaign =>
      have hc : a.contactId = c := hc
      simp [sparesClosed, attempt, hc] at hspare
  | @failed w k wact f a _ running record attempt campaign =>
      have hc : k.job.contactId = c := hc
      simp only [sparesClosed, running, Option.all_some, hc, bne_self_eq_false,
        Bool.false_or, Bool.and_eq_true, record, Bool.or_eq_true,
        beq_iff_eq] at hspare
      exact hspare.1
  | native running phase engine answer ko said contact =>
      have h := hdial _ _ running hc
      rw [phase] at h
      cases h

theorem handedContact_retry {w : AcceptedWebhook} (optedOut : Bool) :
    (w.handedContact optedOut).retry = w.contact.retry := by
  unfold AcceptedWebhook.handedContact
  cases optedOut <;> cases w.unresolved <;> cases w.outcome.state <;> rfl

/-- A session that leaves the status and the retry of its copy alone leaves
the row's. -/
theorem flush_status {loaded new row : Contact}
    (h : new.status = loaded.status) :
    (loaded.flush new row).status = row.status := by
  simp [Contact.flush, h]

theorem flush_retry {loaded new row : Contact}
    (h : new.retry = loaded.retry) :
    (loaded.flush new row).retry = row.retry := by
  simp only [Contact.retry, Prod.mk.injEq] at h
  simp [Contact.flush, Contact.retry, h]

/-- What a closed row is after a step: closed, with its retry or none. -/
def Contact.ClosedFrom (x x' : Contact) : Prop :=
  x'.status = .closed ∧ (x'.retry = x.retry ∨ x'.retry = (none, none, none))

theorem service_closed {op : ServiceOp} {x' : Contact}
    (hx : s.db.contact c = some x) (hclosed : x.status = .closed)
    (hdial : s.NoDial c)
    (hspare : sparesClosed env c s (.service op true) = true)
    (hch : ContactChange env s.db s.now c x op x') : x.ClosedFrom x' := by
  cases hch with
  | same => exact ⟨hclosed, .inl rfl⟩
  | moved open_ away => exact absurd hclosed open_
  | removed => exact ⟨rfl, .inl rfl⟩
  | deactivated => exact ⟨rfl, .inl rfl⟩
  | erased =>
      refine ⟨?_, .inl rfl⟩
      unfold scrubContact
      rw [hclosed]
  | @webhook p w found about row =>
      unfold AcceptedWebhook.leftContact
      split
      · next hended =>
        simp only [sparesClosed, admitWebhook_of_found found, about,
          bne_self_eq_false, Bool.false_or, Bool.or_eq_true, Bool.and_eq_true,
          beq_iff_eq, hended, reduceCtorEq, and_false, or_false] at hspare
        refine ⟨?_, .inl ?_⟩
        · unfold AcceptedWebhook.handedContact
          rw [hspare]
          rfl
        · rw [handedContact_retry, row]
      · next hs =>
        have hq : Consulted env s s.db (.service (.dograhWebhook p) true) _ :=
          .webhook found hs
        have hsame := (hq.spared about hx hclosed hdial hspare).1
        have hpaths : w.recovery env s.db p s.now
          = Consultation.answer ⟨outcomeDb env s.db p w s.now,
            w.attempt.contactId, w.handedContact (p.optsOut env), w.campaign,
            w.disconnect⟩ env s.now := rfl
        rw [hpaths, hsame]
        refine ⟨?_, .inl ?_⟩
        · simp only [sparesClosed, admitWebhook_of_found found, about,
            bne_self_eq_false, Bool.false_or, Bool.or_eq_true,
            Bool.and_eq_true, Bool.not_eq_true', beq_iff_eq] at hspare
          show (w.handedContact (p.optsOut env)).status = .closed
          exact handedContact_closed hspare (row ▸ hclosed)
        · show (w.handedContact _).retry = _
          rw [handedContact_retry, row]
  | connected status found attempt open_ about =>
      simp [sparesClosed, status, found, attempt, about] at hspare
  | swept attempt about stuck =>
      simp [isStuck, hclosed] at stuck
  | optedOut attempt about => exact ⟨rfl, .inl rfl⟩
  | @ended aid a reason pendingPoints attempt about =>
      simp only [sparesClosed, attempt, Option.all_some, about,
        bne_self_eq_false, Bool.or_false, beq_iff_eq] at hspare
      exact ⟨hspare, .inl rfl⟩
  | dropped attempt about campaign =>
      simp [sparesClosed, attempt, about] at hspare
  | stranded attempt about campaign =>
      simp [sparesClosed, attempt, about] at hspare

theorem worker_closed {w : WorkerId} {k : Worker} {wact : WorkerAct}
    {x' : Contact} {db' : Db} (hk : s.worker w = some k)
    (about : k.job.contactId = c) (hx : s.db.contact c = some x)
    (hclosed : x.status = .closed) (hdial : s.NoDial c)
    (hspare : sparesClosed env c s (.worker w wact) = true)
    (hch : WorkerContact env s k db' x wact x') : x.ClosedFrom x' := by
  have hbehind := hdial w k hk about
  cases hch with
  | same => exact ⟨hclosed, .inl rfl⟩
  | held record =>
      simp only [sparesClosed, hk, Option.all_some, about, bne_self_eq_false,
        Bool.false_or, Bool.and_eq_true, record, beq_iff_eq] at hspare
      exact ⟨(flush_status hspare.2).trans hclosed, .inl (flush_retry rfl)⟩
  | recorded record attempt campaign attempts =>
      have hq : Consulted env s db' (.worker w wact) _ :=
        .failed hk record attempt campaign
      have hsame := (hq.spared about hx hclosed hdial hspare).1
      have hsame : (FailureRecord.recovery _ env s.db k.job.contactId _ _
        s.now).contact = _ := hsame
      rw [hsame, Contact.flush_clean]
      exact ⟨hclosed, .inl rfl⟩
  | expired phase =>
      rw [phase] at hbehind
      cases hbehind
  | reopened phase =>
      rw [phase] at hbehind
      cases hbehind
  | claimed phase =>
      rw [phase] at hbehind
      cases hbehind
  | placed phase =>
      rw [phase] at hbehind
      cases hbehind
  | unplaced phase =>
      rw [phase] at hbehind
      cases hbehind
  | nativeRecovery phase =>
      rw [phase] at hbehind
      cases hbehind

/-- Dispatch drops the retry of a closed contact. -/
theorem retryVerdict_closed {job : RecoveryJob} {db : Db} {now : Instant}
    (hx : db.contact job.contactId = some x) (hclosed : x.status = .closed) :
    retryVerdict env db job now = .skip ∨
      retryVerdict env db job now = .targetMissing := by
  unfold retryVerdict
  rw [hx]
  cases db.campaign job.campaignId with
  | none => exact .inr rfl
  | some campaign => exact .inl (if_pos (.inl hclosed))

theorem RowChange.closed {x' : Contact} (hx : s.db.contact c = some x)
    (hclosed : x.status = .closed) (hdial : s.NoDial c)
    (hspare : sparesClosed env c s act = true)
    (hch : RowChange env s s' c x act x') : x.ClosedFrom x' := by
  cases hch with
  | same => exact ⟨hclosed, .inl rfl⟩
  | service change => exact service_closed hx hclosed hdial hspare change
  | worker running about change =>
      exact worker_closed running about hx hclosed hdial hspare change
  | dispatched due about change =>
      subst about
      have hskip := @retryVerdict_closed env _ _ _ s.now hx hclosed
      cases change with
      | cleared verdict => exact ⟨hclosed, .inr rfl⟩
      | later verdict => rw [verdict] at hskip; simp at hskip
      | enqueued verdict => rw [verdict] at hskip; simp at hskip
  | parked message about waiting =>
      rw [hclosed] at waiting
      rcases waiting with h | h <;> cases h

/-! ## The dialer -/

/-- The checks stop a run of a closed contact. -/
theorem System.NoDial.step (hdial : s.NoDial c) (hx : s.db.contact c = some x)
    (hclosed : x.status = .closed) (h : systemStep env s act = some s') :
    s'.NoDial c := by
  have hcheck : ∀ {job : DialJob} {view : DialView}, job.contactId = c →
      (dialCheck env s.db job s.now).view ≠ some view := by
    intro job view hc hv
    have hp := dialCheck_passed hv
    obtain ⟨campaign, -, helig⟩ := hp.eligible
    have hrow := hp.contact
    rw [hc, hx] at hrow
    cases hrow
    have hd := helig.dialable
    rw [hclosed] at hd
    cases hd
  intro w k hk hc
  rcases systemStep_worker h hk with ⟨hold, -⟩ |
    ⟨m, job, startedAt, rfl, rfl⟩ | ⟨wact, k₀, r, phase, rfl, hk₀, hr, rfl,
      hphase, rfl⟩
  · exact hdial w k hold hc
  · rfl
  · have hbehind := hdial w k₀ hk₀ hc
    cases workerStep_phase hr hphase with
    | secondGate check => exact absurd (by rw [check]; rfl) (hcheck hc)
    | ready check => exact absurd (by rw [check]; rfl) (hcheck hc)
    | passed phase gate => rw [phase] at hbehind; cases hbehind
    | claimed phase => rw [phase] at hbehind; cases hbehind
    | _ => rfl

/-- A run that is not past its checks does not dial. -/
theorem System.NoDial.dials (hdial : s.NoDial c)
    (h : systemStep env s act = some s') : ¬ s.Dials c act := by
  intro hd
  cases act with
  | worker w wact =>
      obtain ⟨k, hk, h⟩ := Option.bind_eq_some_iff.mp h
      obtain ⟨r, hr, -⟩ := Option.map_eq_some_iff.mp h
      cases wact with
      | send =>
          obtain ⟨k', hk', hc⟩ := hd
          rw [hk] at hk'
          cases hk'
          have hbehind := hdial w k hk hc
          cases hp : k.phase <;> simp [workerStep, hp] at hr
          rw [hp] at hbehind
          cases hbehind
      | gate reads native commits =>
          obtain ⟨k', hk', hc⟩ := hd
          rw [hk] at hk'
          cases hk'
          have hbehind := hdial w k hk hc
          cases hp : k.phase <;> simp [workerStep, hp] at hr
          rw [hp] at hbehind
          cases hbehind
      | _ => cases hd
  | _ => cases hd

theorem System.NoDial.schedules (hdial : s.NoDial c)
    (hx : s.db.contact c = some x) (hclosed : x.status = .closed)
    (hspare : sparesClosed env c s act = true)
    (h : systemStep env s act = some s') : s.SchedulesNone env act s' c := by
  intro job due hm hc
  rcases (systemStep_adds h).entry _ hm with hold | hnew
  · exact .inl hold
  · right
    generalize he : ScheduleEntry.retry job = e at hnew
    cases hnew with
    | @manager _ q job' due asked entry =>
        cases he
        have hshape : (q.answer env s.now).Shape q.contactId q.contact
            q.disconnect := handleDisconnect_shape
        have hq : q.contactId = c := by
          rcases hshape.outcome with ⟨-, h⟩ | ⟨-, h⟩ | ⟨d, -, h⟩
          · rw [h] at entry
            cases entry
          · rw [h] at entry
            cases entry
          · rw [h] at entry
            cases entry
            exact hc
        rw [(asked.spared hq hx hclosed hdial hspare).2] at entry
        cases entry
    | deferred => cases he
    | putBack running settled branch previous_ =>
        simp [putsRetryBack, running, settled, branch]
    | @rebuilt k y e due contact entry =>
        obtain ⟨hs, -, a, n, rfl, -⟩ := rebuildEntry_cases entry
        cases he
        have hkc : k = c := hc
        rw [hkc, hx] at contact
        cases contact
        rw [hclosed] at hs
        cases hs

end

/-! ## Webhooks step by step -/

/-- The system, with the transactions of the webhooks. -/
structure DeliverySystem where
  system : System
  open_ : Table Nat DeliveryTx := ∅

inductive DeliveryAct where
  | system (act : SystemAct)
  /-- one step of a webhook's transaction -/
  | webhook (act : ClaimAct)

/-- The webhooks' view of what is committed. -/
def DeliverySystem.claims (t : DeliverySystem) : ClaimState :=
  ⟨t.system.db, t.system.redis, t.open_⟩

def deliveryStep (env : Env) (t : DeliverySystem) :
    DeliveryAct → Option DeliverySystem
  | .system act => (systemStep env t.system act).map fun s' =>
      { t with system := s' }
  | .webhook act => (claimStep env t.claims act).map fun c =>
      ⟨{ t.system with db := c.db, redis := c.redis }, c.open_⟩

/-- No webhook calls anybody. -/
def DeliverySystem.Dials (t : DeliverySystem) (c : ContactId) :
    DeliveryAct → Prop
  | .system act => t.system.Dials c act
  | .webhook _ => False

/-- The step schedules no retry of the contact, as far as it is not put
back. -/
def DeliverySystem.SchedulesNone (env : Env) (t : DeliverySystem)
    (act : DeliveryAct) (t' : DeliverySystem) (c : ContactId) : Prop :=
  ∀ job due, (ScheduleEntry.retry job, due) ∈ t'.system.redis.schedule →
    job.contactId = c →
    (∃ d, (ScheduleEntry.retry job, d) ∈ t.system.redis.schedule) ∨
      ∃ sact, act = .system sact ∧ putsRetryBack env t.system sact = true

/-- What the session of a webhook commits leaves a closed contact closed:
also where the contact was closed after the session had loaded it. -/
def DeliveryTx.spares (env : Env) (db : Db) (c : ContactId) (x : DeliveryTx) :
    Bool :=
  match x.stage with
  | .statusClaimed _ _ _ => !x.holdsContact c
  | .dograhClaimed p w true => w.attempt.contactId != c || p.optsOut env
      || !w.unresolved && w.outcome.state == .failedToConnect
        && (w.contact.status == .closed || db.suppressions.isSuppressed env
          w.contact.normalizedPhoneNumber)
  | _ => true

def DeliverySystem.spares (env : Env) (c : ContactId) (t : DeliverySystem) :
    DeliveryAct → Bool
  | .system act => sparesClosed env c t.system act
  | .webhook (.commit i) =>
      (t.claims.tx i).all (·.spares env t.system.db c)
  | .webhook _ => true

/-! ## What a webhook commits -/

section

variable {env : Env} {db : Db} {p : DograhWebhookPayload} {w : AcceptedWebhook}
  {now : Instant} {step : WebhookStep} {x : Contact}

/-- The step schedules nothing, and leaves the contact of the delivery closed
or with the status it had loaded, and with its retry. -/
def WebhookStep.Spares (step : WebhookStep) (w : AcceptedWebhook) : Prop :=
  step.entry = none ∧
    ∀ x', step.db.contact w.attempt.contactId = some x' →
      (x'.status = .closed ∨ x'.status = w.contact.status) ∧
        x'.retry = w.contact.retry

/-- Of a closed or suppressed copy the manager changes nothing. -/
theorem recoverOutcome_spared {neverConnected : Bool} {key : String}
    {outcome : WebhookOutcome}
    (h : x.status = .closed
      ∨ db.suppressions.isSuppressed env x.normalizedPhoneNumber = true) :
    (recoverOutcome env db w x neverConnected key outcome now).entry = none ∧
      ∀ x', (recoverOutcome env db w x neverConnected key outcome now).db.contact
        w.attempt.contactId = some x' → x' = x := by
  unfold recoverOutcome
  rw [handleDisconnect_suppressed h]
  refine ⟨rfl, fun x' hx' => ?_⟩
  have hx' : ((db.setContact w.attempt.contactId x).logEvent w.aid _ now).contact
      w.attempt.contactId = some x' := hx'
  rw [(Db.logEvent_frame ..).1, Db.contact_setContact, if_pos rfl] at hx'
  obtain ⟨-, -, rfl⟩ := Option.map_eq_some_iff.mp hx'
  rfl

/-- An opt-out closes the session's copy of the contact. -/
theorem openedContact_optsOut (h : p.optsOut env = true) :
    (w.openedContact env db p).status = .closed ∧
      (w.openedContact env db p).retry = w.contact.retry := by
  rw [AcceptedWebhook.openedContact, openOutcome_contact, if_pos h]
  cases w.unresolved <;> exact ⟨rfl, rfl⟩

/-- A completion that opts out, or reports a failure to connect on a copy
that is closed or suppressed, leaves its contact closed or as it was. -/
theorem applyWebhook_spared (h : applyWebhook env db p w now = .ok step)
    (hspare : p.optsOut env = true ∨
      w.unresolved = false ∧ w.outcome.state = .failedToConnect ∧
        (w.contact.status = .closed ∨ db.suppressions.isSuppressed env
          w.contact.normalizedPhoneNumber = true)) : step.Spares w := by
  have happlied := applyWebhook_applied h
  by_cases hopt : p.optsOut env = true
  · obtain ⟨hclosed, hretry⟩ := @openedContact_optsOut env db p w hopt
    have hsame : ∀ status, w.connectedContact env db p status
        = w.openedContact env db p := fun _ => if_pos hopt
    have hrecover : ∀ (db' : Db) (neverConnected : Bool) (key : String)
        (outcome : WebhookOutcome), (recoverOutcome env db' w
          (w.openedContact env db p) neverConnected key outcome
          now).Spares w := by
      intro db' neverConnected key outcome
      obtain ⟨hentry, hrow⟩ := @recoverOutcome_spared env db' w now
        (w.openedContact env db p) neverConnected key outcome (.inl hclosed)
      exact ⟨hentry, fun x' hx' => hrow x' hx' ▸ ⟨.inl hclosed, hretry⟩⟩
    cases happlied with
    | neverConnected => exact hrecover ..
    | droppedMidCall =>
        rw [hsame]
        exact hrecover ..
    | endedNormally =>
        rw [hsame]
        refine ⟨rfl, fun x' hx' => ?_⟩
        rw [Db.contact_setContact, if_pos rfl] at hx'
        obtain ⟨-, -, rfl⟩ := Option.map_eq_some_iff.mp hx'
        exact ⟨.inl hclosed, hretry⟩
  · obtain ⟨hresolved, hfailed, hcopy⟩ := hspare.resolve_left hopt
    have hsame : w.openedContact env db p = w.contact := by
      rw [AcceptedWebhook.openedContact, openOutcome_contact, if_neg hopt,
        hresolved]
      rfl
    have hsup : (endedDb env db p w now).suppressions = db.suppressions := by
      rw [endedDb, Bool.eq_false_iff.mpr hopt]
      rfl
    cases happlied with
    | @neverConnected reason =>
        rw [hsame]
        obtain ⟨hentry, hrow⟩ := @recoverOutcome_spared env
          (endedDb env db p w now) w now w.contact true
          (w.outcome.reasonKey.getD reason.value) .neverConnected
          (hcopy.imp_right fun h => hsup ▸ h)
        exact ⟨hentry, fun x' hx' => hrow x' hx' ▸ ⟨.inr rfl, rfl⟩⟩
    | droppedMidCall state =>
        rw [hfailed] at state
        cases state
    | endedNormally failed => exact absurd hfailed failed

theorem recoverOutcome_entry {neverConnected : Bool} {key : String}
    {outcome : WebhookOutcome} {job : RecoveryJob} {due : Instant}
    (h : (recoverOutcome env db w x neverConnected key outcome now).entry
      = some (job, due)) : job.contactId = w.attempt.contactId := by
  have hshape := @handleDisconnect_shape env db w.attempt.contactId x w.campaign
    ⟨w.aid, w.attempt.attemptNumber, neverConnected, key, none⟩ now
  have h : (handleDisconnect env db w.attempt.contactId x w.campaign
    ⟨w.aid, w.attempt.attemptNumber, neverConnected, key, none⟩ now).entry
      = some (job, due) := h
  rcases hshape.outcome with ⟨-, hnone⟩ | ⟨-, hnone⟩ | ⟨d, -, hsome⟩
  · rw [hnone] at h
    cases h
  · rw [hnone] at h
    cases h
  · rw [hsome] at h
    cases h
    rfl

theorem applyWebhook_entry (h : applyWebhook env db p w now = .ok step)
    {job : RecoveryJob} {due : Instant} (he : step.entry = some (job, due)) :
    job.contactId = w.attempt.contactId := by
  cases applyWebhook_applied h with
  | neverConnected => exact recoverOutcome_entry he
  | droppedMidCall => exact recoverOutcome_entry he
  | endedNormally => cases he

end

section

variable {env : Env} {t t' : DeliverySystem} {c : ContactId} {x : Contact}

/-- The rows of `db'` are those of `db`, but for the contact of the delivery,
into which it has written what it changed of its copy. -/
def AcceptedWebhook.Merged (w : AcceptedWebhook) (db new db' : Db) : Prop :=
  (∀ k, k ≠ w.attempt.contactId → db'.contact k = db.contact k) ∧
    ∀ current, db.contact w.attempt.contactId = some current →
      ∃ x, new.contact w.attempt.contactId = some x ∧
        db'.contact w.attempt.contactId = some (w.contact.flush x current)

theorem commitWebhook_merged {s : ClaimState} {p : DograhWebhookPayload}
    {w : AcceptedWebhook} {now : Instant}
    {r : Db × Option (RecoveryJob × Instant)}
    (h : commitWebhook env s p w now = some r) :
    ∃ step, applyWebhook env s.db p w now = .ok step ∧ r.2 = step.entry ∧
      w.Merged s.db step.db r.1 := by
  obtain ⟨step, hstep, rfl⟩ := Option.map_eq_some_iff.mp h
  have happly := ok_of_toOption hstep
  have hlocal := applyWebhook_local happly
  refine ⟨step, happly, rfl, ?_⟩
  have hwritten : ∀ (db : Db) (new current : Contact),
      (∀ k, db.contact k = step.db.contact k) →
      db.contact w.attempt.contactId = some new →
      s.db.contact w.attempt.contactId = some current →
      w.Merged s.db step.db (db.setContact w.attempt.contactId
        (w.contact.flush new current)) := by
    intro db new current hdb hnew hcurrent
    refine ⟨fun k hk => ?_, fun x hx => ⟨new, (hdb _).symm.trans hnew, ?_⟩⟩
    · rw [Db.contact_setContact, if_neg hk, hdb]
      exact hlocal.contact k hk
    · obtain rfl := Option.some.inj (hcurrent.symm.trans hx)
      rw [Db.contact_setContact, if_pos rfl, hnew]
      rfl
  have hmissing : ∀ db : Db, (∀ k, db.contact k = step.db.contact k) →
      (∀ new current, db.contact w.attempt.contactId = some new →
        s.db.contact w.attempt.contactId = some current → False) →
      w.Merged s.db step.db db := by
    intro db hdb hnone
    refine ⟨fun k hk => (hdb k).trans (hlocal.contact k hk), fun x hx => ?_⟩
    have hsome := @applyWebhook_isSome _ _ _ _ _ _ w.attempt.contactId happly
    rw [hx, Option.isSome_some] at hsome
    obtain ⟨new, hnew⟩ := Option.isSome_iff_exists.mp hsome
    exact (hnone new x ((hdb _).trans hnew) hx).elim
  -- the attempt's columns leave the contacts alone
  dsimp only
  split
  · exact hwritten _ _ _ (fun _ => by split <;> rfl) ‹_› ‹_›
  · next hnone => exact hmissing _ (fun _ => by split <;> rfl) hnone

/-- A spared completion commits nothing that opens its contact. -/
theorem commitWebhook_closed {s : ClaimState} {p : DograhWebhookPayload}
    {w : AcceptedWebhook} {now : Instant}
    {r : Db × Option (RecoveryJob × Instant)}
    (h : commitWebhook env s p w now = some r) (hx : s.db.contact c = some x)
    (hclosed : x.status = .closed)
    (hspare : w.attempt.contactId = c → p.optsOut env = true ∨
      w.unresolved = false ∧ w.outcome.state = .failedToConnect ∧
        (w.contact.status = .closed ∨ s.db.suppressions.isSuppressed env
          w.contact.normalizedPhoneNumber = true)) :
    (∃ x', r.1.contact c = some x' ∧ x.ClosedFrom x') ∧
      ∀ job due, r.2 = some (job, due) → job.contactId ≠ c := by
  obtain ⟨step, happly, hentry, hothers, hmine⟩ := commitWebhook_merged h
  rw [hentry]
  by_cases hc : w.attempt.contactId = c
  · subst hc
    obtain ⟨hnone, hrow⟩ := applyWebhook_spared happly (hspare rfl)
    obtain ⟨new, hnew, hx'⟩ := hmine x hx
    obtain ⟨hstatus, hretry⟩ := hrow new hnew
    refine ⟨⟨_, hx', ?_, .inl (flush_retry hretry)⟩, fun job due he => ?_⟩
    · rcases hstatus with hstatus | hstatus
      · by_cases hloaded : w.contact.status = new.status
        · exact (flush_status hloaded.symm).trans hclosed
        · simp [Contact.flush, writeBack, hstatus, hclosed]
      · exact (flush_status hstatus).trans hclosed
    · rw [hnone] at he
      cases he
  · exact ⟨⟨x, (hothers c (Ne.symm hc)).trans hx, hclosed, .inl rfl⟩,
      fun job due he hjob => hc ((applyWebhook_entry happly he).symm.trans hjob)⟩

/-- A spared status report writes nothing into the contact. -/
theorem StatusLoad.flush_spared {load : StatusLoad} {p : CallStatusPayload}
    {now : Instant} {db : Db}
    (h : (load.attempt.contactId == c && load.locksContact p) = false) :
    (load.flush p now db).contact c = db.contact c := by
  rw [StatusLoad.flush_contact]
  cases hl : load.contact with
  | none => rfl
  | some loaded =>
      dsimp only
      rw [Db.contact_modifyContact]
      split
      · next hc =>
        have hfree : load.locksContact p = false := by
          rw [← hc, beq_self_eq_true, Bool.true_and] at h
          exact h
        have hclean : assignContact p loaded = loaded := by
          unfold assignContact
          split
          · next hconnected =>
            simp only [StatusLoad.locksContact, hconnected, hl, beq_self_eq_true,
              Bool.true_and, Option.any_some, bne_eq_false_iff_eq] at hfree
            rw [← hfree]
          · rfl
        rw [hclean]
        cases db.contact c <;> simp
      · rfl

/-- **A step of a webhook**: the contact stays closed, and gets no retry. -/
theorem claimStep_closed {act : ClaimAct} {cs : ClaimState}
    (hx : t.system.db.contact c = some x) (hclosed : x.status = .closed)
    (hspare : t.spares env c (.webhook act) = true)
    (h : claimStep env t.claims act = some cs) :
    (∃ x', cs.db.contact c = some x' ∧ x.ClosedFrom x') ∧
      ∀ job due, (ScheduleEntry.retry job, due) ∈ cs.redis.schedule →
        job.contactId = c →
        ∃ d, (ScheduleEntry.retry job, d) ∈ t.system.redis.schedule := by
  have hsame : t.claims.Unchanged cs →
      (∃ x', cs.db.contact c = some x' ∧ x.ClosedFrom x') ∧
      ∀ job due, (ScheduleEntry.retry job, due) ∈ cs.redis.schedule →
        job.contactId = c →
        ∃ d, (ScheduleEntry.retry job, d) ∈ t.system.redis.schedule := by
    intro hu
    refine ⟨⟨x, (hu.rows.contacts c).trans hx, hclosed, .inl rfl⟩,
      fun job due hm _ => ⟨due, ?_⟩⟩
    rw [hu.redis] at hm
    exact hm
  cases act with
  | commit i =>
      obtain ⟨tx, htx, hcommit⟩ := Option.bind_eq_some_iff.mp h
      simp only [DeliverySystem.spares, htx, Option.all_some,
        DeliveryTx.spares] at hspare
      split at hcommit
      · cases hcommit
        exact hsame ⟨.refl _, rfl⟩
      · next p load won hstage =>
        cases hcommit
        rw [hstage] at hspare
        have hrow : (load.flush p tx.now t.system.db).contact c
            = t.system.db.contact c := by
          refine StatusLoad.flush_spared ?_
          simp only [DeliveryTx.holdsContact, hstage, Bool.not_eq_true']
            at hspare
          exact hspare
        refine ⟨⟨x, ?_, hclosed, .inl rfl⟩, fun job due hm _ => ⟨due, hm⟩⟩
        cases won <;> exact hrow.trans hx
      · next p w won hstage =>
        split at hcommit
        · next hwon =>
          subst hwon
          split at hcommit
          · cases hcommit
          · obtain ⟨r, hr, rfl⟩ := Option.map_eq_some_iff.mp hcommit
            rw [hstage] at hspare
            have hspared : w.attempt.contactId = c → p.optsOut env = true ∨
                w.unresolved = false ∧ w.outcome.state = .failedToConnect ∧
                  (w.contact.status = .closed ∨
                    t.system.db.suppressions.isSuppressed env
                      w.contact.normalizedPhoneNumber = true) := fun hc => by
              simpa [hc, and_assoc] using hspare
            obtain ⟨hrow, hnone⟩ := commitWebhook_closed hr hx hclosed hspared
            refine ⟨hrow, fun job due hm hjob => ?_⟩
            obtain ⟨db', entry⟩ := r
            cases entry with
            | none => exact ⟨due, hm⟩
            | some e =>
                rcases List.mem_cons.mp hm with heq | hm
                · cases heq
                  exact absurd hjob (hnone _ _ rfl)
                · exact ⟨due, (List.mem_filter.mp hm).1⟩
        · cases hcommit
          exact hsame ⟨.refl _, rfl⟩
      · cases hcommit
  | begin_ i d now => exact hsame (claimStep_pending (by simp) h)
  | load i => exact hsame (claimStep_pending (by simp) h)
  | flush i => exact hsame (claimStep_pending (by simp) h)
  | claim i => exact hsame (claimStep_pending (by simp) h)
  | abort i => exact hsame (claimStep_pending (by simp) h)

/-- **A step of either**: the contact stays closed and out of the dialer's
way. -/
theorem deliveryStep_closed {act : DeliveryAct}
    (hx : t.system.db.contact c = some x) (hclosed : x.status = .closed)
    (hdial : t.system.NoDial c) (hspare : t.spares env c act = true)
    (h : deliveryStep env t act = some t') :
    (∃ x', t'.system.db.contact c = some x' ∧ x.ClosedFrom x') ∧
      t'.system.NoDial c ∧ ¬ t.Dials c act ∧ t.SchedulesNone env act t' c := by
  cases act with
  | system sact =>
      obtain ⟨s', hs, rfl⟩ := Option.map_eq_some_iff.mp h
      obtain ⟨x', hx', hch⟩ := (systemStep_effect hs).contact c x hx
      refine ⟨⟨x', hx', hch.closed hx hclosed hdial hspare⟩,
        hdial.step hx hclosed hs, hdial.dials hs, fun job due hm hc => ?_⟩
      exact (hdial.schedules hx hclosed hspare hs job due hm hc).imp_right
        fun hback => ⟨sact, rfl, hback⟩
  | webhook wact =>
      obtain ⟨cs, hcs, rfl⟩ := Option.map_eq_some_iff.mp h
      obtain ⟨hrow, hnone⟩ := claimStep_closed hx hclosed hspare hcs
      exact ⟨hrow, hdial, id, fun job due hm hc => .inl (hnone job due hm hc)⟩

/-- **Closed stays closed, under a condition.** A contact is closed while
no run of the dialer is between its checks and its trigger. In every run
from there in which a completion of its call opts out, or reports a failure
to connect of a resolved attempt on a copy of the contact that was loaded
closed or suppressed, no native webhook connects it, no conversation of it
ends otherwise than by an opt-out, and a trigger failure is recorded on a
copy that was loaded closed or suppressed: it stays closed, it gets no retry,
and no step calls it. -/
theorem run_staysClosed {env : Env} {t₀ t : DeliverySystem} {c : ContactId}
    {x : Contact} (hx : t₀.system.db.contact c = some x)
    (hclosed : x.status = .closed) (hdial : t₀.system.NoDial c)
    (hrun : Run (deliveryStep env) (fun t act => t.spares env c act = true)
      t₀ t) :
    t.system.StaysClosed c x ∧
      ∀ act t', t.spares env c act = true → deliveryStep env t act = some t' →
        ¬ t.Dials c act ∧ t.SchedulesNone env act t' c := by
  have hi : t.system.StaysClosed c x ∧ t.system.NoDial c := by
    refine Run.inv (P := fun t => t.system.StaysClosed c x ∧ t.system.NoDial c)
      ?_ hrun ⟨⟨x, hx, hclosed, .inl rfl⟩, hdial⟩
    rintro u act u' ⟨⟨y, hy, hyc, hyr⟩, hd⟩ hc hst
    obtain ⟨⟨y', hy', hclosed', hretry⟩, hd', -⟩ :=
      deliveryStep_closed hy hyc hd hc hst
    refine ⟨⟨y', hy', hclosed', ?_⟩, hd'⟩
    rcases hretry with h | h
    · rw [h]
      exact hyr
    · exact .inr h
  obtain ⟨y, hy, hyc, -⟩ := hi.1
  exact ⟨hi.1, fun act t' hc hst =>
    (deliveryStep_closed hy hyc hi.2 hc hst).2.2⟩

end

/-! ## Deactivated during a call -/

/-- The contact is deactivated while its call is in progress. -/
def closedMidCall : List SystemAct :=
  ([.enqueue 1 (fun _ => 1) quietGate] : List SystemAct) ++ untilClaimed 1 1 ++
    ([.worker 1 .send, .worker 1 (.answer (.accepted 501) 0 true true),
      .worker 1 .settle, .service (.deactivateContact 1) true] : List SystemAct)

/-- The provider's report that the call ended with the given status. -/
def endReport (status : String) : DograhWebhookPayload :=
  { callAttemptId := attempt0Text, workflowRunId := some (.str "501"),
    callStatus := some status }

/-- The report is delivered, step by step. -/
def endsWith (status : String) : List DeliveryAct :=
  [.begin_ 1 (.dograh (endReport status)) noon, .load 1, .claim 1,
    .commit 1].map .webhook

/-- An hour passes, and the retry is dispatched and dialed. -/
def dialsRetry : List SystemAct :=
  [.tick (3600000000 - 1), .dispatch (.retry (.new 0 1 1 2)) 2 true,
    .read 2 2 noon, .worker 2 (.early quietGate), .worker 2 .acquire,
    .worker 2 .check, .worker 2 (.gate quietGate ⟨"", none, false⟩ true),
    .worker 2 .send]

/-- The call drops: the contact is open again, with a retry, and an hour
later it is called a second time. -/
theorem droppedCall_reopens :
    ∃ s t, runActs (deliveryStep dograhEnv) { system := twoActive }
        (closedMidCall.map .system) = some s ∧
      (s.system.db.contact 1).map (·.status) = some .closed ∧
      s.system.requests.entries.length = 1 ∧
      runActs (deliveryStep dograhEnv) s
        (endsWith "unexpected_error" ++ dialsRetry.map .system) = some t ∧
      (t.system.db.contact 1).map (·.status) = some .dialing ∧
      t.system.requests.entries.length = 2 := by
  have h : (runActs (deliveryStep dograhEnv) { system := twoActive }
      (closedMidCall.map .system)).any (fun s =>
        decide ((s.system.db.contact 1).map (·.status) = some .closed ∧
          s.system.requests.entries.length = 1)
        && (runActs (deliveryStep dograhEnv) s
          (endsWith "unexpected_error" ++ dialsRetry.map .system)).any fun t =>
          decide ((t.system.db.contact 1).map (·.status) = some .dialing ∧
            t.system.requests.entries.length = 2)) = true := by
    decide +kernel
  obtain ⟨s, hs, h⟩ := (Option.any_eq_true _ _).mp h
  obtain ⟨hclosed, h⟩ := Bool.and_eq_true_iff.mp h
  obtain ⟨t, ht, h⟩ := (Option.any_eq_true _ _).mp h
  obtain ⟨hstatus, hlen⟩ := of_decide_eq_true hclosed
  exact ⟨s, t, hs, hstatus, hlen, ht, of_decide_eq_true h⟩

/-- A call that nobody answered leaves it closed. -/
theorem unansweredCall_closed :
    ∃ s x t, runActs (deliveryStep dograhEnv) { system := twoActive }
        (closedMidCall.map .system) = some s ∧
      s.system.db.contact 1 = some x ∧
      runActs (deliveryStep dograhEnv) s (endsWith "no_answer") = some t ∧
      t.system.StaysClosed 1 x := by
  have h : (runActs (deliveryStep dograhEnv) { system := twoActive }
      (closedMidCall.map .system)).any (fun s =>
        (s.system.db.contact 1).any (·.status == .closed)
        && s.system.workers.entries.isEmpty
        && holdsAlong (deliveryStep dograhEnv)
          (fun t act => t.spares dograhEnv 1 act) s (endsWith "no_answer"))
      = true := by
    decide +kernel
  obtain ⟨s, hs, h⟩ := (Option.any_eq_true _ _).mp h
  obtain ⟨h, halong⟩ := Bool.and_eq_true_iff.mp h
  obtain ⟨hclosed, hidle⟩ := Bool.and_eq_true_iff.mp h
  obtain ⟨x, hx, hstatus⟩ := (Option.any_eq_true _ _).mp hclosed
  obtain ⟨t, ht, hrun⟩ := Run.of_holdsAlong (deliveryStep dograhEnv)
    (fun t act => t.spares dograhEnv 1 act) s _ halong
  have hdial : s.system.NoDial 1 := by
    intro w k hk
    have hm : (⟨w, k⟩ : Sigma fun _ : WorkerId => Worker) ∈
        s.system.workers.entries := AList.mem_lookup_iff.mp hk
    rw [List.isEmpty_iff.mp hidle] at hm
    cases hm
  exact ⟨s, x, t, hs, hx, ht,
    (run_staysClosed hx (by simpa using hstatus) hdial hrun).1⟩

end CallingAgent
