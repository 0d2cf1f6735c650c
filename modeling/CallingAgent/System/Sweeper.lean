import CallingAgent.Services.Sweep
import CallingAgent.System.EventClaims
import CallingAgent.System.Traces

/-!
# The sweeper — stuck attempts between webhooks and the dialer

The sweep runs beside the whole system: batches of it, the transactions of
the webhooks step by step, and everything else. Watched beside them: the
attempts a sweep has settled and that are not live again, those it has
settled a second time, and the verdicts, which are the attempts it has
failed without a run id and whose outcome no webhook has brought since.
-/

namespace CallingAgent

open Lib

/-! ## The machine -/

structure SweepWatch where
  system : System
  /-- the transactions of the webhooks -/
  open_ : Table Nat DeliveryTx := ∅
  /-- settled, and not live again -/
  swept : List AttemptId := []
  /-- settled while they were that -/
  resettled : List AttemptId := []
  /-- failed by a sweep, and still so -/
  verdicts : List AttemptId := []

inductive SweepAct where
  | system (act : SystemAct)
  /-- one step of a webhook's transaction -/
  | webhook (act : ClaimAct)
  /-- a batch, whose clock was read at `asOf`; others than webhooks may
  have locked rows too -/
  | sweep (gate : GateReads) (locked : List AttemptId) (limit : Nat)
      (asOf : Instant)

/-- The attempt is in flight as far as its rows say. -/
def Db.live (db : Db) (a : AttemptId) : Bool :=
  (db.attempt a).any fun y => y.state == .initiated
    && (db.contact y.contactId).any (·.status == .dialing)

namespace SweepWatch

variable (env : Env) (t : SweepWatch)

/-- The webhooks' view of what is committed. -/
def claims : ClaimState := ⟨t.system.db, t.system.redis, t.open_⟩

/-- The rows the batch passes over. -/
def skips (locked : List AttemptId) (a : AttemptId) : Bool :=
  locked.contains a || t.open_.any (fun _ x => x.holdsAttempt a)
    || (t.system.db.attempt a).any fun y =>
      t.open_.any fun _ x => x.holdsContact y.contactId

/-- What a batch leaves and reports. -/
def batch (gate : GateReads) (locked : List AttemptId) (limit : Nat)
    (asOf : Instant) : Db × SweepResult :=
  sweepStuckAttempts env t.system.db gate (t.skips locked) limit asOf

/-- The attempt a webhook brings the outcome of. -/
def outcomeFor : SweepAct → Option AttemptId
  | .system act => finalizedBy env t.system act
  | .webhook (.commit i) => (t.claims.tx i).bind fun x =>
      match x.stage with
      | .dograhClaimed _ w true => some w.aid
      | _ => none
  | _ => none

/-- The system is in its next state, by anything but a sweep. -/
def observe (act : SweepAct) (s' : System) (open_ : Table Nat DeliveryTx) :
    SweepWatch where
  system := s'
  open_ := open_
  swept := t.swept.filter fun a => !s'.db.live a
  resettled := t.resettled
  verdicts := t.verdicts.filter fun a =>
    (s'.db.attempt a).any (·.state == .failedToConnect)
      && t.outcomeFor env act != some a

/-- A batch has settled its rows. -/
def settle (r : Db × SweepResult) : SweepWatch where
  system := { t.system with db := r.1 }
  open_ := t.open_
  swept := r.2.actioned.map Prod.fst ++ t.swept
  resettled := (r.2.actioned.map Prod.fst).filter t.swept.contains
    ++ t.resettled
  verdicts := (r.2.actioned.filter fun r => r.2.providerCallId.isNone).map
    Prod.fst ++ t.verdicts

end SweepWatch

/-- Sweeps are batches here; the system's own sweep of one row is left
out. -/
def sweepStep (env : Env) (t : SweepWatch) : SweepAct → Option SweepWatch
  | .system (.service (.sweep _ _) _) => none
  | .system act => (systemStep env t.system act).map fun s' =>
      t.observe env (.system act) s' t.open_
  | .webhook act => (claimStep env t.claims act).map fun c =>
      t.observe env (.webhook act)
        { t.system with db := c.db, redis := c.redis } c.open_
  | .sweep gate locked limit asOf =>
      if asOf ≤ t.system.now then
        some (t.settle (t.batch env gate locked limit asOf))
      else none

/-! ## What is to hold -/

/-- **A sweep is safe**: no request, queue, schedule or worker changes; an
attempt that changes was stuck when it was read, and so was one of the
contact that changes, which is left for review. -/
structure SafeSweep (env : Env) (s s' : System) : Prop where
  requests : s'.requests = s.requests
  redis : s'.redis = s.redis
  workers : s'.workers = s.workers
  attempt : ∀ a, s'.db.attempt a ≠ s.db.attempt a → ∃ y x,
    s.db.attempt a = some y ∧ s.db.contact y.contactId = some x ∧
      isStuck env y x s.now = true
  contact : ∀ c, s'.db.contact c ≠ s.db.contact c → ∃ a y x,
    s.db.attempt a = some y ∧ y.contactId = c ∧ s.db.contact c = some x ∧
      isStuck env y x s.now = true ∧ s'.db.contact c = some (toReview x)

/-- **An attempt is adoptable**: any webhook of a final status that is new
and correlates with it goes through, its outcome replaces that of the
attempt as a whole, and its contact is no longer up for review. -/
def Adoptable (env : Env) (db : Db) (aid : AttemptId) : Prop :=
  ∃ y x, db.attempt aid = some y ∧ db.contact y.contactId = some x ∧
    ∀ (p : DograhWebhookPayload) (now : Instant) (campaign : Campaign),
      env.uuid.parse p.callAttemptId = some aid →
      db.processedEvents.contains p.eventId = false →
      db.campaign x.campaignId = some campaign →
      validateCorrelation env db p aid y x true = none →
      (classifyCallOutcome env p.callStatus p.callDisposition).nonFinal
        = false →
      ∃ step x', processDograhWebhook env db p now = .ok step ∧
        step.outcome.final = true ∧
        step.db.attempt aid = some (endAttempt
          (classifyCallOutcome env p.callStatus p.callDisposition) now
          (identifyRun p true y)) ∧
        step.db.contact y.contactId = some x' ∧ x'.status ≠ .needsReview

/-- The dialer records no run id on an attempt whose verdict stands, and no
stuck attempt without one has a session already when a batch comes. -/
def SweepWatch.spares (env : Env) (t : SweepWatch) : SweepAct → Bool
  | .system (.worker w wact) => (t.system.worker w).all fun k =>
      (recordedRun env k wact).all fun r => !t.verdicts.contains r.1
  | .sweep _ _ _ asOf => !t.system.db.attempts.any fun a y =>
      y.providerCallId.isNone && t.system.db.sessions.contains a
        && (t.system.db.contact y.contactId).any (isStuck env y · asOf)
  | _ => true

/-! ## Adoption -/

section

variable {env : Env} {db db' : Db} {a : AttemptId} {now : Instant}

/-- A verdict as it stands: the rows that make a webhook adopt it. -/
structure Provisional (db : Db) (a : AttemptId) (y : CallAttempt) : Prop where
  attempt : db.attempt a = some y
  contact : (db.contact y.contactId).isSome = true
  state : y.state = .failedToConnect
  noRun : y.providerCallId = none
  marker : db.hasEvent a ambiguousTriggerEvent = true
  noSession : a ∉ db.sessions

theorem Provisional.unresolved {y : CallAttempt} (h : Provisional db a y) :
    isUnresolvedAmbiguousTrigger db a y = true :=
  unresolved_iff.mpr ⟨h.state, h.noRun, h.marker⟩

/-- The manager puts no contact up for review that it did not get so. -/
theorem handleDisconnect_review {c : ContactId} {x : Contact}
    {campaign : Campaign} {d : Disconnect} (hx : x.status ≠ .needsReview) :
    (handleDisconnect env db c x campaign d now).contact.status
      ≠ .needsReview := by
  have hshape := @handleDisconnect_shape env db c x campaign d now
  rcases hshape.outcome with ⟨h, -⟩ | ⟨h, -⟩ | ⟨due, h, -⟩
  · rw [h]
    exact hx
  · rw [h]
    exact fun h => (by cases h)
  · rw [h]
    exact fun h => (by cases h)

/-- A delivery that reopens its contact does not leave it for review. -/
theorem applyWebhook_review {p : DograhWebhookPayload} {w : AcceptedWebhook}
    {step : WebhookStep} (hf : w.Found env db p) (hu : w.unresolved = true)
    (h : applyWebhook env db p w now = .ok step) :
    ∃ x', step.db.contact w.attempt.contactId = some x' ∧
      x'.status ≠ .needsReview := by
  have hhanded : (w.handedContact (p.optsOut env)).status ≠ .needsReview := by
    unfold AcceptedWebhook.handedContact
    rw [hu]
    cases p.optsOut env with
    | true => exact fun h => (by cases h)
    | false => cases w.outcome.state <;> exact fun h => (by cases h)
  have hcontact := applyWebhook_contact hf h
  split at hcontact
  · exact ⟨_, hcontact.2, hhanded⟩
  · exact ⟨_, hcontact.2, handleDisconnect_review hhanded⟩

/-- A provisional attempt is adoptable. -/
theorem Provisional.adoptable {y : CallAttempt} (h : Provisional db a y) :
    Adoptable env db a := by
  obtain ⟨x, hx⟩ := Option.isSome_iff_exists.mp h.contact
  refine ⟨y, x, h.attempt, hx, fun p now campaign hp hfresh hcamp hcorr
    hfinal => ?_⟩
  generalize houtcome : classifyCallOutcome env p.callStatus p.callDisposition
    = outcome at hfinal ⊢
  have hf : AcceptedWebhook.Found env db p ⟨a, y, x, campaign, true, outcome⟩ :=
    ⟨hfresh, hp, h.attempt, hx, hcamp, h.unresolved.symm, hcorr, .inl rfl,
      houtcome.symm, hfinal⟩
  obtain ⟨step, hstep⟩ : ∃ step, applyWebhook env db p _ now = .ok step :=
    applyWebhook_total hf (.inr h.noSession)
  obtain ⟨x', hx', hreview⟩ := applyWebhook_review hf rfl hstep
  have hspec := applyWebhook_spec hf hstep
  have hprocessed : processDograhWebhook env db p now = .ok step := by
    rw [processDograhWebhook, admitWebhook_of_found hf]
    exact hstep
  exact ⟨step, x', hprocessed, hspec.final, hspec.attempt_self, hx', hreview⟩

/-- A verdict stands while its rows do. -/
theorem Provisional.keep {P : AttemptId → Prop} {y y' : CallAttempt}
    (h : Provisional db a y) (happ : Db.Appends P db db') (hP : ¬ P a)
    (hy : db'.attempt a = some y')
    (hx : (db'.contact y'.contactId).isSome = true)
    (hstate : y'.state = .failedToConnect) (hrun : y'.providerCallId = none) :
    Provisional db' a y' where
  attempt := hy
  contact := hx
  state := hstate
  noRun := hrun
  marker := happ.hasEvent h.marker
  noSession hs := (happ.sessions a hs).elim h.noSession hP

end

/-! ## Steps of the system -/

section

variable {env : Env} {s s' : System} {act : SystemAct} {a : AttemptId}
  {y y' : CallAttempt}

/-- Where a failed attempt can get a run id from. -/
theorem CallChange.noRun (h : CallChange env s a y act y')
    (hstate : y'.state = .failedToConnect) (hn : y.providerCallId = none) :
    y'.providerCallId = none ∨
    (∃ p w, act = .service (.dograhWebhook p) true ∧
      AcceptedWebhook.Found env s.db p w ∧ w.aid = a) ∨
    ∃ w k wact loaded run, act = .worker w wact ∧ s.worker w = some k ∧
      recordedRun env k wact = some (a, loaded, run) := by
  cases h with
  | same => exact .inl hn
  | service change =>
      cases change with
      | same => exact .inl hn
      | webhook found about row => exact .inr (.inl ⟨_, _, rfl, found, about⟩)
      | connected => cases hstate
      | failed => exact .inl hn
      | swept => exact .inl hn
      | ended => cases hstate
      | dropped => cases hstate
  | worker running change =>
      cases change with
      | same => exact .inl hn
      | reopened phase found state noRun row =>
          rcases row with rfl | ⟨run, -, rfl⟩ <;> cases hstate
      | ran record => exact .inr (.inr ⟨_, _, _, _, _, rfl, running, record⟩)
      | resumed => cases hstate
      | native phase engine answer row =>
          left
          unfold nativeAttempt at hstate ⊢
          split at hstate
          · cases hstate
          · next hko =>
            rw [if_neg hko]
            rcases row with rfl | ⟨-, rfl⟩ <;> exact hn
      | held => exact .inl hn
      | failed => exact .inl hn

/-- A webhook that is admitted and goes through brings an outcome. -/
theorem finalizedBy_found {p : DograhWebhookPayload} {w : AcceptedWebhook}
    (hf : w.Found env s.db p)
    (h : systemStep env s (.service (.dograhWebhook p) true) = some s') :
    finalizedBy env s (.service (.dograhWebhook p) true) = some w.aid := by
  obtain ⟨r, hr, -⟩ := Option.map_eq_some_iff.mp h
  obtain ⟨step, hstep, -⟩ := Option.map_eq_some_iff.mp hr
  have hp := ok_of_toOption hstep
  have happ := hp
  rw [processDograhWebhook, admitWebhook_of_found hf] at happ
  simp only [finalizedBy, hp, (applyWebhook_spec hf happ).final, if_true, hf.aid]

/-- **A verdict along a step of the system**: it stands, or the attempt is
no longer failed, or a webhook has brought its outcome, or the dialer has
recorded a run on it. -/
theorem systemStep_provisional (hp : Provisional s.db a y)
    (h : systemStep env s act = some s')
    (hstate : (s'.db.attempt a).any (·.state == .failedToConnect) = true)
    (hopen : finalizedBy env s act ≠ some a)
    (hrun : ∀ w k wact loaded run, act = .worker w wact →
      s.worker w = some k → recordedRun env k wact ≠ some (a, loaded, run)) :
    ∃ y', Provisional s'.db a y' := by
  have heff := systemStep_effect h
  obtain ⟨y', hy', hch⟩ := heff.attempt a y hp.attempt
  obtain ⟨x, hx⟩ := Option.isSome_iff_exists.mp hp.contact
  obtain ⟨x', hx', -⟩ := heff.contact _ _ hx
  have hfailed : y'.state = .failedToConnect := by simpa [hy'] using hstate
  refine ⟨y', hp.keep (systemStep_appends h) ?_ hy' ?_ hfailed ?_⟩
  · rintro (hfinal | hconn)
    · exact hopen hfinal
    · have hc := hconn y' hy'
      rw [hfailed] at hc
      cases hc
  · rw [hch.kept.1, hx']
    rfl
  · rcases hch.noRun hfailed hp.noRun with
      hn | ⟨p, w, rfl, hf, rfl⟩ | ⟨w, k, wact, loaded, run, rfl, hk, hr⟩
    · exact hn
    · exact absurd (finalizedBy_found hf h) hopen
    · exact absurd hr (hrun _ _ _ _ _ rfl hk)

end

/-! ## Steps of a webhook -/

section

variable {env : Env} {db : Db} {a : AttemptId} {y : CallAttempt}

/-- The status report assigns neither the contact nor the run id. -/
theorem assignAttempt_kept {p : CallStatusPayload} {now : Instant}
    {loaded new : CallAttempt} (h : assignAttempt p now loaded = some new) :
    new.contactId = loaded.contactId ∧
      new.providerCallId = loaded.providerCallId := by
  unfold assignAttempt at h
  split at h
  · cases h
    exact ⟨rfl, rfl⟩
  · split at h
    · split at h
      · cases h
        exact ⟨rfl, rfl⟩
      · obtain ⟨r, -, rfl⟩ := Option.map_eq_some_iff.mp h
        exact ⟨rfl, rfl⟩
    · cases h

theorem StatusLoad.flush_kept {x : StatusLoad} {p : CallStatusPayload}
    {now : Instant} (hy : db.attempt a = some y) :
    ∃ y', (x.flush p now db).attempt a = some y' ∧
      y'.contactId = y.contactId ∧ y'.providerCallId = y.providerCallId := by
  rw [StatusLoad.flush_attempt]
  cases hnew : assignAttempt p now x.attempt with
  | none => exact ⟨y, hy, rfl, rfl⟩
  | some new =>
      obtain ⟨hc, hr⟩ := assignAttempt_kept hnew
      dsimp only
      rw [Db.attempt_modifyAttempt]
      split
      · rw [hy]
        exact ⟨_, rfl, by simp [CallAttempt.flush, hc],
          by simp [CallAttempt.flush, hr]⟩
      · exact ⟨y, hy, rfl, rfl⟩

/-- A webhook writes the row of its attempt and the rows of contacts there
are, and opens a session for its attempt alone. -/
structure Brings (aid : AttemptId) (db db' : Db) : Prop where
  appends : Db.Appends (· = aid) db db'
  attempt : ∀ k, k ≠ aid → db'.attempt k = db.attempt k
  contact : ∀ k, (db'.contact k).isSome = (db.contact k).isSome

theorem Brings.setAttempt {aid : AttemptId} {db db' : Db}
    (h : Brings aid db db') (row : CallAttempt) :
    Brings aid db (db'.setAttempt aid row) where
  appends := h.appends.setAttempt _ _
  attempt k hk := by
    rw [Db.attempt_setAttempt, if_neg hk]
    exact h.attempt k hk
  contact := h.contact

theorem Brings.setContact {aid : AttemptId} {db db' : Db}
    (h : Brings aid db db') (c : ContactId) (row : Contact) :
    Brings aid db (db'.setContact c row) where
  appends := h.appends.setContact _ _
  attempt := h.attempt
  contact k := isSome_setContact.trans (h.contact k)

/-- A completion webhook that is committed, whatever has changed since it
loaded its rows. -/
theorem commitWebhook_brings {c : ClaimState} {p : DograhWebhookPayload}
    {w : AcceptedWebhook} {now : Instant}
    {r : Db × Option (RecoveryJob × Instant)}
    (h : commitWebhook env c p w now = some r) : Brings w.aid c.db r.1 := by
  obtain ⟨step, hstep, rfl⟩ := Option.map_eq_some_iff.mp h
  have happly := ok_of_toOption hstep
  have hlocal := applyWebhook_local happly
  have happlied : Brings w.aid c.db step.db :=
    ⟨applyWebhook_appends rfl happly, hlocal.attempt,
      fun _ => applyWebhook_isSome happly⟩
  -- the attempt's columns, then the contact's
  dsimp only
  split
  · split
    · exact (happlied.setAttempt _).setContact _ _
    · exact happlied.setContact _ _
  · split
    · exact happlied.setAttempt _
    · exact happlied

/-- **A verdict along a step of a webhook**: it stands, or the attempt is no
longer failed, or the webhook has brought its outcome. -/
theorem claimStep_provisional {t : SweepWatch} {act : ClaimAct}
    {c : ClaimState} (hp : Provisional t.system.db a y)
    (h : claimStep env t.claims act = some c)
    (hstate : (c.db.attempt a).any (·.state == .failedToConnect) = true)
    (hopen : t.outcomeFor env (.webhook act) ≠ some a) :
    ∃ y', Provisional c.db a y' := by
  have hsame : t.claims.Unchanged c → ∃ y', Provisional c.db a y' := by
    intro hu
    have hevents : c.db.events = t.system.db.events := hu.rows.events
    have hsessions : c.db.sessions = t.system.db.sessions := hu.rows.sessions
    refine ⟨y, hp.keep (P := fun _ => False) (.same hevents hsessions)
      id ((hu.rows.attempts a).trans hp.attempt) ?_ hp.state hp.noRun⟩
    rw [hu.rows.contacts]
    exact hp.contact
  -- the row is written by the delivery, and still failed
  have hwritten : ∀ {y' : CallAttempt} {P : AttemptId → Prop},
      Db.Appends P t.system.db c.db → ¬ P a → c.db.attempt a = some y' →
      y'.contactId = y.contactId → y'.providerCallId = y.providerCallId →
      (∀ k, (c.db.contact k).isSome = (t.system.db.contact k).isSome) →
      ∃ y', Provisional c.db a y' := by
    intro y' P happ hP hy' hcontact hrun hsome
    have hfailed : y'.state = .failedToConnect := by simpa [hy'] using hstate
    refine ⟨y', hp.keep happ hP hy' ?_ hfailed (hrun.trans hp.noRun)⟩
    rw [hcontact, hsome]
    exact hp.contact
  cases act with
  | commit i =>
      obtain ⟨x, hx, hcommit⟩ := Option.bind_eq_some_iff.mp h
      split at hcommit
      · cases hcommit
        exact hsame ⟨.refl _, rfl⟩
      · next p load won _ =>
        cases hcommit
        obtain ⟨hevents, -, hsessions, -⟩ :=
          @StatusLoad.flush_rest p load x.now t.system.db
        obtain ⟨y', hy', hc, hr⟩ :=
          @StatusLoad.flush_kept _ _ _ load p x.now hp.attempt
        have hsome : ∀ k, ((load.flush p x.now t.system.db).contact k).isSome
            = (t.system.db.contact k).isSome := by
          intro k
          rw [StatusLoad.flush_contact]
          cases load.contact with
          | none => rfl
          | some row => exact isSome_modifyContact
        cases won with
        | true =>
            exact hwritten (P := fun _ => False) (.same hevents hsessions) id
              hy' hc hr hsome
        | false =>
            exact hwritten (P := fun _ => False) (.same hevents hsessions) id
              hy' hc hr hsome
      · next p w won hstage =>
        split at hcommit
        · next hwon =>
          have hne : a ≠ w.aid := by
            rintro rfl
            subst hwon
            exact hopen (by simp [SweepWatch.outcomeFor, hx, hstage])
          split at hcommit
          · cases hcommit
          · obtain ⟨r, hr, rfl⟩ := Option.map_eq_some_iff.mp hcommit
            have hb := commitWebhook_brings hr
            exact hwritten hb.appends hne ((hb.attempt a hne).trans hp.attempt)
              rfl rfl hb.contact
        · cases hcommit
          exact hsame ⟨.refl _, rfl⟩
      · cases hcommit
  | begin_ i d now => exact hsame (claimStep_pending (by simp) h)
  | load i => exact hsame (claimStep_pending (by simp) h)
  | flush i => exact hsame (claimStep_pending (by simp) h)
  | claim i => exact hsame (claimStep_pending (by simp) h)
  | abort i => exact hsame (claimStep_pending (by simp) h)

end

/-! ## Sweeps -/

section

variable {env : Env} {t t' : SweepWatch} {gate : GateReads}
  {locked : List AttemptId} {limit : Nat} {asOf : Instant} {a : AttemptId}

/-- A clock read earlier has fewer attempts stuck. -/
theorem isStuck_mono {y : CallAttempt} {x : Contact} {now later : Instant}
    (h : isStuck env y x now = true) (hle : now ≤ later) :
    isStuck env y x later = true := by
  simp only [isStuck, Bool.and_eq_true, decide_eq_true_eq] at h ⊢
  exact ⟨⟨h.1.1, lt_of_lt_of_le h.1.2 (Int.sub_le_sub_right hle _)⟩, h.2⟩

/-- A row of a batch was stuck, in a database whose rows it has. -/
theorem mem_batch {r : SweepRow}
    (h : r ∈ (t.batch env gate locked limit asOf).2.actioned) :
    t.system.db.attempt r.1 = some r.2 ∧ ∃ x,
      t.system.db.contact r.2.contactId = some x ∧
        isStuck env r.2 x asOf = true := by
  obtain ⟨hr, -, x, hx, hstuck⟩ := mem_stuckRows (sweep_actioned h)
  exact ⟨hr, x, hx, hstuck⟩

/-- What is stuck is live. -/
theorem live_of_stuck {db : Db} {y : CallAttempt} {x : Contact}
    (hy : db.attempt a = some y) (hx : db.contact y.contactId = some x)
    (h : isStuck env y x asOf = true) : db.live a = true := by
  simp only [isStuck, Bool.and_eq_true] at h
  simp [Db.live, hy, hx, h.1.1, h.2]

/-- Marking makes nothing live, and what is live afterwards has no marked
contact. -/
theorem live_markRows {db : Db} {rows : List SweepRow} {now : Instant}
    (h : (markRows db rows now).live a = true) :
    db.live a = true ∧ ∀ y, db.attempt a = some y →
      marksContact rows y.contactId = false := by
  simp only [Db.live, attempt_markRows, contact_markRows] at h
  cases hy : db.attempt a with
  | none => simp [hy] at h
  | some y =>
      cases hf : marksFailed rows a with
      | true => simp [hy, hf, sweptAttempt] at h
      | false =>
          simp only [hy, hf, Bool.false_eq_true, if_false, Option.any_some,
            Bool.and_eq_true] at h
          cases hm : marksContact rows y.contactId with
          | true =>
              cases hx : db.contact y.contactId with
              | none => simp [hm, hx] at h
              | some x => simp [hm, hx, toReview] at h
          | false =>
              simp only [hm, Bool.false_eq_true, if_false] at h
              refine ⟨by simpa [Db.live, hy] using h, fun y' hy' => ?_⟩
              cases hy'
              exact hm

/-- **Every batch is safe.** -/
theorem sweep_safe
    (h : sweepStep env t (.sweep gate locked limit asOf) = some t') :
    SafeSweep env t.system t'.system := by
  simp only [sweepStep] at h
  split at h
  · next hle =>
    cases h
    constructor
    case requests => rfl
    case redis => rfl
    case workers => rfl
    case attempt =>
      intro a hne
      change (t.batch env gate locked limit asOf).1.attempt a ≠ _ at hne
      rw [SweepWatch.batch, sweep_marks, attempt_markRows] at hne
      split at hne
      · next hm =>
        obtain ⟨r, hr, ha⟩ := List.any_eq_true.mp hm
        obtain ⟨hy, x, hx, hstuck⟩ := mem_batch hr
        obtain rfl : r.1 = a := by simpa using (Bool.and_eq_true_iff.mp ha).1
        exact ⟨r.2, x, hy, hx, isStuck_mono hstuck hle⟩
      · exact absurd rfl hne
    case contact =>
      intro c hne
      change (t.batch env gate locked limit asOf).1.contact c ≠ _ at hne
      show ∃ a y x, _ ∧ _ ∧ _ ∧ _ ∧
        (t.batch env gate locked limit asOf).1.contact c = _
      rw [SweepWatch.batch, sweep_marks, contact_markRows] at hne ⊢
      split at hne
      · next hm =>
        obtain ⟨r, hr, hc⟩ := List.any_eq_true.mp hm
        obtain ⟨hy, x, hx, hstuck⟩ := mem_batch hr
        obtain rfl : r.2.contactId = c := by simpa using hc
        refine ⟨r.1, r.2, x, hy, rfl, hx, isStuck_mono hstuck hle, ?_⟩
        have hm : marksContact (sweepStuckAttempts env t.system.db gate
            (t.skips locked) limit asOf).2.actioned r.2.contactId = true := hm
        rw [if_pos hm, hx]
        rfl
      · exact absurd rfl hne
  · cases h

/-! ## The invariant -/

structure SweepInv (t : SweepWatch) : Prop where
  swept : ∀ a ∈ t.swept, t.system.db.live a = false
  resettled : t.resettled = []
  verdicts : ∀ a ∈ t.verdicts, ∃ y, Provisional t.system.db a y

/-- A row without a run id is provisional once it is marked. -/
theorem marked_provisional {r : SweepRow}
    (hr : r ∈ (t.batch env gate locked limit asOf).2.actioned)
    (hid : r.2.providerCallId = none)
    (hs : r.1 ∉ t.system.db.sessions) :
    ∃ y, Provisional (t.batch env gate locked limit asOf).1 r.1 y := by
  obtain ⟨hy, x, hx, -⟩ := mem_batch hr
  have hrest := @markRows_rest t.system.db asOf
    (t.batch env gate locked limit asOf).2.actioned
  have hmarked : marksFailed (t.batch env gate locked limit asOf).2.actioned
      r.1 = true :=
    List.any_eq_true.mpr ⟨r, hr, by simp [hid]⟩
  refine ⟨sweptAttempt asOf r.2, ?_⟩
  rw [SweepWatch.batch, sweep_marks]
  constructor
  case attempt =>
    rw [attempt_markRows, ← SweepWatch.batch, if_pos hmarked, hy]
    rfl
  case contact =>
    rw [contact_markRows]
    show ((if _ then (t.system.db.contact r.2.contactId).map toReview
      else t.system.db.contact r.2.contactId).isSome) = true
    rw [hx]
    split <;> rfl
  case state => rfl
  case noRun => exact hid
  case marker => exact markRows_marker hr hid
  case noSession =>
    have hsame := hrest.1
    rw [SweepWatch.batch] at hsame
    rw [hsame]
    exact hs

/-- A batch leaves the verdicts there are. -/
theorem batch_provisional {y : CallAttempt}
    (hp : Provisional t.system.db a y) :
    ∃ y', Provisional (t.batch env gate locked limit asOf).1 a y' := by
  rw [SweepWatch.batch, sweep_marks]
  generalize (sweepStuckAttempts env t.system.db gate (t.skips locked) limit
    asOf).2.actioned = rows
  have happ : Db.Appends (fun _ => False) t.system.db
      (markRows t.system.db rows asOf) :=
    ⟨markRows_events rows, fun k hk => .inl (by
      rwa [(markRows_rest rows).1] at hk)⟩
  have hattempt := @attempt_markRows t.system.db asOf rows a
  have hcontact : ((markRows t.system.db rows asOf).contact
      y.contactId).isSome = true := by
    rw [contact_markRows]
    split
    · simpa using hp.contact
    · exact hp.contact
  cases hm : marksFailed rows a with
  | true =>
      rw [hm, if_pos rfl, hp.attempt] at hattempt
      exact ⟨_, hp.keep happ id hattempt hcontact rfl hp.noRun⟩
  | false =>
      rw [hm, if_neg (by decide), hp.attempt] at hattempt
      exact ⟨_, hp.keep happ id hattempt hcontact hp.state hp.noRun⟩

theorem sweep_inv (hi : SweepInv t)
    (hc : t.spares env (.sweep gate locked limit asOf) = true) :
    SweepInv (t.settle (t.batch env gate locked limit asOf)) := by
  have hmarks : (t.batch env gate locked limit asOf).1 = markRows t.system.db
      (t.batch env gate locked limit asOf).2.actioned asOf := sweep_marks
  constructor
  case swept =>
    intro a ha
    by_contra hlive
    have hlive : (markRows t.system.db
        (t.batch env gate locked limit asOf).2.actioned asOf).live a = true := by
      rw [← hmarks]
      exact Bool.of_not_eq_false hlive
    obtain ⟨hbefore, hfree⟩ := live_markRows hlive
    rcases List.mem_append.mp ha with hnew | hold
    · obtain ⟨r, hr, rfl⟩ := List.mem_map.mp hnew
      have hcontact := hfree r.2 (mem_batch hr).1
      have hmarked : marksContact
          (t.batch env gate locked limit asOf).2.actioned r.2.contactId
            = true :=
        List.any_eq_true.mpr ⟨r, hr, by simp⟩
      rw [hmarked] at hcontact
      cases hcontact
    · rw [hi.swept a hold] at hbefore
      cases hbefore
  case resettled =>
    show (_ : List AttemptId).filter _ ++ t.resettled = []
    rw [hi.resettled, List.append_nil, List.filter_eq_nil_iff]
    intro a ha hswept
    obtain ⟨r, hr, rfl⟩ := List.mem_map.mp ha
    obtain ⟨hy, x, hx, hstuck⟩ := mem_batch hr
    have hdead := hi.swept r.1 (by simpa using hswept)
    rw [live_of_stuck hy hx hstuck] at hdead
    cases hdead
  case verdicts =>
    intro a ha
    rcases List.mem_append.mp ha with hnew | hold
    · obtain ⟨r, hr, rfl⟩ := List.mem_map.mp hnew
      obtain ⟨hr, hid⟩ := List.mem_filter.mp hr
      have hid : r.2.providerCallId = none := by simpa using hid
      obtain ⟨hy, x, hx, hstuck⟩ := mem_batch hr
      refine marked_provisional hr hid fun hsession => ?_
      simp only [SweepWatch.spares, Bool.not_eq_true'] at hc
      have hany := Table.any_eq_false.mp hc r.1 r.2 hy
      simp [hid, hsession, hx, hstuck] at hany
    · obtain ⟨y, hp⟩ := hi.verdicts a hold
      exact batch_provisional hp

/-- **One step of the watch.** -/
theorem sweepStep_inv {act : SweepAct} (hi : SweepInv t)
    (hc : t.spares env act = true) (h : sweepStep env t act = some t') :
    SweepInv t' := by
  -- whatever is no sweep takes what is live again off the list
  have hobserve : ∀ (act : SweepAct) (s' : System)
      (open_ : Table Nat DeliveryTx),
      (∀ a y, a ∈ t.verdicts → Provisional t.system.db a y →
        (s'.db.attempt a).any (·.state == .failedToConnect) = true →
        t.outcomeFor env act ≠ some a → ∃ y', Provisional s'.db a y') →
      SweepInv (t.observe env act s' open_) := by
    intro act s' open_ hstep
    constructor
    case swept =>
      intro a ha
      obtain ⟨-, hlive⟩ := List.mem_filter.mp ha
      show s'.db.live a = false
      simpa using hlive
    case resettled => exact hi.resettled
    case verdicts =>
      intro a ha
      obtain ⟨hmem, hstands⟩ := List.mem_filter.mp ha
      obtain ⟨hstate, hopen⟩ := Bool.and_eq_true_iff.mp hstands
      obtain ⟨y, hp⟩ := hi.verdicts a hmem
      exact hstep a y hmem hp hstate (bne_iff_ne.mp hopen)
  have hsystem : ∀ {sact : SystemAct} {s' : System},
      systemStep env t.system sact = some s' →
      t.spares env (.system sact) = true →
      SweepInv (t.observe env (.system sact) s' t.open_) := by
    intro sact s' hs hc
    refine hobserve _ _ _ fun a y hmem hp hstate hopen =>
      systemStep_provisional hp hs hstate hopen ?_
    rintro w k wact loaded run rfl hk hr
    simp [SweepWatch.spares, hk, hr, hmem] at hc
  cases act with
  | system sact =>
      unfold sweepStep at h
      split at h
      · cases h
      · next heq =>
        cases heq
        obtain ⟨s', hs, rfl⟩ := Option.map_eq_some_iff.mp h
        exact hsystem hs hc
      · next heq => cases heq
      · next heq => cases heq
  | webhook wact =>
      obtain ⟨c, hclaim, rfl⟩ := Option.map_eq_some_iff.mp h
      exact hobserve _ _ _ fun a y _ hp hstate hopen =>
        claimStep_provisional hp hclaim hstate hopen
  | sweep gate locked limit asOf =>
      simp only [sweepStep] at h
      split at h
      · cases h
        exact sweep_inv hi hc
      · cases h

/-- **Sweeping is safe and single-shot, under a condition.** In every run,
from any state, in which the dialer records no run on an attempt whose
verdict stands and no stuck attempt without a run id has a session when a
batch comes: no attempt is settled twice unless it is live in between,
every verdict that stands is replaced by the webhook that comes for it, and
a batch touches nothing but what is stuck. -/
theorem run_sweepsSafe {t₀ : SweepWatch} (hs : t₀.swept = [])
    (hr : t₀.resettled = []) (hv : t₀.verdicts = [])
    (hrun : Run (sweepStep env) (fun t act => t.spares env act = true) t₀ t) :
    t.resettled = [] ∧ (∀ a ∈ t.verdicts, Adoptable env t.system.db a) ∧
      ∀ gate locked limit asOf t',
        sweepStep env t (.sweep gate locked limit asOf) = some t' →
        SafeSweep env t.system t'.system := by
  have hstart : SweepInv t₀ := by
    refine ⟨fun a ha => ?_, hr, fun a ha => ?_⟩
    · rw [hs] at ha
      cases ha
    · rw [hv] at ha
      cases ha
  have hinv : SweepInv t :=
    Run.inv (P := SweepInv) (fun _ _ _ hi hc hst => sweepStep_inv hi hc hst)
      hrun hstart
  refine ⟨hinv.resettled, fun a ha => ?_, fun _ _ _ _ _ h => sweep_safe h⟩
  obtain ⟨y, hp⟩ := hinv.verdicts a ha
  exact hp.adoptable

end

/-! ## An answer that comes after the sweep -/

/-- Five seconds without an outcome are enough for the sweep. -/
def promptEnv : Env :=
  plainEnv { callingEngine := .dograh, sweeperStuckAfterSeconds := 5 }

/-- A trigger is sent and not answered for six seconds; then a batch comes. -/
def sweptUnanswered : List SweepAct :=
  (([.enqueue 1 (fun _ => 1) quietGate] : List SystemAct) ++ untilClaimed 1 1
    ++ ([.worker 1 .send, .tick 6000000] : List SystemAct)).map .system
    ++ [.sweep quietGate [] 100 (noon + 6 * second)]

/-- The trigger is accepted after all, and its run ends. -/
def runEnds : DograhWebhookPayload :=
  { callAttemptId := attempt0Text, workflowRunId := some (.str "501"),
    callStatus := some "completed" }

/-- The answer records the run on the failed attempt; the webhook of the
run is answered `already_processed`, and the verdict stays. -/
theorem lateAnswer_unadoptable :
    ∃ t, runActs (sweepStep promptEnv) ⟨twoActive, ∅, [], [], []⟩
        (sweptUnanswered
          ++ [.system (.worker 1 (.answer (.accepted 501) 0 true true))])
        = some t ∧
      0 ∈ t.verdicts ∧ ¬ Adoptable promptEnv t.system.db 0 := by
  have h : (runActs (sweepStep promptEnv) ⟨twoActive, ∅, [], [], []⟩
      (sweptUnanswered
        ++ [.system (.worker 1 (.answer (.accepted 501) 0 true true))])).any
      (fun t => t.verdicts.contains 0
        && !t.system.db.processedEvents.contains runEnds.eventId
        && (processDograhWebhook promptEnv t.system.db runEnds
              t.system.now).toOption.any (·.outcome == .alreadyProcessed)
        && (t.system.db.attempt 0).any fun y =>
          (t.system.db.contact y.contactId).any fun x =>
            (t.system.db.campaign x.campaignId).isSome
              && validateCorrelation promptEnv t.system.db runEnds 0 y x true
                == none) = true := by
    decide +kernel
  obtain ⟨t, hrun, h⟩ := (Option.any_eq_true _ _).mp h
  simp only [Bool.and_eq_true, Bool.not_eq_true', Option.any_eq_true,
    beq_iff_eq] at h
  obtain ⟨⟨⟨hmem, hfresh⟩, hanswer⟩, y, hy, x, hx, hcamp, hcorr⟩ := h
  refine ⟨t, hrun, by simpa using hmem, ?_⟩
  rintro ⟨y', x', hy', hx', hall⟩
  obtain rfl := Option.some.inj (hy.symm.trans hy')
  obtain rfl := Option.some.inj (hx.symm.trans hx')
  obtain ⟨campaign, hcampaign⟩ := Option.isSome_iff_exists.mp hcamp
  obtain ⟨step, -, hok, hfinal, -⟩ := hall runEnds t.system.now campaign
    (by decide +kernel) hfresh hcampaign hcorr (by decide +kernel)
  simp only [hok, Except.toOption, Option.some.injEq, exists_eq_left'] at hanswer
  rw [hanswer] at hfinal
  cases hfinal

/-- Where no answer comes, the batch settles the attempt and the webhook
would replace its verdict. -/
theorem unanswered_adoptable :
    ∃ t, runActs (sweepStep promptEnv) ⟨twoActive, ∅, [], [], []⟩
        sweptUnanswered = some t ∧
      t.verdicts = [0] ∧ t.resettled = [] ∧
      Adoptable promptEnv t.system.db 0 := by
  obtain ⟨t, ht, hrun⟩ := Run.of_holdsAlong (sweepStep promptEnv)
    (fun t act => t.spares promptEnv act) ⟨twoActive, ∅, [], [], []⟩
    sweptUnanswered (by decide +kernel)
  have hverdicts : (runActs (sweepStep promptEnv) ⟨twoActive, ∅, [], [], []⟩
      sweptUnanswered).map (·.verdicts) = some [0] := by
    decide +kernel
  rw [ht] at hverdicts
  have hverdicts : t.verdicts = [0] := Option.some.inj hverdicts
  obtain ⟨hresettled, hadopt, -⟩ := run_sweepsSafe rfl rfl rfl hrun
  exact ⟨t, ht, hverdicts, hresettled, hadopt 0 (by simp [hverdicts])⟩

end CallingAgent
