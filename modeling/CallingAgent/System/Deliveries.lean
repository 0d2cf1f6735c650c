import CallingAgent.System.Model

/-!
# Deliveries — what counts towards the dead-letter threshold

A message that is not acknowledged is claimed again and again, and every
claim counts as a delivery. Past a limit the message is poison: it leaves
the stream for the dead letters and its contact is parked. A delivery that
was left pending on purpose is meant not to count, so its counter is reset
where its outcome is known. The system here takes deliveries and the
operations of the other services in any order.
-/

namespace CallingAgent

open Lib

/-! ## The pending list -/

/-- The message was left pending on purpose. -/
def JobOutcome.deliberate (o : JobOutcome) : Bool :=
  o.leftUnacked || o == .notAdmitted

/-- A delivery that is over: how it ended (`none` for an exception), and
whether `reset_deliveries` could reach Redis then. -/
structure EndedDelivery where
  message : MessageId
  outcome : Option JobOutcome
  resets : Bool

/-- Its counter was reset. -/
def EndedDelivery.reset (e : EndedDelivery) : Bool :=
  e.outcome.any (·.leftUnacked) && e.resets

/-- It was refused admission, or its reset was lost: it goes on counting. -/
def EndedDelivery.turnedAway (e : EndedDelivery) : Bool :=
  e.outcome == some .notAdmitted || !e.resets

structure QueueState where
  db : Db
  redis : Redis
  /-- `XPENDING`: `times_delivered` of what was read and not acknowledged -/
  pending : Table MessageId Nat := ∅
  deadLetters : List (MessageId × DialJob) := []
  /-- the deliveries so far, newest first -/
  ended : List EndedDelivery := []

namespace QueueState

variable (env : Env) (s : QueueState) (m : MessageId) (job : DialJob)

/-- `process_claimed_job`, on the delivery that is number `count`; `resets`
says whether `reset_deliveries` reaches Redis. -/
def process (count : Nat) (w : WorkWorld) (resets : Bool) : QueueState :=
  let r := processClaimedJob env s.db s.redis m job w
  let e : EndedDelivery := ⟨m, r.1.outcome, resets⟩
  { s with
    db := r.1.db
    redis := r.2
    pending := s.pending.put m
      (if (AList.lookup m r.2.stream).isNone then none
        else if e.reset then some 0 else some count)
    ended := e :: s.ended }

/-- `_dead_letter`, and `_record_dead_letter` where it could be recorded. -/
def bury (recorded : Bool) : QueueState :=
  { s with
    db := if recorded then recordDeadLetter s.db job else s.db
    redis := s.redis.ack m
    pending := s.pending.put m none
    deadLetters := (m, job) :: s.deadLetters }

end QueueState

inductive QueueAct where
  /-- `read_one`: a message that was never delivered -/
  | read (message : MessageId) (world : WorkWorld) (resets : Bool)
  /-- `reclaim_stale`, on one message, and its redrive -/
  | reclaim (message : MessageId) (world : WorkWorld) (resets recorded : Bool)
  | service (op : ServiceOp) (now : Instant) (commits : Bool)
  | enqueue (campaign : CampaignId) (jobId : ContactId → Nat) (gate : GateReads)
  | dispatch (entry : ScheduleEntry) (jobId : Nat) (now : Instant)
  | rebuild
  | flush

def queueStep (env : Env) (s : QueueState) : QueueAct → Option QueueState
  | .read m w resets =>
      match AList.lookup m s.redis.stream, AList.lookup m s.pending with
      | some job, none => some (s.process env m job 1 w resets)
      | _, _ => none
  | .reclaim m w resets recorded =>
      match AList.lookup m s.redis.stream, AList.lookup m s.pending with
      | some job, some n =>
          -- the claim itself is one more delivery
          if n + 1 > env.settings.queueMaxDeliveries then
            some (s.bury m job recorded)
          else some (s.process env m job (n + 1) w resets)
      | _, _ => none
  | .service op now commits =>
      (serviceStep env s.db now op).map fun r =>
        { s with
          db := if commits then r.1 else s.db
          redis := s.redis.scheduleRetry r.2 }
  | .enqueue c jobId gate =>
      (enqueueCampaign env s.db s.redis c jobId gate).toOption.map
        fun redis => { s with redis }
  | .dispatch e jobId now =>
      if s.redis.schedule.any fun x => x.1 = e ∧ x.2 ≤ now then
        let r := dispatchEntry env s.db s.redis e jobId now
        some { s with db := r.1, redis := r.2 }
      else none
  | .rebuild => some { s with redis := rebuildRetrySchedule s.db s.redis }
  | .flush => some { s with
      redis := { lastMessageId := s.redis.lastMessageId }
      pending := ∅ }

namespace QueueState

variable (s : QueueState) (m : MessageId)

/-- The deliveries of one message so far, newest first. -/
def deliveries : List EndedDelivery := s.ended.filter (·.message == m)

/-- How many of them have ended since the counter was last reset. -/
def unreset : Nat := ((s.deliveries m).takeWhile (!·.reset)).length

/-- How many of the latest ones in a row were turned away. -/
def turnedAway : Nat := ((s.deliveries m).takeWhile (·.turnedAway)).length

/-- Every delivery of the message was left pending on purpose. -/
def Deliberate : Prop :=
  ∀ e ∈ s.ended, e.message = m → e.outcome.any (·.deliberate) = true

/-- The message was not delivered yet; the queue gives out ids in order. -/
structure Undelivered : Prop where
  ids : ∀ k job, AList.lookup k s.redis.stream = some job →
    k ≤ s.redis.lastMessageId
  pending : AList.lookup m s.pending = none
  ended : ∀ e ∈ s.ended, e.message ≠ m
  alive : ∀ job, (m, job) ∉ s.deadLetters

end QueueState

/-! ## Messages keep their ids -/

/-- From `r` to `r'` the stream lost messages or gained new ones under new
ids. -/
structure Redis.IdsKept (r r' : Redis) : Prop where
  last : r.lastMessageId ≤ r'.lastMessageId
  known : ∀ m job, AList.lookup m r'.stream = some job →
    AList.lookup m r.stream = some job ∨
      r.lastMessageId < m ∧ m ≤ r'.lastMessageId

namespace Redis.IdsKept

variable {r r' r'' : Redis}

theorem refl : r.IdsKept r := ⟨le_rfl, fun _ _ h => .inl h⟩

theorem trans (h : r.IdsKept r') (h' : r'.IdsKept r'') : r.IdsKept r'' := by
  refine ⟨h.last.trans h'.last, fun m job hm => ?_⟩
  rcases h'.known m job hm with hm | ⟨hlo, hhi⟩
  · rcases h.known m job hm with hm | ⟨hlo, hhi⟩
    · exact .inl hm
    · exact .inr ⟨hlo, hhi.trans h'.last⟩
  · exact .inr ⟨lt_of_le_of_lt h.last hlo, hhi⟩

/-- What leaves the stream and its ids alone. -/
theorem of_stream (hs : r'.stream = r.stream)
    (hl : r'.lastMessageId = r.lastMessageId) : r.IdsKept r' := by
  refine ⟨hl.ge, fun m job hm => .inl ?_⟩
  rwa [hs] at hm

theorem ack (m : MessageId) : r.IdsKept (r.ack m) := by
  refine ⟨le_rfl, fun k job hk => .inl ?_⟩
  by_cases hkm : k = m
  · subst hkm
    simp [Redis.ack] at hk
  · rwa [Redis.ack, AList.lookup_erase_ne hkm] at hk

theorem scheduleRetry (e : Option (RecoveryJob × Instant)) :
    r.IdsKept (r.scheduleRetry e) := by
  cases e <;> exact of_stream rfl rfl

theorem scheduleAddMissing (e : ScheduleEntry) (due : Instant) :
    r.IdsKept (r.scheduleAddMissing e due) := by
  unfold Redis.scheduleAddMissing
  split
  · exact refl
  · exact of_stream rfl rfl

theorem enqueueOnce (backlog : Nat) (job : DialJob) :
    r.IdsKept (r.enqueueOnce backlog job).1 := by
  unfold Redis.enqueueOnce
  split
  · exact refl
  · split
    · exact refl
    · refine ⟨Nat.le_succ _, fun m j hm => ?_⟩
      rw [Table.lookup_insert'] at hm
      by_cases hlast : m = r.lastMessageId + 1
      · exact .inr ⟨by simp [hlast], by simp [hlast]⟩
      · rw [if_neg hlast] at hm
        exact .inl hm

theorem of_enqueueOnce {backlog : Nat} {job : DialJob} {o : Redis.Enqueued}
    (h : r.enqueueOnce backlog job = (r', o)) : r.IdsKept r' := by
  have hq := enqueueOnce (r := r) backlog job
  rwa [h] at hq

variable {env : Env} {db : Db}

theorem enqueueScan {c : CampaignId} {jobId : ContactId → Nat} (budget : Nat)
    (cs : List ContactId) (r : Redis) :
    r.IdsKept (CallingAgent.enqueueScan env db c jobId budget cs r) := by
  induction cs generalizing budget r with
  | nil => cases budget <;> exact refl
  | cons k rest ih =>
      cases budget with
      | zero => exact refl
      | succ budget =>
          unfold CallingAgent.enqueueScan
          split
          · exact ih _ _
          · split
            · exact ih _ _
            · split
              · next heq => exact (of_enqueueOnce heq).trans (ih _ _)
              · next heq => exact (of_enqueueOnce heq).trans (ih _ _)
              · next heq => exact of_enqueueOnce heq

theorem enqueueCampaign {c : CampaignId} {jobId : ContactId → Nat}
    {gate : GateReads}
    (h : (CallingAgent.enqueueCampaign env db r c jobId gate).toOption
      = some r') : r.IdsKept r' := by
  unfold CallingAgent.enqueueCampaign at h
  split at h
  · cases h
  · split at h
    · cases h
    · split at h
      · cases h; exact enqueueScan _ _ _
      · cases h
      · cases h

theorem dispatchEntry (e : ScheduleEntry) (jobId : Nat) (now : Instant) :
    r.IdsKept (CallingAgent.dispatchEntry env db r e jobId now).2 := by
  have hclaim : r.IdsKept (r.scheduleClaim e) := of_stream rfl rfl
  refine hclaim.trans ?_
  unfold CallingAgent.dispatchEntry
  cases e with
  | retry job =>
      simp only [dispatchRetry]
      split
      · exact refl
      · exact scheduleAddMissing ..
      · exact refl
      · exact of_stream rfl rfl
      · split
        · next heq => exact (of_enqueueOnce heq).trans (of_stream rfl rfl)
        · next heq => exact of_enqueueOnce heq
        · next heq => exact of_enqueueOnce heq
  | dial job =>
      simp only [dispatchDial]
      repeat' split
      · exact refl
      · exact refl
      · exact of_stream rfl rfl
      · exact refl
      · exact scheduleAddMissing ..
      · exact of_stream rfl rfl
      · next heq => exact (of_enqueueOnce heq).trans (of_stream rfl rfl)
      · next heq => exact of_enqueueOnce heq
      · exact refl

theorem rebuild : r.IdsKept (rebuildRetrySchedule db r) := by
  unfold rebuildRetrySchedule
  generalize db.contacts.entries.filterMap _ = entries
  induction entries generalizing r with
  | nil => exact refl
  | cons x xs ih => exact (scheduleAddMissing _ _).trans ih

theorem settlePaused (m : MessageId) (job : DialJob) :
    r.IdsKept (CallingAgent.settlePaused db r m job).2 := by
  unfold CallingAgent.settlePaused
  split
  · have hguard : r.IdsKept (r.deleteGuard job.idempotencyKey) :=
      of_stream rfl rfl
    exact hguard.trans (ack m)
  · split
    · exact ack m
    · exact refl

theorem settleOutsideWindow (m : MessageId) (job : DialJob)
    (due : Option Instant) :
    r.IdsKept (CallingAgent.settleOutsideWindow db r m job due).2 := by
  have moved : ∀ r₁ : Redis, r.IdsKept r₁ → r.IdsKept (r₁.ack m) :=
    fun r₁ h => h.trans (ack m)
  unfold CallingAgent.settleOutsideWindow
  split
  · split
    · exact moved _ (of_stream rfl rfl)
    · split
      · exact ack m
      · split
        · exact moved _ (of_stream rfl rfl)
        · exact refl
  · split
    · exact ack m
    · exact refl

theorem settleRun (m : MessageId) (job : DialJob) (t : Instant)
    (run : DialRun) :
    r.IdsKept (CallingAgent.settleRun env r m job t run).2 := by
  unfold CallingAgent.settleRun
  refine (scheduleRetry run.entry).trans ?_
  dsimp only
  split
  · exact refl
  · exact settlePaused ..
  · split
    · exact refl
    · exact settleOutsideWindow ..
  · split
    · exact refl
    · exact ack m

theorem processClaimedJob (m : MessageId) (job : DialJob) (w : WorkWorld) :
    r.IdsKept (CallingAgent.processClaimedJob env db r m job w).2 := by
  unfold CallingAgent.processClaimedJob
  split
  · exact refl
  · exact refl
  · split
    · exact settlePaused ..
    · split
      · exact refl
      · exact settleOutsideWindow ..
      · split
        · exact settleRun ..
        · exact refl

end Redis.IdsKept

/-! ## The dialer never parks a contact -/

/-- A contact that is parked in `db'` was parked in `db`. -/
def Db.ParksNone (db db' : Db) : Prop :=
  ∀ c row', db'.contact c = some row' → row'.status = .needsReview →
    ∃ row, db.contact c = some row ∧ row.status = .needsReview

namespace Db.ParksNone

variable {db db' db'' : Db}

theorem refl : db.ParksNone db := fun _ row h hs => ⟨row, h, hs⟩

theorem of_contacts (h : ∀ c, db'.contact c = db.contact c) :
    db.ParksNone db' := by
  intro c row' hrow hs
  rw [h c] at hrow
  exact ⟨row', hrow, hs⟩

theorem trans (h : db.ParksNone db') (h' : db'.ParksNone db'') :
    db.ParksNone db'' := by
  intro c row'' hrow hs
  obtain ⟨row', hrow', hs'⟩ := h' c row'' hrow hs
  exact h c row' hrow' hs'

theorem logEvent (h : db.ParksNone db') (a : AttemptId) (ty : EventType)
    (t : Instant) : db.ParksNone (db'.logEvent a ty t) := h

theorem modifyAttempt (h : db.ParksNone db') (a : AttemptId)
    (f : CallAttempt → CallAttempt) : db.ParksNone (db'.modifyAttempt a f) := h

theorem modifyContact (h : db.ParksNone db') (c : ContactId)
    {f : Contact → Contact}
    (hf : ∀ row, db'.contact c = some row → (f row).status = .needsReview →
      row.status = .needsReview) :
    db.ParksNone (db'.modifyContact c f) := by
  refine h.trans fun k row' hrow hs => ?_
  rw [contact_modifyContact] at hrow
  by_cases hk : k = c
  · subst hk
    rw [if_pos rfl] at hrow
    obtain ⟨row, hold, rfl⟩ := Option.map_eq_some_iff.mp hrow
    exact ⟨row, hold, hf row hold hs⟩
  · rw [if_neg hk] at hrow
    exact ⟨row', hrow, hs⟩

/-- A session does not write a review it did not decide on. -/
theorem flush (h : db.ParksNone db') (c : ContactId) {loaded new : Contact}
    (hn : new.status = .needsReview → loaded.status = .needsReview) :
    db.ParksNone (db'.modifyContact c (loaded.flush new)) := by
  refine h.modifyContact c fun row _ hs => ?_
  rcases writeBack_or loaded.status new.status row.status with
    ⟨hw, hne⟩ | ⟨hw, -⟩
  · rw [Contact.flush, hw] at hs
    exact absurd (hs.trans (hn hs).symm) hne
  · rwa [Contact.flush, hw] at hs

end Db.ParksNone

/-- The manager never parks the contact. -/
theorem RecoveryEffect.Shape.parksNone {contactId : ContactId}
    {contact : Contact} {d : Disconnect} {e : RecoveryEffect}
    (h : e.Shape contactId contact d) (hs : e.contact.status = .needsReview) :
    contact.status = .needsReview := by
  rcases h.outcome with ⟨hc, -⟩ | ⟨hc, -⟩ | ⟨due, hc, -⟩
  · rwa [hc] at hs
  · rw [hc] at hs; cases hs
  · rw [hc] at hs; cases hs

section ParksNone

variable {env : Env} {db : Db} {aid : AttemptId} {job : DialJob}
  {w : DialWorld} {txStart now : Instant}

theorem recordTriggerFailure_parksNone {loaded : Option CallAttempt}
    {contactId : ContactId} {contact : Contact} {event : EventType}
    {failure : TriggerFailure} :
    db.ParksNone (recordTriggerFailure env db aid loaded contactId contact
      event failure txStart now).1 := by
  have hfail : db.ParksNone ((db.modifyAttempt aid
      (failAttempt loaded now)).logEvent aid event txStart) :=
    .of_contacts fun _ => rfl
  unfold recordTriggerFailure
  dsimp only
  split
  · exact (hfail.flush _ handleDisconnect_shape.parksNone).logEvent _ _ _
  · exact hfail

theorem resolveFoundRuns_parksNone {loaded : Option CallAttempt}
    {runs : List Nat} {o : JobOutcome} {db' : Db}
    (h : resolveFoundRuns db aid loaded txStart runs = some (o, db')) :
    db.ParksNone db' := by
  unfold resolveFoundRuns at h
  split at h
  · unfold adoptRun at h
    split at h
    · cases h
    · cases h
      exact .of_contacts fun _ => rfl
  · cases h
    exact .of_contacts fun _ => rfl

theorem reconcileOrRecord_parksNone {contact : Contact} {event : EventType}
    {failure : TriggerFailure} {o : JobOutcome} {sent : List PlaceRequest} :
    db.ParksNone (reconcileOrRecord env db job w aid contact event failure o
      txStart sent).db := by
  unfold reconcileOrRecord
  split
  · split
    · next hr => exact resolveFoundRuns_parksNone hr
    · exact .refl
  · exact recordTriggerFailure_parksNone

theorem secondGate_parksNone {view : DialView} {lookup : LookupResult}
    {o : JobOutcome} {db' : Db}
    (h : secondGate env db job aid view lookup txStart = .stop o db') :
    db.ParksNone db' := by
  unfold secondGate at h
  cases lookup with
  | failed =>
      cases h
      unfold deferOrExpire
      split
      · exact Db.ParksNone.refl.flush _ fun hs => by cases hs
      · exact .of_contacts fun _ => rfl
  | runs ids =>
      simp only at h
      split at h
      · cases h
      · split at h
        · cases h; exact .refl
        · split at h
          · cases h
          · split at h
            · cases h
            · next hr =>
              cases h
              refine Db.ParksNone.trans ?_ (resolveFoundRuns_parksNone hr)
              exact (Db.ParksNone.refl.modifyAttempt aid reopenAttempt).flush
                _ fun hs => by cases hs

theorem placeNative_parksNone {provider : String} {contactId : ContactId}
    {result : ProviderCallResult} {starts : Bool} :
    db.ParksNone (placeNative env db provider aid contactId result starts
      txStart now).1 := by
  unfold placeNative
  split
  · dsimp only
    have hplaced := ((Db.ParksNone.refl : db.ParksNone db).modifyAttempt aid fun a =>
        { a with provider := some provider,
                 providerCallId := result.providerCallId,
                 state := .connected }).modifyContact contactId
      (f := fun c => { c with status := .inConversation })
      fun _ _ hs => by cases hs
    split
    · exact hplaced.trans (.of_contacts fun _ => rfl)
    · exact hplaced
  · dsimp only
    split
    · next contact _ _ hcontact =>
      split
      · exact .of_contacts fun _ => rfl
      · refine Db.ParksNone.logEvent ?_ _ _ _
        refine Db.ParksNone.modifyContact ?_ _ fun row hrow hs => ?_
        · exact .of_contacts fun _ => rfl
        · rw [hcontact] at hrow
          cases hrow
          exact handleDisconnect_shape.parksNone hs
    · exact .of_contacts fun _ => rfl

theorem placeCallViaDograh_parksNone {prior : Prior}
    (hp : prior.status ≠ .needsReview) :
    db.ParksNone (placeCallViaDograh env db job w aid prior).db := by
  unfold placeCallViaDograh
  split
  · exact .refl
  · dsimp only
    split
    · split
      · next hacc =>
        unfold acceptTrigger at hacc
        split at hacc
        · cases hacc
        · cases hacc
          exact .of_contacts fun _ => rfl
      · exact .refl
    · split
      · unfold holdForProviderHalt
        refine Db.ParksNone.trans ?_ (.of_contacts fun _ => rfl)
        refine Db.ParksNone.flush ?_ _ fun hs => absurd hs hp
        exact .of_contacts fun _ => rfl
      · exact .refl
    · exact reconcileOrRecord_parksNone
    · exact recordTriggerFailure_parksNone

theorem placeCallNative_parksNone {claimed : Db} (h : db.ParksNone claimed) :
    db.ParksNone (placeCallNative env db job w claimed aid).db := by
  unfold placeCallNative
  split
  · exact .refl
  · dsimp only
    split
    · exact .refl
    · exact h.trans placeNative_parksNone

/-- The claim remembers the status the run has loaded. -/
theorem claimAttempt_prior {view : DialView} {prior : Prior} {claimed : Db}
    (h : claimAttempt env db job view txStart now
      = .claimed aid prior claimed) :
    prior.status = view.contact.status ∧ db.ParksNone claimed := by
  have hwrite : ∀ (created : Bool) (db' : Db), db.ParksNone db' →
      db.ParksNone (db'.modifyContact job.contactId
        (view.contact.flush (claimContact created view.contact))) :=
    fun created db' h => h.flush _ fun hs => by cases hs
  unfold claimAttempt at h
  dsimp only at h
  split at h
  · cases h
    exact ⟨rfl, hwrite true _ (.of_contacts fun _ => rfl)⟩
  · split at h
    · split at h
      · cases h
      · cases h
        exact ⟨rfl, hwrite false _ .refl⟩
    · cases h
      exact ⟨rfl, hwrite true _ (.of_contacts fun _ => rfl)⟩

theorem gateAndPlace_parksNone {view : DialView}
    (hv : view.Passed env db job w.checkedAt) :
    db.ParksNone (gateAndPlace env db job w view).db := by
  obtain ⟨campaign, -, he⟩ := hv.eligible
  have hstatus : view.contact.status ≠ .needsReview := by
    intro hs
    have hd := he.dialable
    rw [hs] at hd
    cases hd
  unfold gateAndPlace
  split
  · exact .refl
  · exact .refl
  · split
    · exact .refl
    · next hclaim =>
      obtain ⟨hprior, hclaimed⟩ := claimAttempt_prior hclaim
      split
      · refine hclaimed.trans (placeCallViaDograh_parksNone ?_)
        rwa [hprior]
      · exact placeCallNative_parksNone hclaimed

/-- **The dialer never parks a contact.** -/
theorem dial_parksNone : db.ParksNone (dial env db job w).db := by
  unfold dial
  cases hc : dialCheck env db job w.checkedAt with
  | stop o => exact .refl
  | raised => exact .refl
  | orphan aid attempt contact => exact reconcileOrRecord_parksNone
  | secondGate previous view =>
      dsimp only
      cases hs : secondGate env db job previous view w.secondLookup
          w.startedAt with
      | stop o db' => exact secondGate_parksNone hs
      | raised => exact .refl
      | pass => exact gateAndPlace_parksNone (dialCheck_passed (by rw [hc]; rfl))
  | ready view => exact gateAndPlace_parksNone (dialCheck_passed (by rw [hc]; rfl))

theorem settleRun_db {r : Redis} {m : MessageId} {t : Instant}
    {run : DialRun} : (settleRun env r m job t run).1.db = run.db := by
  unfold settleRun
  dsimp only
  split
  · rfl
  · rfl
  · split <;> rfl
  · rfl

theorem processClaimedJob_parksNone {r : Redis} {m : MessageId}
    {world : WorkWorld} :
    db.ParksNone (processClaimedJob env db r m job world).1.db := by
  unfold processClaimedJob
  split
  · exact .refl
  · exact .refl
  · split
    · exact .refl
    · split
      · exact .refl
      · exact .refl
      · split
        · rw [settleRun_db]
          exact dial_parksNone
        · exact .refl

end ParksNone

/-! ## The counter -/

/-- What the pending list knows of one message: it was delivered once for
every delivery since the last reset. -/
structure QueueState.Counted (s : QueueState) (m : MessageId) : Prop where
  ids : ∀ k job, AList.lookup k s.redis.stream = some job →
    k ≤ s.redis.lastMessageId
  old : s.deliveries m ≠ [] → m ≤ s.redis.lastMessageId
  counted : ∀ n, AList.lookup m s.pending = some n → n = s.unreset m
  seen : s.deliveries m ≠ [] → ∀ job,
    AList.lookup m s.redis.stream = some job →
      AList.lookup m s.pending ≠ none

namespace QueueState.Counted

variable {env : Env} {s s' : QueueState} {m : MessageId}

/-- Ids only grow, and no message comes back under an old one. -/
theorem ids_kept {r : Redis} (h : s.Counted m) (hk : s.redis.IdsKept r) :
    (∀ k job, AList.lookup k r.stream = some job → k ≤ r.lastMessageId) ∧
      (s.deliveries m ≠ [] → ∀ job, AList.lookup m r.stream = some job →
        AList.lookup m s.redis.stream = some job) := by
  constructor
  · intro k job hj
    rcases hk.known k job hj with hj | ⟨-, hhi⟩
    · exact (h.ids k job hj).trans hk.last
    · exact hhi
  · intro hne job hj
    rcases hk.known m job hj with hj | ⟨hlo, -⟩
    · exact hj
    · exact absurd (h.old hne) (Nat.not_le.mpr hlo)

/-- What delivers nothing. -/
theorem other (h : s.Counted m) (hk : s.redis.IdsKept s'.redis)
    (he : s'.deliveries m = s.deliveries m)
    (hp : AList.lookup m s'.pending = AList.lookup m s.pending) :
    s'.Counted m := by
  obtain ⟨hids, hold⟩ := h.ids_kept hk
  refine ⟨hids, ?_, ?_, ?_⟩
  · intro hne
    rw [he] at hne
    exact (h.old hne).trans hk.last
  · intro n hn
    rw [hp] at hn
    rw [h.counted n hn, unreset, unreset, he]
  · intro hne job hj
    rw [he] at hne
    rw [hp]
    exact h.seen hne job (hold hne job hj)

/-- A delivery of the message itself. -/
theorem process (h : s.Counted m) {job : DialJob} {w : WorkWorld}
    {resets : Bool} (hm : AList.lookup m s.redis.stream = some job) :
    (s.process env m job (s.unreset m + 1) w resets).Counted m := by
  have hk : s.redis.IdsKept (processClaimedJob env s.db s.redis m job w).2 :=
    .processClaimedJob m job w
  obtain ⟨hids, -⟩ := h.ids_kept hk
  refine ⟨hids, fun _ => (h.ids m job hm).trans hk.last, ?_, ?_⟩
  · intro n hn
    simp only [QueueState.process, Table.lookup_put, if_true] at hn
    split at hn
    · cases hn
    · split at hn
      · next hr =>
        cases hn
        simp [QueueState.process, unreset, deliveries, hr]
      · next hr =>
        cases hn
        simp [QueueState.process, unreset, deliveries, hr]
  · intro _ j hj
    have hsome : (AList.lookup m
        (processClaimedJob env s.db s.redis m job w).2.stream).isNone
          = false := by
      have hj' : AList.lookup m (processClaimedJob env s.db s.redis m job
        w).2.stream = some j := hj
      rw [hj']
      rfl
    simp only [QueueState.process, Table.lookup_put, if_true, hsome,
      Bool.false_eq_true, if_false]
    split <;> simp

/-- A delivery of another message. -/
theorem process_ne (h : s.Counted m) {k : MessageId} {job : DialJob}
    {n : Nat} {w : WorkWorld} {resets : Bool} (hne : k ≠ m) :
    (s.process env k job n w resets).Counted m := by
  refine h.other (.processClaimedJob k job w) ?_ ?_
  · simp [QueueState.process, deliveries, hne]
  · simp [QueueState.process, Table.lookup_put, hne.symm]

theorem bury (h : s.Counted m) {k : MessageId} {job : DialJob}
    {recorded : Bool} : (s.bury k job recorded).Counted m := by
  by_cases hk : k = m
  · subst hk
    refine ⟨(h.ids_kept (.ack k)).1, h.old, ?_, ?_⟩
    · intro n hn
      simp [QueueState.bury, Table.lookup_put] at hn
    · intro _ j hj
      simp [QueueState.bury, Redis.ack] at hj
  · refine h.other (.ack k) rfl ?_
    simp [QueueState.bury, Table.lookup_put, Ne.symm hk]

/-- One step keeps the count. -/
theorem step {a : QueueAct} (h : s.Counted m)
    (hst : queueStep env s a = some s') : s'.Counted m := by
  cases a with
  | read k w resets =>
      simp only [queueStep] at hst
      split at hst
      · next job hjob hnone =>
        cases hst
        by_cases hk : k = m
        · subst hk
          have hnew : s.deliveries k = [] := by
            by_contra hne
            exact h.seen hne job hjob hnone
          have hzero : s.unreset k = 0 := by simp [unreset, hnew]
          have hp := @process env s k h job w resets hjob
          rwa [hzero] at hp
        · exact h.process_ne hk
      · cases hst
  | reclaim k w resets recorded =>
      simp only [queueStep] at hst
      split at hst
      · next job n hjob hn =>
        split at hst
        · cases hst; exact h.bury
        · cases hst
          by_cases hk : k = m
          · subst hk
            rw [h.counted n hn]
            exact h.process hjob
          · exact h.process_ne hk
      · cases hst
  | service op now commits =>
      obtain ⟨r, -, rfl⟩ := Option.map_eq_some_iff.mp hst
      exact h.other (.scheduleRetry _) rfl rfl
  | enqueue c jobId gate =>
      obtain ⟨r, hr, rfl⟩ := Option.map_eq_some_iff.mp hst
      exact h.other (.enqueueCampaign hr) rfl rfl
  | dispatch e jobId now =>
      simp only [queueStep] at hst
      split at hst
      · cases hst; exact h.other (.dispatchEntry ..) rfl rfl
      · cases hst
  | rebuild =>
      cases hst
      exact h.other .rebuild rfl rfl
  | flush =>
      cases hst
      refine ⟨?_, h.old, ?_, ?_⟩
      · intro k job hk; cases hk
      · intro n hn; cases hn
      · intro _ job hj; cases hj

end QueueState.Counted

theorem QueueState.Undelivered.deliveries {s : QueueState} {m : MessageId}
    (h : s.Undelivered m) : s.deliveries m = [] :=
  List.filter_eq_nil_iff.mpr fun e he => by simpa using h.ended e he

theorem QueueState.Undelivered.counted {s : QueueState} {m : MessageId}
    (h : s.Undelivered m) : s.Counted m := by
  refine ⟨h.ids, fun hne => absurd h.deliveries hne, ?_,
    fun hne => absurd h.deliveries hne⟩
  intro n hn
  rw [h.pending] at hn
  cases hn

/-! ## Deliberate backpressure and the dead letters -/

/-- Two predicates that agree on a list cut it at the same place. -/
theorem takeWhile_congr {α : Type _} {p q : α → Bool} {l : List α}
    (h : ∀ x ∈ l, p x = q x) : l.takeWhile p = l.takeWhile q := by
  induction l with
  | nil => rfl
  | cons x l ih =>
      rw [List.takeWhile_cons, List.takeWhile_cons, h x (by simp),
        ih fun y hy => h y (by simp [hy])]

section Poison

variable {env : Env} {s s' t : QueueState} {m : MessageId}

/-- Among deliberate outcomes, the ones that are not reset are those that
were turned away. -/
theorem QueueState.Deliberate.unreset (h : s.Deliberate m) :
    s.unreset m = s.turnedAway m := by
  unfold QueueState.unreset QueueState.turnedAway
  congr 1
  refine takeWhile_congr fun e he => ?_
  obtain ⟨hmem, hm⟩ := List.mem_filter.mp he
  have hd := h e hmem (by simpa using hm)
  obtain ⟨o, ho, hdel⟩ := (Option.any_eq_true _ _).mp hd
  simp only [EndedDelivery.reset, EndedDelivery.turnedAway, ho, Option.any_some]
  cases o <;> cases e.resets <;> simp_all [JobOutcome.deliberate,
    JobOutcome.leftUnacked]

/-- What a step records of its deliveries is never forgotten. -/
theorem queueStep_ended {a : QueueAct} (hst : queueStep env s a = some s') :
    ∀ e ∈ s.ended, e ∈ s'.ended := by
  intro e he
  cases a with
  | read k w resets =>
      simp only [queueStep] at hst
      split at hst
      · cases hst; exact List.mem_cons_of_mem _ he
      · cases hst
  | reclaim k w resets recorded =>
      simp only [queueStep] at hst
      split at hst
      · split at hst
        · cases hst; exact he
        · cases hst; exact List.mem_cons_of_mem _ he
      · cases hst
  | service op now commits =>
      obtain ⟨r, -, rfl⟩ := Option.map_eq_some_iff.mp hst
      exact he
  | enqueue c jobId gate =>
      obtain ⟨r, -, rfl⟩ := Option.map_eq_some_iff.mp hst
      exact he
  | dispatch e jobId now =>
      simp only [queueStep] at hst
      split at hst
      · cases hst; exact he
      · cases hst
  | rebuild => cases hst; exact he
  | flush => cases hst; exact he

theorem QueueState.Deliberate.before {a : QueueAct} (h : s'.Deliberate m)
    (hst : queueStep env s a = some s') : s.Deliberate m :=
  fun e he => h e (queueStep_ended hst e he)

/-- The message is not among the dead letters. -/
def QueueState.Alive (s : QueueState) (m : MessageId) : Prop :=
  ∀ job, (m, job) ∉ s.deadLetters

/-- The step that reclaims the message past its limit, and no other, puts
it among the dead letters. -/
theorem reclaim_dead_iff {w : WorkWorld} {resets recorded : Bool}
    (hc : s.Counted m) (ha : s.Alive m)
    (hst : queueStep env s (.reclaim m w resets recorded) = some s') :
    ¬ s'.Alive m ↔ env.settings.queueMaxDeliveries ≤ s.unreset m := by
  simp only [queueStep] at hst
  split at hst
  · next job n hjob hn =>
    rw [← hc.counted n hn]
    split at hst
    · next hlimit =>
      cases hst
      refine ⟨fun _ => Nat.lt_succ_iff.mp hlimit, fun _ h => ?_⟩
      exact h job (by simp [QueueState.bury])
    · next hlimit =>
      cases hst
      refine ⟨fun h => absurd ha h, fun h => ?_⟩
      exact absurd (Nat.lt_succ_of_le h) hlimit
  · cases hst

/-- The deliveries of a message: reads and reclaims of it. -/
def QueueAct.delivers (m : MessageId) : QueueAct → Bool
  | .read k _ _ | .reclaim k _ _ _ => k == m
  | _ => false

/-- The message is reclaimed only while fewer deliveries in a row than the
limit were turned away. -/
def withinLimit (env : Env) (m : MessageId) (s : QueueState) :
    QueueAct → Bool
  | .reclaim k _ _ _ =>
      k != m || s.turnedAway m < env.settings.queueMaxDeliveries
  | _ => true

/-- A step within the limit keeps the message alive, and its own
deliveries park no contact. -/
theorem queueStep_alive {a : QueueAct} (hc : s.Counted m) (ha : s.Alive m)
    (hd : s.Deliberate m) (hl : withinLimit env m s a = true)
    (hst : queueStep env s a = some s') :
    s'.Alive m ∧ (a.delivers m = true → s.db.ParksNone s'.db) := by
  cases a with
  | read k w resets =>
      simp only [queueStep] at hst
      split at hst
      · cases hst
        exact ⟨ha, fun _ => processClaimedJob_parksNone⟩
      · cases hst
  | reclaim k w resets recorded =>
      by_cases hk : k = m
      · subst hk
        have hlt : s.unreset k < env.settings.queueMaxDeliveries := by
          rw [hd.unreset]
          simpa [withinLimit] using hl
        simp only [queueStep] at hst
        split at hst
        · next job n hjob hn =>
          rw [hc.counted n hn, if_neg (by omega)] at hst
          cases hst
          exact ⟨ha, fun _ => processClaimedJob_parksNone⟩
        · cases hst
      · refine ⟨?_, fun h => absurd (by simpa [QueueAct.delivers] using h) hk⟩
        simp only [queueStep] at hst
        split at hst
        · split at hst
          · cases hst
            intro job hj
            rcases List.mem_cons.mp hj with hj | hj
            · exact hk (Prod.mk.inj hj).1.symm
            · exact ha job hj
          · cases hst; exact ha
        · cases hst
  | service op now commits =>
      obtain ⟨r, -, rfl⟩ := Option.map_eq_some_iff.mp hst
      exact ⟨ha, fun h => by cases h⟩
  | enqueue c jobId gate =>
      obtain ⟨r, -, rfl⟩ := Option.map_eq_some_iff.mp hst
      exact ⟨ha, fun h => by cases h⟩
  | dispatch e jobId now =>
      simp only [queueStep] at hst
      split at hst
      · cases hst; exact ⟨ha, fun h => by cases h⟩
      · cases hst
  | rebuild => cases hst; exact ⟨ha, fun h => by cases h⟩
  | flush => cases hst; exact ⟨ha, fun h => by cases h⟩

/-- **Backpressure is not poison, under a condition.** In a run in which
every delivery of a message was left pending on purpose, and which never
reclaims it after as many turned-away deliveries in a row as the limit
allows, the message is never among the dead letters and its deliveries
never park a contact. And a reclaim puts it there exactly when the run of
turned-away deliveries has reached the limit. -/
theorem run_notPoison
    (h : Run (queueStep env) (fun s a => withinLimit env m s a = true) s s')
    (hs : s.Undelivered m) (hd : s'.Deliberate m) :
    s'.Alive m ∧
      (∀ a t, a.delivers m = true → withinLimit env m s' a = true →
        queueStep env s' a = some t → s'.db.ParksNone t.db) ∧
      ∀ w resets recorded t,
        queueStep env s' (.reclaim m w resets recorded) = some t →
          (¬ t.Alive m ↔
            env.settings.queueMaxDeliveries ≤ s'.turnedAway m) := by
  have hboth : s'.Counted m ∧ s'.Alive m := by
    induction h with
    | refl => exact ⟨hs.counted, hs.alive⟩
    | step _ hl hst ih =>
        have hd' := hd.before hst
        obtain ⟨hc, ha⟩ := ih hd'
        exact ⟨hc.step hst, (queueStep_alive hc ha hd' hl hst).1⟩
  obtain ⟨hc, ha⟩ := hboth
  refine ⟨ha, fun a t hdel hl hst => (queueStep_alive hc ha hd hl hst).2 hdel,
    fun w resets recorded t hst => ?_⟩
  rw [← hd.unreset]
  exact reclaim_dead_iff hc ha hst

end Poison

/-! ### A job that is refused admission again and again -/

instance (s : QueueState) (m : MessageId) : Decidable (s.Deliberate m) :=
  inferInstanceAs (Decidable (∀ e ∈ s.ended, _ → _))

/-- No admission slot is free. -/
def crowdedWorld : WorkWorld := { acceptingWorld with admitted := false }

/-- Contact 1 waits in the active campaign 1; nothing is queued yet. -/
def quietQueue : QueueState where
  db := twoCampaigns
  redis := {}

theorem quietQueue_undelivered : quietQueue.Undelivered 1 where
  ids := fun _ _ h => by cases h
  pending := rfl
  ended := fun _ h => by cases h
  alive := fun _ h => by cases h

/-- Refused admission at ten deliveries in a row, and only that, the job is
poison at the eleventh and its contact is parked. -/
theorem crowded_poison :
    ∃ s, runActs (queueStep dograhEnv) quietQueue
        ([.enqueue 1 (fun _ => 1) quietGate, .read 1 crowdedWorld true]
          ++ List.replicate 10 (.reclaim 1 crowdedWorld true true)) = some s ∧
      s.Deliberate 1 ∧ ¬ s.Alive 1 ∧
      (s.db.contact 1).map (·.status) = some .needsReview := by
  have h : (runActs (queueStep dograhEnv) quietQueue
      ([.enqueue 1 (fun _ => 1) quietGate, .read 1 crowdedWorld true]
        ++ List.replicate 10 (.reclaim 1 crowdedWorld true true))).any
      (fun s => decide (s.Deliberate 1)
        && (s.deadLetters.any fun x => x.1 == 1)
        && (s.db.contact 1).map (·.status) == some .needsReview) = true := by
    decide +kernel
  obtain ⟨s, hs, hn⟩ := (Option.any_eq_true _ _).mp h
  simp only [Bool.and_eq_true, decide_eq_true_eq, List.any_eq_true,
    beq_iff_eq] at hn
  obtain ⟨⟨hd, ⟨k, job⟩, hmem, hk⟩, hstatus⟩ := hn
  cases hk
  exact ⟨s, hs, hd, fun ha => ha job hmem, hstatus⟩

/-- Turned away twice and then stopped by the kill switch, it stays
alive. -/
theorem crowded_alive :
    ∃ s, runActs (queueStep dograhEnv) quietQueue
        [.enqueue 1 (fun _ => 1) quietGate, .read 1 crowdedWorld true,
          .reclaim 1 crowdedWorld true true,
          .reclaim 1 { crowdedWorld with earlyGate := { quietGate with
            killSwitch := .value { killSwitch := true } } } true true]
        = some s ∧
      s.ended.length = 3 ∧ s.Alive 1 := by
  obtain ⟨s, hs, hrun⟩ := Run.of_holdsAlong (queueStep dograhEnv)
    (withinLimit dograhEnv 1) quietQueue
    [.enqueue 1 (fun _ => 1) quietGate, .read 1 crowdedWorld true,
      .reclaim 1 crowdedWorld true true,
      .reclaim 1 { crowdedWorld with earlyGate := { quietGate with
        killSwitch := .value { killSwitch := true } } } true true]
    (by decide +kernel)
  have hend : (runActs (queueStep dograhEnv) quietQueue
      [.enqueue 1 (fun _ => 1) quietGate, .read 1 crowdedWorld true,
        .reclaim 1 crowdedWorld true true,
        .reclaim 1 { crowdedWorld with earlyGate := { quietGate with
          killSwitch := .value { killSwitch := true } } } true true]).map
      (fun s => (s.ended.length, decide (s.Deliberate 1)))
      = some (3, true) := by
    decide +kernel
  rw [hs] at hend
  obtain ⟨hlen, hdel⟩ := Prod.mk.inj (Option.some.inj hend)
  exact ⟨s, hs, hlen,
    (run_notPoison hrun quietQueue_undelivered (of_decide_eq_true hdel)).1⟩

end CallingAgent
