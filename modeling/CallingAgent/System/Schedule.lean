import CallingAgent.System.Rows

/-!
# The schedule and the stream — where entries and jobs come from

Three producers put retries on the schedule: the recovery manager, the
settling of a retry outside its window, and the rebuild. Dispatch moves
them to the stream, beside the scan of a campaign. For every step this is
each entry and each job it can add; whatever else is there was there
before.
-/

namespace CallingAgent

open Lib

/-! ## What the recovery manager is asked -/

/-- A call of `handle_disconnect`: the session's database and its copies. -/
structure Consultation where
  db : Db
  contactId : ContactId
  contact : Contact
  campaign : Campaign
  disconnect : Disconnect

def Consultation.answer (q : Consultation) (env : Env) (now : Instant) :
    RecoveryEffect :=
  handleDisconnect env q.db q.contactId q.contact q.campaign q.disconnect now

/-- The manager is asked in a step that leaves `db'`. -/
inductive Consulted (env : Env) (s : System) (db' : Db) :
    SystemAct → Consultation → Prop
  | webhook {p : DograhWebhookPayload} {w : AcceptedWebhook} {commits : Bool}
      (found : w.Found env s.db p) (state : w.outcome.state ≠ .endedNormally) :
      Consulted env s db' (.service (.dograhWebhook p) commits)
        ⟨outcomeDb env s.db p w s.now, w.attempt.contactId,
          w.handedContact (p.optsOut env), w.campaign, w.disconnect⟩
  | dropped {aid : AttemptId} {a : CallAttempt} {x : Contact}
      {reason : MidCallDisconnectReason} {campaign : Campaign} {commits : Bool}
      (attempt : s.db.conversationAttempt aid = some a)
      (contact : s.db.contact a.contactId = some x)
      (campaign_ : s.db.campaign x.campaignId = some campaign) :
      Consulted env s db' (.service (.conversationDrops aid reason) commits)
        ⟨droppedRows s.db aid a.contactId reason s.now, a.contactId,
          { x with status := .disconnected }, campaign,
          dropDisconnect aid a reason⟩
  | failed {w : WorkerId} {k : Worker} {act : WorkerAct} {f : FailureRecord}
      {a : CallAttempt} {campaign : Campaign} (running : s.worker w = some k)
      (record : recordedFailure env k act = some f)
      (attempt : s.db.attempt f.aid = some a)
      (campaign_ : s.db.campaign f.contact.campaignId = some campaign) :
      Consulted env s db' (.worker w act)
        ⟨f.rows s.db s.now, k.job.contactId, f.contact, campaign,
          triggerDisconnect f.aid a f.failure⟩
  | native {w : WorkerId} {k : Worker} {view : DialView} {reads : GateReads}
      {native : NativeAnswer} {commits created : Bool}
      {r : ProviderCallResult} {reason : NeverConnectedFailureReason}
      {x : Contact} {db : Db} {d : Disconnect} {campaign : Campaign}
      (running : s.worker w = some k) (phase : k.phase = .ready view)
      (engine : env.settings.callingEngine = .native)
      (answer : native.result = some r) (ko : r.outcome ≠ .initiated)
      (said : r.failureReason = some reason)
      (contact : s.db.contact k.job.contactId = some x)
      (suppressions : db.suppressions = s.db.suppressions)
      (policies : db.retryPolicies = s.db.retryPolicies)
      (never : d.neverConnected = true)
      (committed : commits = true → db'.attempts = db.attempts)
      (row : view.held = none → d.attemptNumber = k.job.attemptNumber ∧
        db.RowOf d.attemptId k.job.contactId d.attemptNumber) :
      Consulted env s db' (.worker w (.gate reads native commits))
        ⟨db, k.job.contactId,
          view.contact.flush (claimContact created view.contact) x, campaign,
          d⟩

/-! ## What a step adds -/

/-- The retry of a job goes back to the schedule, under the id of its dial
job. -/
def settlesRetry (db : Db) (job : DialJob) (due : Option Instant) : Bool :=
  due.isSome && !rebuildable db job && !alreadyDialed db job
    && job.isRecovery && job.previousAttemptId.isSome

/-- The opening a message that is settled outside its window waits for, if
it is. -/
def settledDue (env : Env) (s : System) (k : Worker) :
    Option (Option Instant) :=
  match k.phase with
  | .settling .outsideWindow => (closedWindow env s.db k.job s.now).map (·.2)
  | .deferring due => some due
  | _ => none

/-- An entry that a step leaving `db'` adds to the schedule. -/
inductive NewEntry (env : Env) (s : System) (db' : Db) :
    SystemAct → ScheduleEntry → Prop
  | manager {act : SystemAct} {q : Consultation} {job : RecoveryJob}
      {due : Instant} (asked : Consulted env s db' act q)
      (entry : (q.answer env s.now).entry = some (job, due)) :
      NewEntry env s db' act (.retry job)
  | deferred {w : WorkerId} {k : Worker} {due : Instant}
      (running : s.worker w = some k)
      (settled : settledDue env s k = some (some due))
      (rebuildable_ : rebuildable s.db k.job = true) :
      NewEntry env s db' (.worker w .settle) (.dial k.job)
  | putBack {w : WorkerId} {k : Worker} {due : Option Instant}
      {previous : AttemptId} (running : s.worker w = some k)
      (settled : settledDue env s k = some due)
      (branch : settlesRetry s.db k.job due = true)
      (previous_ : k.job.previousAttemptId = some previous) :
      NewEntry env s db' (.worker w .settle) (.retry
        { jobId := some k.job.jobId, attemptId := previous
          contactId := k.job.contactId, campaignId := k.job.campaignId
          attemptNumber := k.job.attemptNumber })
  | rebuilt {c : ContactId} {x : Contact} {e : ScheduleEntry} {due : Instant}
      (contact : s.db.contact c = some x)
      (entry : rebuildEntry s.db c x = some (e, due)) :
      NewEntry env s db' .rebuild e

/-- A job that a step adds to the stream. -/
inductive NewJob (env : Env) (s : System) : SystemAct → DialJob → Prop
  | enqueued {campaign : CampaignId} {jobId : ContactId → Nat}
      {reads : GateReads} {c : ContactId} {x : Contact}
      (contact : s.db.contact c = some x)
      (selected : enqueueSelects campaign x = true) :
      NewJob env s (.enqueue campaign jobId reads)
        { jobId := jobId c, campaignId := campaign, contactId := c,
          attemptNumber := 1 }
  | dispatched {job : RecoveryJob} {jobId : Nat} {commits : Bool}
      (due : ∃ t, (ScheduleEntry.retry job, t) ∈ s.redis.schedule)
      (verdict : retryVerdict env s.db job s.now = .enqueue) :
      NewJob env s (.dispatch (.retry job) jobId commits)
        { jobId, campaignId := job.campaignId, contactId := job.contactId,
          attemptNumber := job.attemptNumber, isRecovery := true,
          previousAttemptId := some job.attemptId }
  | redialed {job : DialJob} {jobId : Nat} {commits : Bool}
      (due : ∃ t, (ScheduleEntry.dial job, t) ∈ s.redis.schedule) :
      NewJob env s (.dispatch (.dial job) jobId commits) job

/-! ## Redis -/

/-- No member is on the schedule twice. -/
def Redis.Distinct (r : Redis) : Prop := (r.schedule.map Prod.fst).Nodup

/-- What is on the schedule and the stream of `r'` was there in `r`, or is
one of the entries `P` and the jobs `Q`. -/
structure Redis.Adds (P : ScheduleEntry → Prop) (Q : DialJob → Prop)
    (r r' : Redis) : Prop where
  entry : ∀ e ∈ r'.schedule, (∃ t, (e.1, t) ∈ r.schedule) ∨ P e.1
  job : ∀ m job, AList.lookup m r'.stream = some job →
    AList.lookup m r.stream = some job ∨ Q job
  distinct : r.Distinct → r'.Distinct

namespace Redis.Adds

variable {P : ScheduleEntry → Prop} {Q : DialJob → Prop} {r₀ r : Redis}

theorem refl : Redis.Adds P Q r r :=
  ⟨fun e he => .inl ⟨e.2, he⟩, fun _ _ h => .inl h, id⟩

theorem ack (h : Redis.Adds P Q r₀ r) (m : MessageId) :
    Redis.Adds P Q r₀ (r.ack m) := by
  refine ⟨h.entry, fun k job hk => ?_, h.distinct⟩
  by_cases hm : k = m
  · subst hm
    rw [Redis.ack, AList.lookup_erase] at hk
    cases hk
  · rw [Redis.ack, AList.lookup_erase_ne hm] at hk
    exact h.job k job hk

theorem deleteGuard (h : Redis.Adds P Q r₀ r) (key : IdempotencyKey) :
    Redis.Adds P Q r₀ (r.deleteGuard key) :=
  ⟨h.entry, h.job, h.distinct⟩

theorem scheduleClaim (h : Redis.Adds P Q r₀ r) (e : ScheduleEntry) :
    Redis.Adds P Q r₀ (r.scheduleClaim e) where
  entry x hx := h.entry x (List.mem_filter.mp hx).1
  job := h.job
  distinct hd := ((List.filter_sublist).map Prod.fst).nodup (h.distinct hd)

theorem schedulePut (h : Redis.Adds P Q r₀ r) {e : ScheduleEntry}
    (due : Instant) (he : (∃ t, (e, t) ∈ r₀.schedule) ∨ P e) :
    Redis.Adds P Q r₀ (r.schedulePut e due) where
  entry x hx := by
    rcases List.mem_cons.mp hx with rfl | hx
    · exact he
    · exact h.entry x (List.mem_filter.mp hx).1
  job := h.job
  distinct hd := by
    show ((_ :: List.filter _ _).map Prod.fst).Nodup
    rw [List.map_cons, List.nodup_cons]
    refine ⟨fun hm => ?_, (h.scheduleClaim e).distinct hd⟩
    obtain ⟨x, hx, hxe⟩ := List.mem_map.mp hm
    exact of_decide_eq_true (List.mem_filter.mp hx).2 hxe

theorem scheduleAddMissing (h : Redis.Adds P Q r₀ r) {e : ScheduleEntry}
    (due : Instant) (he : (∃ t, (e, t) ∈ r₀.schedule) ∨ P e) :
    Redis.Adds P Q r₀ (r.scheduleAddMissing e due) := by
  unfold Redis.scheduleAddMissing
  split
  · exact h
  · next hnew =>
    refine ⟨fun x hx => ?_, h.job, fun hd => ?_⟩
    · rcases List.mem_cons.mp hx with rfl | hx
      · exact he
      · exact h.entry x hx
    · show ((_ :: _).map Prod.fst).Nodup
      rw [List.map_cons, List.nodup_cons]
      refine ⟨fun hm => hnew ?_, h.distinct hd⟩
      obtain ⟨x, hx, hxe⟩ := List.mem_map.mp hm
      exact List.any_eq_true.mpr ⟨x, hx, decide_eq_true hxe⟩

theorem scheduleRetry (h : Redis.Adds P Q r₀ r)
    {entry : Option (RecoveryJob × Instant)}
    (he : ∀ job due, entry = some (job, due) → P (.retry job)) :
    Redis.Adds P Q r₀ (r.scheduleRetry entry) := by
  cases entry with
  | none => exact h
  | some x => exact h.schedulePut x.2 (.inr (he x.1 x.2 rfl))

theorem enqueueOnce (h : Redis.Adds P Q r₀ r) (backlog : Nat) {job : DialJob}
    (hj : Q job) : Redis.Adds P Q r₀ (r.enqueueOnce backlog job).1 := by
  unfold Redis.enqueueOnce
  split
  · exact h
  · split
    · exact h
    · refine ⟨h.entry, fun m j hm => ?_, h.distinct⟩
      rw [Table.lookup_insert'] at hm
      split at hm
      · cases hm
        exact .inr hj
      · exact h.job m j hm

theorem flush : Redis.Adds P Q r { lastMessageId := r.lastMessageId } where
  entry _ he := nomatch he
  job _ _ hm := nomatch hm
  distinct _ := List.nodup_nil

end Redis.Adds

/-! ## The steps -/

section

variable {env : Env} {s s' : System} {P : ScheduleEntry → Prop}
  {Q : DialJob → Prop} {r : Redis}

theorem settlePaused_adds (h : Redis.Adds P Q s.redis r) {m : MessageId}
    {job : DialJob} : Redis.Adds P Q s.redis (settlePaused s.db r m job).2 := by
  unfold settlePaused
  split
  · exact (h.deleteGuard _).ack m
  · split
    · exact h.ack m
    · exact h

/-- A job outside its window is deferred, or goes back where it came
from. -/
theorem settleOutsideWindow_adds {m : MessageId} {job : DialJob}
    {due : Option Instant}
    (hdial : ∀ t, due = some t → rebuildable s.db job = true → P (.dial job))
    (hretry : ∀ previous, settlesRetry s.db job due = true →
      job.previousAttemptId = some previous → P (.retry
        { jobId := some job.jobId, attemptId := previous
          contactId := job.contactId, campaignId := job.campaignId
          attemptNumber := job.attemptNumber })) :
    Redis.Adds P Q s.redis (settleOutsideWindow s.db s.redis m job due).2 := by
  have h : Redis.Adds P Q s.redis s.redis := .refl
  unfold settleOutsideWindow
  split
  · next t =>
    split
    · next hr =>
      exact ((h.schedulePut t (.inr (hdial t rfl hr))).deleteGuard _).ack m
    · next hr =>
      split
      · exact h.ack m
      · next hd =>
        split
        · next previous hrec hprev =>
          refine (h.schedulePut t (.inr (hretry previous ?_ hprev))).ack m
          simp [settlesRetry, hr, hd, hrec, hprev]
        · exact h
  · split
    · exact h.ack m
    · exact h

/-- The end of a run that is over. -/
theorem settleStep_adds {k : Worker} {o : JobOutcome}
    (hphase : k.phase = .settling o)
    (hdial : ∀ t, settledDue env s k = some (some t) →
      rebuildable s.db k.job = true → P (.dial k.job))
    (hretry : ∀ due previous, settledDue env s k = some due →
      settlesRetry s.db k.job due = true →
      k.job.previousAttemptId = some previous → P (.retry
        { jobId := some k.job.jobId, attemptId := previous
          contactId := k.job.contactId, campaignId := k.job.campaignId
          attemptNumber := k.job.attemptNumber })) :
    Redis.Adds P Q s.redis (settleStep env s k o).redis := by
  have h : Redis.Adds P Q s.redis s.redis := .refl
  show Redis.Adds P Q s.redis (settleRun env s.redis k.message k.job s.now
    ⟨some o, s.db, [], none⟩).2
  unfold settleRun
  dsimp only [Redis.scheduleRetry]
  split
  · exact h
  · exact settlePaused_adds h
  · next hrun =>
    cases hrun
    split
    · exact h
    · next hclosed =>
      have hdue : ∀ d, settledDue env s k = some d ↔
          ∃ b, closedWindow env s.db k.job s.now = some (b, d) := by
        intro d
        simp [settledDue, hphase]
      refine settleOutsideWindow_adds (fun t ht => ?_) fun previous hs => ?_
      · exact hdial t ((hdue _).mpr ⟨_, ht ▸ hclosed⟩)
      · exact hretry _ previous ((hdue _).mpr ⟨_, hclosed⟩) hs
  · split
    · exact h
    · exact h.ack _

/-- The scan of a campaign queues first attempts of contacts it selects. -/
theorem enqueueScan_adds {campaign : CampaignId} {jobId : ContactId → Nat}
    {budget : Nat} {cs : List ContactId} (h : Redis.Adds P Q s.redis r)
    (hq : ∀ c ∈ cs, Q
      { jobId := jobId c
        campaignId := campaign
        contactId := c
        attemptNumber := 1 }) :
    Redis.Adds P Q s.redis
      (enqueueScan env s.db campaign jobId budget cs r) := by
  induction cs generalizing budget r with
  | nil => cases budget <;> exact h
  | cons c cs ih =>
      have hrest : ∀ c ∈ cs, Q
          { jobId := jobId c
            campaignId := campaign
            contactId := c
            attemptNumber := 1 } :=
        fun k hk => hq k (List.mem_cons_of_mem _ hk)
      cases budget with
      | zero => exact h
      | succ n =>
          have hnext := h.enqueueOnce env.settings.queueMaxBacklog
            (hq c List.mem_cons_self)
          rw [enqueueScan]
          split
          · exact ih h hrest
          · split
            · exact ih h hrest
            · split
              · next heq =>
                rw [heq] at hnext
                exact ih hnext hrest
              · next heq =>
                rw [heq] at hnext
                exact ih hnext hrest
              · next heq =>
                rw [heq] at hnext
                exact hnext

theorem enqueueCandidates_selected {db : Db} {campaign : CampaignId}
    {c : ContactId} (h : c ∈ enqueueCandidates db campaign) :
    ∃ x, db.contact c = some x ∧ enqueueSelects campaign x = true := by
  unfold enqueueCandidates at h
  rw [List.mem_insertionSort] at h
  obtain ⟨e, he, rfl⟩ := List.mem_map.mp h
  obtain ⟨he, hsel⟩ := List.mem_filter.mp he
  exact ⟨e.2, AList.mem_lookup_iff.mpr he, hsel⟩

theorem enqueueCampaign_adds {campaign : CampaignId} {jobId : ContactId → Nat}
    {reads : GateReads} {db' : Db}
    (h : enqueueCampaign env s.db s.redis campaign jobId reads = .ok r) :
    Redis.Adds (NewEntry env s db' (.enqueue campaign jobId reads))
      (NewJob env s (.enqueue campaign jobId reads)) s.redis r := by
  unfold enqueueCampaign at h
  split at h
  · cases h
  · split at h
    · cases h
    · split at h
      · cases h
        refine enqueueScan_adds .refl fun c hc => ?_
        obtain ⟨x, hx, hsel⟩ := enqueueCandidates_selected hc
        exact .enqueued hx hsel
      · cases h
      · cases h

/-- A due retry goes to the stream, stays on the schedule or is dropped. -/
theorem dispatchRetry_adds {job : RecoveryJob} {jobId : Nat}
    (h : Redis.Adds P Q s.redis r)
    (hdue : ∃ t, (ScheduleEntry.retry job, t) ∈ s.redis.schedule)
    (hq : retryVerdict env s.db job s.now = .enqueue → Q
      { jobId, campaignId := job.campaignId, contactId := job.contactId,
        attemptNumber := job.attemptNumber, isRecovery := true,
        previousAttemptId := some job.attemptId }) :
    Redis.Adds P Q s.redis (dispatchRetry env s.db r job jobId s.now).2 := by
  unfold dispatchRetry
  split
  · exact h
  · exact h.scheduleAddMissing _ (.inl hdue)
  · exact h
  · exact h.schedulePut _ (.inl hdue)
  · next hv =>
    have hnext := h.enqueueOnce env.settings.queueMaxBacklog (hq hv)
    dsimp only
    split
    · next heq =>
      rw [heq] at hnext
      exact hnext.schedulePut _ (.inl hdue)
    · next heq =>
      rw [heq] at hnext
      exact hnext
    · next heq =>
      rw [heq] at hnext
      exact hnext

theorem dispatchDial_adds {job : DialJob} (h : Redis.Adds P Q s.redis r)
    (hdue : ∃ t, (ScheduleEntry.dial job, t) ∈ s.redis.schedule)
    (hq : Q job) :
    Redis.Adds P Q s.redis (dispatchDial env s.db r job s.now) := by
  unfold dispatchDial
  split
  · split
    · exact h
    · split
      · exact h
      · split
        · exact h.schedulePut _ (.inl hdue)
        · split
          · exact h
          · split
            · exact h.scheduleAddMissing _ (.inl hdue)
            · exact h.schedulePut _ (.inl hdue)
            · have hnext := h.enqueueOnce env.settings.queueMaxBacklog hq
              split
              · next heq =>
                rw [heq] at hnext
                exact hnext.schedulePut _ (.inl hdue)
              · next heq =>
                rw [heq] at hnext
                exact hnext
  · exact h

theorem rebuildRetrySchedule_adds {db' : Db} :
    Redis.Adds (NewEntry env s db' .rebuild) Q s.redis
      (rebuildRetrySchedule s.db s.redis) := by
  have hall : ∀ x ∈ s.db.contacts.entries.filterMap
      (fun e => rebuildEntry s.db e.1 e.2),
      NewEntry env s db' .rebuild x.1 := by
    intro x hx
    obtain ⟨e, he, hxe⟩ := List.mem_filterMap.mp hx
    exact @NewEntry.rebuilt env s db' e.1 e.2 x.1 x.2
      (AList.mem_lookup_iff.mpr he) hxe
  have hfold : ∀ (xs : List (ScheduleEntry × Instant)) (r : Redis),
      Redis.Adds (NewEntry env s db' .rebuild) Q s.redis r →
      (∀ x ∈ xs, NewEntry env s db' .rebuild x.1) →
      Redis.Adds (NewEntry env s db' .rebuild) Q s.redis
        (xs.foldl (fun r x => r.scheduleAddMissing x.1 x.2) r) := by
    intro xs
    induction xs with
    | nil => exact fun r h _ => h
    | cons x xs ih =>
        intro r h hx
        exact ih _ (h.scheduleAddMissing _ (.inr (hx x List.mem_cons_self)))
          fun y hy => hx y (List.mem_cons_of_mem _ hy)
  exact hfold _ _ .refl hall

/-! ### Workers -/

/-- The retry of a recorded failure is the manager's. -/
theorem recordFailure_entry {db' : Db} {w : WorkerId} {k : Worker}
    {act : WorkerAct} {f : FailureRecord} {job : RecoveryJob} {due : Instant}
    (hk : s.worker w = some k) (hf : recordedFailure env k act = some f)
    (h : (recordTriggerFailure env s.db f.aid f.loaded k.job.contactId
      f.contact f.event f.failure f.txStart s.now).2 = some (job, due)) :
    NewEntry env s db' (.worker w act) (.retry job) := by
  unfold recordTriggerFailure at h
  dsimp only at h
  split at h
  · next y campaign hy hg =>
    rw [(Db.logEvent_frame ..).2.1, Db.attempt_modify_self] at hy
    obtain ⟨a, ha, rfl⟩ := Option.map_eq_some_iff.mp hy
    exact .manager (.failed hk hf ha hg) h
  · cases h

/-- And so is the retry of a failed placement. -/
theorem nativeStep_entry {w : WorkerId} {k : Worker} {view : DialView}
    {reads : GateReads} {native : NativeAnswer} {commits created : Bool}
    {aid : AttemptId} {db : Db} {r : ProviderCallResult} {job : RecoveryJob}
    {due : Instant} (hk : s.worker w = some k) (hp : k.phase = .ready view)
    (he : env.settings.callingEngine = .native)
    (hr : native.result = some r)
    (hc : ClaimSpec env s k view aid created db)
    (h : (placeNative env db native.provider aid k.job.contactId r
      native.conversationStarts k.startedAt s.now).2 = some (job, due)) :
    NewEntry env s (if commits then (placeNative env db native.provider aid
        k.job.contactId r native.conversationStarts k.startedAt s.now).1
      else s.db) (.worker w (.gate reads native commits)) (.retry job) := by
  unfold placeNative at h ⊢
  split at h
  · cases h
  · next hko =>
    rw [if_neg hko]
    dsimp only at h ⊢
    split at h
    · next reason y copy hsaid hy hcopy =>
      split at h
      · cases h
      · next campaign hg =>
        rw [(Db.modifyAttempt_frame ..).1, hc.contact] at hcopy
        obtain ⟨x, hx, rfl⟩ := Option.map_eq_some_iff.mp hcopy
        refine .manager (@Consulted.native env s _ w k view reads native commits
          created r reason x _ (placementDisconnect aid y reason) campaign hk hp
          he hr hko hsaid hx ?_ ?_ rfl ?_ fun hheld => ?_) h
        · exact hc.suppressions
        · exact hc.local_.policies
        · intro hcommits
          rw [if_pos hcommits]
          rfl
        · obtain ⟨y₀, hy₀, hc₀, hn₀⟩ := hc.row hheld
          have hrow := hy
          rw [Db.attempt_modify_self, hy₀] at hy
          cases hy
          exact ⟨hn₀, _, hrow, hc₀, rfl⟩
    · cases h

theorem workerStep_adds {w : WorkerId} {k : Worker} {act : WorkerAct}
    {r : WorkerStep} (hk : s.worker w = some k)
    (h : workerStep env s k act = some r) :
    Redis.Adds (NewEntry env s r.db (.worker w act))
      (NewJob env s (.worker w act)) s.redis r.redis := by
  have hsame : ∀ {db' : Db}, Redis.Adds (NewEntry env s db' (.worker w act))
      (NewJob env s (.worker w act)) s.redis s.redis := .refl
  cases act with
  | early reads =>
      cases hp : k.phase <;> simp [workerStep, hp] at h
      subst h
      unfold earlyStep
      split
      · split
        · exact hsame
        · split <;> exact hsame
      · exact hsame
  | acquire =>
      cases hp : k.phase <;> simp [workerStep, hp] at h
      obtain ⟨_, rfl⟩ := h
      exact hsame
  | check =>
      cases hp : k.phase <;> simp [workerStep, hp] at h
      subst h
      unfold checkStep
      split <;> exact hsame
  | secondLookup result =>
      cases hp : k.phase <;> simp [workerStep, hp] at h
      subst h
      unfold secondLookupStep
      split <;> exact hsame
  | gate reads native commits =>
      cases hp : k.phase <;> simp [workerStep, hp] at h
      subst h
      unfold gateStep
      split
      · exact hsame
      · exact hsame
      · split
        · exact hsame
        · next hclaim =>
          obtain ⟨-, created, hc⟩ := claimAttempt_spec hclaim
          split
          · exact hsame
          · next he =>
            unfold nativeStep
            split
            · exact hsame
            · next r hr =>
              exact hsame.scheduleRetry fun job due hentry =>
                nativeStep_entry hk hp he hr hc hentry
  | notConfigured haltWritable =>
      cases hp : k.phase <;> simp [workerStep, hp] at h
      subst h
      unfold notConfiguredStep
      split
      · exact hsame
      · split <;> exact hsame
  | send =>
      cases hp : k.phase <;> simp [workerStep, hp] at h
      subst h
      unfold sendStep
      split <;> exact hsame
  | answer response streak haltWritable commits =>
      cases hp : k.phase <;> simp [workerStep, hp] at h
      obtain ⟨_, rfl⟩ := h
      next aid prior contact sentAt request _ =>
      unfold answerStep
      split
      · split <;> exact hsame
      · split <;> exact hsame
      · exact hsame
      · next failure hd =>
        exact hsame.scheduleRetry fun job due hentry =>
          recordFailure_entry (f := ⟨aid, none, contact,
            triggerEventType failure, failure, sentAt⟩) hk
            (by simp [recordedFailure, hp, hd]) hentry
  | firstLookup result commits =>
      cases hp : k.phase <;> simp [workerStep, hp] at h
      subst h
      next aid loaded contact event failure otherwise txStart =>
      unfold firstLookupStep
      split
      · split <;> exact hsame
      · next hnone =>
        refine hsame.scheduleRetry fun job due hentry =>
          recordFailure_entry (f := ⟨aid, loaded, contact, event, failure,
            txStart⟩) hk ?_ hentry
        cases result with
        | failed => simp [recordedFailure, hp]
        | runs ids =>
            cases ids with
            | nil => simp [recordedFailure, hp]
            | cons run runs => exact absurd rfl (hnone run runs)
  | settle =>
      cases hp : k.phase <;> simp [workerStep, hp] at h
      · subst h
        exact settleOutsideWindow_adds
          (fun t ht hr => .deferred hk (by rw [settledDue, hp, ht]) hr)
          fun previous hb hprev =>
            .putBack hk (by rw [settledDue, hp]) hb hprev
      · subst h
        exact settleStep_adds hp (fun t ht hr => .deferred hk ht hr)
          fun due previous hd hb hprev => .putBack hk hd hb hprev
  | crash =>
      cases h
      exact hsame

/-- The retry of a service is the manager's. -/
theorem EntryMade.consulted {op : ServiceOp} {commits : Bool} {db' : Db}
    {entry : Option (RecoveryJob × Instant)} {job : RecoveryJob}
    {due : Instant} (h : EntryMade env s.db s.now op entry)
    (he : entry = some (job, due)) :
    NewEntry env s db' (.service op commits) (.retry job) := by
  cases h with
  | none => cases he
  | webhook found state => exact .manager (.webhook found state) he
  | dropped attempt contact campaign =>
      exact .manager (.dropped attempt contact campaign) he

/-- **Every step's entries and jobs.** -/
theorem systemStep_adds {act : SystemAct}
    (h : systemStep env s act = some s') :
    Redis.Adds (NewEntry env s s'.db act) (NewJob env s act) s.redis
      s'.redis := by
  have hsame : Redis.Adds (NewEntry env s s'.db act) (NewJob env s act)
      s.redis s.redis := .refl
  cases act with
  | read w m startedAt =>
      simp only [systemStep] at h
      split at h
      · obtain ⟨job, _, rfl⟩ := Option.map_eq_some_iff.mp h
        exact hsame
      · cases h
  | worker w wact =>
      obtain ⟨k, hk, h⟩ := Option.bind_eq_some_iff.mp h
      obtain ⟨r, hr, rfl⟩ := Option.map_eq_some_iff.mp h
      exact workerStep_adds hk hr
  | service op commits =>
      obtain ⟨r, hr, rfl⟩ := Option.map_eq_some_iff.mp h
      exact hsame.scheduleRetry fun job due he =>
        (serviceStep_effect hr).entry.consulted he
  | enqueue c jobId reads =>
      obtain ⟨redis, hr, rfl⟩ := Option.map_eq_some_iff.mp h
      exact enqueueCampaign_adds (ok_of_toOption hr)
  | dispatch e jobId commits =>
      simp only [systemStep] at h
      split at h
      · next hany =>
        cases h
        obtain ⟨y, hy, hd⟩ := List.any_eq_true.mp hany
        obtain ⟨rfl, -⟩ := of_decide_eq_true hd
        cases hye : y.1 with
        | retry job =>
            have hdue : ∃ t, (ScheduleEntry.retry job, t) ∈ s.redis.schedule :=
              ⟨y.2, hye ▸ hy⟩
            exact dispatchRetry_adds (hye ▸ hsame.scheduleClaim _) hdue
              fun hv => .dispatched hdue hv
        | dial job =>
            have hdue : ∃ t, (ScheduleEntry.dial job, t) ∈ s.redis.schedule :=
              ⟨y.2, hye ▸ hy⟩
            exact dispatchDial_adds (hye ▸ hsame.scheduleClaim _) hdue
              (.redialed hdue)
      · cases h
  | rebuild =>
      cases h
      exact rebuildRetrySchedule_adds
  | flush =>
      cases h
      exact .flush
  | deadLetter m recorded =>
      obtain ⟨job, _, rfl⟩ := Option.map_eq_some_iff.mp h
      exact hsame.ack m
  | expireGuard key =>
      cases h
      exact hsame.deleteGuard key
  | tick d =>
      cases h
      exact hsame

end

end CallingAgent
