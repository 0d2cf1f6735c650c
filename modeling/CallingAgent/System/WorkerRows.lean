import CallingAgent.System.ServiceRows
import CallingAgent.System.Triggers

/-!
# Rows of a worker — what each step of a run makes of one row

A worker writes the contact of its job, the attempt it has claimed or
looks up, and, once, a new attempt row. Its sessions work on copies: each
row it leaves is a merge of the copy it had loaded and of what the row
holds by then.
-/

namespace CallingAgent

open Lib

/-! ## What a step is about -/

/-- A trigger failure about to be recorded, with what its session has
loaded. -/
structure FailureRecord where
  aid : AttemptId
  loaded : Option CallAttempt
  contact : Contact
  event : EventType
  failure : TriggerFailure
  txStart : Instant

/-- The failure a step records, if it records one. -/
def recordedFailure (env : Env) (x : Worker) :
    WorkerAct → Option FailureRecord
  | .answer response streak _ _ =>
      match x.phase, decideTrigger env.settings streak response with
      | .sent aid _ contact sentAt _, .fail failure =>
          some ⟨aid, none, contact, triggerEventType failure, failure, sentAt⟩
      | _, _ => none
  | .firstLookup result _ =>
      match x.phase, result with
      | _, .runs (_ :: _) => none
      | .lookup aid loaded contact event failure _ txStart, _ =>
          some ⟨aid, loaded, contact, event, failure, txStart⟩
      | _, _ => none
  | _ => none

/-- A hold about to be recorded. -/
structure HoldRecord where
  aid : AttemptId
  contact : Contact
  prior : Prior
  txStart : Instant

/-- The hold a step records, if it records one. -/
def recordedHold (env : Env) (s : System) (x : Worker) :
    WorkerAct → Option HoldRecord
  | .notConfigured true =>
      match x.phase with
      | .claimed aid prior => (s.db.contact x.job.contactId).map
          fun contact => ⟨aid, contact, prior, s.now⟩
      | _ => none
  | .answer response streak true _ =>
      match x.phase, decideTrigger env.settings streak response with
      | .sent aid prior contact sentAt _, .hold _ =>
          some ⟨aid, contact, prior, sentAt⟩
      | _, _ => none
  | _ => none

/-- The run a step writes to an attempt, with the copy of it the session
had loaded. -/
def recordedRun (env : Env) (x : Worker) :
    WorkerAct → Option (AttemptId × Option CallAttempt × Nat)
  | .answer response streak _ _ =>
      match x.phase, decideTrigger env.settings streak response with
      | .sent aid _ _ _ _, .accept run => some (aid, none, run)
      | _, _ => none
  | .firstLookup result _ =>
      match x.phase, result with
      | .lookup aid loaded _ _ _ _ _, .runs [run] => some (aid, loaded, run)
      | _, _ => none
  | _ => none

/-- What the recovery manager is asked about a failed trigger. -/
def triggerDisconnect (aid : AttemptId) (a : CallAttempt)
    (failure : TriggerFailure) : Disconnect where
  attemptId := aid
  attemptNumber := a.attemptNumber
  neverConnected := true
  reasonKey := failure.reasonKey
  retryAfterSeconds := failure.retryAfterSeconds

/-- The session's database when it is asked. -/
def FailureRecord.rows (f : FailureRecord) (db : Db) (now : Instant) : Db :=
  (db.modifyAttempt f.aid (failAttempt f.loaded now)).logEvent f.aid f.event
    f.txStart

/-- Its answer. -/
def FailureRecord.recovery (f : FailureRecord) (env : Env) (db : Db)
    (c : ContactId) (a : CallAttempt) (campaign : Campaign) (now : Instant) :
    RecoveryEffect :=
  handleDisconnect env (f.rows db now) c f.contact campaign
    (triggerDisconnect f.aid a f.failure) now

/-- The run id, written over whatever the row is by now. -/
def writeRun (loaded : Option CallAttempt) (run : Nat) (a : CallAttempt) :
    CallAttempt :=
  { a with
    provider := writeColumn (loaded.map (·.provider)) (some "dograh") a.provider
    providerCallId := writeColumn (loaded.map (·.providerCallId))
      (some (toString run)) a.providerCallId }

/-- A row the native provider has answered for. -/
def nativeAttempt (n : NativeAnswer) (r : ProviderCallResult) (now : Instant)
    (a : CallAttempt) : CallAttempt :=
  if r.outcome = .initiated then
    { a with provider := some n.provider, providerCallId := r.providerCallId,
             state := .connected }
  else { a with provider := some n.provider, state := .failedToConnect,
                connectionFailureReason := r.failureReason,
                endedAt := some now }

/-! ## Changes -/

/-- What a step of the worker `x` that leaves `db'` makes of the contact of
its job. -/
inductive WorkerContact (env : Env) (s : System) (x : Worker) (db' : Db)
    (row : Contact) : WorkerAct → Contact → Prop
  | same {act : WorkerAct} : WorkerContact env s x db' row act row
  | expired {previous : AttemptId} {view : DialView}
      (phase : x.phase = .secondGate previous view)
      (spent : env.settings.dograhReconcileMaxDeferrals
        ≤ s.db.reconciliationDeferrals.count previous) :
      WorkerContact env s x db' row (.secondLookup .failed)
        (view.contact.flush { view.contact with status := .completedPartial }
          row)
  | reopened {previous : AttemptId} {view : DialView} {ids : List Nat}
      {prev : CallAttempt} (phase : x.phase = .secondGate previous view)
      (found : ids ≠ []) (attempt : s.db.attempt previous = some prev)
      (state : prev.state = .failedToConnect)
      (noRun : prev.providerCallId = none) :
      WorkerContact env s x db' row (.secondLookup (.runs ids))
        (view.contact.flush (reopenContact view.contact) row)
  | claimed {view : DialView} {reads : GateReads} {native : NativeAnswer}
      {commits created : Bool} (phase : x.phase = .ready view)
      (engine : env.settings.callingEngine = .dograh) :
      WorkerContact env s x db' row (.gate reads native commits)
        (view.contact.flush (claimContact created view.contact) row)
  | placed {view : DialView} {reads : GateReads} {native : NativeAnswer}
      {created : Bool} {r : ProviderCallResult}
      (phase : x.phase = .ready view)
      (engine : env.settings.callingEngine = .native)
      (answer : native.result = some r) (ok : r.outcome = .initiated) :
      WorkerContact env s x db' row (.gate reads native true)
        { view.contact.flush (claimContact created view.contact) row with
          status := .inConversation }
  | unplaced {view : DialView} {reads : GateReads} {native : NativeAnswer}
      {created : Bool} {r : ProviderCallResult}
      (phase : x.phase = .ready view)
      (engine : env.settings.callingEngine = .native)
      (answer : native.result = some r) (ko : r.outcome ≠ .initiated)
      (silent : r.failureReason = none ∨ s.db.campaign
        (view.contact.flush (claimContact created view.contact)
          row).campaignId = none ∨ view.held ≠ none) :
      WorkerContact env s x db' row (.gate reads native true)
        (view.contact.flush (claimContact created view.contact) row)
  | nativeRecovery {view : DialView} {reads : GateReads}
      {native : NativeAnswer} {created : Bool} {r : ProviderCallResult}
      {reason : NeverConnectedFailureReason} {db : Db} {campaign : Campaign}
      {d : Disconnect} (phase : x.phase = .ready view)
      (engine : env.settings.callingEngine = .native)
      (answer : native.result = some r) (ko : r.outcome ≠ .initiated)
      (said : r.failureReason = some reason)
      (suppressions : db.suppressions = s.db.suppressions)
      (policies : db.retryPolicies = s.db.retryPolicies)
      (attempts : db'.attempts = db.attempts)
      (never : d.neverConnected = true)
      (number : view.held = none → d.attemptNumber = x.job.attemptNumber)
      (attempt : view.held = none →
        db'.RowOf d.attemptId x.job.contactId x.job.attemptNumber) :
      WorkerContact env s x db' row (.gate reads native true)
        (handleDisconnect env db x.job.contactId
          (view.contact.flush (claimContact created view.contact) row)
          campaign d s.now).contact
  | held {act : WorkerAct} {h : HoldRecord}
      (record : recordedHold env s x act = some h) :
      WorkerContact env s x db' row act
        (h.contact.flush { h.contact with status := h.prior.status,
                                          attemptCount := h.prior.attemptCount }
          row)
  | recorded {act : WorkerAct} {f : FailureRecord} {a : CallAttempt}
      {campaign : Campaign} (record : recordedFailure env x act = some f)
      (attempt : s.db.attempt f.aid = some a)
      (campaign_ : s.db.campaign f.contact.campaignId = some campaign)
      (attempts : db'.attempts = (f.rows s.db s.now).attempts) :
      WorkerContact env s x db' row act
        (f.contact.flush
          (f.recovery env s.db x.job.contactId a campaign s.now).contact row)

/-- What it makes of the row `y` of an attempt. -/
inductive WorkerAttempt (env : Env) (s : System) (x : Worker) (a : AttemptId)
    (y : CallAttempt) : WorkerAct → CallAttempt → Prop
  | same {act : WorkerAct} : WorkerAttempt env s x a y act y
  | reopened {view : DialView} {ids : List Nat} {y' : CallAttempt}
      (phase : x.phase = .secondGate a view) (found : ids ≠ [])
      (state : y.state = .failedToConnect) (noRun : y.providerCallId = none)
      (row : y' = reopenAttempt y ∨ ∃ run, ids = [run] ∧
        y' = writeRun (some (reopenAttempt y)) run (reopenAttempt y)) :
      WorkerAttempt env s x a y (.secondLookup (.runs ids)) y'
  | ran {act : WorkerAct} {loaded : Option CallAttempt} {run : Nat}
      (record : recordedRun env x act = some (a, loaded, run)) :
      WorkerAttempt env s x a y act (writeRun loaded run y)
  | resumed {view : DialView} {reads : GateReads} {native : NativeAnswer}
      {commits : Bool} (phase : x.phase = .ready view)
      (held : view.held = some a)
      (engine : env.settings.callingEngine = .dograh) :
      WorkerAttempt env s x a y (.gate reads native commits)
        (resumeAttempt s.now y)
  | native {view : DialView} {reads : GateReads} {native : NativeAnswer}
      {r : ProviderCallResult} {y₀ : CallAttempt}
      (phase : x.phase = .ready view)
      (engine : env.settings.callingEngine = .native)
      (answer : native.result = some r)
      (row : y₀ = y ∨ view.held = some a ∧ y₀ = resumeAttempt s.now y) :
      WorkerAttempt env s x a y (.gate reads native true)
        (nativeAttempt native r s.now y₀)
  | held {act : WorkerAct} {h : HoldRecord}
      (record : recordedHold env s x act = some h) (about : h.aid = a) :
      WorkerAttempt env s x a y act (failAttempt none s.now y)
  | failed {act : WorkerAct} {f : FailureRecord}
      (record : recordedFailure env x act = some f) (about : f.aid = a) :
      WorkerAttempt env s x a y act (failAttempt f.loaded s.now y)

/-- The row a claim inserts. -/
def claimedRow (x : Worker) : CallAttempt where
  contactId := x.job.contactId
  attemptNumber := x.job.attemptNumber
  state := .initiated
  startedAt := x.startedAt

/-- A row that a step of the worker added. -/
inductive WorkerInsert (env : Env) (s : System) (x : Worker) :
    WorkerAct → CallAttempt → Prop
  | claimed {view : DialView} {reads : GateReads} {native : NativeAnswer}
      {commits : Bool} (phase : x.phase = .ready view) (held : view.held = none)
      (engine : env.settings.callingEngine = .dograh) :
      WorkerInsert env s x (.gate reads native commits) (claimedRow x)
  | native {view : DialView} {reads : GateReads} {native : NativeAnswer}
      {r : ProviderCallResult} (phase : x.phase = .ready view)
      (held : view.held = none)
      (engine : env.settings.callingEngine = .native)
      (answer : native.result = some r) :
      WorkerInsert env s x (.gate reads native true)
        (nativeAttempt native r s.now (claimedRow x))

/-- Everything a step of a worker does to contacts and attempts. -/
structure WorkerEffect (env : Env) (s : System) (x : Worker) (act : WorkerAct)
    (db' : Db) : Prop where
  contact_ne : ∀ c, c ≠ x.job.contactId → db'.contact c = s.db.contact c
  contact : ∀ row, s.db.contact x.job.contactId = some row →
    ∃ row', db'.contact x.job.contactId = some row' ∧
      WorkerContact env s x db' row act row'
  noContact : s.db.contact x.job.contactId = none →
    db'.contact x.job.contactId = none
  attempt : ∀ a y, s.db.attempt a = some y →
    ∃ y', db'.attempt a = some y' ∧ WorkerAttempt env s x a y act y'
  inserted : ∀ a y', s.db.attempt a = none → db'.attempt a = some y' →
    s.db.attemptByContactAndNumber x.job.contactId x.job.attemptNumber = none ∧
      a = s.db.attempts.nextKey ∧ WorkerInsert env s x act y'
  campaigns : db'.campaigns = s.db.campaigns
  policies : db'.retryPolicies = s.db.retryPolicies
  suppressions : db'.suppressions = s.db.suppressions
  deferrals : db'.reconciliationDeferrals = s.db.reconciliationDeferrals ∨
    ∃ previous view, x.phase = .secondGate previous view ∧
      act = .secondLookup .failed ∧
      s.db.reconciliationDeferrals.count previous
        < env.settings.dograhReconcileMaxDeferrals ∧
      db'.reconciliationDeferrals
        = previous :: s.db.reconciliationDeferrals

/-! ## The steps -/

section

variable {env : Env} {s : System} {x : Worker} {act : WorkerAct} {db' : Db}

theorem WorkerEffect.of_eq (hc : ∀ c, db'.contact c = s.db.contact c)
    (ha : ∀ a, db'.attempt a = s.db.attempt a)
    (hg : db'.campaigns = s.db.campaigns)
    (hp : db'.retryPolicies = s.db.retryPolicies)
    (hs : db'.suppressions = s.db.suppressions)
    (hd : db'.reconciliationDeferrals = s.db.reconciliationDeferrals) :
    WorkerEffect env s x act db' where
  contact_ne c _ := hc c
  contact row h := ⟨row, (hc _).trans h, .same⟩
  noContact h := (hc _).trans h
  attempt a y h := ⟨y, (ha a).trans h, .same⟩
  inserted a y' hn hy := by
    rw [ha a, hn] at hy
    cases hy
  campaigns := hg
  policies := hp
  suppressions := hs
  deferrals := .inl hd

theorem WorkerEffect.refl : WorkerEffect env s x act s.db :=
  .of_eq (fun _ => rfl) (fun _ => rfl) rfl rfl rfl rfl

/-- A step that writes the job's contact and one attempt. -/
theorem WorkerEffect.of_local {a : AttemptId}
    (h : Db.Local x.job.contactId a s.db db')
    (hs : db'.suppressions = s.db.suppressions)
    (hc : ∀ row, s.db.contact x.job.contactId = some row →
      ∃ row', db'.contact x.job.contactId = some row' ∧
        WorkerContact env s x db' row act row')
    (hcn : s.db.contact x.job.contactId = none →
      db'.contact x.job.contactId = none)
    (ha : ∀ y, s.db.attempt a = some y →
      ∃ y', db'.attempt a = some y' ∧ WorkerAttempt env s x a y act y')
    (han : ∀ y', s.db.attempt a = none → db'.attempt a = some y' →
      s.db.attemptByContactAndNumber x.job.contactId x.job.attemptNumber
          = none ∧
        a = s.db.attempts.nextKey ∧ WorkerInsert env s x act y') :
    WorkerEffect env s x act db' where
  contact_ne := h.contact
  contact := hc
  noContact := hcn
  attempt k y hy := by
    by_cases hk : k = a
    · subst hk
      exact ha y hy
    · exact ⟨y, (h.attempt k hk).trans hy, .same⟩
  inserted k y' hn hy := by
    by_cases hk : k = a
    · subst hk
      exact han y' hn hy
    · rw [h.attempt k hk, hn] at hy
      cases hy
  campaigns := h.campaigns
  policies := h.policies
  suppressions := hs
  deferrals := .inl h.deferrals

/-- The one row of a rewrite. -/
theorem Db.contact_modify_self {db : Db} {c : ContactId}
    {f : Contact → Contact} :
    (db.modifyContact c f).contact c = (db.contact c).map f := by
  rw [Db.contact_modifyContact, if_pos rfl]

theorem Db.attempt_modify_self {db : Db} {a : AttemptId}
    {f : CallAttempt → CallAttempt} :
    (db.modifyAttempt a f).attempt a = (db.attempt a).map f := by
  rw [Db.attempt_modifyAttempt, if_pos rfl]

/-! ### Recorded failures and holds -/

theorem record_effect {f : FailureRecord} {commits : Bool} {o : JobOutcome}
    (h : recordedFailure env x act = some f) :
    WorkerEffect env s x act (s.record commits (recordTriggerFailure env s.db
      f.aid f.loaded x.job.contactId f.contact f.event f.failure f.txStart
      s.now) o).db := by
  unfold System.record
  cases commits with
  | false => exact .refl
  | true =>
      have hrows : Db.Local x.job.contactId f.aid s.db (f.rows s.db s.now) :=
        ((Db.Local.refl s.db).modifyAttempt _).logEvent _ _ _
      have hattempt : (f.rows s.db s.now).attempt f.aid
          = (s.db.attempt f.aid).map (failAttempt f.loaded s.now) := by
        rw [FailureRecord.rows, (Db.logEvent_frame ..).2.1,
          Db.attempt_modify_self]
      have hfailed : ∀ (db₁ : Db), db₁.attempt f.aid
            = (f.rows s.db s.now).attempt f.aid →
          (∀ y, s.db.attempt f.aid = some y → ∃ y',
            db₁.attempt f.aid = some y' ∧
              WorkerAttempt env s x f.aid y act y') ∧
          ∀ y', s.db.attempt f.aid = none → db₁.attempt f.aid ≠ some y' := by
        intro db₁ h₁
        rw [h₁, hattempt]
        refine ⟨fun y hy => ⟨_, by rw [hy]; rfl, .failed h rfl⟩,
          fun y' hn => by rw [hn]; simp⟩
      show WorkerEffect env s x act (recordTriggerFailure env s.db f.aid
        f.loaded x.job.contactId f.contact f.event f.failure f.txStart
        s.now).1
      unfold recordTriggerFailure
      rw [show (s.db.modifyAttempt f.aid
        (failAttempt f.loaded s.now)).logEvent f.aid f.event f.txStart
          = f.rows s.db s.now from rfl]
      dsimp only
      split
      · next y campaign hy hg =>
        rw [hattempt] at hy
        obtain ⟨a, ha, rfl⟩ := Option.map_eq_some_iff.mp hy
        obtain ⟨hch, hno⟩ := hfailed _ rfl
        refine .of_local ((hrows.modifyContact _).logEvent _ _ _) rfl
          (fun row hrow => ⟨_, ?_, .recorded h ha hg rfl⟩) (fun hn => ?_)
          hch (fun y' hn hy' => absurd hy' (hno y' hn))
        · rw [(Db.logEvent_frame ..).1, Db.contact_modify_self]
          exact congrArg (Option.map _) hrow
        · rw [(Db.logEvent_frame ..).1, Db.contact_modify_self]
          exact congrArg (Option.map _) hn
      · obtain ⟨hch, hno⟩ := hfailed _ rfl
        exact .of_local hrows rfl (fun row hrow => ⟨row, hrow, .same⟩) id hch
          fun y' hn hy' => absurd hy' (hno y' hn)

theorem hold_effect {h : HoldRecord} (hr : recordedHold env s x act = some h) :
    WorkerEffect env s x act (holdForProviderHalt s.db h.aid x.job.contactId
      h.contact h.prior h.txStart s.now) := by
  have hrows : Db.Local x.job.contactId h.aid s.db (((s.db.modifyAttempt h.aid
      (failAttempt none s.now)).logEvent h.aid heldEventType
        h.txStart).modifyContact x.job.contactId
          (h.contact.flush { h.contact with
            status := h.prior.status, attemptCount := h.prior.attemptCount })) :=
    (((Db.Local.refl s.db).modifyAttempt _).logEvent _ _ _).modifyContact _
  have hattempt : (holdForProviderHalt s.db h.aid x.job.contactId h.contact
      h.prior h.txStart s.now).attempt h.aid
      = (s.db.attempt h.aid).map (failAttempt none s.now) :=
    Db.attempt_modify_self
  refine .of_local ⟨hrows.contact, hrows.attempt, rfl, rfl, rfl⟩ rfl
    (fun row hrow => ⟨_, ?_, .held hr⟩) (fun hn => ?_) (fun y hy => ?_)
    fun y' hn hy' => ?_
  · show (Db.modifyContact _ _ _).contact _ = _
    rw [Db.contact_modify_self]
    exact congrArg (Option.map _) hrow
  · show (Db.modifyContact _ _ _).contact _ = _
    rw [Db.contact_modify_self]
    exact congrArg (Option.map _) hn
  · exact ⟨_, by rw [hattempt, hy]; rfl, .held hr rfl⟩
  · rw [hattempt, hn] at hy'
    cases hy'

/-- A run id is written to an attempt. -/
theorem run_effect {a : AttemptId} {loaded : Option CallAttempt} {run : Nat}
    {ty : EventType} {t : Instant}
    (h : recordedRun env x act = some (a, loaded, run)) :
    WorkerEffect env s x act
      ((s.db.modifyAttempt a (writeRun loaded run)).logEvent a ty t) := by
  have hattempt : ((s.db.modifyAttempt a (writeRun loaded run)).logEvent a ty
      t).attempt a = (s.db.attempt a).map (writeRun loaded run) := by
    rw [(Db.logEvent_frame ..).2.1, Db.attempt_modify_self]
  refine .of_local (((Db.Local.refl s.db).modifyAttempt _).logEvent _ _ _) rfl
    (fun row hrow => ⟨row, hrow, .same⟩) id (fun y hy => ?_)
    fun y' hn hy' => ?_
  · exact ⟨_, by rw [hattempt, hy]; rfl, .ran h⟩
  · rw [hattempt, hn] at hy'
    cases hy'

/-- Several runs are only logged. -/
theorem log_effect {a : AttemptId} {ty : EventType} {t : Instant} :
    WorkerEffect env s x act (s.db.logEvent a ty t) :=
  .of_eq (fun _ => rfl) (fun _ => rfl) rfl rfl rfl rfl

/-! ### The second gate -/

/-- The previous attempt is reopened for the runs `ids`, one of which it may
have adopted, and the contact with it. -/
structure Readopted (db : Db) (c : ContactId) (previous : AttemptId)
    (view : DialView) (ids : List Nat) (prev : CallAttempt) (db' : Db) :
    Prop where
  found : ids ≠ []
  attempt : db.attempt previous = some prev
  state : prev.state = .failedToConnect
  noRun : prev.providerCallId = none
  local_ : Db.Local c previous db db'
  suppressions : db'.suppressions = db.suppressions
  contact : db'.contact c = (db.contact c).map
    (view.contact.flush (reopenContact view.contact))
  row : ∃ y, db'.attempt previous = some y ∧ (y = reopenAttempt prev ∨
    ∃ run, ids = [run] ∧
      y = writeRun (some (reopenAttempt prev)) run (reopenAttempt prev))

/-- What the gate concludes: it defers or gives up, leaves everything, or
reopens the previous attempt. -/
theorem secondGate_cases {db : Db} {job : DialJob} {previous : AttemptId}
    {view : DialView} {result : LookupResult} {txStart : Instant}
    {o : JobOutcome} (h : secondGate env db job previous view result txStart
      = .stop o db') :
    result = .failed ∧
        db' = (deferOrExpire env db previous job.contactId view.contact).2 ∨
      db' = db ∨ ∃ ids prev, result = .runs ids ∧
        Readopted db job.contactId previous view ids prev db' := by
  unfold secondGate at h
  split at h
  · cases h
    exact .inl ⟨rfl, rfl⟩
  · next ids =>
    split at h
    · cases h
    · next prev hprev =>
      split at h
      · cases h
        exact .inr (.inl rfl)
      · next hopen =>
        split at h
        · cases h
        · next hids =>
          dsimp only at h
          split at h
          · cases h
          · next hres =>
            cases h
            obtain ⟨hstate, hrun⟩ : prev.state = .failedToConnect ∧
                prev.providerCallId = none := by
              constructor
              · by_contra hne
                exact hopen (.inl hne)
              · by_contra hne
                exact hopen (.inr (.inl (Option.isSome_iff_ne_none.mpr hne)))
            generalize hdb : (db.modifyAttempt previous
              reopenAttempt).modifyContact job.contactId
                (view.contact.flush (reopenContact view.contact)) = reopened
              at hres
            have hlocal : Db.Local job.contactId previous db reopened :=
              hdb ▸ ((Db.Local.refl db).modifyAttempt _).modifyContact _
            have hcontact : reopened.contact job.contactId
                = (db.contact job.contactId).map
                  (view.contact.flush (reopenContact view.contact)) := by
              rw [← hdb, Db.contact_modify_self, (Db.modifyAttempt_frame ..).1]
            have hrow : reopened.attempt previous
                = some (reopenAttempt prev) := by
              rw [← hdb, (Db.modifyContact_frame ..).2.1,
                Db.attempt_modify_self, hprev]
              rfl
            have hsup : reopened.suppressions = db.suppressions := by
              rw [← hdb]
              rfl
            refine .inr (.inr ⟨ids, prev, rfl, ?_⟩)
            unfold resolveFoundRuns at hres
            split at hres
            · next run =>
              obtain ⟨db₁, hadopt, heq⟩ := Option.map_eq_some_iff.mp hres
              cases heq
              unfold adoptRun at hadopt
              split at hadopt
              · cases hadopt
              · cases hadopt
                refine ⟨hids, hprev, hstate, hrun,
                  (hlocal.modifyAttempt _).logEvent _ _ _, hsup, hcontact,
                  _, ?_, .inr ⟨run, rfl, rfl⟩⟩
                rw [(Db.logEvent_frame ..).2.1, Db.attempt_modify_self, hrow]
                rfl
            · cases hres
              exact ⟨hids, hprev, hstate, hrun, hlocal.logEvent _ _ _, hsup,
                hcontact, _, hrow, .inl rfl⟩

theorem secondLookup_effect {previous : AttemptId} {view : DialView}
    {result : LookupResult} (hp : x.phase = .secondGate previous view) :
    WorkerEffect env s x (.secondLookup result)
      (secondLookupStep env s x previous view result).db := by
  unfold secondLookupStep
  split
  case h_2 => exact .refl
  case h_3 => exact .refl
  next o db' hgate =>
  show WorkerEffect env s x (.secondLookup result) db'
  rcases secondGate_cases hgate with ⟨rfl, rfl⟩ | rfl | ⟨ids, prev, rfl, h⟩
  · unfold deferOrExpire
    split
    · next hspent =>
      refine .of_local (a := 0) ((Db.Local.refl s.db).modifyContact _) rfl
        (fun row hrow => ⟨_, ?_, .expired hp hspent⟩) (fun hn => ?_)
        (fun y hy => ⟨y, hy, .same⟩) fun y' hn hy' => ?_
      · rw [Db.contact_modify_self, hrow]
        rfl
      · rw [Db.contact_modify_self, hn]
        rfl
      · rw [(Db.modifyContact_frame ..).2.1, hn] at hy'
        cases hy'
    · next hleft =>
      constructor
      case contact_ne => exact fun _ _ => rfl
      case contact => exact fun row h => ⟨row, h, .same⟩
      case noContact => exact id
      case attempt => exact fun a y h => ⟨y, h, .same⟩
      case inserted =>
        intro a y' hn hy
        have hy : s.db.attempt a = some y' := hy
        rw [hn] at hy
        cases hy
      case campaigns => rfl
      case policies => rfl
      case suppressions => rfl
      case deferrals =>
        exact .inr ⟨previous, view, hp, rfl, not_le.mp hleft, rfl⟩
  · exact .refl
  · refine .of_local h.local_ h.suppressions
      (fun row hc => ⟨_, by rw [h.contact, hc]; rfl,
        .reopened hp h.found h.attempt h.state h.noRun⟩)
      (fun hn => by rw [h.contact, hn]; rfl)
      (fun y hy => ?_) fun y' hn _ => ?_
    · rw [h.attempt] at hy
      cases hy
      obtain ⟨y', hy', hrow⟩ := h.row
      exact ⟨y', hy', .reopened hp h.found h.state h.noRun hrow⟩
    · rw [h.attempt] at hn
      cases hn

/-! ### The claim and the native placement -/

/-- What a claim leaves: the contact claimed, and its attempt resumed, found,
or inserted. -/
structure ClaimSpec (env : Env) (s : System) (x : Worker) (view : DialView)
    (aid : AttemptId) (created : Bool) (db' : Db) : Prop where
  local_ : Db.Local x.job.contactId aid s.db db'
  suppressions : db'.suppressions = s.db.suppressions
  contact : db'.contact x.job.contactId = (s.db.contact x.job.contactId).map
    (view.contact.flush (claimContact created view.contact))
  attempt : ∀ y, s.db.attempt aid = some y → ∃ y₀,
    db'.attempt aid = some y₀ ∧
      (view.held = some aid ∧ y₀ = resumeAttempt s.now y ∨
        y₀ = y ∧ env.settings.callingEngine ≠ .dograh)
  inserted : ∀ y', s.db.attempt aid = none → db'.attempt aid = some y' →
    s.db.attemptByContactAndNumber x.job.contactId x.job.attemptNumber = none ∧
      aid = s.db.attempts.nextKey ∧ view.held = none ∧ y' = claimedRow x
  row : view.held = none → db'.RowOf aid x.job.contactId x.job.attemptNumber
  held : ∀ a, view.held = some a → a = aid
  started : env.settings.callingEngine = .dograh →
    ∀ y', db'.attempt aid = some y' → y'.state = .initiated

theorem claimAttempt_spec {view : DialView} {aid : AttemptId} {prior : Prior}
    (h : claimAttempt env s.db x.job view x.startedAt s.now
      = .claimed aid prior db') :
    prior = ⟨view.contact.status, view.contact.attemptCount⟩ ∧
      ∃ created, ClaimSpec env s x view aid created db' := by
  unfold claimAttempt at h
  dsimp only at h
  split at h
  · next a hheld =>
    cases h
    refine ⟨rfl, true, ?_⟩
    constructor
    case local_ =>
      exact (((Db.Local.refl s.db).modifyAttempt _).logEvent _ _
        _).modifyContact _
    case suppressions => rfl
    case contact => exact Db.contact_modify_self
    case attempt =>
      intro y hy
      refine ⟨resumeAttempt s.now y, ?_, .inl ⟨hheld, rfl⟩⟩
      rw [(Db.modifyContact_frame ..).2.1, (Db.logEvent_frame ..).2.1,
        Db.attempt_modify_self, hy]
      rfl
    case inserted =>
      intro y' hn hy'
      rw [(Db.modifyContact_frame ..).2.1, (Db.logEvent_frame ..).2.1,
        Db.attempt_modify_self, hn] at hy'
      cases hy'
    case row =>
      intro hn
      rw [hheld] at hn
      cases hn
    case held =>
      intro b hb
      rw [hheld] at hb
      exact (Option.some.inj hb).symm
    case started =>
      intro _ y' hy'
      rw [(Db.modifyContact_frame ..).2.1, (Db.logEvent_frame ..).2.1,
        Db.attempt_modify_self] at hy'
      obtain ⟨y, -, rfl⟩ := Option.map_eq_some_iff.mp hy'
      rfl
  · next hheld =>
    split at h
    · next a hfound =>
      split at h
      · cases h
      · next hfree =>
        cases h
        obtain ⟨y₀, hy₀, -⟩ := Db.attemptByContactAndNumber_some hfound
        refine ⟨rfl, false, ?_⟩
        constructor
        case local_ => exact (Db.Local.refl s.db).modifyContact _
        case suppressions => rfl
        case contact => exact Db.contact_modify_self
        case attempt =>
          intro y hy
          refine ⟨y, hy, .inr ⟨rfl, fun hd => hfree ?_⟩⟩
          rw [hd]
          simp
        case inserted =>
          intro y' hn
          rw [hy₀] at hn
          cases hn
        case row => exact fun _ => Db.attemptByContactAndNumber_some hfound
        case held =>
          intro b hb
          rw [hheld] at hb
          cases hb
        case started =>
          intro hd
          refine absurd ?_ hfree
          rw [hd]
          simp
    · next hfree =>
      cases h
      refine ⟨rfl, true, ?_⟩
      have hnew : ((s.db.insertAttempt (claimedRow x)).modifyContact
          x.job.contactId (view.contact.flush (claimContact true
            view.contact))).attempt s.db.attempts.nextKey
          = some (claimedRow x) := by
        rw [(Db.modifyContact_frame ..).2.1, Db.attempt_insertAttempt,
          if_pos rfl]
      constructor
      case local_ =>
        have hinsert : Db.Local x.job.contactId s.db.attempts.nextKey s.db
            (s.db.insertAttempt (claimedRow x)) :=
          ⟨fun _ _ => rfl,
            fun k hk => by rw [Db.attempt_insertAttempt, if_neg hk],
            rfl, rfl, rfl⟩
        exact hinsert.modifyContact _
      case suppressions => rfl
      case contact => exact Db.contact_modify_self
      case attempt =>
        intro y hy
        exact absurd (Table.lt_nextKey hy) (lt_irrefl _)
      case inserted =>
        intro y' _ hy'
        have hy' := hnew.symm.trans hy'
        exact ⟨hfree, rfl, hheld, (Option.some.inj hy').symm⟩
      case row => exact fun _ => ⟨_, hnew, rfl, rfl⟩
      case held =>
        intro b hb
        rw [hheld] at hb
        cases hb
      case started =>
        intro _ y' hy'
        rw [← Option.some.inj (hnew.symm.trans hy')]
        rfl

/-- What the manager is asked about a native placement that failed. -/
def placementDisconnect (aid : AttemptId) (y : CallAttempt)
    (reason : NeverConnectedFailureReason) : Disconnect where
  attemptId := aid
  attemptNumber := y.attemptNumber
  neverConnected := true
  reasonKey := reason.value

/-- The rows a native placement leaves of the claimed ones. -/
structure Placed (env : Env) (db : Db) (aid : AttemptId) (c : ContactId)
    (n : NativeAnswer) (r : ProviderCallResult) (now : Instant) (db' : Db) :
    Prop where
  local_ : Db.Local c aid db db'
  suppressions : db'.suppressions = db.suppressions
  attempt : db'.attempt aid = (db.attempt aid).map (nativeAttempt n r now)
  contact :
    r.outcome = .initiated ∧ db'.contact c = (db.contact c).map
        (fun x => { x with status := .inConversation }) ∨
    r.outcome ≠ .initiated ∧ (
      -- nothing was said, or nothing is known of the attempt or the campaign
      db'.contact c = db.contact c ∧ (∀ x, db.contact c = some x →
        r.failureReason = none ∨ db.attempt aid = none ∨
          db.campaign x.campaignId = none) ∨
      ∃ reason y x campaign, r.failureReason = some reason ∧
        db.attempt aid = some y ∧ db.contact c = some x ∧
        db.campaign x.campaignId = some campaign ∧
        db'.attempts
          = (db.modifyAttempt aid (nativeAttempt n r now)).attempts ∧
        db'.contact c = some (handleDisconnect env
          (db.modifyAttempt aid (nativeAttempt n r now)) c x campaign
          (placementDisconnect aid y reason) now).contact)

theorem placeNative_rows {db : Db} {aid : AttemptId} {c : ContactId}
    {n : NativeAnswer} {r : ProviderCallResult} {starts : Bool}
    {txStart now : Instant} :
    Placed env db aid c n r now
      (placeNative env db n.provider aid c r starts txStart now).1 := by
  unfold placeNative
  split
  · next hok =>
    have hrow : (fun a : CallAttempt =>
        { a with provider := some n.provider,
                 providerCallId := r.providerCallId, state := .connected })
        = nativeAttempt n r now := by
      funext a
      rw [nativeAttempt, if_pos hok]
    rw [hrow]
    dsimp only
    have hlocal : Db.Local c aid db ((db.modifyAttempt aid
        (nativeAttempt n r now)).modifyContact c
          fun x => { x with status := .inConversation }) :=
      ((Db.Local.refl db).modifyAttempt _).modifyContact _
    have hcontact : ((db.modifyAttempt aid
        (nativeAttempt n r now)).modifyContact c
          fun x => { x with status := .inConversation }).contact c
        = (db.contact c).map fun x => { x with status := .inConversation } := by
      rw [Db.contact_modify_self, (Db.modifyAttempt_frame ..).1]
    split
    · exact ⟨hlocal.insertSession _, rfl, Db.attempt_modify_self,
        .inl ⟨hok, hcontact⟩⟩
    · exact ⟨hlocal, rfl, Db.attempt_modify_self, .inl ⟨hok, hcontact⟩⟩
  · next hko =>
    have hrow : (fun a : CallAttempt =>
        { a with provider := some n.provider, state := .failedToConnect,
                 connectionFailureReason := r.failureReason,
                 endedAt := some now })
        = nativeAttempt n r now := by
      funext a
      rw [nativeAttempt, if_neg hko]
    rw [hrow]
    dsimp only
    have hlocal : Db.Local c aid db
        (db.modifyAttempt aid (nativeAttempt n r now)) :=
      (Db.Local.refl db).modifyAttempt _
    have hsilent : (∀ x, db.contact c = some x →
          r.failureReason = none ∨ db.attempt aid = none ∨
            db.campaign x.campaignId = none) →
        Placed env db aid c n r now
          (db.modifyAttempt aid (nativeAttempt n r now)) :=
      fun h => ⟨hlocal, rfl, Db.attempt_modify_self, .inr ⟨hko, .inl ⟨rfl, h⟩⟩⟩
    split
    · next reason attempt x hreason hattempt hx =>
      have hx : db.contact c = some x := hx
      split
      · next hg =>
        refine hsilent fun x' hx' => .inr (.inr ?_)
        rw [hx] at hx'
        cases hx'
        exact hg
      · next campaign hg =>
        rw [Db.attempt_modify_self] at hattempt
        obtain ⟨y, hy, rfl⟩ := Option.map_eq_some_iff.mp hattempt
        have hnumber : (nativeAttempt n r now y).attemptNumber
            = y.attemptNumber := by
          rw [nativeAttempt, if_neg hko]
        rw [hnumber]
        refine ⟨(hlocal.setContact _).logEvent _ _ _, rfl,
          Db.attempt_modify_self, .inr ⟨hko, .inr ⟨reason, y, x, campaign,
            hreason, hy, hx, hg, rfl, ?_⟩⟩⟩
        rw [(Db.logEvent_frame ..).1, Db.contact_setContact, if_pos rfl,
          (Db.modifyAttempt_frame ..).1, hx]
        rfl
    · next hno =>
      refine hsilent fun x hx => ?_
      cases hreason : r.failureReason with
      | none => exact .inl rfl
      | some reason =>
          cases hy : db.attempt aid with
          | none => exact .inr (.inl rfl)
          | some y =>
              exact (hno reason _ x hreason
                (Db.attempt_modify_self.trans (by rw [hy]; rfl)) hx).elim

/-- The native placement on the claimed rows. -/
theorem nativeStep_effect {view : DialView} {reads : GateReads}
    {native : NativeAnswer} {commits created : Bool} {aid : AttemptId}
    {db : Db} (hp : x.phase = .ready view)
    (he : env.settings.callingEngine = .native)
    (h : ClaimSpec env s x view aid created db) :
    WorkerEffect env s x (.gate reads native commits)
      (nativeStep env s x db aid native commits).db := by
  unfold nativeStep
  split
  · exact .refl
  next r hr =>
  unfold System.record
  cases commits with
  | false => exact .refl
  | true =>
      show WorkerEffect env s x (.gate reads native true)
        (placeNative env db native.provider aid x.job.contactId r
          native.conversationStarts x.startedAt s.now).1
      have hplaced : Placed env db aid x.job.contactId native r s.now
          (placeNative env db native.provider aid x.job.contactId r
            native.conversationStarts x.startedAt s.now).1 :=
        placeNative_rows
      generalize (placeNative env db native.provider aid x.job.contactId r
        native.conversationStarts x.startedAt s.now).1 = db' at hplaced ⊢
      have hclaimed : ∀ row, s.db.contact x.job.contactId = some row →
          db.contact x.job.contactId = some (view.contact.flush
            (claimContact created view.contact) row) := by
        intro row hrow
        rw [h.contact, hrow]
        rfl
      have hnone : s.db.contact x.job.contactId = none →
          db.contact x.job.contactId = none := by
        intro hn
        rw [h.contact, hn]
        rfl
      refine .of_local (h.local_.trans hplaced.local_)
        (hplaced.suppressions.trans h.suppressions) (fun row hrow => ?_)
        (fun hn => ?_) (fun y hy => ?_) fun y' hn hy' => ?_
      · rcases hplaced.contact with ⟨hok, hc⟩ | ⟨hko, ⟨hc, hsilent⟩ |
          ⟨reason, y, x', campaign, hreason, hy, hx', hg, hattempts, hc⟩⟩
        · exact ⟨_, by rw [hc, hclaimed row hrow]; rfl,
            @WorkerContact.placed env s x _ row view reads native created r hp he hr
              hok⟩
        · refine ⟨_, hc.trans (hclaimed row hrow),
            @WorkerContact.unplaced env s x _ row view reads native created r hp he hr
              hko ?_⟩
          rcases hsilent _ (hclaimed row hrow) with h₁ | h₁ | h₁
          · exact .inl h₁
          · refine .inr (.inr fun hheld => ?_)
            -- a claim would have made the row
            obtain ⟨y₀, hy₀, -⟩ := h.row hheld
            rw [h₁] at hy₀
            cases hy₀
          · refine .inr (.inl ?_)
            unfold Db.campaign at h₁ ⊢
            rwa [← h.local_.campaigns]
        · rw [hclaimed row hrow] at hx'
          cases hx'
          refine ⟨_, hc, @WorkerContact.nativeRecovery env s x _ row view reads
            native created r reason
            (db.modifyAttempt aid (nativeAttempt native r s.now)) campaign
            (placementDisconnect aid y reason) hp he hr hko hreason h.suppressions h.local_.policies hattempts rfl
            (fun hheld => ?_) fun hheld => ?_⟩
          · obtain ⟨y₀, hy₀, -, hn₀⟩ := h.row hheld
            rw [hy] at hy₀
            cases hy₀
            exact hn₀
          · obtain ⟨y₀, hy₀, hc₀, hn₀⟩ := h.row hheld
            refine ⟨_, hplaced.attempt.trans (by rw [hy₀]; rfl), ?_⟩
            rw [nativeAttempt, if_neg hko]
            exact ⟨hc₀, hn₀⟩
      · rcases hplaced.contact with ⟨-, hc⟩ | ⟨-, ⟨hc, -⟩ |
          ⟨reason, y, x', campaign, -, -, hx', -⟩⟩
        · rw [hc, hnone hn]
          rfl
        · exact hc.trans (hnone hn)
        · rw [hnone hn] at hx'
          cases hx'
      · obtain ⟨y₀, hy₀, hrow⟩ := h.attempt y hy
        refine ⟨_, hplaced.attempt.trans (by rw [hy₀]; rfl),
          .native hp he hr ?_⟩
        rcases hrow with hheld | ⟨rfl, -⟩
        · exact .inr hheld
        · exact .inl rfl
      · rw [hplaced.attempt] at hy'
        obtain ⟨y₀, hy₀, rfl⟩ := Option.map_eq_some_iff.mp hy'
        obtain ⟨hfree, hkey, hheld, rfl⟩ := h.inserted y₀ hn hy₀
        exact ⟨hfree, hkey, .native hp hheld he hr⟩

theorem gate_effect {view : DialView} {reads : GateReads}
    {native : NativeAnswer} {commits : Bool} (hp : x.phase = .ready view) :
    WorkerEffect env s x (.gate reads native commits)
      (gateStep env s x view reads native commits).db := by
  unfold gateStep
  split
  · exact .refl
  · exact .refl
  · split
    · exact .refl
    · next aid prior db hclaim =>
      obtain ⟨-, created, h⟩ := claimAttempt_spec hclaim
      split
      · next he =>
        refine .of_local h.local_ h.suppressions (fun row hrow => ⟨_, ?_,
          @WorkerContact.claimed env s x _ row view reads native commits created hp
            he⟩) (fun hn => ?_)
          (fun y hy => ?_) fun y' hn hy' => ?_
        · rw [h.contact, hrow]
          rfl
        · rw [h.contact, hn]
          rfl
        · obtain ⟨y₀, hy₀, ⟨hheld, rfl⟩ | ⟨rfl, hne⟩⟩ := h.attempt y hy
          · exact ⟨_, hy₀, .resumed hp hheld he⟩
          · exact absurd he hne
        · obtain ⟨hfree, hkey, hheld, rfl⟩ := h.inserted y' hn hy'
          exact ⟨hfree, hkey, .claimed hp hheld he⟩
      · next he => exact nativeStep_effect hp he h

/-! ### Every step -/

/-- **Every step of a worker, row by row.** -/
theorem workerStep_effect {r : WorkerStep}
    (h : workerStep env s x act = some r) :
    WorkerEffect env s x act r.db := by
  cases act with
  | early reads =>
      cases hp : x.phase <;> simp [workerStep, hp] at h
      subst h
      unfold earlyStep
      split
      · split
        · exact .refl
        · split <;> exact .refl
      · exact .refl
  | acquire =>
      cases hp : x.phase <;> simp [workerStep, hp] at h
      obtain ⟨_, rfl⟩ := h
      exact .refl
  | check =>
      cases hp : x.phase <;> simp [workerStep, hp] at h
      subst h
      unfold checkStep
      split <;> exact .refl
  | secondLookup result =>
      cases hp : x.phase <;> simp [workerStep, hp] at h
      subst h
      exact secondLookup_effect hp
  | gate reads native commits =>
      cases hp : x.phase <;> simp [workerStep, hp] at h
      subst h
      exact gate_effect hp
  | notConfigured haltWritable =>
      cases hp : x.phase <;> simp [workerStep, hp] at h
      subst h
      unfold notConfiguredStep
      split
      · exact .refl
      · next aid prior _ contact hc =>
        split
        · next hw =>
          subst hw
          exact hold_effect (h := ⟨aid, contact, prior, s.now⟩)
            (by simp [recordedHold, hp, hc])
        · exact .refl
  | send =>
      cases hp : x.phase <;> simp [workerStep, hp] at h
      subst h
      unfold sendStep
      split <;> exact .refl
  | answer response streak haltWritable commits =>
      cases hp : x.phase <;> simp [workerStep, hp] at h
      obtain ⟨_, rfl⟩ := h
      next aid prior contact sentAt request _ =>
      unfold answerStep
      split
      · next run hd =>
        split
        · next db haccept =>
          unfold acceptTrigger at haccept
          split at haccept
          · cases haccept
          · cases haccept
            exact @run_effect _ _ _ _ _ none run _ _
              (by simp [recordedRun, hp, hd])
        · exact .refl
      · next hd =>
        split
        · next hw =>
          subst hw
          exact hold_effect (h := ⟨aid, contact, prior, sentAt⟩)
            (by simp [recordedHold, hp, hd])
        · exact .refl
      · exact .refl
      · next failure hd =>
        exact record_effect (f := ⟨aid, none, contact,
          triggerEventType failure, failure, sentAt⟩)
          (by simp [recordedFailure, hp, hd])
  | firstLookup result commits =>
      cases hp : x.phase <;> simp [workerStep, hp] at h
      subst h
      next aid loaded contact event failure otherwise txStart =>
      unfold firstLookupStep
      split
      · next run runs =>
        split
        · next o db hres =>
          unfold resolveFoundRuns at hres
          split at hres
          · next run hruns =>
            obtain ⟨db₁, hadopt, heq⟩ := Option.map_eq_some_iff.mp hres
            cases heq
            cases hruns
            unfold adoptRun at hadopt
            split at hadopt
            · cases hadopt
            · cases hadopt
              exact @run_effect _ _ _ _ _ loaded run _ _
                (by simp [recordedRun, hp])
          · cases hres
            exact log_effect
        · exact .refl
      · next hnone =>
        refine record_effect (f := ⟨aid, loaded, contact, event, failure,
          txStart⟩) ?_
        cases result with
        | failed => simp [recordedFailure, hp]
        | runs ids =>
            cases ids with
            | nil => simp [recordedFailure, hp]
            | cons run runs => exact absurd rfl (hnone run runs)
  | settle =>
      cases hp : x.phase <;> simp [workerStep, hp] at h
      · subst h
        exact .refl
      · subst h
        exact .refl
  | crash =>
      cases h
      exact .refl

end

end CallingAgent
