import CallingAgent.System.WorkerRows

/-!
# Rows — one step of the system, row by row

The cases of the services, of the workers, of dispatch and of the dead
letters together: what any step can make of a contact and of an attempt,
and which rows it can add. Every invariant over contacts and attempts is a
case analysis of these.
-/

namespace CallingAgent

open Lib

/-! ## Changes -/

/-- What dispatch makes of the contact of a retry. -/
inductive DispatchContact (env : Env) (s : System) (job : RecoveryJob)
    (x : Contact) : Contact → Prop
  | cleared (verdict : retryVerdict env s.db job s.now = .skip) :
      DispatchContact env s job x x.clearSchedule
  | later {due : Instant}
      (verdict : retryVerdict env s.db job s.now = .later due) :
      DispatchContact env s job x (setNextRetry due x)
  | enqueued {due : Instant}
      (verdict : retryVerdict env s.db job s.now = .enqueue) :
      DispatchContact env s job x (setNextRetry due x)

/-- What a step that leaves `s'` makes of the row `x` of a contact. -/
inductive RowChange (env : Env) (s s' : System) (c : ContactId) (x : Contact) :
    SystemAct → Contact → Prop
  | same {act : SystemAct} : RowChange env s s' c x act x
  | service {op : ServiceOp} {x' : Contact}
      (change : ContactChange env s.db s.now c x op x') :
      RowChange env s s' c x (.service op true) x'
  | worker {w : WorkerId} {k : Worker} {act : WorkerAct} {x' : Contact}
      (running : s.worker w = some k) (about : k.job.contactId = c)
      (change : WorkerContact env s k s'.db x act x') :
      RowChange env s s' c x (.worker w act) x'
  | dispatched {job : RecoveryJob} {jobId : Nat} {x' : Contact}
      (due : ∃ t, (ScheduleEntry.retry job, t) ∈ s.redis.schedule)
      (about : job.contactId = c)
      (change : DispatchContact env s job x x') :
      RowChange env s s' c x (.dispatch (.retry job) jobId true) x'
  | parked {m : MessageId} {job : DialJob}
      (message : AList.lookup m s.redis.stream = some job)
      (about : job.contactId = c)
      (waiting : x.status = .pending ∨ x.status = .retryScheduled) :
      RowChange env s s' c x (.deadLetter m true)
        { x.clearSchedule with status := .needsReview }

/-- What a step makes of the row `y` of an attempt. -/
inductive CallChange (env : Env) (s : System) (a : AttemptId)
    (y : CallAttempt) : SystemAct → CallAttempt → Prop
  | same {act : SystemAct} : CallChange env s a y act y
  | service {op : ServiceOp} {y' : CallAttempt}
      (change : AttemptChange env s.db s.now a y op y') :
      CallChange env s a y (.service op true) y'
  | worker {w : WorkerId} {k : Worker} {act : WorkerAct} {y' : CallAttempt}
      (running : s.worker w = some k)
      (change : WorkerAttempt env s k a y act y') :
      CallChange env s a y (.worker w act) y'

/-- What a step makes of the row of a campaign: only an update rewrites
it. -/
inductive OwnerChange (c : CampaignId) (row : Campaign) :
    SystemAct → Campaign → Prop
  | same {act : SystemAct} : OwnerChange c row act row
  | updated {data : CampaignUpdate} :
      OwnerChange c row (.service (.updateCampaign c data) true)
        (data.applied row)

/-- Everything a step does to contacts and attempts. -/
structure SystemEffect (env : Env) (s : System) (act : SystemAct)
    (s' : System) : Prop where
  contact : ∀ c x, s.db.contact c = some x →
    ∃ x', s'.db.contact c = some x' ∧ RowChange env s s' c x act x'
  created : ∀ c x', s.db.contact c = none → s'.db.contact c = some x' →
    ∃ campaign number, x' =
      { campaignId := campaign, normalizedPhoneNumber := number } ∧
      (s'.db.campaign campaign).isSome = true
  attempt : ∀ a y, s.db.attempt a = some y →
    ∃ y', s'.db.attempt a = some y' ∧ CallChange env s a y act y'
  inserted : ∀ a y', s.db.attempt a = none → s'.db.attempt a = some y' →
    ∃ w k wact, act = .worker w wact ∧ s.worker w = some k ∧
      a = s.db.attempts.nextKey ∧
      s.db.attemptByContactAndNumber k.job.contactId k.job.attemptNumber
        = none ∧
      WorkerInsert env s k wact y'
  campaigns : ∀ c row, s.db.campaign c = some row →
    ∃ row', s'.db.campaign c = some row' ∧ OwnerChange c row act row'
  policies : ∀ c, (s.db.campaign c).isSome = true →
    AList.lookup c s'.db.retryPolicies = AList.lookup c s.db.retryPolicies
  deferrals : s'.db.reconciliationDeferrals = s.db.reconciliationDeferrals ∨
    ∃ w k previous view, act = .worker w (.secondLookup .failed) ∧
      s.worker w = some k ∧ k.phase = .secondGate previous view ∧
      s.db.reconciliationDeferrals.count previous
        < env.settings.dograhReconcileMaxDeferrals ∧
      s'.db.reconciliationDeferrals
        = previous :: s.db.reconciliationDeferrals

section

variable {env : Env} {s s' : System} {act : SystemAct}

theorem SystemEffect.of_db (h : s'.db = s.db) :
    SystemEffect env s act s' := by
  constructor
  case contact => exact fun c x hx => ⟨x, h ▸ hx, .same⟩
  case created =>
    intro c x' hn hx
    rw [h, hn] at hx
    cases hx
  case attempt => exact fun a y hy => ⟨y, h ▸ hy, .same⟩
  case inserted =>
    intro a y' hn hy
    rw [h, hn] at hy
    cases hy
  case campaigns => exact fun c row hc => ⟨row, h ▸ hc, .same⟩
  case policies =>
    intro c _
    rw [h]
  case deferrals =>
    rw [h]
    exact .inl rfl

/-- One contact is rewritten. -/
theorem SystemEffect.of_contact {c : ContactId} {f : Contact → Contact}
    {db : Db} (hdb : s'.db = db)
    (hself : db.contact c = (s.db.contact c).map f)
    (hne : ∀ k, k ≠ c → db.contact k = s.db.contact k)
    (ha : ∀ a, db.attempt a = s.db.attempt a)
    (hg : db.campaigns = s.db.campaigns)
    (hp : db.retryPolicies = s.db.retryPolicies)
    (hd : db.reconciliationDeferrals = s.db.reconciliationDeferrals)
    (h : ∀ x, s.db.contact c = some x → RowChange env s s' c x act (f x)) :
    SystemEffect env s act s' := by
  subst hdb
  constructor
  case contact =>
    intro k x hx
    by_cases hk : k = c
    · subst hk
      exact ⟨f x, by rw [hself, hx]; rfl, h x hx⟩
    · exact ⟨x, (hne k hk).trans hx, .same⟩
  case created =>
    intro k x' hn hx
    by_cases hk : k = c
    · subst hk
      rw [hself, hn] at hx
      cases hx
    · rw [hne k hk, hn] at hx
      cases hx
  case attempt => exact fun a y hy => ⟨y, (ha a).trans hy, .same⟩
  case inserted =>
    intro a y' hn hy
    rw [ha a, hn] at hy
    cases hy
  case campaigns =>
    intro k row hk
    refine ⟨row, ?_, .same⟩
    unfold Db.campaign
    rw [hg]
    exact hk
  case policies =>
    intro k _
    rw [hp]
  case deferrals => exact .inl hd

theorem dispatch_effect {e : ScheduleEntry} {jobId : Nat} {commits : Bool}
    (hdue : ∃ t, (e, t) ∈ s.redis.schedule)
    (hdb : s'.db = if commits then
      (dispatchEntry env s.db s.redis e jobId s.now).1 else s.db) :
    SystemEffect env s (.dispatch e jobId commits) s' := by
  cases commits with
  | false => exact .of_db hdb
  | true =>
      rw [if_pos rfl] at hdb
      cases e with
      | dial job => exact .of_db hdb
      | retry job =>
          have hset : ∀ (due : Instant) (db : Db), s'.db = db →
              db.contact = (s.db.modifyContact job.contactId
                (setNextRetry due)).contact →
              db.attempt = s.db.attempt → db.campaigns = s.db.campaigns →
              db.retryPolicies = s.db.retryPolicies →
              db.reconciliationDeferrals = s.db.reconciliationDeferrals →
              (∀ x, DispatchContact env s job x (setNextRetry due x)) →
              SystemEffect env s (.dispatch (.retry job) jobId true) s' := by
            intro due db hs hc ha hg hp hd hv
            refine .of_contact (c := job.contactId) (f := setNextRetry due) hs
              ?_ (fun k hk => ?_) (fun a => congrFun ha a) hg hp hd
              fun x _ => .dispatched hdue rfl (hv x)
            · rw [hc, Db.contact_modify_self]
            · rw [hc, Db.contact_modifyContact, if_neg hk]
          simp only [dispatchEntry, dispatchRetry] at hdb
          split at hdb
          · exact .of_db hdb
          · exact .of_db hdb
          · next hv =>
            refine .of_contact (c := job.contactId)
              (f := Contact.clearSchedule) hdb ?_ (fun k hk => ?_)
              (fun _ => rfl) rfl rfl rfl
              fun x _ => .dispatched hdue rfl (.cleared hv)
            · rw [(Db.logEvent_frame ..).1, Db.contact_modify_self]
            · rw [(Db.logEvent_frame ..).1, Db.contact_modifyContact,
                if_neg hk]
          · next due hv =>
            exact hset due _ hdb rfl rfl rfl rfl rfl fun x => .later hv
          · next hv =>
            split at hdb
            · exact hset _ _ hdb rfl rfl rfl rfl rfl fun x => .enqueued hv
            · exact hset _ _ hdb rfl rfl rfl rfl rfl fun x => .enqueued hv
            · exact hset _ _ hdb rfl rfl rfl rfl rfl fun x => .enqueued hv

theorem deadLetter_effect {m : MessageId} {job : DialJob} {recorded : Bool}
    (hm : AList.lookup m s.redis.stream = some job)
    (hdb : s'.db = if recorded then recordDeadLetter s.db job else s.db) :
    SystemEffect env s (.deadLetter m recorded) s' := by
  cases recorded with
  | false => exact .of_db hdb
  | true =>
      rw [if_pos rfl] at hdb
      refine .of_contact (c := job.contactId) hdb Db.contact_modify_self
        (fun k hk => ?_) (fun _ => rfl) rfl rfl rfl fun x _ => ?_
      · rw [recordDeadLetter, Db.contact_modifyContact, if_neg hk]
      · dsimp only
        split
        · next hw => exact .parked hm rfl hw
        · exact .same

/-- A campaign stays. -/
theorem SystemEffect.campaign_stays (he : SystemEffect env s act s')
    {c : CampaignId} (h : (s.db.campaign c).isSome = true) :
    (s'.db.campaign c).isSome = true := by
  obtain ⟨row, hrow⟩ := Option.isSome_iff_exists.mp h
  obtain ⟨row', hrow', -⟩ := he.campaigns c row hrow
  rw [hrow']
  rfl

/-- **Every step, row by row.** -/
theorem systemStep_effect (h : systemStep env s act = some s') :
    SystemEffect env s act s' := by
  cases act with
  | read w m startedAt =>
      simp only [systemStep] at h
      split at h
      · obtain ⟨job, _, rfl⟩ := Option.map_eq_some_iff.mp h
        exact .of_db rfl
      · cases h
  | worker w act =>
      obtain ⟨k, hk, h⟩ := Option.bind_eq_some_iff.mp h
      obtain ⟨r, hr, rfl⟩ := Option.map_eq_some_iff.mp h
      have he := workerStep_effect hr
      constructor
      case contact =>
        intro c x hx
        by_cases hc : c = k.job.contactId
        · subst hc
          obtain ⟨x', hx', hch⟩ := he.contact x hx
          exact ⟨x', hx', .worker hk rfl hch⟩
        · exact ⟨x, (he.contact_ne c hc).trans hx, .same⟩
      case created =>
        intro c x' hn hx
        have hx : r.db.contact c = some x' := hx
        by_cases hc : c = k.job.contactId
        · rw [hc] at hn hx
          rw [he.noContact hn] at hx
          cases hx
        · rw [he.contact_ne c hc, hn] at hx
          cases hx
      case attempt =>
        intro a y hy
        obtain ⟨y', hy', hch⟩ := he.attempt a y hy
        exact ⟨y', hy', .worker hk hch⟩
      case inserted =>
        intro a y' hn hy
        obtain ⟨hfree, hkey, hins⟩ := he.inserted a y' hn hy
        exact ⟨w, k, act, rfl, hk, hkey, hfree, hins⟩
      case campaigns =>
        intro c row hc
        refine ⟨row, ?_, .same⟩
        show AList.lookup c r.db.campaigns = _
        rw [he.campaigns]
        exact hc
      case policies =>
        intro c _
        show AList.lookup c r.db.retryPolicies = _
        rw [he.policies]
      case deferrals =>
        rcases he.deferrals with hd | ⟨previous, view, hp, rfl, hlt, hd⟩
        · exact .inl hd
        · exact .inr ⟨w, k, previous, view, rfl, hk, hp, hlt, hd⟩
  | service op commits =>
      obtain ⟨r, hr, rfl⟩ := Option.map_eq_some_iff.mp h
      cases commits with
      | false => exact .of_db rfl
      | true =>
          have he := serviceStep_effect hr
          constructor
          case contact =>
            intro c x hx
            obtain ⟨x', hx', hch⟩ := he.contact c x hx
            exact ⟨x', hx', .service hch⟩
          case created => exact he.created
          case attempt =>
            intro a y hy
            obtain ⟨y', hy', hch⟩ := he.attempt a y hy
            exact ⟨y', hy', .service hch⟩
          case inserted =>
            intro a y' hn hy
            have hy : r.1.attempt a = some y' := hy
            rw [he.noAttempt a hn] at hy
            cases hy
          case campaigns =>
            intro c row hc
            obtain ⟨row', hc', hch⟩ := he.campaigns c row hc
            refine ⟨row', hc', ?_⟩
            cases hch with
            | same => exact .same
            | updated => exact .updated
          case policies => exact he.policies
          case deferrals => exact .inl he.deferrals
  | enqueue c jobId reads =>
      obtain ⟨redis, _, rfl⟩ := Option.map_eq_some_iff.mp h
      exact .of_db rfl
  | dispatch e jobId commits =>
      simp only [systemStep] at h
      split at h
      · next hany =>
        cases h
        obtain ⟨y, hy, hd⟩ := List.any_eq_true.mp hany
        obtain ⟨rfl, -⟩ := of_decide_eq_true hd
        exact dispatch_effect ⟨y.2, hy⟩ rfl
      · cases h
  | rebuild =>
      cases h
      exact .of_db rfl
  | flush =>
      cases h
      exact .of_db rfl
  | deadLetter m recorded =>
      obtain ⟨job, hm, rfl⟩ := Option.map_eq_some_iff.mp h
      exact deadLetter_effect hm rfl
  | expireGuard key =>
      cases h
      exact .of_db rfl
  | tick d =>
      cases h
      exact .of_db rfl

/-! ## Workers -/

/-- A step of one worker leaves the others where they are. -/
theorem systemStep_worker {w : WorkerId} {x : Worker}
    (h : systemStep env s act = some s') (hx : s'.worker w = some x) :
    (s.worker w = some x ∧ ∀ wact, act ≠ .worker w wact) ∨
      (∃ m job startedAt, act = .read w m startedAt ∧
        x = ⟨m, job, startedAt, .delivered⟩) ∨
      ∃ wact k r phase, act = .worker w wact ∧ s.worker w = some k ∧
        workerStep env s k wact = some r ∧ s' = s.advance w k r ∧
        r.phase = some phase ∧ x = { k with phase } := by
  cases act with
  | read v m startedAt =>
      simp only [systemStep] at h
      split at h
      · obtain ⟨job, _, rfl⟩ := Option.map_eq_some_iff.mp h
        rw [System.worker, System.deliver, Table.lookup_put] at hx
        split at hx
        · next hv =>
          cases hx
          exact .inr (.inl ⟨m, job, startedAt, hv ▸ rfl, rfl⟩)
        · exact .inl ⟨hx, fun _ h => (by cases h)⟩
      · cases h
  | worker v wact =>
      obtain ⟨k, hk, h⟩ := Option.bind_eq_some_iff.mp h
      obtain ⟨r, hr, rfl⟩ := Option.map_eq_some_iff.mp h
      rw [System.worker_advance] at hx
      split at hx
      · next hv =>
        subst hv
        obtain ⟨phase, hphase, rfl⟩ := Option.map_eq_some_iff.mp hx
        exact .inr (.inr ⟨wact, k, r, phase, rfl, hk, hr, rfl, hphase, rfl⟩)
      · next hv =>
        refine .inl ⟨hx, fun _ h => ?_⟩
        cases h
        exact hv rfl
  | service op commits =>
      obtain ⟨r, _, rfl⟩ := Option.map_eq_some_iff.mp h
      exact .inl ⟨hx, fun _ h => (by cases h)⟩
  | enqueue c jobId reads =>
      obtain ⟨r, _, rfl⟩ := Option.map_eq_some_iff.mp h
      exact .inl ⟨hx, fun _ h => (by cases h)⟩
  | dispatch e jobId commits =>
      simp only [systemStep] at h
      split at h
      · cases h
        exact .inl ⟨hx, fun _ h => (by cases h)⟩
      · cases h
  | rebuild =>
      cases h
      exact .inl ⟨hx, fun _ h => (by cases h)⟩
  | flush =>
      cases h
      exact .inl ⟨hx, fun _ h => (by cases h)⟩
  | deadLetter m recorded =>
      obtain ⟨job, _, rfl⟩ := Option.map_eq_some_iff.mp h
      exact .inl ⟨hx, fun _ h => (by cases h)⟩
  | expireGuard key =>
      cases h
      exact .inl ⟨hx, fun _ h => (by cases h)⟩
  | tick d =>
      cases h
      exact .inl ⟨hx, fun _ h => (by cases h)⟩

/-- The phase a worker goes on in, with what took it there; `db'` is the
database it leaves. -/
inductive NextPhase (env : Env) (s : System) (k : Worker) (db' : Db) :
    WorkerAct → Phase → Prop
  | cleared {reads : GateReads} : NextPhase env s k db' (.early reads) .cleared
  | deferring {reads : GateReads} {due : Option Instant} :
      NextPhase env s k db' (.early reads) (.deferring due)
  | admitted : NextPhase env s k db' .acquire .admitted
  | settling {act : WorkerAct} {o : JobOutcome} :
      NextPhase env s k db' act (.settling o)
  | secondGate {previous : AttemptId} {view : DialView}
      (check : dialCheck env s.db k.job s.now = .secondGate previous view) :
      NextPhase env s k db' .check (.secondGate previous view)
  | ready {view : DialView}
      (check : dialCheck env s.db k.job s.now = .ready view) :
      NextPhase env s k db' .check (.ready view)
  | orphan {aid : AttemptId} {a : CallAttempt} {contact : Contact}
      (check : dialCheck env s.db k.job s.now = .orphan aid a contact) :
      NextPhase env s k db' .check (.lookup aid (some a) contact
        ambiguousTriggerEvent orphanedClaim .ambiguousRecovery k.startedAt)
  | passed {previous : AttemptId} {view : DialView} {result : LookupResult}
      (phase : k.phase = .secondGate previous view)
      (gate : secondGate env s.db k.job previous view result k.startedAt
        = .pass) :
      NextPhase env s k db' (.secondLookup result) (.ready view)
  | claimed {view : DialView} {reads : GateReads} {native : NativeAnswer}
      {commits : Bool} {aid : AttemptId} {prior : Prior}
      (phase : k.phase = .ready view)
      (engine : env.settings.callingEngine = .dograh)
      (claim : claimAttempt env s.db k.job view k.startedAt s.now
        = .claimed aid prior db') :
      NextPhase env s k db' (.gate reads native commits) (.claimed aid prior)
  | sent {aid : AttemptId} {prior : Prior} {contact : Contact}
      (phase : k.phase = .claimed aid prior)
      (row : s.db.contact k.job.contactId = some contact) :
      NextPhase env s k db' .send
        (.sent aid prior contact s.now s.requests.nextKey)
  | unsure {aid : AttemptId} {prior : Prior} {contact : Contact}
      {sentAt : Instant} {request : RequestId} {response : TriggerResponse}
      {streak : Nat} {haltWritable commits : Bool} {failure : TriggerFailure}
      (phase : k.phase = .sent aid prior contact sentAt request)
      (decided : decideTrigger env.settings streak response
        = .reconcile failure) :
      NextPhase env s k db' (.answer response streak haltWritable commits)
        (.lookup aid (s.db.attempt aid) contact (triggerEventType failure)
          failure .admittedAndDialed sentAt)

/-- **Every next phase.** -/
theorem workerStep_phase {k : Worker} {wact : WorkerAct} {r : WorkerStep}
    {phase : Phase} (h : workerStep env s k wact = some r)
    (hp : r.phase = some phase) : NextPhase env s k r.db wact phase := by
  -- a recorded outcome is settled, if its transaction commits
  have hrecord : ∀ {commits : Bool} {d : Db × Option (RecoveryJob × Instant)}
      {o : JobOutcome}, (s.record commits d o).phase = some phase →
        phase = .settling o := by
    intro commits d o hp
    unfold System.record at hp
    cases commits with
    | true => cases hp; rfl
    | false => cases hp
  cases wact with
  | early reads =>
      cases hk : k.phase <;> simp [workerStep, hk] at h
      subst h
      unfold earlyStep at hp
      split at hp
      · split at hp
        · cases hp; exact .settling
        · split at hp
          · cases hp
          · cases hp; exact .deferring
          · cases hp; exact .cleared
      · cases hp
  | acquire =>
      cases hk : k.phase <;> simp [workerStep, hk] at h
      obtain ⟨_, rfl⟩ := h
      cases hp
      exact .admitted
  | check =>
      cases hk : k.phase <;> simp [workerStep, hk] at h
      subst h
      unfold checkStep at hp
      split at hp
      · cases hp; exact .settling
      · cases hp
      · next hc => cases hp; exact .orphan hc
      · next hc => cases hp; exact .secondGate hc
      · next hc => cases hp; exact .ready hc
  | secondLookup result =>
      cases hk : k.phase <;> simp [workerStep, hk] at h
      subst h
      unfold secondLookupStep at hp
      split at hp
      · cases hp; exact .settling
      · cases hp
      · next hg => cases hp; exact .passed hk hg
  | gate reads native commits =>
      cases hk : k.phase <;> simp [workerStep, hk] at h
      subst h
      unfold gateStep at hp ⊢
      split at hp
      · cases hp
      · cases hp; exact .settling
      · split at hp
        · cases hp; exact .settling
        · next hclaim =>
          split at hp
          · next he =>
            cases hp
            exact .claimed hk he hclaim
          · next he =>
            unfold nativeStep at hp
            split at hp
            · cases hp
            · obtain rfl := hrecord hp
              exact .settling
  | notConfigured haltWritable =>
      cases hk : k.phase <;> simp [workerStep, hk] at h
      subst h
      unfold notConfiguredStep at hp
      split at hp
      · cases hp
      · split at hp
        · cases hp; exact .settling
        · cases hp
  | send =>
      cases hk : k.phase <;> simp [workerStep, hk] at h
      subst h
      unfold sendStep at hp
      split at hp
      · cases hp
      · next hc => cases hp; exact .sent hk hc
  | answer response streak haltWritable commits =>
      cases hk : k.phase <;> simp [workerStep, hk] at h
      obtain ⟨_, rfl⟩ := h
      unfold answerStep at hp
      split at hp
      · split at hp
        · cases hp; exact .settling
        · cases hp
      · split at hp
        · cases hp; exact .settling
        · cases hp
      · next hd => cases hp; exact .unsure hk hd
      · obtain rfl := hrecord hp
        exact .settling
  | firstLookup result commits =>
      cases hk : k.phase <;> simp [workerStep, hk] at h
      subst h
      unfold firstLookupStep at hp
      split at hp
      · split at hp
        · cases hp; exact .settling
        · cases hp
      · obtain rfl := hrecord hp
        exact .settling
  | settle =>
      cases hk : k.phase <;> simp [workerStep, hk] at h
      · subst h; cases hp
      · subst h; cases hp
  | crash =>
      cases h
      cases hp

end

end CallingAgent
