import CallingAgent.System.OneTrigger
import CallingAgent.System.Schedule

/-!
# Attempt numbers — the counter behind columns, entries, jobs and rows

The number of a retry travels: from the failed attempt to the contact's
columns and the schedule entry, from the entry to a dial job, from the job
to the new attempt. All four agree in every reachable state: each of them
names the attempt right before the one it is about. Beside that link, a
limit `L` on the numbers can be carried along.
-/

namespace CallingAgent

open Lib

/-! ## The link -/

section

variable (L : Db → ContactId → Nat → Prop) (db : Db) (c : ContactId)

/-- Attempt `n` of a contact is the one after `a`, and within the limit. -/
def Db.Next (a : AttemptId) (n : Nat) : Prop :=
  (∃ m, n = m + 1 ∧ db.RowOf a c m) ∧ L db c n

/-- The two columns of a scheduled retry: both empty, or a link. -/
def Db.RetryColumns (x : Contact) : Prop :=
  (x.retryAttemptId = none ∧ x.retryAttemptNumber = none) ∨
    ∃ a n, x.retryAttemptId = some a ∧ x.retryAttemptNumber = some n ∧
      db.Next L c a n

end

section

variable (L : Db → ContactId → Nat → Prop) (db : Db)

def Db.EntryOk : ScheduleEntry → Prop
  | .retry job => db.Next L job.contactId job.attemptId job.attemptNumber
  | .dial job => job.attemptNumber = 1 ∧ job.isRecovery = false

/-- A first attempt, or a link. -/
def Db.JobOk (job : DialJob) : Prop :=
  (job.attemptNumber = 1 ∧ job.isRecovery = false) ∨
    ∃ a, job.previousAttemptId = some a ∧
      db.Next L job.contactId a job.attemptNumber

/-- What a run holds of its attempt and of its contact. -/
def Phase.Numbered (env : Env) (job : DialJob) : Phase → Prop
  | .secondGate _ view | .ready view =>
      db.RetryColumns L job.contactId view.contact ∧
      ∀ a, view.held = some a → env.settings.callingEngine = .dograh ∧
        db.RowOf a job.contactId job.attemptNumber
  | .claimed a _ => db.RowOf a job.contactId job.attemptNumber
  | .sent a _ contact _ _ | .lookup a _ contact _ _ _ _ =>
      db.RowOf a job.contactId job.attemptNumber ∧
      db.RetryColumns L job.contactId contact
  | _ => True

end

/-- **The numbers agree.** -/
structure NumberInv (L : Db → ContactId → Nat → Prop) (env : Env)
    (s : System) : Prop where
  unique : s.db.UniqueAttempts
  columns : ∀ c x, s.db.contact c = some x → s.db.RetryColumns L c x
  entries : ∀ e ∈ s.redis.schedule, s.db.EntryOk L e.1
  jobs : ∀ m job, AList.lookup m s.redis.stream = some job →
    s.db.JobOk L job
  workers : ∀ w k, s.worker w = some k →
    s.db.JobOk L k.job ∧ k.phase.Numbered L s.db env k.job

/-- Rows are kept, and limits. -/
structure Db.Extends (L : Db → ContactId → Nat → Prop) (db db' : Db) :
    Prop where
  row : ∀ a c n, db.RowOf a c n → db'.RowOf a c n
  limit : ∀ c n, L db c n → L db' c n

section

variable {L : Db → ContactId → Nat → Prop} {db db' : Db} {c : ContactId}

theorem Db.Next.extend {a : AttemptId} {n : Nat} (h : db.Next L c a n)
    (he : db.Extends L db') : db'.Next L c a n := by
  obtain ⟨⟨m, rfl, hrow⟩, hl⟩ := h
  exact ⟨⟨m, rfl, he.row _ _ _ hrow⟩, he.limit _ _ hl⟩

/-- The attempt before determines the number. -/
theorem Db.Next.number {a : AttemptId} {n n' : Nat} (h : db.Next L c a n)
    (h' : db.Next L c a n') : n = n' := by
  obtain ⟨⟨m, rfl, hrow⟩, -⟩ := h
  obtain ⟨⟨m', rfl, hrow'⟩, -⟩ := h'
  rw [(hrow.eq hrow').2]

/-- And the number the attempt. -/
theorem Db.Next.attempt (hu : db.UniqueAttempts) {a a' : AttemptId} {n : Nat}
    (h : db.Next L c a n) (h' : db.Next L c a' n) : a = a' := by
  obtain ⟨⟨m, hm, x, hx, hxc, hxm⟩, -⟩ := h
  obtain ⟨⟨m', hm', y, hy, hyc, hym⟩, -⟩ := h'
  refine hu a a' x y hx hy (hxc.trans hyc.symm) ?_
  omega

theorem Db.RetryColumns.extend {x : Contact} (h : db.RetryColumns L c x)
    (he : db.Extends L db') : db'.RetryColumns L c x := by
  rcases h with hn | ⟨a, n, ha, hn, hnext⟩
  · exact .inl hn
  · exact .inr ⟨a, n, ha, hn, hnext.extend he⟩

theorem Db.RetryColumns.of_eq {x y : Contact} (h : db.RetryColumns L c x)
    (hid : y.retryAttemptId = x.retryAttemptId)
    (hnum : y.retryAttemptNumber = x.retryAttemptNumber) :
    db.RetryColumns L c y := by
  unfold Db.RetryColumns
  rw [hid, hnum]
  exact h

/-- In two copies the columns agree together. -/
theorem Db.RetryColumns.agree (hu : db.UniqueAttempts) {x y : Contact}
    (hx : db.RetryColumns L c x) (hy : db.RetryColumns L c y) :
    x.retryAttemptId = y.retryAttemptId ↔
      x.retryAttemptNumber = y.retryAttemptNumber := by
  rcases hx with ⟨hx, hxn⟩ | ⟨a, n, hx, hxn, hnext⟩ <;>
    rcases hy with ⟨hy, hyn⟩ | ⟨b, m, hy, hyn, hnext'⟩ <;>
    simp only [hx, hy, hxn, hyn, reduceCtorEq]
  constructor
  · intro h
    cases h
    rw [hnext.number hnext']
  · intro h
    cases h
    rw [hnext.attempt hu hnext']

/-- A flush writes both columns or none. -/
theorem Db.RetryColumns.flush (hu : db.UniqueAttempts) {loaded new x : Contact}
    (hl : db.RetryColumns L c loaded) (hn : db.RetryColumns L c new)
    (hx : db.RetryColumns L c x) :
    db.RetryColumns L c (loaded.flush new x) := by
  have hagree := hn.agree hu hl
  by_cases h : new.retryAttemptId = loaded.retryAttemptId
  · refine hx.of_eq ?_ ?_
    · simp [Contact.flush, writeBack, h]
    · simp [Contact.flush, writeBack, hagree.mp h]
  · refine hn.of_eq ?_ ?_
    · simp [Contact.flush, writeBack, h]
    · simp [Contact.flush, writeBack, mt hagree.mpr h]

theorem Db.RetryColumns.cleared {x : Contact} :
    db.RetryColumns L c x.clearSchedule := .inl ⟨rfl, rfl⟩

/-- What the manager leaves of the columns. -/
theorem Db.RetryColumns.answer {env : Env} {q : Consultation} {now : Instant}
    (hx : db.RetryColumns L q.contactId q.contact)
    (hn : (q.answer env now).entry ≠ none →
      db.Next L q.contactId q.disconnect.attemptId
        (q.disconnect.attemptNumber + 1)) :
    db.RetryColumns L q.contactId (q.answer env now).contact := by
  have hshape : (q.answer env now).Shape q.contactId q.contact q.disconnect :=
    handleDisconnect_shape
  rcases hshape.outcome with ⟨h, -⟩ | ⟨h, -⟩ | ⟨due, h, he⟩
  · rw [h]
    exact hx
  · rw [h]
    exact hx.of_eq rfl rfl
  · rw [h]
    exact .inr ⟨_, _, rfl, rfl, hn (by simp [he])⟩

theorem Db.EntryOk.extend {e : ScheduleEntry} (h : db.EntryOk L e)
    (he : db.Extends L db') : db'.EntryOk L e := by
  cases e with
  | retry job => exact Db.Next.extend h he
  | dial job => exact h

theorem Db.JobOk.extend {job : DialJob} (h : db.JobOk L job)
    (he : db.Extends L db') : db'.JobOk L job := by
  rcases h with h | ⟨a, ha, hnext⟩
  · exact .inl h
  · exact .inr ⟨a, ha, hnext.extend he⟩

theorem Phase.Numbered.extend {env : Env} {job : DialJob} {p : Phase}
    (h : p.Numbered L db env job) (he : db.Extends L db') :
    p.Numbered L db' env job := by
  cases p with
  | secondGate previous view =>
      exact ⟨h.1.extend he, fun a ha => ⟨(h.2 a ha).1,
        he.row _ _ _ (h.2 a ha).2⟩⟩
  | ready view =>
      exact ⟨h.1.extend he, fun a ha => ⟨(h.2 a ha).1,
        he.row _ _ _ (h.2 a ha).2⟩⟩
  | claimed a prior => exact he.row _ _ _ h
  | sent a prior contact sentAt request =>
      exact ⟨he.row _ _ _ h.1, h.2.extend he⟩
  | lookup a loaded contact event failure otherwise txStart =>
      exact ⟨he.row _ _ _ h.1, h.2.extend he⟩
  | delivered => trivial
  | cleared => trivial
  | deferring due => trivial
  | admitted => trivial
  | settling o => trivial

end

/-! ## What a step leaves of the rows -/

section

variable {env : Env} {s s' : System} {act : SystemAct}

/-- An attempt keeps its contact and its number. -/
theorem CallChange.kept {a : AttemptId} {y y' : CallAttempt}
    (h : CallChange env s a y act y') :
    y'.contactId = y.contactId ∧ y'.attemptNumber = y.attemptNumber := by
  cases h with
  | same => exact ⟨rfl, rfl⟩
  | service change =>
      cases change with
      | webhook found about row =>
          subst row
          have hkept := @endAttempt_kept _ _ s.now _ _ found
          exact ⟨hkept.contactId, hkept.attemptNumber⟩
      | _ => exact ⟨rfl, rfl⟩
  | worker running change =>
      cases change with
      | same => exact ⟨rfl, rfl⟩
      | reopened phase found state noRun row =>
          rcases row with rfl | ⟨run, -, rfl⟩ <;> exact ⟨rfl, rfl⟩
      | ran record => exact ⟨rfl, rfl⟩
      | resumed phase held engine => exact ⟨rfl, rfl⟩
      | native phase engine answer row =>
          unfold nativeAttempt
          rcases row with rfl | ⟨-, rfl⟩ <;> split <;> exact ⟨rfl, rfl⟩
      | held record about => exact ⟨rfl, rfl⟩
      | failed record about => exact ⟨rfl, rfl⟩

/-- A new attempt is the one of its job. -/
theorem WorkerInsert.key {k : Worker} {wact : WorkerAct} {y : CallAttempt}
    (h : WorkerInsert env s k wact y) :
    y.contactId = k.job.contactId ∧ y.attemptNumber = k.job.attemptNumber := by
  cases h with
  | claimed => exact ⟨rfl, rfl⟩
  | native =>
      unfold nativeAttempt
      split <;> exact ⟨rfl, rfl⟩

theorem SystemEffect.row (h : SystemEffect env s act s') {a : AttemptId}
    {c : ContactId} {n : Nat} (hr : s.db.RowOf a c n) : s'.db.RowOf a c n := by
  obtain ⟨y, hy, rfl, rfl⟩ := hr
  obtain ⟨y', hy', hch⟩ := h.attempt a y hy
  exact ⟨y', hy', hch.kept⟩

/-- A row that is there after a step was there before, or is the job's. -/
theorem SystemEffect.row_cases (h : SystemEffect env s act s') {a : AttemptId}
    {c : ContactId} {n : Nat} (hr : s'.db.RowOf a c n) :
    s.db.RowOf a c n ∨ ∃ w k wact, act = .worker w wact ∧
      s.worker w = some k ∧ c = k.job.contactId ∧ n = k.job.attemptNumber ∧
      s.db.attemptByContactAndNumber c n = none ∧
      a = s.db.attempts.nextKey := by
  obtain ⟨y', hy', rfl, rfl⟩ := hr
  cases hy : s.db.attempt a with
  | some y =>
      obtain ⟨y'', hy'', hch⟩ := h.attempt a y hy
      rw [hy'] at hy''
      cases hy''
      exact .inl ⟨y, hy, hch.kept.1.symm, hch.kept.2.symm⟩
  | none =>
      obtain ⟨w, k, wact, hact, hk, ha, hfree, hins⟩ := h.inserted a y' hy hy'
      refine .inr ⟨w, k, wact, hact, hk, hins.key.1, hins.key.2, ?_, ha⟩
      rw [hins.key.1, hins.key.2]
      exact hfree

theorem SystemEffect.unique (h : SystemEffect env s act s')
    (hu : s.db.UniqueAttempts) : s'.db.UniqueAttempts := by
  intro a b x y hx hy hc hn
  have hnone : ∀ {a c n}, s.db.RowOf a c n →
      s.db.attemptByContactAndNumber c n ≠ none := by
    rintro a _ _ ⟨z, hz, rfl, rfl⟩ hfree
    exact Db.attemptByContactAndNumber_none.mp hfree a z hz rfl rfl
  rcases h.row_cases ⟨x, hx, rfl, rfl⟩ with
    hrow | ⟨_, _, _, _, _, _, _, hfree, ha⟩ <;>
    rcases h.row_cases ⟨y, hy, rfl, rfl⟩ with
      hrow' | ⟨_, _, _, _, _, _, _, hfree', ha'⟩
  · obtain ⟨x₀, hx₀, hxc, hxn⟩ := hrow
    obtain ⟨y₀, hy₀, hyc, hyn⟩ := hrow'
    exact hu a b x₀ y₀ hx₀ hy₀ (by rw [hxc, hyc, hc]) (by rw [hxn, hyn, hn])
  · rw [hc, hn] at hrow
    exact absurd hfree' (hnone hrow)
  · rw [← hc, ← hn] at hrow'
    exact absurd hfree (hnone hrow')
  · rw [ha, ha']

end

/-! ## What the manager is asked about -/

/-- A native placement that scheduled a retry is committed. Its claim is
part of the same transaction: lost, it leaves the entry of a retry of an
attempt that is not there. -/
def keepsPlacement (env : Env) : SystemAct → Bool
  | .worker _ (.gate _ native false) =>
      env.settings.callingEngine != .native || native.result.all fun r =>
        r.outcome == .initiated || r.failureReason.isNone
  | _ => true

section

variable {L : Db → ContactId → Nat → Prop} {env : Env} {s s' : System}
  {act : SystemAct}

/-- A failure is recorded with what its run holds. -/
theorem Phase.Numbered.recorded {db : Db} {k : Worker} {wact : WorkerAct}
    {f : FailureRecord} (h : k.phase.Numbered L db env k.job)
    (hf : recordedFailure env k wact = some f) :
    db.RowOf f.aid k.job.contactId k.job.attemptNumber ∧
      db.RetryColumns L k.job.contactId f.contact := by
  unfold recordedFailure at hf
  split at hf
  · split at hf
    · next hp _ =>
      cases hf
      rw [hp] at h
      exact h
    · cases hf
  · split at hf
    · cases hf
    · next hp _ =>
      cases hf
      rw [hp] at h
      exact h
    · cases hf
  · cases hf

/-- A hold with the copy its run holds, or with the row. -/
theorem NumberInv.held (hi : NumberInv L env s) {w : WorkerId} {k : Worker}
    {wact : WorkerAct} {r : HoldRecord} (hk : s.worker w = some k)
    (hr : recordedHold env s k wact = some r) :
    s.db.RetryColumns L k.job.contactId r.contact := by
  have hp := (hi.workers w k hk).2
  unfold recordedHold at hr
  split at hr
  · split at hr
    · obtain ⟨x, hx, rfl⟩ := Option.map_eq_some_iff.mp hr
      exact hi.columns _ x hx
    · cases hr
  · split at hr
    · next hphase _ =>
      cases hr
      rw [hphase] at hp
      exact hp.2
    · cases hr
  · cases hr

theorem handedContact_columns {db : Db} {c : ContactId} {w : AcceptedWebhook}
    (optedOut : Bool) (h : db.RetryColumns L c w.contact) :
    db.RetryColumns L c (w.handedContact optedOut) := by
  have hopen : db.RetryColumns L c
      (if w.unresolved then reopenContact w.contact else w.contact) := by
    split
    · exact h.of_eq rfl rfl
    · exact h
  unfold AcceptedWebhook.handedContact
  dsimp only
  split
  · exact hopen.of_eq rfl rfl
  · split
    · exact hopen
    · exact hopen.of_eq rfl rfl
    · exact hopen.of_eq rfl rfl

/-- **The manager is asked about the attempt of the contact**, on a copy
whose columns agree. -/
theorem NumberInv.asked (hi : NumberInv L env s) (he : s.db.Extends L s'.db)
    (hkeep : keepsPlacement env act = true) {q : Consultation}
    (hq : Consulted env s s'.db act q) :
    s'.db.RowOf q.disconnect.attemptId q.contactId q.disconnect.attemptNumber ∧
      s'.db.RetryColumns L q.contactId q.contact := by
  cases hq with
  | webhook found state =>
      exact ⟨he.row _ _ _ ⟨_, found.attempt, rfl, rfl⟩,
        handedContact_columns _ ((hi.columns _ _ found.contact).extend he)⟩
  | dropped attempt contact campaign =>
      have hcols := (hi.columns _ _ contact).extend he
      exact ⟨he.row _ _ _ ⟨_, conversationAttempt_some attempt, rfl, rfl⟩,
        hcols.of_eq rfl rfl⟩
  | @failed w k wact f a campaign running record attempt _ =>
      obtain ⟨hrow, hcols⟩ := (hi.workers w k running).2.recorded record
      obtain ⟨y, hy, hyc, hyn⟩ := hrow
      rw [attempt] at hy
      cases hy
      exact ⟨he.row _ _ _ ⟨a, attempt, hyc, rfl⟩, hcols.extend he⟩
  | @native w k view reads native commits created r reason x db d campaign
      running phase engine answer ko said contact suppressions policies never
      committed row =>
      have hp := (hi.workers w k running).2
      rw [phase] at hp
      have hheld : view.held = none := by
        cases hh : view.held with
        | none => rfl
        | some a =>
            have hd := (hp.2 a hh).1
            rw [engine] at hd
            cases hd
      have hcommits : commits = true := by
        cases commits with
        | true => rfl
        | false => simp [keepsPlacement, engine, answer, ko, said] at hkeep
      have hu : s'.db.RowOf d.attemptId k.job.contactId d.attemptNumber := by
        have hrow := (row hheld).2
        unfold Db.RowOf Db.attempt at hrow ⊢
        rw [committed hcommits]
        exact hrow
      exact ⟨hu, ((Db.RetryColumns.flush hi.unique hp.1 (.inl ⟨rfl, rfl⟩)
        (hi.columns _ _ contact)).extend he)⟩

/-! ## One step -/

/-- What a step must grant for the limit to be carried along: it takes no
limit back, and neither a retry the manager decides nor one the rebuild
derives from the attempts goes over it. -/
structure Grants (L : Db → ContactId → Nat → Prop) (env : Env)
    (s s' : System) (act : SystemAct) : Prop where
  limit : ∀ c n, L s.db c n → L s'.db c n
  decided : ∀ q, Consulted env s s'.db act q →
    (q.answer env s.now).entry ≠ none →
    L s'.db q.contactId (q.disconnect.attemptNumber + 1)
  derived : act = .rebuild → ∀ c x due a y, s.db.contact c = some x →
    x.status = .retryScheduled → x.nextRetryAt = some due →
    x.retryAttemptId = none → latestAttempt s.db c = some (a, y) →
    L s'.db c (y.attemptNumber + 1)

theorem Grants.extends (h : Grants L env s s' act)
    (he : SystemEffect env s act s') : s.db.Extends L s'.db :=
  ⟨fun _ _ _ => he.row, h.limit⟩

/-- A retry that the manager decided. -/
theorem NumberInv.decided (hi : NumberInv L env s)
    (he : SystemEffect env s act s') (hg : Grants L env s s' act)
    (hkeep : keepsPlacement env act = true) {q : Consultation}
    (hq : Consulted env s s'.db act q)
    (hentry : (q.answer env s.now).entry ≠ none) :
    s'.db.Next L q.contactId q.disconnect.attemptId
      (q.disconnect.attemptNumber + 1) :=
  ⟨⟨_, rfl, (hi.asked (hg.extends he) hkeep hq).1⟩, hg.decided q hq hentry⟩

/-- The columns after the manager was asked. -/
theorem NumberInv.answered (hi : NumberInv L env s)
    (he : SystemEffect env s act s') (hg : Grants L env s s' act)
    (hkeep : keepsPlacement env act = true) {q : Consultation}
    (hq : Consulted env s s'.db act q) :
    s'.db.RetryColumns L q.contactId (q.answer env s.now).contact :=
  .answer (hi.asked (hg.extends he) hkeep hq).2
    fun hentry => hi.decided he hg hkeep hq hentry

theorem NumberInv.service_columns (hi : NumberInv L env s)
    (he : SystemEffect env s act s') (hg : Grants L env s s' act)
    (hkeep : keepsPlacement env act = true) {c : ContactId} {x x' : Contact}
    {op : ServiceOp} (hact : act = .service op true)
    (hx : s.db.contact c = some x)
    (hch : ContactChange env s.db s.now c x op x') :
    s'.db.RetryColumns L c x' := by
  subst hact
  have hcols := (hi.columns c x hx).extend (hg.extends he)
  cases hch with
  | same => exact hcols
  | webhook found about row =>
      subst about row
      unfold AcceptedWebhook.leftContact
      split
      · exact handedContact_columns _ hcols
      · next hs => exact hi.answered he hg hkeep (.webhook found hs)
  | dropped attempt about campaign =>
      subst about
      exact hi.answered he hg hkeep (.dropped attempt hx campaign)
  | _ => exact hcols.of_eq rfl rfl

theorem NumberInv.worker_columns (hi : NumberInv L env s)
    (he : SystemEffect env s act s') (hg : Grants L env s s' act)
    (hkeep : keepsPlacement env act = true) {w : WorkerId} {k : Worker}
    {wact : WorkerAct} {x x' : Contact} (hact : act = .worker w wact)
    (hk : s.worker w = some k) (hx : s.db.contact k.job.contactId = some x)
    (hch : WorkerContact env s k s'.db x wact x') :
    s'.db.RetryColumns L k.job.contactId x' := by
  subst hact
  have hext := hg.extends he
  have hu : s'.db.UniqueAttempts := he.unique hi.unique
  have hcols := (hi.columns _ x hx).extend hext
  have hphase := (hi.workers w k hk).2.extend hext
  have hflush : ∀ {loaded new : Contact},
      s'.db.RetryColumns L k.job.contactId loaded →
      new.retryAttemptId = loaded.retryAttemptId →
      new.retryAttemptNumber = loaded.retryAttemptNumber →
      s'.db.RetryColumns L k.job.contactId (loaded.flush new x) :=
    fun hl hid hnum => .flush hu hl (hl.of_eq hid hnum) hcols
  have hclaim : ∀ {view : DialView} (created : Bool), k.phase = .ready view →
      s'.db.RetryColumns L k.job.contactId
        (view.contact.flush (claimContact created view.contact) x) := by
    intro view created hp
    rw [hp] at hphase
    exact .flush hu hphase.1 (.inl ⟨rfl, rfl⟩) hcols
  cases hch with
  | same => exact hcols
  | expired phase spent =>
      rw [phase] at hphase
      exact hflush hphase.1 rfl rfl
  | reopened phase found attempt state noRun =>
      rw [phase] at hphase
      exact hflush hphase.1 rfl rfl
  | claimed phase engine => exact hclaim _ phase
  | placed phase engine answer ok => exact (hclaim _ phase).of_eq rfl rfl
  | unplaced phase engine answer ko silent => exact hclaim _ phase
  | nativeRecovery phase engine answer ko said suppressions policies attempts
      never number attempt =>
      refine hi.answered he hg hkeep (.native hk phase engine answer ko said hx
        suppressions policies never (fun _ => attempts) fun hheld => ⟨number hheld, ?_⟩)
      rw [number hheld]
      have hrow := attempt hheld
      unfold Db.RowOf Db.attempt at hrow ⊢
      rw [← attempts]
      exact hrow
  | held record =>
      exact hflush ((hi.held hk record).extend hext) rfl rfl
  | recorded record attempt campaign attempts =>
      have hq := hi.answered he hg hkeep (.failed hk record attempt campaign)
      have hl := ((hi.workers w k hk).2.recorded record).2.extend hext
      exact .flush hu hl hq hcols

theorem NumberInv.step_columns (hi : NumberInv L env s)
    (he : SystemEffect env s act s') (hg : Grants L env s s' act)
    (hkeep : keepsPlacement env act = true) {c : ContactId} {x' : Contact}
    (hx' : s'.db.contact c = some x') : s'.db.RetryColumns L c x' := by
  cases hx : s.db.contact c with
  | none =>
      obtain ⟨campaign, number, rfl, -⟩ := he.created c x' hx hx'
      exact .inl ⟨rfl, rfl⟩
  | some x =>
      obtain ⟨x'', hx'', hch⟩ := he.contact c x hx
      rw [hx'] at hx''
      cases hx''
      have hcols := (hi.columns c x hx).extend (hg.extends he)
      cases hch with
      | same => exact hcols
      | service change => exact hi.service_columns he hg hkeep rfl hx change
      | worker running about change =>
          subst about
          exact hi.worker_columns he hg hkeep rfl running hx change
      | dispatched due about change =>
          cases change with
          | cleared => exact .cleared
          | later => exact hcols.of_eq rfl rfl
          | enqueued => exact hcols.of_eq rfl rfl
      | parked message about waiting => exact .inl ⟨rfl, rfl⟩

theorem latestAttempt_row {db : Db} {c : ContactId} {a : AttemptId}
    {y : CallAttempt} (h : latestAttempt db c = some (a, y)) :
    db.RowOf a c y.attemptNumber := by
  obtain ⟨e, he, heq⟩ := Option.map_eq_some_iff.mp h
  cases heq
  obtain ⟨he, hc⟩ := List.mem_filter.mp (List.argmax_mem he)
  exact ⟨e.2, AList.mem_lookup_iff.mpr he, by simpa using hc, rfl⟩

/-- What the rebuild restores: the columns, or a retry of the latest
attempt. -/
theorem rebuildEntry_cases {db : Db} {c : ContactId} {x : Contact}
    {e : ScheduleEntry} {due : Instant}
    (h : rebuildEntry db c x = some (e, due)) :
    x.status = .retryScheduled ∧ x.nextRetryAt = some due ∧
      ∃ a n, e = .retry (.new a c x.campaignId n) ∧
        (x.retryAttemptId = some a ∧ x.retryAttemptNumber = some n ∨
          (x.retryAttemptId = none ∨ x.retryAttemptNumber = none) ∧
            ∃ y, latestAttempt db c = some (a, y) ∧
              n = y.attemptNumber + 1) := by
  unfold rebuildEntry at h
  split at h
  · next hs hd =>
    obtain ⟨job, hjob, heq⟩ := Option.map_eq_some_iff.mp h
    cases heq
    refine ⟨hs, hd, ?_⟩
    unfold jobFor at hjob
    split at hjob
    · next a n ha hn =>
      cases hjob
      exact ⟨a, n, rfl, .inl ⟨ha, hn⟩⟩
    · next hnone =>
      obtain ⟨⟨a, y⟩, hy, rfl⟩ := Option.map_eq_some_iff.mp hjob
      refine ⟨a, _, rfl, .inr ⟨?_, y, hy, rfl⟩⟩
      cases ha : x.retryAttemptId with
      | none => exact .inl rfl
      | some b =>
          cases hn : x.retryAttemptNumber with
          | none => exact .inr rfl
          | some m => exact absurd hn (hnone b m ha)
  · cases h

theorem NumberInv.new_entry (hi : NumberInv L env s)
    (he : SystemEffect env s act s') (hg : Grants L env s s' act)
    (hkeep : keepsPlacement env act = true) {e : ScheduleEntry}
    (hn : NewEntry env s s'.db act e) : s'.db.EntryOk L e := by
  have hext := hg.extends he
  cases hn with
  | @manager _ q job due asked entry =>
      have hnext := hi.decided he hg hkeep asked (by simp [entry])
      have hshape : (q.answer env s.now).Shape q.contactId q.contact
          q.disconnect := handleDisconnect_shape
      rcases hshape.outcome with ⟨-, h⟩ | ⟨-, h⟩ | ⟨d, -, h⟩
      · rw [h] at entry
        cases entry
      · rw [h] at entry
        cases entry
      · rw [h] at entry
        cases entry
        exact hnext
  | deferred running settled rebuildable_ =>
      unfold rebuildable at rebuildable_
      simp only [Bool.and_eq_true, beq_iff_eq, Bool.not_eq_true'] at rebuildable_
      exact rebuildable_.1
  | putBack running settled branch previous_ =>
      rcases (hi.workers _ _ running).1 with ⟨-, hr⟩ | ⟨a, ha, hnext⟩
      · simp [settlesRetry, hr] at branch
      · rw [previous_] at ha
        cases ha
        exact hnext.extend hext
  | @rebuilt c x e due contact entry =>
      obtain ⟨hs, hd, a, n, rfl, ⟨ha, hn⟩ | ⟨hnone, y, hy, rfl⟩⟩ :=
        rebuildEntry_cases entry
      · rcases hi.columns c x contact with ⟨h, -⟩ | ⟨a', n', ha', hn', hnext⟩
        · rw [h] at ha
          cases ha
        · rw [ha] at ha'
          rw [hn] at hn'
          cases ha'
          cases hn'
          exact hnext.extend hext
      · have hid : x.retryAttemptId = none := by
          rcases hi.columns c x contact with ⟨h, -⟩ | ⟨a', n', ha', hn', -⟩
          · exact h
          · rw [ha', hn'] at hnone
            rcases hnone with h | h <;> cases h
        exact ⟨⟨_, rfl, hext.row _ _ _ (latestAttempt_row hy)⟩,
          hg.derived rfl c x due a y contact hs hd hid hy⟩

theorem NumberInv.new_job (hi : NumberInv L env s)
    (he : SystemEffect env s act s') (hg : Grants L env s s' act)
    {job : DialJob} (hn : NewJob env s act job) : s'.db.JobOk L job := by
  cases hn with
  | enqueued contact selected => exact .inl ⟨rfl, rfl⟩
  | dispatched due verdict =>
      obtain ⟨t, ht⟩ := due
      have hok : s.db.EntryOk L (.retry _) := hi.entries _ ht
      exact .inr ⟨_, rfl, Db.Next.extend hok (hg.extends he)⟩
  | redialed due =>
      obtain ⟨t, ht⟩ := due
      exact .inl (hi.entries _ ht)

theorem dialCheck_orphan_contact {db : Db} {job : DialJob} {now : Instant}
    {aid : AttemptId} {a : CallAttempt} {contact : Contact}
    (h : dialCheck env db job now = .orphan aid a contact) :
    db.contact job.contactId = some contact := by
  have hnot : ∀ campaign view, checkEligible env db job campaign view now
      ≠ .orphan aid a contact := by
    intro campaign view he
    unfold checkEligible checkPrevious at he
    grind
  unfold dialCheck at h
  split at h
  · next hc _ =>
    rw [hc]
    split at h
    · exact absurd h (hnot _ _)
    · split at h
      · exact absurd h (hnot _ _)
      · unfold checkUnresolvedClaim at h
        grind
  · cases h

/-- Held rows are resumed for the provider's engine only. -/
theorem dialCheck_held {db : Db} {job : DialJob} {now : Instant}
    {view : DialView} {a : AttemptId}
    (h : (dialCheck env db job now).view = some view)
    (ha : view.held = some a) : env.settings.callingEngine = .dograh := by
  have hview : ∀ {campaign : Campaign} {v : DialView},
      (checkEligible env db job campaign v now).view = some view →
      view = v := fun h => (checkEligible_view h).1
  unfold dialCheck at h
  split at h
  · split at h
    · cases hview h
      cases ha
    · split at h
      · cases hview h
        cases ha
      · split at h
        · cases h
        · split at h
          · cases hview h
            cases ha
          · next hne =>
            cases he : env.settings.callingEngine with
            | native => exact absurd he hne
            | dograh => rfl
  · cases h

/-- What the checks hand on. -/
theorem NumberInv.checked (hi : NumberInv L env s) {job : DialJob}
    {view : DialView} (hv : (dialCheck env s.db job s.now).view = some view) :
    (Phase.ready view).Numbered L s.db env job := by
  have hp := dialCheck_passed hv
  exact ⟨hi.columns _ _ hp.contact, fun a ha => ⟨dialCheck_held hv ha,
    Db.attemptByContactAndNumber_some (hp.held a ha).1⟩⟩

/-- The claim is on the row of the job. -/
theorem claimAttempt_row {k : Worker} {view : DialView} {aid : AttemptId}
    {prior : Prior} {db' : Db}
    (hheld : ∀ a, view.held = some a →
      s.db.RowOf a k.job.contactId k.job.attemptNumber)
    (hrow : ∀ a c n, s.db.RowOf a c n → db'.RowOf a c n)
    (h : claimAttempt env s.db k.job view k.startedAt s.now
      = .claimed aid prior db') :
    db'.RowOf aid k.job.contactId k.job.attemptNumber := by
  obtain ⟨-, created, hspec⟩ := claimAttempt_spec h
  cases hh : view.held with
  | none => exact hspec.row hh
  | some a =>
      have ha : a = aid := by
        unfold claimAttempt at h
        simp only [hh] at h
        cases h
        rfl
      exact hrow _ _ _ (ha ▸ hheld a hh)

theorem NumberInv.step_worker (hi : NumberInv L env s)
    (h : systemStep env s act = some s') (hg : Grants L env s s' act)
    {w : WorkerId} {k : Worker} (hk : s'.worker w = some k) :
    s'.db.JobOk L k.job ∧ k.phase.Numbered L s'.db env k.job := by
  have he := systemStep_effect h
  have hext := hg.extends he
  rcases systemStep_worker h hk with ⟨hold, -⟩ |
    ⟨m, job, startedAt, rfl, rfl⟩ | ⟨wact, k₀, r, phase, rfl, hk₀, hr, rfl,
      hphase, rfl⟩
  · obtain ⟨hjob, hp⟩ := hi.workers w k hold
    exact ⟨hjob.extend hext, hp.extend hext⟩
  · refine ⟨?_, trivial⟩
    simp only [systemStep] at h
    split at h
    · obtain ⟨job', hm, rfl⟩ := Option.map_eq_some_iff.mp h
      rw [System.worker, System.deliver, Table.lookup_put, if_pos rfl] at hk
      cases hk
      exact (hi.jobs m job hm).extend hext
    · cases h
  · obtain ⟨hjob, hp⟩ := hi.workers w k₀ hk₀
    refine ⟨hjob.extend hext, ?_⟩
    have hnext := workerStep_phase hr hphase
    cases hnext with
    | cleared => trivial
    | deferring => trivial
    | admitted => trivial
    | settling => trivial
    | secondGate check =>
        exact (hi.checked (by rw [check]; rfl)).extend hext
    | ready check => exact (hi.checked (by rw [check]; rfl)).extend hext
    | orphan check =>
        exact ⟨hext.row _ _ _ (dialCheck_orphan check),
          (hi.columns _ _ (dialCheck_orphan_contact check)).extend hext⟩
    | passed phase gate =>
        rw [phase] at hp
        exact Phase.Numbered.extend (p := .ready _) hp hext
    | claimed phase engine claim =>
        rw [phase] at hp
        exact claimAttempt_row (fun a ha => (hp.2 a ha).2) hext.row claim
    | sent phase row =>
        rw [phase] at hp
        exact ⟨hext.row _ _ _ hp, (hi.columns _ _ row).extend hext⟩
    | unsure phase decided =>
        rw [phase] at hp
        exact ⟨hext.row _ _ _ hp.1, hp.2.extend hext⟩

/-- **One step keeps the numbers.** -/
theorem NumberInv.step (hi : NumberInv L env s)
    (h : systemStep env s act = some s') (hg : Grants L env s s' act)
    (hkeep : keepsPlacement env act = true) : NumberInv L env s' := by
  have he := systemStep_effect h
  have hext := hg.extends he
  have hadds := systemStep_adds h
  constructor
  case unique => exact he.unique hi.unique
  case columns => exact fun c x hx => hi.step_columns he hg hkeep hx
  case entries =>
    intro e hm
    rcases hadds.entry e hm with ⟨t, ht⟩ | hnew
    · exact (hi.entries _ ht).extend hext
    · exact hi.new_entry he hg hkeep hnew
  case jobs =>
    intro m job hm
    rcases hadds.job m job hm with hold | hnew
    · exact (hi.jobs m job hold).extend hext
    · exact hi.new_job he hg hnew
  case workers => exact fun w k hk => hi.step_worker h hg hk

end

end CallingAgent
