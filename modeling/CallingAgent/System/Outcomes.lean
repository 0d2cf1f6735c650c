import CallingAgent.System.LateOutcome
import CallingAgent.System.Numbers

/-!
# Outcomes — the dialer's recordings and the webhook's

The provider can report a call's outcome before the dialer has read the
answer to its own request. The dialer then records what its request came
to over whatever the row holds by now. Watched beside the system: the
attempts whose final webhook outcome stands, and those of them on which a
recording has changed the attempt, its contact or the retry schedule.
-/

namespace CallingAgent

open Lib

/-! ## Watching outcomes -/

structure Watched where
  system : System
  /-- the attempts whose final webhook outcome stands -/
  finals : List AttemptId := []
  /-- those a recording of the dialer changed afterwards -/
  overwritten : List AttemptId := []

/-- What the webhook decided: the state of the attempt, the status of its
contact, and the contact's retry. -/
def Db.outcomeOf (db : Db) (a : AttemptId) :
    Option (CallAttemptState × Option (ContactStatus × Option Instant ×
      Option AttemptId × Option Nat)) :=
  (db.attempt a).map fun x => (x.state, (db.contact x.contactId).map
    fun c => (c.status, c.nextRetryAt, c.retryAttemptId, c.retryAttemptNumber))

/-- The attempt that gets a final outcome by the action. -/
def finalizedBy (env : Env) (s : System) : SystemAct → Option AttemptId
  | .service (.dograhWebhook p) true =>
      match processDograhWebhook env s.db p s.now with
      | .ok step => if step.outcome.final then env.uuid.parse p.callAttemptId
          else none
      | .error _ => none
  | _ => none

/-- The attempt that the second gate may reopen by the action. -/
def reopenedBy (s : System) : SystemAct → Option AttemptId
  | .worker w (.secondLookup _) => (s.worker w).bind fun x =>
      match x.phase with
      | .secondGate previous _ => some previous
      | _ => none
  | _ => none

/-- The attempt whose trigger comes to something by the action. -/
def settledBy (s : System) : SystemAct → Option AttemptId
  | .worker w (.notConfigured _) | .worker w (.answer ..)
  | .worker w (.firstLookup ..) => (s.worker w).bind fun x =>
      match x.phase with
      | .claimed a _ => some a
      | .sent a _ _ _ _ => some a
      | .lookup a _ _ _ _ _ _ => some a
      | _ => none
  | _ => none

/-- A final outcome stands until the second gate reopens the attempt for a
run it found. -/
def Watched.stands (t : Watched) (act : SystemAct) (s' : System)
    (a : AttemptId) : Bool :=
  !(reopenedBy t.system act == some a
    && (s'.db.attempt a).any (·.state == .initiated))

/-- The dialer's step changed what the webhook had decided. -/
def Watched.overwrites (t : Watched) (_act : SystemAct) (s' : System)
    (a : AttemptId) : Bool :=
  t.finals.contains a
    && (s'.db.outcomeOf a != t.system.db.outcomeOf a
      || s'.redis.schedule != t.system.redis.schedule)

def watchedStep (env : Env) (t : Watched) (act : SystemAct) : Option Watched :=
  (systemStep env t.system act).map fun s' =>
    { system := s'
      finals := (finalizedBy env t.system act).toList
        ++ t.finals.filter (t.stands act s')
      overwritten := (settledBy t.system act).toList.filter
        (t.overwrites act s') ++ t.overwritten }

/-- The action records a failed trigger or a hold. -/
def recordsFailure (env : Env) : WorkerAct → Bool
  | .notConfigured _ => true
  | .answer response streak _ _ =>
      match decideTrigger env.settings streak response with
      | .hold _ | .fail _ => true
      | .accept _ | .reconcile _ => false
  | .firstLookup (.runs (_ :: _)) _ => false
  | .firstLookup _ _ => true
  | _ => false

/-- A failed trigger is recorded only while its attempt is initiated, and a
held row is resumed only while no final outcome stands for it. -/
def recordsInTime (env : Env) (t : Watched) (act : SystemAct) : Bool :=
  (match act with
    | .worker w act => !recordsFailure env act
        || (settledBy t.system (.worker w act)).all fun a =>
          (t.system.db.attempt a).any (·.state == .initiated)
    | _ => true)
  && (match act with
    | .worker w (.gate ..) => (t.system.worker w).all fun x =>
        match x.phase with
        | .ready view => view.held.all fun a => !t.finals.contains a
        | _ => true
    | _ => true)

/-! ## Steps that record no failure -/

section

variable {env : Env} {s s' : System} {act : SystemAct} {db : Db}

/-- The outcome of an attempt reads its state and its contact. -/
theorem outcomeOf_modify {a k : AttemptId} {f : CallAttempt → CallAttempt}
    (hf : ∀ y, (f y).state = y.state ∧ (f y).contactId = y.contactId) :
    (db.modifyAttempt a f).outcomeOf k = db.outcomeOf k := by
  unfold Db.outcomeOf
  rw [Db.attempt_modifyAttempt]
  split
  · cases db.attempt k with
    | none => rfl
    | some y =>
        simp only [Option.map_some, (hf y).1, (hf y).2]
        rfl
  · rfl

/-- A run id is no outcome. -/
theorem outcomeOf_accept {db' : Db} {aid a : AttemptId} {run : Nat}
    {txStart : Instant} (h : acceptTrigger db aid run txStart = some db') :
    db'.outcomeOf a = db.outcomeOf a := by
  unfold acceptTrigger at h
  split at h
  · cases h
  · cases h
    exact outcomeOf_modify fun _ => ⟨rfl, rfl⟩

theorem outcomeOf_resolve {db' : Db} {aid a : AttemptId}
    {loaded : Option CallAttempt} {txStart : Instant} {runs : List Nat}
    {o : JobOutcome}
    (h : resolveFoundRuns db aid loaded txStart runs = some (o, db')) :
    db'.outcomeOf a = db.outcomeOf a := by
  unfold resolveFoundRuns at h
  split at h
  · obtain ⟨db₁, hadopt, heq⟩ := Option.map_eq_some_iff.mp h
    cases heq
    unfold adoptRun at hadopt
    split at hadopt
    · cases hadopt
    · cases hadopt
      exact outcomeOf_modify fun _ => ⟨rfl, rfl⟩
  · cases h
    rfl

/-- A step on a trigger that records no failure leaves outcomes and the
schedule alone. -/
theorem settledBy_quiet {w : WorkerId} {wact : WorkerAct} {a k : AttemptId}
    (h : systemStep env s (.worker w wact) = some s')
    (hset : settledBy s (.worker w wact) = some k)
    (hq : recordsFailure env wact = false) :
    s'.db.outcomeOf a = s.db.outcomeOf a ∧
      s'.redis.schedule = s.redis.schedule := by
  obtain ⟨x, hx, h⟩ := Option.bind_eq_some_iff.mp h
  obtain ⟨r, hr, rfl⟩ := Option.map_eq_some_iff.mp h
  show r.db.outcomeOf a = _ ∧ r.redis.schedule = _
  cases wact with
  | notConfigured haltWritable => cases hq
  | answer response streak haltWritable commits =>
      cases hp : x.phase <;> simp [workerStep, hp] at hr
      obtain ⟨_, rfl⟩ := hr
      unfold answerStep
      split
      · split
        · next haccept => exact ⟨outcomeOf_accept haccept, rfl⟩
        · exact ⟨rfl, rfl⟩
      · next hd => simp [recordsFailure, hd] at hq
      · exact ⟨rfl, rfl⟩
      · next hd => simp [recordsFailure, hd] at hq
  | firstLookup result commits =>
      cases hp : x.phase <;> simp [workerStep, hp] at hr
      subst hr
      unfold firstLookupStep
      split
      · split
        · next hres => exact ⟨outcomeOf_resolve hres, rfl⟩
        · exact ⟨rfl, rfl⟩
      · next hnone =>
        cases result with
        | failed => cases hq
        | runs ids =>
            cases ids with
            | nil => cases hq
            | cons run runs => exact absurd rfl (hnone run runs)
  | _ => cases hset

/-! ## The invariant -/

/-- What has an outcome is not initiated, and no recording has changed it. -/
structure OutcomeInv (t : Watched) : Prop where
  final : ∀ a ∈ t.finals, ∃ y, t.system.db.attempt a = some y ∧
    y.state ≠ .initiated
  kept : t.overwritten = []

/-- Only the second gate and a resumed hold make an attempt initiated
again. -/
theorem CallChange.initiated {a : AttemptId} {y y' : CallAttempt}
    (h : CallChange env s a y act y') (hy : y.state ≠ .initiated)
    (hy' : y'.state = .initiated) :
    (∃ w k result view, act = .worker w (.secondLookup result) ∧
      s.worker w = some k ∧ k.phase = .secondGate a view) ∨
    ∃ w k reads native commits view, act = .worker w (.gate reads native commits)
      ∧ s.worker w = some k ∧ k.phase = .ready view ∧ view.held = some a := by
  cases h with
  | same => exact absurd hy' hy
  | service change =>
      cases change with
      | same => exact absurd hy' hy
      | webhook found about row =>
          have hwf : AcceptedWebhook.outcome _ |>.WellFormed :=
            found.outcome ▸ classifyCallOutcome_wellFormed env _ _
          rw [endAttempt_state hwf] at hy'
          rcases hwf.state with h | h | h <;> rw [h] at hy' <;> cases hy'
      | _ => cases hy'
  | worker running change =>
      cases change with
      | same => exact absurd hy' hy
      | reopened phase => exact .inl ⟨_, _, _, _, rfl, running, phase⟩
      | ran record => exact absurd hy' hy
      | resumed phase held engine =>
          exact .inr ⟨_, _, _, _, _, _, rfl, running, phase, held⟩
      | native phase engine answer row =>
          unfold nativeAttempt at hy'
          split at hy' <;> cases hy'
      | held record about => cases hy'
      | @failed _ f record about =>
          have hy' : writeColumn (f.loaded.map (·.state)) .failedToConnect
            y.state = .initiated := hy'
          rcases writeColumn_or (f.loaded.map (·.state)) .failedToConnect
            y.state with h | ⟨h, -⟩
          · rw [h] at hy'
            cases hy'
          · rw [h] at hy'
            exact absurd hy' hy

/-- A final outcome has a terminal state. -/
theorem finalizedBy_state {a : AttemptId}
    (h : systemStep env s act = some s') (ha : finalizedBy env s act = some a) :
    ∃ y, s'.db.attempt a = some y ∧ y.state ≠ .initiated := by
  unfold finalizedBy at ha
  split at ha
  · next p =>
    obtain ⟨r, hr, rfl⟩ := Option.map_eq_some_iff.mp h
    have hr : (processDograhWebhook env s.db p s.now).toOption.map
      (fun step => (step.db, step.entry)) = some r := hr
    split at ha
    · next step hp =>
      rw [hp] at hr
      cases hr
      split at ha
      · next hfinal =>
        obtain ⟨w, hf, hspec⟩ := processDograhWebhook_final hp hfinal
        have haid : w.aid = a := Option.some.inj (hf.aid.symm.trans ha)
        have hwf : w.outcome.WellFormed :=
          hf.outcome ▸ classifyCallOutcome_wellFormed env _ _
        refine ⟨_, (hspec.attempt a).trans (if_pos haid.symm), ?_⟩
        rw [endAttempt_state hwf]
        rcases hwf.state with h | h | h <;> rw [h] <;> decide
      · cases ha
    · cases ha
  · cases ha

theorem watchedStep_inv {t t' : Watched} {act : SystemAct}
    (hi : OutcomeInv t) (hc : recordsInTime env t act = true)
    (h : watchedStep env t act = some t') : OutcomeInv t' := by
  obtain ⟨s', hs, rfl⟩ := Option.map_eq_some_iff.mp h
  obtain ⟨hrecord, hresume⟩ := Bool.and_eq_true_iff.mp hc
  constructor
  case final =>
    intro a ha
    rcases List.mem_append.mp ha with hnew | hold
    · exact finalizedBy_state hs (Option.mem_toList.mp hnew)
    · obtain ⟨hfinal, hstands⟩ := List.mem_filter.mp hold
      obtain ⟨y, hy, hstate⟩ := hi.final a hfinal
      obtain ⟨y', hy', hch⟩ := (systemStep_effect hs).attempt a y hy
      refine ⟨y', hy', fun hinit => ?_⟩
      rcases hch.initiated hstate hinit with
        ⟨w, k, result, view, rfl, hk, hp⟩ |
        ⟨w, k, reads, native, commits, view, rfl, hk, hp, hheld⟩
      · have hy' : s'.db.attempt a = some y' := hy'
        simp [Watched.stands, reopenedBy, hk, hp, hy', hinit] at hstands
      · simp [hk, hp, hheld] at hresume
        exact hresume hfinal
  case kept =>
    show (settledBy t.system act).toList.filter (t.overwrites act s')
      ++ t.overwritten = []
    rw [hi.kept, List.append_nil, List.filter_eq_nil_iff]
    intro a ha hover
    have ha := Option.mem_toList.mp ha
    obtain ⟨hfinal, hchanged⟩ := Bool.and_eq_true_iff.mp hover
    cases act with
    | worker w wact =>
        cases hq : recordsFailure env wact with
        | true =>
            -- the attempt would have to be initiated still
            obtain ⟨y, hy, hstate⟩ := hi.final a (by simpa using hfinal)
            have ha' : settledBy t.system (.worker w wact) = some a := ha
            simp [hq, ha', hy] at hrecord
            exact hstate hrecord
        | false =>
            obtain ⟨hout, hsched⟩ := settledBy_quiet (a := a) hs ha hq
            simp [hout, hsched] at hchanged
    | _ => cases ha

/-- **A recording never overwrites an outcome, under a condition.** In
every run in which a failed trigger is recorded only while its attempt is
initiated, and a held row is resumed only while no final outcome stands for
it, no step of the dialer's trigger path changes the attempt, the contact
or the retry schedule that a committed outcome has left. -/
theorem run_outcomesKept {t₀ t : Watched} (hf : t₀.finals = [])
    (ho : t₀.overwritten = [])
    (hrun : Run (watchedStep env) (fun t act => recordsInTime env t act = true)
      t₀ t) : t.overwritten = [] := by
  have hstart : OutcomeInv t₀ := by
    refine ⟨fun a ha => ?_, ho⟩
    rw [hf] at ha
    cases ha
  exact (Run.inv (P := OutcomeInv)
    (fun _ _ _ hi hc hst => watchedStep_inv hi hc hst) hrun hstart).kept

end

/-! ## An answer that comes after the outcome -/

/-- The call of the first trigger ends before the trigger has answered. -/
def endedEarly : List SystemAct :=
  ([.enqueue 1 (fun _ => 1) quietGate] : List SystemAct) ++ untilClaimed 1 1 ++
    ([.worker 1 .send,
      .service (.dograhWebhook
        { callAttemptId := attempt0Text, workflowRunId := some (.str "501"),
          callStatus := some "completed" }) true] : List SystemAct)

/-- The answer times out and the run listing fails: a call that ended
normally is marked as failed, and a retry is scheduled for it. -/
theorem lateFailure_overwrites :
    ∃ t t', runActs (watchedStep dograhEnv) ⟨twoActive, [], []⟩ endedEarly
        = some t ∧
      (t.system.db.attempt 0).map (·.state) = some .endedNormally ∧
      runActs (watchedStep dograhEnv) t
        [.worker 1 (.answer (.transport .readTimeout) 0 true true),
          .worker 1 (.firstLookup .failed true)] = some t' ∧
      (t'.system.db.attempt 0).map (·.state) = some .failedToConnect ∧
      (t'.system.db.contact 1).map (·.status) = some .retryScheduled ∧
      t'.overwritten = [0] := by
  have h : (runActs (watchedStep dograhEnv) ⟨twoActive, [], []⟩
      endedEarly).any (fun t =>
        decide ((t.system.db.attempt 0).map (·.state) = some .endedNormally)
        && (runActs (watchedStep dograhEnv) t
          [.worker 1 (.answer (.transport .readTimeout) 0 true true),
            .worker 1 (.firstLookup .failed true)]).any fun t' =>
          decide ((t'.system.db.attempt 0).map (·.state)
              = some .failedToConnect ∧
            (t'.system.db.contact 1).map (·.status) = some .retryScheduled ∧
            t'.overwritten = [0])) = true := by
    decide +kernel
  obtain ⟨t, ht, h⟩ := (Option.any_eq_true _ _).mp h
  obtain ⟨hended, h⟩ := Bool.and_eq_true_iff.mp h
  obtain ⟨t', ht', h⟩ := (Option.any_eq_true _ _).mp h
  exact ⟨t, t', ht, of_decide_eq_true hended, ht', of_decide_eq_true h⟩

/-- An answer that accepts the trigger leaves the outcome as it is. -/
theorem lateAcceptance_keeps :
    ∃ t, runActs (watchedStep dograhEnv) ⟨twoActive, [], []⟩
        (endedEarly ++ [.worker 1 (.answer (.accepted 501) 0 true true)])
        = some t ∧
      t.finals = [0] ∧ t.overwritten = [] := by
  obtain ⟨t, ht, hrun⟩ := Run.of_holdsAlong (watchedStep dograhEnv)
    (recordsInTime dograhEnv) ⟨twoActive, [], []⟩
    (endedEarly ++ ([.worker 1 (.answer (.accepted 501) 0 true true)] :
      List SystemAct))
    (by decide +kernel)
  have hfinals : (runActs (watchedStep dograhEnv) ⟨twoActive, [], []⟩
      (endedEarly ++ ([.worker 1 (.answer (.accepted 501) 0 true true)] :
        List SystemAct))).map
      (·.finals) = some [0] := by
    decide +kernel
  rw [ht] at hfinals
  exact ⟨t, ht, Option.some.inj hfinals, run_outcomesKept rfl rfl hrun⟩

end CallingAgent
