import CallingAgent.System.LateOutcome
import CallingAgent.System.Rows

/-!
# The retry gate — no retry is dialed over an unresolved trigger

A trigger whose response was lost may have placed a call. Before its retry
is dialed the run listing is asked once more. Watched beside the system:
for each worker, whether the checks of its run found the previous attempt
such an unresolved trigger, and what the lookup of that run answered.
-/

namespace CallingAgent

open Lib

/-! ## Watching the gate -/

/-- The previous attempt of a retry, where it is an unresolved ambiguous
trigger. -/
def Db.ambiguousPrevious (db : Db) (job : DialJob) : Option AttemptId :=
  if 1 < job.attemptNumber then
    (db.attemptByContactAndNumber job.contactId
      (job.attemptNumber - 1)).filter fun a =>
        (db.attempt a).any (isUnresolvedAmbiguousTrigger db a)
  else none

/-- What one run has seen of the previous attempt of its job. -/
structure GateRecord where
  /-- the attempt, where the checks found it an unresolved trigger -/
  ambiguous : Option AttemptId
  /-- what the listing answered, and the attempt as it was read again -/
  lookup : Option (LookupResult × Option CallAttempt) := none

/-- There was nothing to reconcile, or the listing answered that there is no
run and the attempt was still failed, without a run id. -/
def GateRecord.cleared (g : GateRecord) : Bool :=
  g.ambiguous.isNone || g.lookup.any fun l =>
    l.1 == .runs [] && l.2.any fun a =>
      a.state == .failedToConnect && a.providerCallId.isNone

structure Gated where
  system : System
  records : Table WorkerId GateRecord := ∅

def Gated.record (t : Gated) (w : WorkerId) : Option GateRecord :=
  AList.lookup w t.records

/-- The records after a step: the checks of a run begin its record, its
lookup completes it. -/
def Gated.watch (t : Gated) : SystemAct → Table WorkerId GateRecord
  | .worker w .check =>
      match t.system.worker w with
      | some x => AList.insert w ⟨t.system.db.ambiguousPrevious x.job, none⟩
          t.records
      | none => t.records
  | .worker w (.secondLookup result) => t.records.modify w fun g =>
      { g with lookup := some (result, g.ambiguous.bind t.system.db.attempt) }
  | _ => t.records

def gatedStep (env : Env) (t : Gated) (act : SystemAct) : Option Gated :=
  (systemStep env t.system act).map fun s' => ⟨s', t.watch act⟩

/-! ## The rule -/

/-- The run of the worker is over, or about to be settled: it sends nothing
any more. -/
def System.over (s : System) (w : WorkerId) : Prop :=
  ∀ x, s.worker w = some x → ∃ o, x.phase = .settling o

/-- **The retry gate.** -/
structure RetryGate (env : Env) (t : Gated) (act : SystemAct) (s' : System) :
    Prop where
  /-- a trigger leaves only in a run that has cleared the attempt before -/
  triggered : ∀ w, act = .worker w .send →
    ∃ g, t.record w = some g ∧ g.cleared = true
  /-- a failed lookup dials nothing: it is deferred, or, once the deferrals
  are spent, the retry is abandoned -/
  failed : ∀ w x previous view, act = .worker w (.secondLookup .failed) →
    t.system.worker w = some x → x.phase = .secondGate previous view →
    s'.requests = t.system.requests ∧ s'.over w ∧
      if t.system.db.reconciliationDeferrals.count previous
          < env.settings.dograhReconcileMaxDeferrals then
        s'.db.reconciliationDeferrals
          = previous :: t.system.db.reconciliationDeferrals
      else ∀ c, s'.db.contact x.job.contactId = some c →
        c.status = .completedPartial
  /-- one run dials nothing: it is adopted, or the attempt was resolved in
  between -/
  one : ∀ w x previous view run prev,
    act = .worker w (.secondLookup (.runs [run])) →
    t.system.worker w = some x → x.phase = .secondGate previous view →
    t.system.db.attempt previous = some prev →
    s'.requests = t.system.requests ∧ s'.over w ∧
      (prev.state = .failedToConnect → prev.providerCallId = none →
        t.system.db.attemptByContactAndNumber x.job.contactId
          x.job.attemptNumber = none →
        runOwnedByOther t.system.db previous (toString run) = false →
        ∃ a, s'.db.attempt previous = some a ∧ a.state = .initiated ∧
          a.providerCallId = some (toString run)) ∧
      ((prev.state ≠ .failedToConnect ∨ prev.providerCallId.isSome = true) →
        s'.db = t.system.db)
  /-- several runs dial nothing, and none of them is adopted -/
  several : ∀ w x previous view ids, act = .worker w (.secondLookup (.runs ids)) →
    t.system.worker w = some x → x.phase = .secondGate previous view →
    2 ≤ ids.length →
    s'.requests = t.system.requests ∧ s'.over w ∧
      ∀ a y, t.system.db.attempt a = some y →
        ∃ y', s'.db.attempt a = some y' ∧
          y'.providerCallId = y.providerCallId
  /-- no attempt is deferred more often than allowed -/
  bounded : ∀ a, s'.db.reconciliationDeferrals.count a
    ≤ env.settings.dograhReconcileMaxDeferrals

/-! ## The invariant -/

/-- What a run relies on of its record. -/
def Phase.Gated (g : Option GateRecord) : Phase → Prop
  | .secondGate previous view =>
      g = some ⟨some previous, none⟩ ∧ view.contact.status.dialable = true
  | .ready _ | .claimed _ _ => ∃ r, g = some r ∧ r.cleared = true
  | _ => True

structure GatedInv (env : Env) (t : Gated) : Prop where
  phases : ∀ w x, t.system.worker w = some x → x.phase.Gated (t.record w)
  bounded : ∀ a, t.system.db.reconciliationDeferrals.count a
    ≤ env.settings.dograhReconcileMaxDeferrals

/-! ## What the checks find -/

section

variable {env : Env} {db : Db} {job : DialJob} {now : Instant}

theorem ambiguousPrevious_some {previous : AttemptId} {prev : CallAttempt}
    (hn : 1 < job.attemptNumber)
    (hfind : db.attemptByContactAndNumber job.contactId (job.attemptNumber - 1)
      = some previous)
    (hrow : db.attempt previous = some prev) :
    db.ambiguousPrevious job =
      if isUnresolvedAmbiguousTrigger db previous prev then some previous
      else none := by
  unfold Db.ambiguousPrevious
  rw [if_pos hn, hfind]
  simp [Option.filter, hrow]

/-- The gate is asked exactly about an unresolved previous attempt. -/
theorem checkPrevious_ambiguous {view : DialView}
    (hn : 1 < job.attemptNumber) :
    (∀ previous view', checkPrevious db job view = .secondGate previous view' →
      db.ambiguousPrevious job = some previous ∧ view' = view) ∧
    (∀ view', checkPrevious db job view = .ready view' →
      db.ambiguousPrevious job = none) := by
  unfold checkPrevious
  cases hfind : db.attemptByContactAndNumber job.contactId
      (job.attemptNumber - 1) with
  | none =>
      refine ⟨fun _ _ h => (by cases h), fun _ _ => ?_⟩
      simp [Db.ambiguousPrevious, hn, hfind]
  | some previous =>
      obtain ⟨prev, hrow, -⟩ := Db.attemptByContactAndNumber_some hfind
      have hamb := ambiguousPrevious_some hn hfind hrow
      simp only [hrow]
      by_cases hi : prev.state = .initiated
      · rw [if_pos hi]
        exact ⟨fun _ _ h => (by cases h), fun _ h => (by cases h)⟩
      · rw [if_neg hi]
        cases hu : isUnresolvedAmbiguousTrigger db previous prev with
        | false =>
            rw [hu] at hamb
            rw [if_pos (by simp)]
            exact ⟨fun _ _ h => (by cases h), fun _ _ => hamb⟩
        | true =>
            rw [hu] at hamb
            have hrun : prev.providerCallId.isSome = false := by
              rw [(unresolved_iff.mp hu).2.1]
              rfl
            rw [if_neg (by simp [hrun])]
            refine ⟨fun _ _ h => ?_, fun _ h => (by cases h)⟩
            cases h
            exact ⟨hamb, rfl⟩

theorem checkEligible_ambiguous {campaign : Campaign} {view : DialView}
    (hengine : env.settings.callingEngine = .dograh) :
    (∀ previous view',
      checkEligible env db job campaign view now = .secondGate previous view' →
        db.ambiguousPrevious job = some previous) ∧
    (∀ view', checkEligible env db job campaign view now = .ready view' →
      db.ambiguousPrevious job = none) := by
  unfold checkEligible
  split
  · exact ⟨fun _ _ h => (by cases h), fun _ h => (by cases h)⟩
  · split
    · exact ⟨fun _ _ h => (by cases h), fun _ h => (by cases h)⟩
    · exact ⟨fun _ _ h => (by cases h), fun _ h => (by cases h)⟩
    · by_cases hn : 1 < job.attemptNumber
      · rw [if_pos ⟨hengine, hn⟩]
        obtain ⟨hgate, hready⟩ := @checkPrevious_ambiguous db job view hn
        exact ⟨fun p v h => (hgate p v h).1, hready⟩
      · rw [if_neg (fun h => hn h.2)]
        refine ⟨fun _ _ h => (by cases h), fun _ _ => ?_⟩
        simp [Db.ambiguousPrevious, hn]

/-- **The checks know of every unresolved previous attempt.** -/
theorem dialCheck_ambiguous (hengine : env.settings.callingEngine = .dograh) :
    (∀ previous view, dialCheck env db job now = .secondGate previous view →
      db.ambiguousPrevious job = some previous) ∧
    (∀ view, dialCheck env db job now = .ready view →
      db.ambiguousPrevious job = none) := by
  unfold dialCheck
  split
  · split
    · exact checkEligible_ambiguous hengine
    · split
      · exact checkEligible_ambiguous hengine
      · split
        · exact ⟨fun _ _ h => (by cases h), fun _ h => (by cases h)⟩
        · split
          · exact checkEligible_ambiguous hengine
          · split
            · exact checkEligible_ambiguous hengine
            · unfold checkUnresolvedClaim
              split
              · exact ⟨fun _ _ h => (by cases h), fun _ h => (by cases h)⟩
              · split <;>
                  exact ⟨fun _ _ h => (by cases h), fun _ h => (by cases h)⟩
  · exact ⟨fun _ _ h => (by cases h), fun _ h => (by cases h)⟩

end

/-! ## Steps -/

section

variable {env : Env} {t t' : Gated} {act : SystemAct}

theorem Gated.record_watch (w : WorkerId)
    (hw : ∀ wact, act = .worker w wact →
      wact ≠ .check ∧ ∀ result, wact ≠ .secondLookup result) :
    AList.lookup w (t.watch act) = t.record w := by
  cases act with
  | worker v wact =>
      by_cases hv : w = v
      · subst hv
        obtain ⟨hc, hl⟩ := hw wact rfl
        cases wact with
        | check => exact absurd rfl hc
        | secondLookup result => exact absurd rfl (hl result)
        | _ => rfl
      · cases wact with
        | check =>
            simp only [Gated.watch]
            split
            · exact AList.lookup_insert_ne hv
            · rfl
        | secondLookup result => exact Table.lookup_modify_ne _ hv _
        | _ => rfl
  | _ => rfl

/-- The gate lets a retry pass only over an attempt that is still failed,
without a run, and for which the listing knows of none. -/
theorem secondGate_pass {db : Db} {job : DialJob} {previous : AttemptId}
    {view : DialView} {result : LookupResult} {txStart : Instant}
    (h : secondGate env db job previous view result txStart = .pass) :
    result = .runs [] ∧ ∃ prev, db.attempt previous = some prev ∧
      prev.state = .failedToConnect ∧ prev.providerCallId = none := by
  unfold secondGate at h
  split at h
  · cases h
  · next ids =>
    split at h
    · cases h
    · next prev hprev =>
      split at h
      · cases h
      · next hopen =>
        split at h
        · next hids =>
          refine ⟨by rw [hids], prev, hprev, ?_, ?_⟩
          · by_contra hne
            exact hopen (.inl hne)
          · by_contra hne
            exact hopen (.inr (.inl (Option.isSome_iff_ne_none.mpr hne)))
        · dsimp only at h
          split at h <;> cases h

/-- **The step lemma.** -/
theorem gatedStep_inv (hengine : env.settings.callingEngine = .dograh)
    (hi : GatedInv env t) (h : gatedStep env t act = some t') :
    GatedInv env t' := by
  obtain ⟨s', hs, rfl⟩ := Option.map_eq_some_iff.mp h
  constructor
  case bounded =>
    intro a
    rcases (systemStep_effect hs).deferrals with hd |
      ⟨w, k, previous, view, -, -, -, hlt, hd⟩
    · rw [hd]
      exact hi.bounded a
    · show s'.db.reconciliationDeferrals.count a ≤ _
      rw [hd, List.count_cons]
      split
      · next ha =>
        have ha : previous = a := by simpa using ha
        subst ha
        omega
      · exact hi.bounded a
  case phases =>
    intro w x hx
    show x.phase.Gated (AList.lookup w (t.watch act))
    rcases systemStep_worker hs hx with ⟨hk, hother⟩ |
      ⟨m, job, t₀, rfl, rfl⟩ | ⟨wact, k, r, phase, rfl, hk, hr, rfl, hphase, rfl⟩
    · rw [Gated.record_watch w fun wact hact => absurd hact (hother wact)]
      exact hi.phases w x hk
    · trivial
    · cases workerStep_phase hr hphase with
      | secondGate check =>
          have hrec : AList.lookup w (t.watch (.worker w .check))
              = some ⟨t.system.db.ambiguousPrevious k.job, none⟩ := by
            simp [Gated.watch, hk]
          obtain ⟨campaign, -, he⟩ :=
            (dialCheck_passed (by rw [check]; rfl)).eligible
          refine ⟨?_, he.dialable⟩
          rw [hrec, (dialCheck_ambiguous hengine).1 _ _ check]
      | ready check =>
          have hrec : AList.lookup w (t.watch (.worker w .check))
              = some ⟨t.system.db.ambiguousPrevious k.job, none⟩ := by
            simp [Gated.watch, hk]
          refine ⟨_, hrec, ?_⟩
          simp [GateRecord.cleared, (dialCheck_ambiguous hengine).2 _ check]
      | @passed previous view result phase gate =>
          have hold := hi.phases w k hk
          rw [phase] at hold
          obtain ⟨rfl, prev, hprev, hstate, hrun⟩ := secondGate_pass gate
          refine ⟨⟨some previous, some (.runs [], some prev)⟩, ?_, ?_⟩
          · simp only [Gated.watch, Table.lookup_modify_self]
            rw [show AList.lookup w t.records = _ from hold.1]
            simp [hprev]
          · simp [GateRecord.cleared, hstate, hrun]
      | @claimed view reads native commits aid prior phase engine claim =>
          have hold := hi.phases w k hk
          rw [phase] at hold
          exact hold
      | cleared => trivial
      | deferring => trivial
      | admitted => trivial
      | settling => trivial
      | orphan check => trivial
      | sent phase row => trivial
      | unsure phase decided => trivial

/-! ## The rule, step by step -/

/-- The step of a second lookup. -/
theorem systemStep_secondLookup {s s' : System} {w : WorkerId} {x : Worker}
    {previous : AttemptId} {view : DialView} {result : LookupResult}
    (h : systemStep env s (.worker w (.secondLookup result)) = some s')
    (hx : s.worker w = some x) (hp : x.phase = .secondGate previous view) :
    s' = s.advance w x (secondLookupStep env s x previous view result) := by
  simp only [systemStep, hx, Option.bind_some, workerStep, hp,
    Option.map_some] at h
  exact (Option.some.inj h).symm

/-- A step that stops or raises ends the run, and sends nothing. -/
theorem over_of_stop {s : System} {w : WorkerId} {x : Worker}
    {previous : AttemptId} {view : DialView} {result : LookupResult}
    (h : secondGate env s.db x.job previous view result x.startedAt ≠ .pass) :
    (s.advance w x
        (secondLookupStep env s x previous view result)).requests
      = s.requests ∧
    (s.advance w x
      (secondLookupStep env s x previous view result)).over w := by
  unfold System.over secondLookupStep
  split
  · refine ⟨rfl, fun y hy => ?_⟩
    rw [System.worker_advance, if_pos rfl] at hy
    cases hy
    exact ⟨_, rfl⟩
  · refine ⟨rfl, fun y hy => ?_⟩
    rw [System.worker_advance, if_pos rfl] at hy
    cases hy
  · next hpass => exact absurd hpass h

/-- The reopening changes no run id. -/
theorem runOwnedByOther_reopened {db : Db} {previous : AttemptId} {run : String}
    {c : ContactId} {f : Contact → Contact} :
    runOwnedByOther ((db.modifyAttempt previous reopenAttempt).modifyContact c
      f) previous run = runOwnedByOther db previous run := by
  have hiff : ∀ d : Db, runOwnedByOther d previous run = true ↔
      ∃ k a, d.attempt k = some a ∧
        (a.providerCallId == some run && k != previous) = true :=
    fun d => Table.any_iff
  rw [Bool.eq_iff_iff, hiff, hiff]
  constructor
  · rintro ⟨k, a, ha, hp⟩
    have hk : k ≠ previous := by
      simp only [Bool.and_eq_true, bne_iff_ne] at hp
      exact hp.2
    rw [(Db.modifyContact_frame ..).2.1, Db.attempt_modifyAttempt, if_neg hk]
      at ha
    exact ⟨k, a, ha, hp⟩
  · rintro ⟨k, a, ha, hp⟩
    have hk : k ≠ previous := by
      simp only [Bool.and_eq_true, bne_iff_ne] at hp
      exact hp.2
    refine ⟨k, a, ?_, hp⟩
    rw [(Db.modifyContact_frame ..).2.1, Db.attempt_modifyAttempt, if_neg hk]
    exact ha

theorem RetryGate.of_inv {s' : System} (hi : GatedInv env t)
    (hi' : GatedInv env ⟨s', t.watch act⟩)
    (h : systemStep env t.system act = some s') : RetryGate env t act s' := by
  constructor
  case bounded => exact hi'.bounded
  case triggered =>
    rintro w rfl
    obtain ⟨x, hx, hst⟩ := Option.bind_eq_some_iff.mp h
    obtain ⟨r, hr, -⟩ := Option.map_eq_some_iff.mp hst
    have hold := hi.phases w x hx
    cases hp : x.phase with
    | claimed aid prior => rw [hp] at hold; exact hold
    | _ => simp [workerStep, hp] at hr
  case failed =>
    rintro w x previous view rfl hx hp
    obtain rfl := systemStep_secondLookup h hx hp
    have hdial : view.contact.status.dialable = true := by
      have hold := hi.phases w x hx
      rw [hp] at hold
      exact hold.2
    obtain ⟨hreq, hover⟩ := @over_of_stop env t.system w x previous view
      .failed (by simp [secondGate])
    refine ⟨hreq, hover, ?_⟩
    show if _ then (secondLookupStep env t.system x previous view
        .failed).db.reconciliationDeferrals = _
      else ∀ c, (secondLookupStep env t.system x previous view
        .failed).db.contact x.job.contactId = some c → _
    simp only [secondLookupStep, secondGate, deferOrExpire]
    split
    · next hlt =>
      rw [if_neg (by omega)]
      rfl
    · next hge =>
      rw [if_pos (by omega)]
      intro c hc
      have hc : (Db.modifyContact _ _ _).contact _ = some c := hc
      rw [Db.contact_modify_self] at hc
      obtain ⟨row, -, rfl⟩ := Option.map_eq_some_iff.mp hc
      refine writeBack_dirty (fun he => ?_) _
      rw [← he] at hdial
      cases hdial
  case one =>
    rintro w x previous view run prev rfl hx hp hprev
    obtain rfl := systemStep_secondLookup h hx hp
    have hstop : secondGate env t.system.db x.job previous view (.runs [run])
        x.startedAt ≠ .pass := by
      intro hpass
      obtain ⟨hr, -⟩ := secondGate_pass hpass
      cases hr
    obtain ⟨hreq, hover⟩ := over_of_stop hstop
    refine ⟨hreq, hover, fun hstate hrun hfree hown => ?_, fun hdone => ?_⟩
    · show ∃ a, (secondLookupStep env t.system x previous view
        (.runs [run])).db.attempt previous = some a ∧ _
      have hadopt := @runOwnedByOther_reopened t.system.db previous
        (toString run) x.job.contactId
        (view.contact.flush (reopenContact view.contact))
      rw [hown] at hadopt
      simp only [secondLookupStep, secondGate, hprev, hstate, hrun, hfree,
        resolveFoundRuns, adoptRun, hadopt]
      refine ⟨writeRun (some (reopenAttempt prev)) run (reopenAttempt prev),
        ?_, rfl, ?_⟩
      · show ((Db.modifyAttempt _ _ _).logEvent _ _ _).attempt _ = _
        rw [(Db.logEvent_frame ..).2.1, Db.attempt_modify_self,
          (Db.modifyContact_frame ..).2.1, Db.attempt_modify_self, hprev]
        rfl
      · refine writeBack_dirty (fun he => ?_) _
        have he : some (toString run) = prev.providerCallId := he
        rw [hrun] at he
        cases he
    · show (secondLookupStep env t.system x previous view (.runs [run])).db = _
      have hgate : secondGate env t.system.db x.job previous view (.runs [run])
          x.startedAt = .stop .alreadyProcessed t.system.db := by
        simp only [secondGate, hprev]
        rw [if_pos]
        rcases hdone with hs | hr
        · exact .inl hs
        · exact .inr (.inl hr)
      rw [secondLookupStep, hgate]
      rfl
  case several =>
    rintro w x previous view ids rfl hx hp hmany
    obtain rfl := systemStep_secondLookup h hx hp
    have hstop : secondGate env t.system.db x.job previous view (.runs ids)
        x.startedAt ≠ .pass := by
      intro hpass
      obtain ⟨hr, -⟩ := secondGate_pass hpass
      cases hr
      simp at hmany
    obtain ⟨hreq, hover⟩ := over_of_stop hstop
    refine ⟨hreq, hover, fun a y hy => ?_⟩
    obtain ⟨y', hy', hch⟩ := (@secondLookup_effect env _ _ _ _
      (.runs ids) hp).attempt a y hy
    refine ⟨y', hy', ?_⟩
    cases hch with
    | same => rfl
    | reopened _ _ _ _ row =>
        rcases row with rfl | ⟨run, rfl, -⟩
        · rfl
        · simp at hmany
    | ran record => simp [recordedRun] at record
    | held record => simp [recordedHold] at record
    | failed record => simp [recordedFailure] at record

/-- A system whose dialers have not begun, with no more deferrals on record
than allowed. -/
structure Gated.Start (env : Env) (t : Gated) : Prop where
  workers : ∀ w, t.system.worker w = none
  deferrals : ∀ a, t.system.db.reconciliationDeferrals.count a
    ≤ env.settings.dograhReconcileMaxDeferrals

/-- **The retry gate holds in every run.** Over any interleaving of dialers,
webhooks and all other services, and whatever the run listing answers:
a trigger leaves only in a run whose checks found no unresolved previous
attempt, or whose own lookup answered that there is no run while the attempt
was still failed and without one; a failed lookup is deferred a bounded
number of times and then the retry is abandoned; and found runs are never
dialed over. -/
theorem run_retryGate {env : Env} {t₀ t : Gated} {act : SystemAct}
    {s' : System} (hengine : env.settings.callingEngine = .dograh)
    (h₀ : t₀.Start env)
    (hrun : Run (gatedStep env) (fun _ _ => True) t₀ t)
    (h : systemStep env t.system act = some s') : RetryGate env t act s' := by
  have hstart : GatedInv env t₀ := by
    refine ⟨fun w x hx => ?_, h₀.deferrals⟩
    rw [h₀.workers w] at hx
    cases hx
  have hi : GatedInv env t :=
    Run.inv (P := GatedInv env)
      (fun _ _ _ hi _ hst => gatedStep_inv hengine hi hst) hrun hstart
  have hst : gatedStep env t act = some ⟨s', t.watch act⟩ := by
    simp [gatedStep, h]
  exact .of_inv hi (gatedStep_inv hengine hi hst) h

end

/-! ## Runs through the gate -/

/-- The first trigger's answer is lost and no run is found; an hour later
its retry is behind the checks. -/
def gateReached : List SystemAct :=
  ([.enqueue 1 (fun _ => 1) quietGate] : List SystemAct) ++ untilClaimed 1 1 ++
    ([.worker 1 .send, .worker 1 (.answer (.transport .readTimeout) 0 true true),
      .worker 1 (.firstLookup (.runs []) true), .worker 1 .settle,
      .tick (3600000000 - 1), .dispatch (.retry (.new 0 1 1 2)) 2 true,
      .read 2 2 noon, .worker 2 (.early quietGate), .worker 2 .acquire,
      .worker 2 .check] : List SystemAct)

/-- The completion of that first call, without its run id. -/
def runlessCompletion : DograhWebhookPayload :=
  { callAttemptId := attempt0Text, callStatus := some "completed" }

/-- Attempt number 2 is held. While it is, a stale entry of the schedule
finds the campaign paused, and the rebuild makes number 3 of the latest row;
both are in flight when the trigger of number 2 times out. -/
def crossedRetries : List SystemAct :=
  ([.enqueue 1 (fun _ => 1) quietGate] : List SystemAct) ++ untilClaimed 1 1 ++
    ([.worker 1 .send, .worker 1 (.answer (.accepted 501) 0 true true),
      .worker 1 .settle,
      .service (.dograhWebhook
        { callAttemptId := attempt0Text, workflowRunId := some (.str "501"),
          callStatus := some "busy" }) true,
      .tick (3600000000 - 1), .dispatch (.retry (.new 0 1 1 2)) 2 true, .rebuild,
      .read 2 2 noon, .worker 2 (.early quietGate), .worker 2 .acquire,
      .worker 2 .check, .worker 2 (.gate quietGate ⟨"", none, false⟩ true),
      .worker 2 (.notConfigured true), .worker 2 .settle,
      .service (.setControls {}) true,
      .service (.updateCampaign 1 { status := some .paused }) true,
      .tick (900000000 - 1), .dispatch (.retry (.new 0 1 1 2)) 9 true, .rebuild,
      .service (.updateCampaign 1 { status := some .active }) true,
      .read 2 2 noon, .worker 2 (.early quietGate), .worker 2 .acquire,
      .worker 2 .check,
      .tick (60000000 - 1), .dispatch (.retry (.new 1 1 1 3)) 3 true,
      .read 3 3 noon, .worker 3 (.early quietGate), .worker 3 .acquire,
      .worker 3 .check,
      .worker 2 (.gate quietGate ⟨"", none, false⟩ true), .worker 2 .send,
      .worker 2 (.answer (.transport .readTimeout) 0 true true),
      .worker 2 (.firstLookup (.runs []) true),
      .worker 3 (.gate quietGate ⟨"", none, false⟩ true)] : List SystemAct)

/-- One found run is not adopted when the webhook resolves the attempt
during the lookup. And a previous attempt that becomes an unresolved trigger
after the checks is not looked up: the trigger of number 3 is enabled. -/
theorem foundRun_notAdopted :
    (∃ s, runActs (systemStep dograhEnv) twoActive
        (gateReached ++ [.service (.dograhWebhook runlessCompletion) true,
          .worker 2 (.secondLookup (.runs [501]))]) = some s ∧
      (s.db.attempt 0).map (fun a => (a.state, a.providerCallId))
        = some (.endedNormally, none)) ∧
    ∃ t, runActs (gatedStep dograhEnv) ⟨twoActive, ∅⟩ crossedRetries = some t ∧
      (systemStep dograhEnv t.system (.worker 3 .send)).isSome = true ∧
      (t.system.worker 3).bind (fun x => t.system.db.ambiguousPrevious x.job)
        = some 1 ∧
      (t.record 3).map (·.lookup.isSome) = some false := by
  constructor
  · have h : (runActs (systemStep dograhEnv) twoActive
        (gateReached ++ ([.service (.dograhWebhook runlessCompletion) true,
          .worker 2 (.secondLookup (.runs [501]))] : List SystemAct))).map
        (fun s => (s.db.attempt 0).map fun a => (a.state, a.providerCallId))
        = some (some (.endedNormally, none)) := by
      decide +kernel
    exact Option.map_eq_some_iff.mp h
  · have h : (runActs (gatedStep dograhEnv) ⟨twoActive, ∅⟩ crossedRetries).map
        (fun t => ((systemStep dograhEnv t.system (.worker 3 .send)).isSome,
          (t.system.worker 3).bind fun x =>
            t.system.db.ambiguousPrevious x.job,
          (t.record 3).map (·.lookup.isSome)))
        = some (true, some 1, some false) := by
      decide +kernel
    obtain ⟨t, ht, hsaw⟩ := Option.map_eq_some_iff.mp h
    obtain ⟨hsend, hsaw⟩ := Prod.mk.inj hsaw
    obtain ⟨hamb, hlook⟩ := Prod.mk.inj hsaw
    exact ⟨t, ht, hsend, hamb, hlook⟩

/-- The retry that passed the gate: its trigger rests on its own lookup. -/
theorem gateReached_cleared :
    ∃ t s', runActs (gatedStep dograhEnv) ⟨twoActive, ∅⟩
        (gateReached ++ [.worker 2 (.secondLookup (.runs [])),
          .worker 2 (.gate quietGate ⟨"", none, false⟩ true)]) = some t ∧
      systemStep dograhEnv t.system (.worker 2 .send) = some s' ∧
      RetryGate dograhEnv t (.worker 2 .send) s' := by
  have h : (runActs (gatedStep dograhEnv) ⟨twoActive, ∅⟩
      (gateReached ++ ([.worker 2 (.secondLookup (.runs [])),
        .worker 2 (.gate quietGate ⟨"", none, false⟩ true)] :
          List SystemAct))).any
      (fun t => (systemStep dograhEnv t.system (.worker 2 .send)).isSome)
      = true := by
    decide +kernel
  obtain ⟨t, ht, hsend⟩ := (Option.any_eq_true _ _).mp h
  obtain ⟨s', hs'⟩ := Option.isSome_iff_exists.mp hsend
  have hstart : Gated.Start dograhEnv ⟨twoActive, ∅⟩ :=
    ⟨fun _ => rfl, fun _ => Nat.zero_le _⟩
  exact ⟨t, s', ht, hs', run_retryGate rfl hstart (.of_runActs ht) hs'⟩

end CallingAgent
