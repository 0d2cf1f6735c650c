import CallingAgent.Services.WebhookContact
import Mathlib.Data.Fintype.EquivFin

/-!
# Finality — after one processed outcome

Finality rests on three mechanisms at once: the event identity, the
terminal state of the attempt, and the test that reopens a provisional
failure. They leave one gap: a failed connect that is recorded without a
run id on an attempt that carries the ambiguous-trigger event is still
"unresolved", and the next delivery with another event identity is
processed again.
-/

namespace CallingAgent

open Lib

/-! ## Sequences of deliveries -/

section

variable (env : Env)

/-- One delivery: the database after it, and the retry it scheduled. An
error is rolled back. -/
def deliver (db : Db) (d : DograhWebhookPayload × Instant) :
    Db × List (RecoveryJob × Instant) :=
  match processDograhWebhook env db d.1 d.2 with
  | .ok step => (step.db, step.entry.toList)
  | .error _ => (db, [])

/-- Deliveries in order. -/
def deliverAll : Db → List (DograhWebhookPayload × Instant) →
    Db × List (RecoveryJob × Instant)
  | db, [] => (db, [])
  | db, d :: ds =>
      let r := deliver env db d
      let rest := deliverAll r.1 ds
      (rest.1, r.2 ++ rest.2)

/-- The outcome of an attempt is final: no sequence of deliveries for it
changes its state, changes its contact's status, or schedules a retry. -/
def OutcomeFinal (db : Db) (aid : AttemptId) : Prop :=
  ∀ ds : List (DograhWebhookPayload × Instant),
    (∀ d ∈ ds, env.uuid.parse d.1.callAttemptId = some aid) →
    ((deliverAll env db ds).1.attempt aid).map (·.state)
        = (db.attempt aid).map (·.state) ∧
    (∀ a, db.attempt aid = some a →
      ((deliverAll env db ds).1.contact a.contactId).map (·.status)
        = (db.contact a.contactId).map (·.status)) ∧
    (deliverAll env db ds).2 = []

/-- The delivery that leaves its attempt provisional: a failed connect
without a run id, for an attempt that has none either and that carries the
ambiguous-trigger event. -/
def LeavesProvisional (db : Db) (p : DograhWebhookPayload) (aid : AttemptId) :
    Prop :=
  (classifyCallOutcome env p.callStatus p.callDisposition).state
      = .failedToConnect ∧
    p.workflowRunId = none ∧
    (db.attempt aid).map (·.providerCallId) = some none ∧
    db.hasEvent aid ambiguousTriggerEvent = true

end

/-! ## A settled attempt -/

section

variable {env : Env} {db : Db} {p : DograhWebhookPayload}
  {w : AcceptedWebhook} {now : Instant} {step : WebhookStep}
  {aid : AttemptId} {a : CallAttempt}

/-- An attempt with an outcome that no delivery may reopen. -/
structure Settled (db : Db) (aid : AttemptId) : Prop where
  settled : ∀ a, db.attempt aid = some a → a.state.isTerminal = true ∧
    isUnresolvedAmbiguousTrigger db aid a = false

/-- **A settled attempt refuses every delivery**, without a trace. -/
theorem deliver_settled (h : Settled db aid)
    (d : DograhWebhookPayload × Instant)
    (hd : env.uuid.parse d.1.callAttemptId = some aid) :
    deliver env db d = (db, []) := by
  unfold deliver processDograhWebhook
  cases ha : admitWebhook env db d.1 with
  | rejected e => rfl
  | answered o => rfl
  | accepted w =>
      -- admission wants an open or a provisional attempt
      exfalso
      have hf := admitWebhook_accepted ha
      have haid : w.aid = aid := by
        have := hf.aid
        rw [hd] at this
        exact (Option.some.inj this).symm
      obtain ⟨ht, hu⟩ := h.settled w.attempt (haid ▸ hf.attempt)
      rw [← haid, ← hf.unresolved] at hu
      rcases hf.open_ with h' | h'
      · rw [hu] at h'; cases h'
      · rw [ht] at h'; cases h'

theorem deliverAll_settled (h : Settled db aid)
    (ds : List (DograhWebhookPayload × Instant))
    (hds : ∀ d ∈ ds, env.uuid.parse d.1.callAttemptId = some aid) :
    deliverAll env db ds = (db, []) := by
  induction ds with
  | nil => rfl
  | cons d ds ih =>
    have hd := deliver_settled h d (hds d (by simp))
    simp only [deliverAll, hd, List.nil_append]
    exact ih fun d' hd' => hds d' (by simp [hd'])

theorem Settled.final (h : Settled db aid) : OutcomeFinal env db aid := by
  intro ds hds
  rw [deliverAll_settled h ds hds]
  exact ⟨rfl, fun _ _ => rfl, rfl⟩

/-! ## The attempt after a processed delivery -/

theorem endAttempt_state (ho : w.outcome.WellFormed) :
    (endAttempt w.outcome now a).state = w.outcome.state := by
  unfold endAttempt
  rcases ho.state with h | h | h <;> simp [h]

theorem endAttempt_providerCallId (o : CallOutcome) :
    (endAttempt o now a).providerCallId = a.providerCallId := by
  unfold endAttempt
  split <;> rfl

/-- The run id after a delivery: the one the attempt has, else the one
the delivery carries. -/
theorem identifyRun_providerCallId {u : Bool}
    (hu : u = true → a.providerCallId = none) :
    (identifyRun p u a).providerCallId
      = a.providerCallId.or (p.workflowRunId.map RunId.text) := by
  have hr : (if u = true then reopenAttempt a else a).providerCallId
      = a.providerCallId := by cases u <;> rfl
  unfold identifyRun
  simp only [hr]
  cases ha : a.providerCallId with
  | none => cases p.workflowRunId <;> simp
  | some r =>
      have : u = false := by
        cases u with
        | false => rfl
        | true => rw [hu rfl] at ha; cases ha
      simp [this]

/-- Recovery events do not count as ambiguous triggers. -/
theorem WebhookStep.Spec.hasEvent (h : step.Spec p db w now) (k : AttemptId) :
    step.db.hasEvent k ambiguousTriggerEvent
      = db.hasEvent k ambiguousTriggerEvent := by
  rcases h.events with ⟨he, _⟩ | ⟨ty, hty, he⟩
  · exact Db.hasEvent_congr he k _
  · unfold Db.hasEvent
    rw [he, List.any_cons]
    rcases hty with rfl | rfl <;> simp

/-- The attempt a processed delivery leaves. -/
theorem WebhookStep.Spec.attempt_self (h : step.Spec p db w now) :
    step.db.attempt w.aid =
      some (endAttempt w.outcome now (identifyRun p w.unresolved w.attempt)) :=
  (h.attempt w.aid).trans (if_pos rfl)

theorem unresolved_noRun (hf : w.Found env db p) (hu : w.unresolved = true) :
    w.attempt.providerCallId = none :=
  (unresolved_iff.mp (hf.unresolved ▸ hu)).2.1

/-- **Provisional or settled.** The attempt a processed delivery leaves
is unresolved exactly when the delivery is a `LeavesProvisional` one. -/
theorem unresolved_after_iff (hf : w.Found env db p)
    (h : step.Spec p db w now) :
    isUnresolvedAmbiguousTrigger step.db w.aid
        (endAttempt w.outcome now (identifyRun p w.unresolved w.attempt)) = true
      ↔ LeavesProvisional env db p w.aid := by
  have hwf : w.outcome.WellFormed :=
    hf.outcome ▸ classifyCallOutcome_wellFormed env _ _
  rw [unresolved_iff, endAttempt_state hwf, endAttempt_providerCallId,
    identifyRun_providerCallId (unresolved_noRun hf), h.hasEvent, hf.outcome]
  unfold LeavesProvisional
  rw [hf.attempt, Option.map_some, Option.some.injEq]
  cases hp : w.attempt.providerCallId with
  | none => cases hr : p.workflowRunId <;> simp
  | some r => simp

/-- What a processed delivery leaves is settled, unless it is
provisional. -/
theorem settled_of_not_provisional (hf : w.Found env db p)
    (h : step.Spec p db w now) (hn : ¬ LeavesProvisional env db p w.aid) :
    Settled step.db w.aid := by
  constructor
  intro a ha
  rw [h.attempt_self] at ha
  cases ha
  have hwf : w.outcome.WellFormed :=
    hf.outcome ▸ classifyCallOutcome_wellFormed env _ _
  constructor
  · rw [endAttempt_state hwf]
    rcases hwf.state with hs | hs | hs <;> rw [hs] <;> rfl
  · rw [← Bool.not_eq_true, unresolved_after_iff hf h]
    exact hn

/-- An accepted delivery is for an attempt the provider runs. -/
theorem AcceptedWebhook.Found.provider (hf : w.Found env db p) :
    w.attempt.provider = none ∨ w.attempt.provider = some "dograh" := by
  by_contra hn
  have hc := hf.correlated
  unfold validateCorrelation at hc
  rw [if_pos hn] at hc
  cases hc

/-! ## A provisional attempt is processed again -/

/-- Some text is in no finite list. -/
theorem exists_fresh_text (l : List String) :
    ∃ s : String, s ∉ l := by
  have hinj : Function.Injective fun n : Nat =>
      String.ofList (List.replicate n 'x') := by
    intro m n h
    have := congrArg String.length h
    simpa using this
  have : Infinite String := Infinite.of_injective _ hinj
  obtain ⟨s, hs⟩ := Infinite.exists_notMem_finset l.toFinset
  exact ⟨s, by simpa using hs⟩

/-- A completion with a run id of its own. -/
def completionWith (callAttemptId run : String) : DograhWebhookPayload where
  callAttemptId := callAttemptId
  workflowRunId := some (.str run)
  callStatus := some "completed"

theorem ascii_of_all {s : String}
    (h : s.toList.all (fun c => decide (c.toNat < 128)) = true) :
    ∀ c ∈ s.toList, c.toNat < 128 :=
  fun c hc => of_decide_eq_true (List.all_eq_true.mp h c hc)

/-- A report on the call, with a run id of its own. -/
def reportWith (callAttemptId run status : String) (mapped : Option String) :
    DograhWebhookPayload where
  callAttemptId := callAttemptId
  workflowRunId := some (.str run)
  callStatus := some status
  mappedCallDisposition := mapped

theorem token_none (laws : UnicodeLaws env) : token env none = "" := by
  unfold token
  rw [laws.lower_ascii _ (ascii_of_all (by decide))]
  decide

theorem classify_report (laws : UnicodeLaws env) {status : String}
    {outcome : CallOutcome} (htoken : token env (some status) = status)
    (hknown : vocabulary.lookup status = some outcome) :
    classifyCallOutcome env (some status) none = outcome := by
  unfold classifyCallOutcome
  rw [htoken, hknown, token_none laws]
  rfl

theorem classify_completed (laws : UnicodeLaws env) :
    classifyCallOutcome env (some "completed") none = .ended := by
  refine classify_report laws ?_ (by decide)
  unfold token
  rw [laws.lower_ascii _ (ascii_of_all (by decide))]
  decide

theorem classify_unanswered (laws : UnicodeLaws env) :
    classifyCallOutcome env (some "no_answer") none = .never .noAnswer := by
  refine classify_report laws ?_ (by decide)
  unfold token
  rw [laws.lower_ascii _ (ascii_of_all (by decide))]
  decide

/-- The run ids other attempts hold. -/
def Db.runIds (db : Db) : List String :=
  db.attempts.entries.filterMap fun e => e.2.providerCallId

theorem runOwnedByOther_of_fresh {run : String} (h : run ∉ db.runIds)
    (aid : AttemptId) : runOwnedByOther db aid run = false := by
  unfold runOwnedByOther
  rw [Table.any_eq_false]
  intro k r hl
  have hm := AList.mem_lookup_iff.mp hl
  simp only [Bool.and_eq_false_iff, beq_eq_false_iff_ne]
  left
  intro hr
  exact h (List.mem_filterMap.mpr ⟨⟨k, r⟩, hm, hr⟩)

/-- A provisional attempt accepts a final report with a fresh run id. -/
theorem report_found {c run status : String} {mapped : Option String}
    {contact : Contact} {campaign : Campaign} {outcome : CallOutcome}
    (hc : env.uuid.parse c = some aid) (ha : db.attempt aid = some a)
    (hcontact : db.contact a.contactId = some contact)
    (hcampaign : db.campaign contact.campaignId = some campaign)
    (hprov : a.provider = none ∨ a.provider = some "dograh")
    (hu : isUnresolvedAmbiguousTrigger db aid a = true)
    (hne : run ≠ "") (hrun : run ∉ db.runIds)
    (hfresh : "dograh:" ++ run ∉ db.processedEvents)
    (hclass : classifyCallOutcome env (some status) none = outcome)
    (hfinal : outcome.nonFinal = false) :
    AcceptedWebhook.Found env db (reportWith c run status mapped)
      ⟨aid, a, contact, campaign, true, outcome⟩ where
  fresh := by
    have : (reportWith c run status mapped).eventId = "dograh:" ++ run := by
      simp [DograhWebhookPayload.eventId, reportWith, RunId.truthy, hne,
        RunId.text]
    rw [this, ← Bool.not_eq_true, List.contains_iff_mem]
    exact hfresh
  aid := hc
  attempt := ha
  contact := hcontact
  campaign := hcampaign
  unresolved := hu.symm
  correlated := by
    have hnone := (unresolved_iff.mp hu).2.1
    simp [validateCorrelation, reportWith, hprov, hnone, RunId.text,
      runOwnedByOther_of_fresh hrun]
  open_ := .inl rfl
  outcome := hclass.symm
  final := hfinal

/-- A delivery of a final status is applied, if it needs no session or the
attempt has none. -/
theorem applyWebhook_total {p : DograhWebhookPayload} {w : AcceptedWebhook}
    (hf : w.Found env db p)
    (hs : w.outcome.state = .failedToConnect ∨ w.aid ∉ db.sessions) :
    ∃ step, applyWebhook env db p w now = .ok step := by
  have hwf : w.outcome.WellFormed :=
    hf.outcome ▸ classifyCallOutcome_wellFormed env _ _
  have hsess := (openOutcome_spec env db p w
    (isOptOut env p.callDisposition p.mappedCallDisposition
      env.settings.dograhOptOutDispositions)).sessions
  simp only [applyWebhook]
  split
  · next hstate =>
    obtain ⟨r, hr⟩ := Option.isSome_iff_exists.mp
      (hwf.neverConnected hf.final hstate)
    simp only [hr]
    exact ⟨_, rfl⟩
  · next hstate =>
    have hs := hs.resolve_left (by rw [hstate]; decide)
    obtain ⟨r, hr⟩ := Option.isSome_iff_exists.mp (hwf.midCall hstate)
    split
    · next h => simp [hsess, hs] at h
    · simp only [hr]
      exact ⟨_, rfl⟩
  · next hnever _ =>
    have hs := hs.resolve_left hnever
    split
    · next h => simp [hsess, hs] at h
    · exact ⟨_, rfl⟩

/-- The completion of a provisional attempt without a session ends it
normally. -/
theorem deliver_completed {p : DograhWebhookPayload} {w : AcceptedWebhook}
    (hf : w.Found env db p) (hended : w.outcome = .ended)
    (hs : w.aid ∉ db.sessions) :
    ((deliver env db (p, now)).1.attempt w.aid).map (·.state)
      = some .endedNormally := by
  obtain ⟨step, hstep⟩ : ∃ step, applyWebhook env db p w now = .ok step :=
    applyWebhook_total hf (.inr hs)
  have hspec := applyWebhook_spec hf hstep
  unfold deliver processDograhWebhook
  rw [admitWebhook_of_found hf]
  simp only [hstep, hspec.attempt_self, Option.map_some, hended]
  rfl

/-- A provisional failure that is reported once more closes the contact
exactly if the report opts out. -/
theorem deliver_unanswered {p : DograhWebhookPayload} {w : AcceptedWebhook}
    (hf : w.Found env db p) (hu : w.unresolved = true)
    (hnever : w.outcome.state = .failedToConnect) :
    ∃ x, (deliver env db (p, now)).1.contact w.attempt.contactId = some x ∧
      (x.status = .closed ↔ p.optsOut env = true) := by
  obtain ⟨step, hstep⟩ : ∃ step, applyWebhook env db p w now = .ok step :=
    applyWebhook_total hf (.inl hnever)
  have hcontact := applyWebhook_contact hf hstep
  rw [if_neg (by rw [hnever]; decide)] at hcontact
  unfold deliver processDograhWebhook
  rw [admitWebhook_of_found hf]
  simp only [hstep]
  exact ⟨_, hcontact.2, recovery_closed_iff hu hnever⟩

/-- The operator has configured a disposition that opts out. -/
def optOutConfigured (env : Env) : Prop :=
  ∃ code ∈ env.settings.dograhOptOutDispositions, (strip code).toList ≠ []

theorem isOptOut_configured {code : String}
    (hmem : code ∈ env.settings.dograhOptOutDispositions)
    (hcode : (strip code).toList ≠ []) :
    isOptOut env none (some code) env.settings.dograhOptOutDispositions
      = true := by
  have hne : code.toList ≠ [] := by
    intro hnil
    have : code = "" := String.toList_injective hnil
    subst this
    exact hcode (by decide)
  simp only [isOptOut, List.any_cons, List.any_nil, Bool.or_false, Bool.false_or,
    Bool.and_eq_true, decide_eq_true_eq, List.contains_iff_mem, List.mem_map,
    List.mem_filter]
  exact ⟨hne, code, ⟨hmem, hcode⟩, rfl⟩

theorem endAttempt_contactId (hstate : w.outcome.state = .failedToConnect) :
    (endAttempt w.outcome now (identifyRun p w.unresolved w.attempt)).contactId
      = w.attempt.contactId := by
  unfold endAttempt identifyRun
  rw [hstate]
  cases w.unresolved <;> rfl

/-- After a provisional outcome some run id is accepted with any final
report. -/
theorem report_accepted (hf : w.Found env db p) (h : step.Spec p db w now)
    (hprov : LeavesProvisional env db p w.aid) :
    ∃ run contact, step.db.contact w.attempt.contactId = some contact ∧
      ∀ (status : String) (mapped : Option String) {outcome : CallOutcome},
        classifyCallOutcome env (some status) none = outcome →
        outcome.nonFinal = false →
        AcceptedWebhook.Found env step.db
          (reportWith p.callAttemptId run status mapped)
          ⟨w.aid, endAttempt w.outcome now (identifyRun p w.unresolved w.attempt),
            contact, w.campaign, true, outcome⟩ := by
  have hu := (unresolved_after_iff hf h).mpr hprov
  obtain ⟨contact, hcontact, hcamp, _⟩ := h.contact
  obtain ⟨run, hrun⟩ := exists_fresh_text
    ("" :: step.db.runIds ++ step.db.processedEvents.map
      fun e => String.ofList (e.toList.drop 7))
  simp only [List.cons_append, List.mem_cons, List.mem_append, List.mem_map,
    not_or, not_exists, not_and] at hrun
  obtain ⟨hne, hids, hev⟩ := hrun
  have hfresh : "dograh:" ++ run ∉ step.db.processedEvents := by
    intro hm
    apply hev _ hm
    simp
  -- the failed connect leaves provider and contact as admission found them
  have hstate : w.outcome.state = .failedToConnect := hf.outcome ▸ hprov.1
  have hcampaign : step.db.campaign contact.campaignId = some w.campaign := by
    rw [hcamp, h.campaigns]
    exact hf.campaign
  have hprovider : (endAttempt w.outcome now (identifyRun p w.unresolved
      w.attempt)).provider = w.attempt.provider := by
    unfold endAttempt identifyRun
    rw [hstate]
    cases w.unresolved <;> simp [hprov.2.1, reopenAttempt]
  exact ⟨run, contact, hcontact, fun _ _ _ hclass hfinal =>
    report_found hf.aid h.attempt_self
      ((endAttempt_contactId hstate).symm ▸ hcontact) hcampaign
      (hprovider ▸ hf.provider) hu hne hids hfresh hclass hfinal⟩

/-- **A provisional outcome is not final**: without a session the next report
can end the attempt, and a failure that is reported with an opt-out closes
its contact, and reported without one opens it. -/
theorem not_final_of_provisional (laws : UnicodeLaws env)
    (hs : w.aid ∉ db.sessions ∨ optOutConfigured env) (hf : w.Found env db p)
    (h : step.Spec p db w now) (hprov : LeavesProvisional env db p w.aid) :
    ¬ OutcomeFinal env step.db w.aid := by
  intro hfinal
  have hstate : w.outcome.state = .failedToConnect := hf.outcome ▸ hprov.1
  have hwf : w.outcome.WellFormed :=
    hf.outcome ▸ classifyCallOutcome_wellFormed env _ _
  obtain ⟨run, contact, hcontact, hfound⟩ := report_accepted hf h hprov
  have hsame := fun status mapped => hfinal
    [(reportWith p.callAttemptId run status mapped, now)]
    (by simpa [reportWith] using hf.aid)
  simp only [deliverAll] at hsame
  rcases hs with hs | ⟨code, hmem, hcode⟩
  · have hnosess : w.aid ∉ step.db.sessions := by
      rcases h.sessions with ⟨hse, _⟩ | ⟨_, hfail⟩
      · exact hse ▸ hs
      · exact absurd hstate hfail
    have hend := @deliver_completed env step.db now _ _
      (hfound "completed" none (classify_completed laws) rfl) rfl hnosess
    have hstay := (hsame "completed" none).1
    rw [hend, h.attempt_self, Option.map_some, endAttempt_state hwf, hstate]
      at hstay
    cases hstay
  · have hreport : ∀ mapped, (contact.status = .closed ↔
        (reportWith p.callAttemptId run "no_answer" mapped).optsOut env
          = true) := by
      intro mapped
      obtain ⟨x, hx, hclosed⟩ := @deliver_unanswered env step.db now _ _
        (hfound "no_answer" mapped (classify_unanswered laws) rfl) rfl rfl
      have hstay := (hsame "no_answer" mapped).2.1 _ h.attempt_self
      rw [hx, endAttempt_contactId hstate, hcontact, Option.map_some,
        Option.map_some, Option.some.injEq] at hstay
      rw [← hstay]
      exact hclosed
    have hwith := (hreport (some code)).mpr (isOptOut_configured hmem hcode)
    have hwithout := (hreport none).mp hwith
    cases hwithout

/-- **Finality, exactly.** Once a delivery has been processed with a final
outcome, that outcome is final if the delivery did not leave its attempt
provisional; and where the attempt has no conversation session, or some
disposition opts out, only if. -/
theorem processedOutcome_final_iff (laws : UnicodeLaws env)
    (h : processDograhWebhook env db p now = .ok step)
    (hfin : step.outcome.final = true)
    (haid : env.uuid.parse p.callAttemptId = some aid) :
    (¬ LeavesProvisional env db p aid → OutcomeFinal env step.db aid) ∧
    (aid ∉ db.sessions ∨ optOutConfigured env →
      (OutcomeFinal env step.db aid ↔ ¬ LeavesProvisional env db p aid)) := by
  obtain ⟨w, hf, hspec⟩ := processDograhWebhook_final h hfin
  have hw : w.aid = aid := Option.some.inj (hf.aid.symm.trans haid)
  rw [← hw]
  have hkept : ¬ LeavesProvisional env db p w.aid →
      OutcomeFinal env step.db w.aid :=
    fun hn => (settled_of_not_provisional hf hspec hn).final
  refine ⟨hkept, fun hs => ⟨fun hfinal hprov => ?_, hkept⟩⟩
  exact not_final_of_provisional laws hs hf hspec hprov hfinal

end

/-! ### Two outcomes for one attempt -/

/-- Attempt 7 of contact 1 timed out at the provider and was recorded as an
ambiguous failure; its retry is scheduled. -/
def ambiguousDb : Db where
  campaigns := AList.insert 1 { status := .active } ∅
  contacts := AList.insert 1
    { campaignId := 1
      normalizedPhoneNumber := "+919876543210"
      status := .retryScheduled
      attemptCount := 1
      nextRetryAt := some (3600 * second)
      retryAttemptId := some 7
      retryAttemptNumber := some 2 } ∅
  attempts := AList.insert 7
    { contactId := 1
      attemptNumber := 1
      state := .failedToConnect
      connectionFailureReason := some .providerError
      provider := some "dograh"
      startedAt := 0
      endedAt := some second } ∅
  events := [⟨7, .recoveryScheduled, second⟩, ⟨7, ambiguousTriggerEvent, second⟩]

def attempt7Text : String := "00000000-0000-0000-0000-000000000007"

/-- The run reported busy, without its run id; then a completion. -/
def busyWithoutRun : DograhWebhookPayload :=
  { callAttemptId := attempt7Text, callStatus := some "busy" }

/-- The busy outcome is processed, and the completion after it is
processed as well: attempt and contact change once more. -/
theorem secondOutcome_processed :
    (processDograhWebhook (plainEnv {}) ambiguousDb busyWithoutRun
      second).map (·.outcome) = .ok .neverConnected ∧
    (let db := (deliver (plainEnv {}) ambiguousDb (busyWithoutRun, second)).1
     let db' := (deliver (plainEnv {}) db
       (completionWith attempt7Text "99", 2 * second)).1
     (db.attempt 7).map (·.state) = some .failedToConnect ∧
     (db'.attempt 7).map (·.state) = some .endedNormally ∧
     (db.contact 1).map (·.status) = some .retryScheduled ∧
     (db'.contact 1).map (·.status) = some .completed) := by
  decide

/-- A completion that names its run is final. -/
theorem completion_final :
    ∃ step, processDograhWebhook (plainEnv {}) ambiguousDb
        (completionWith attempt7Text "99") second = .ok step ∧
      (OutcomeFinal (plainEnv {}) step.db 7 ↔
        ¬ LeavesProvisional (plainEnv {}) ambiguousDb
          (completionWith attempt7Text "99") 7) := by
  have hout : (processDograhWebhook (plainEnv {}) ambiguousDb
      (completionWith attempt7Text "99") second).map (·.outcome)
      = .ok .endedNormally := by
    decide
  cases h : processDograhWebhook (plainEnv {}) ambiguousDb
      (completionWith attempt7Text "99") second with
  | error e => rw [h] at hout; cases hout
  | ok step =>
      rw [h] at hout
      have ho : step.outcome = .endedNormally := Except.ok.inj hout
      have hfin : step.outcome.final = true := by rw [ho]; rfl
      exact ⟨step, rfl, processedOutcome_final_iff (plainEnv_unicode {})
        h hfin (by decide) |>.2 (.inl (by simp [ambiguousDb]))⟩

end CallingAgent
