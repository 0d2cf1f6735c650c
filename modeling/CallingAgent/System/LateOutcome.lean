import CallingAgent.Services.WebhookContact
import CallingAgent.System.OneTrigger

/-!
# Late outcomes — an older attempt's webhook after a newer attempt

A delivery is applied to the attempt it names, whatever else has happened
to the contact since. Here is when that contradicts an attempt with a
higher number.
-/

namespace CallingAgent

open Lib

/-! ## A newer attempt -/

/-- The contact has an attempt with a higher number. -/
def Db.superseded (db : Db) (a : CallAttempt) : Bool :=
  db.attempts.any fun _ b =>
    b.contactId == a.contactId && decide (a.attemptNumber < b.attemptNumber)

/-- What an outcome may leave of a contact whose status stems from a newer
attempt: it is not dialing again; a retry it schedules is one dispatch acts
on, of an attempt that does not exist yet; and without a schedule of its
own it leaves no contact waiting that it has changed. -/
structure Consistent (db : Db) (contactId : ContactId) (before after : Contact)
    (entry : Option (RecoveryJob × Instant)) : Prop where
  dialing : after.status = .dialing → before.status = .dialing
  scheduled : ∀ job due, entry = some (job, due) →
    after.status = .retryScheduled ∧ after.nextRetryAt = some due ∧
      after.retryAttemptNumber = some job.attemptNumber ∧
      db.attemptByContactAndNumber contactId job.attemptNumber = none
  waiting : after.status = .retryScheduled → entry = none → after = before

/-- A delivery for a superseded attempt leaves its contact consistent. -/
def KeepsNewer (env : Env) (db : Db) (p : DograhWebhookPayload)
    (step : WebhookStep) : Prop :=
  ∀ aid attempt before after, env.uuid.parse p.callAttemptId = some aid →
    db.attempt aid = some attempt → db.superseded attempt = true →
    db.contact attempt.contactId = some before →
    step.db.contact attempt.contactId = some after →
    Consistent db attempt.contactId before after step.entry

/-- A contact that is reopened is left dialing: its number is suppressed,
and the manager does not relabel it. -/
def AcceptedWebhook.leftDialing (w : AcceptedWebhook) (env : Env) (db : Db)
    (p : DograhWebhookPayload) : Bool :=
  w.outcome.state == .failedToConnect && w.unresolved
    && !p.optsOut env && w.contact.status != .dialing
    && db.suppressions.isSuppressed env w.contact.normalizedPhoneNumber

/-- The deliveries that go wrong: accepted for a superseded attempt, and
either a reopened contact is left dialing because its number is suppressed,
or a retry is allowed whose attempt exists already. -/
def regresses (env : Env) (db : Db) (p : DograhWebhookPayload)
    (now : Instant) : Bool :=
  match admitWebhook env db p with
  | .accepted w =>
      db.superseded w.attempt
        && (w.leftDialing env db p
          || w.outcome.state != .endedNormally
              && retryAllowed env (outcomeDb env db p w now)
                w.attempt.contactId (w.handedContact (p.optsOut env))
                w.campaign w.disconnect
              && (db.attemptByContactAndNumber w.attempt.contactId
                (w.attempt.attemptNumber + 1)).isSome)
  | _ => false

section

variable {env : Env} {db : Db} {p : DograhWebhookPayload}
  {w : AcceptedWebhook} {now : Instant} {step : WebhookStep}

theorem leftDialing_handed (h : w.leftDialing env db p = true) :
    (w.handedContact (p.optsOut env)).status = .dialing ∧
      w.contact.status ≠ .dialing ∧
      db.suppressions.isSuppressed env w.contact.normalizedPhoneNumber
        = true := by
  simp only [AcceptedWebhook.leftDialing, Bool.and_eq_true, beq_iff_eq,
    Bool.not_eq_true', bne_iff_ne, ne_eq] at h
  obtain ⟨⟨⟨⟨hfailed, hu⟩, hopt⟩, hbefore⟩, hsupp⟩ := h
  refine ⟨?_, hbefore, hsupp⟩
  simp [AcceptedWebhook.handedContact, hfailed, hu, hopt, reopenContact]

/-- What the delivery leaves is consistent unless it leaves the contact
dialing or the attempt it schedules exists. -/
theorem applyWebhook_consistent_iff (hf : w.Found env db p)
    (h : applyWebhook env db p w now = .ok step) {after : Contact}
    (ha : step.db.contact w.attempt.contactId = some after) :
    Consistent db w.attempt.contactId w.contact after step.entry ↔
      (w.leftDialing env db p
        || w.outcome.state != .endedNormally
          && retryAllowed env (outcomeDb env db p w now)
            w.attempt.contactId (w.handedContact (p.optsOut env))
            w.campaign w.disconnect
          && (db.attemptByContactAndNumber w.attempt.contactId
            (w.attempt.attemptNumber + 1)).isSome) = false := by
  have hcontact := applyWebhook_contact hf h
  by_cases hend : w.outcome.state = .endedNormally
  · rw [if_pos hend, ha] at hcontact
    obtain ⟨hentry, hafter⟩ := hcontact
    have hstatus : after.status ≠ .dialing ∧ after.status ≠ .retryScheduled := by
      rw [Option.some.inj hafter, AcceptedWebhook.handedContact, hend]
      cases p.optsOut env <;> simp
    refine ⟨fun _ => by simp [AcceptedWebhook.leftDialing, hend], fun _ => ?_⟩
    exact ⟨fun hd => absurd hd hstatus.1,
      fun job due he => (by rw [hentry] at he; cases he),
      fun hw => absurd hw hstatus.2⟩
  · rw [if_neg hend, ha] at hcontact
    obtain ⟨hentry, hafter⟩ := hcontact
    have hafter := Option.some.inj hafter
    rw [hentry, hafter, bne_iff_ne.mpr hend, Bool.true_and]
    cases hretry : retryAllowed env (outcomeDb env db p w now)
        w.attempt.contactId (w.handedContact (p.optsOut env)) w.campaign
        w.disconnect with
    | true =>
        -- the retry is for the next number, so that number must be free
        have hopt : p.optsOut env = false := by
          by_contra hne
          rw [retryAllowed_optsOut (Bool.eq_true_of_not_eq_false hne)] at hretry
          cases hretry
        have hfree : w.leftDialing env db p = false := by
          have hs : (outcomeDb env db p w now).suppressions.isSuppressed env
              w.contact.normalizedPhoneNumber = false := by
            rw [← handedContact_phone (p.optsOut env)]
            simp only [retryAllowed, Bool.and_eq_true, Bool.not_eq_true']
              at hretry
            exact hretry.1.1.2
          rw [outcomeDb_suppressions hopt] at hs
          simp [AcceptedWebhook.leftDialing, hs]
        have hnext : (decideRecovery env (outcomeDb env db p w now)
            ((outcomeDb env db p w now).effectivePolicy env.settings
              (w.handedContact (p.optsOut env)).campaignId)
            w.attempt.contactId w.disconnect).nextAttemptNumber
              = w.attempt.attemptNumber + 1 := by
          refine decideRecovery_next ?_
          simp only [retryAllowed, Bool.and_eq_true] at hretry
          exact hretry.2
        unfold AcceptedWebhook.recovery
        rw [handleDisconnect_retry hretry, hfree, Bool.false_or, Bool.true_and]
        constructor
        · intro hcons
          obtain ⟨-, -, -, hnone⟩ := hcons.scheduled _ _ rfl
          rw [RecoveryJob.new, hnext] at hnone
          rw [hnone]
          rfl
        · intro hnone
          refine ⟨fun hd => (by cases hd), fun job due he => ?_,
            fun _ he => (by cases he)⟩
          obtain ⟨rfl, rfl⟩ := Prod.mk.inj (Option.some.inj he)
          refine ⟨rfl, rfl, rfl, ?_⟩
          rw [RecoveryJob.new, hnext]
          exact Option.isNone_iff_eq_none.mp (by simpa using hnone)
    | false =>
        rw [Bool.false_and, Bool.or_false]
        obtain ⟨hnone, hleft⟩ :
            (w.recovery env db p now).entry = none ∧ _ :=
          handleDisconnect_noRetry hretry
        rw [hnone]
        rcases hleft with ⟨hsame, hsupp⟩ | ⟨hpart, hfree⟩
        · rw [AcceptedWebhook.recovery, hsame]
          constructor
          · intro hcons
            by_contra hne
            obtain ⟨hd, hbefore, -⟩ :=
              leftDialing_handed (Bool.eq_true_of_not_eq_false hne)
            exact hbefore (hcons.dialing hd)
          · intro hleft
            refine ⟨fun hd => ?_, fun job due he => (by cases he),
              fun hw _ => handedContact_waiting _ hw⟩
            obtain ⟨hopt, hfailed, hun⟩ := handedContact_dialing _ hd
            by_contra hbefore
            have hsupp : db.suppressions.isSuppressed env
                w.contact.normalizedPhoneNumber = true := by
              rcases hsupp with hclosed | hsupp
              · rw [hclosed] at hd; cases hd
              · rwa [handedContact_phone, outcomeDb_suppressions hopt] at hsupp
            cases hu : w.unresolved with
            | false => exact hbefore (hun hu)
            | true =>
                simp [AcceptedWebhook.leftDialing, hfailed, hu, hopt, hbefore,
                  hsupp] at hleft
        · rw [AcceptedWebhook.recovery, hpart]
          refine ⟨fun _ => ?_, fun _ => ⟨fun hd => (by cases hd),
            fun job due he => (by cases he), fun hw => (by cases hw)⟩⟩
          by_contra hne
          have hleft := Bool.eq_true_of_not_eq_false hne
          obtain ⟨-, -, hsupp⟩ := leftDialing_handed hleft
          have hopt : p.optsOut env = false := by
            simp only [AcceptedWebhook.leftDialing, Bool.and_eq_true,
              Bool.not_eq_true'] at hleft
            exact hleft.1.1.2
          rw [handedContact_phone, outcomeDb_suppressions hopt, hsupp] at hfree
          cases hfree

/-- **A late outcome leaves a newer attempt alone, exactly when.** A
delivery that is processed leaves the contact of a superseded attempt
consistent with the newer one if and only if it is not one of the
deliveries that go wrong. -/
theorem processDograhWebhook_keepsNewer_iff
    (h : processDograhWebhook env db p now = .ok step) :
    KeepsNewer env db p step ↔ regresses env db p now = false := by
  unfold processDograhWebhook at h
  unfold regresses
  cases hadm : admitWebhook env db p with
  | rejected e => rw [hadm] at h; cases h
  | answered o =>
      rw [hadm] at h
      obtain rfl := Except.ok.inj h
      refine ⟨fun _ => rfl, fun _ => ?_⟩
      intro aid attempt before after _ _ _ hb ha
      obtain rfl := Option.some.inj (hb.symm.trans ha)
      exact ⟨id, fun job due he => (by cases he), fun _ _ => rfl⟩
  | accepted w =>
      rw [hadm] at h
      dsimp only at h ⊢
      have hf := admitWebhook_accepted hadm
      have hspec := applyWebhook_spec hf h
      obtain ⟨after, ha, -⟩ := hspec.contact
      have hiff := applyWebhook_consistent_iff hf h ha
      have hkeeps : KeepsNewer env db p step ↔
          (db.superseded w.attempt = true →
            Consistent db w.attempt.contactId w.contact after step.entry) := by
        constructor
        · intro hk hsup
          exact hk w.aid w.attempt w.contact after hf.aid hf.attempt hsup
            hf.contact ha
        · intro hk aid attempt before after' hp hr hsup hb ha'
          obtain rfl := Option.some.inj (hf.aid.symm.trans hp)
          obtain rfl := Option.some.inj (hf.attempt.symm.trans hr)
          obtain rfl := Option.some.inj (hf.contact.symm.trans hb)
          obtain rfl := Option.some.inj (ha.symm.trans ha')
          exact hk hsup
      rw [hkeeps, hiff]
      cases db.superseded w.attempt <;> simp

end

/-! ### A busy signal after the completed retry -/

def attempt0Text : String := "00000000-0000-0000-0000-000000000000"

def attempt1Text : String := "00000000-0000-0000-0000-000000000001"

/-- The first trigger's answer is lost and no run is found, so attempt 0 is
an ambiguous failure; an hour later attempt 1 is dialed as its retry, and
its call ends normally. -/
def retriedCall : List SystemAct :=
  ([.enqueue 1 (fun _ => 1) quietGate] : List SystemAct) ++ untilClaimed 1 1 ++
    ([.worker 1 .send, .worker 1 (.answer (.transport .readTimeout) 0 true true),
      .worker 1 (.firstLookup (.runs []) true), .worker 1 .settle,
      .tick (3600000000 - 1), .dispatch (.retry (.new 0 1 1 2)) 2 true,
      .read 2 2 noon, .worker 2 (.early quietGate), .worker 2 .acquire,
      .worker 2 .check, .worker 2 (.secondLookup (.runs [])),
      .worker 2 (.gate quietGate ⟨"", none, false⟩ true), .worker 2 .send,
      .worker 2 (.answer (.accepted 502) 0 true true), .worker 2 .settle,
      .service (.dograhWebhook (completionWith attempt1Text "502")) true] :
      List SystemAct)

/-- The run of attempt 0 existed after all, and was busy. -/
def lateBusy : DograhWebhookPayload :=
  { callAttemptId := attempt0Text, workflowRunId := some (.str "501")
    callStatus := some "busy" }

/-- What the busy signal leaves is seen on the contact, its retry and the
attempt numbers in use. -/
def sawRegress (s : System) (step : WebhookStep) : Bool :=
  (s.db.attempt 0).any (fun a => a.contactId == 1 && s.db.superseded a)
    && (s.db.contact 1).any (·.status == .completed)
    && (step.db.contact 1).any (fun c =>
      c.status == .retryScheduled && c.retryAttemptNumber == some 2)
    && step.entry.any (·.1.attemptNumber == 2)
    && (s.db.attemptByContactAndNumber 1 2).isSome
    && retryVerdict dograhEnv step.db (.new 0 1 1 2)
      (s.now + 3600 * second) == .skip

/-- The completed contact waits for attempt number 2 again, which exists;
dispatch drops the entry, and no schedule is left. -/
theorem lateBusy_regresses :
    ∃ s step, runActs (systemStep dograhEnv) twoActive retriedCall = some s ∧
      processDograhWebhook dograhEnv s.db lateBusy s.now = .ok step ∧
      ¬ KeepsNewer dograhEnv s.db lateBusy step ∧
      retryVerdict dograhEnv step.db (.new 0 1 1 2)
        (s.now + 3600 * second) = .skip := by
  have h : (runActs (systemStep dograhEnv) twoActive retriedCall).any
      (fun s => (processDograhWebhook dograhEnv s.db lateBusy
        s.now).toOption.any (sawRegress s)) = true := by
    decide +kernel
  obtain ⟨s, hs, hstep⟩ := (Option.any_eq_true _ _).mp h
  obtain ⟨step, hok, hsaw⟩ := (Option.any_eq_true _ _).mp hstep
  have hok : processDograhWebhook dograhEnv s.db lateBusy s.now = .ok step := by
    cases hp : processDograhWebhook dograhEnv s.db lateBusy s.now with
    | error e => rw [hp] at hok; cases hok
    | ok t => rw [hp] at hok; exact congrArg Except.ok (Option.some.inj hok)
  simp only [sawRegress, Bool.and_eq_true, Option.any_eq_true, beq_iff_eq]
    at hsaw
  obtain ⟨⟨⟨⟨⟨⟨a, ha, hc, hsup⟩, ⟨before, hb, -⟩⟩, ⟨after, haf, -⟩⟩,
    ⟨⟨job, due⟩, hentry, hnum⟩⟩, hexists⟩, hskip⟩ := hsaw
  refine ⟨s, step, hs, hok, fun hkeep => ?_, hskip⟩
  have hcons := hkeep 0 a before after (by decide) ha hsup (by rwa [hc])
    (by rwa [hc])
  obtain ⟨-, -, -, hnone⟩ := hcons.scheduled job due hentry
  rw [hc, hnum] at hnone
  rw [hnone] at hexists
  cases hexists

/-- A completion of the older attempt is processed and regresses
nothing. -/
theorem lateCompletion_keepsNewer :
    ∃ s step, runActs (systemStep dograhEnv) twoActive retriedCall = some s ∧
      processDograhWebhook dograhEnv s.db
        (completionWith attempt0Text "501") s.now = .ok step ∧
      step.outcome = .endedNormally ∧
      KeepsNewer dograhEnv s.db (completionWith attempt0Text "501") step := by
  have h : (runActs (systemStep dograhEnv) twoActive retriedCall).any
      (fun s => (processDograhWebhook dograhEnv s.db
          (completionWith attempt0Text "501") s.now).toOption.any
            (·.outcome == .endedNormally)
        && !regresses dograhEnv s.db (completionWith attempt0Text "501")
          s.now) = true := by
    decide +kernel
  obtain ⟨s, hs, hsaw⟩ := (Option.any_eq_true _ _).mp h
  simp only [Bool.and_eq_true, Bool.not_eq_true', Option.any_eq_true] at hsaw
  obtain ⟨⟨step, hok, hout⟩, hreg⟩ := hsaw
  have hok : processDograhWebhook dograhEnv s.db
      (completionWith attempt0Text "501") s.now = .ok step := by
    cases hp : processDograhWebhook dograhEnv s.db
        (completionWith attempt0Text "501") s.now with
    | error e => rw [hp] at hok; cases hok
    | ok t => rw [hp] at hok; exact congrArg Except.ok (Option.some.inj hok)
  exact ⟨s, step, hs, hok, beq_iff_eq.mp hout,
    (processDograhWebhook_keepsNewer_iff hok).mpr hreg⟩

end CallingAgent
