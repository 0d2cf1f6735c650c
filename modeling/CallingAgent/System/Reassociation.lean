import CallingAgent.Services.Analysis
import CallingAgent.System.LateOutcome

/-!
# Re-association — calls and analyses of a contact that has moved

A trigger sends the identity of its call along, the campaign of the contact
included, and the webhook echoes it. By then a management operation may
have moved the contact to another campaign.
-/

namespace CallingAgent

open Lib

/-- The part of `initial_context` that comes back. -/
structure InitialContext where
  callAttemptId : AttemptId
  contactId : ContactId
  campaignId : CampaignId
  deriving DecidableEq, Repr

/-- The delivery echoes exactly what the trigger sent. -/
structure DograhWebhookPayload.Echoes (env : Env) (p : DograhWebhookPayload)
    (ctx : InitialContext) : Prop where
  attempt : p.callAttemptId = env.uuid.text ctx.callAttemptId
  contact : p.contactId = some (env.uuid.text ctx.contactId)
  campaign : p.campaignId = some (env.uuid.text ctx.campaignId)

/-- The delivery without the campaign it echoes: what is left of the
identity check is the attempt, its contact and its run. -/
def DograhWebhookPayload.withoutCampaign (p : DograhWebhookPayload) :
    DograhWebhookPayload :=
  { p with campaignId := none }

/-- The texts of two campaign ids tell the campaigns apart. -/
def Db.CampaignTextsApart (env : Env) (db : Db) (k : CampaignId) : Prop :=
  ∀ c, (db.campaign c).isSome → env.uuid.text k = env.uuid.text c → k = c

section

variable {env : Env} {db : Db} {p : DograhWebhookPayload}
  {w : AcceptedWebhook} {now : Instant} {step : WebhookStep}

/-- The echoed campaign is read by the identity check only. -/
theorem withoutCampaign_found (hf : w.Found env db p.withoutCampaign)
    (hcamp : ∀ t, p.campaignId = some t →
      t = env.uuid.text w.contact.campaignId) : w.Found env db p where
  fresh := hf.fresh
  aid := hf.aid
  attempt := hf.attempt
  contact := hf.contact
  campaign := hf.campaign
  unresolved := hf.unresolved
  correlated := by
    have h := hf.correlated
    have hno : p.campaignId.any
        (· ≠ env.uuid.text w.contact.campaignId) = false := by
      cases hp : p.campaignId with
      | none => rfl
      | some t => simp [hcamp t hp]
    simp only [validateCorrelation, DograhWebhookPayload.withoutCampaign,
      Option.any_none] at h
    simp only [validateCorrelation, hno]
    exact h
  open_ := hf.open_
  outcome := hf.outcome
  final := hf.final

/-- A delivery that is correlated echoes its contact's campaign, if any. -/
theorem correlated_campaign (hf : w.Found env db p) {t : String}
    (ht : p.campaignId = some t) : t = env.uuid.text w.contact.campaignId := by
  have h := hf.correlated
  unfold validateCorrelation at h
  split at h
  · cases h
  · split at h
    · cases h
    · split at h
      · cases h
      · next hno =>
        rw [ht] at hno
        simpa using hno

/-- An opt-out closes the contact of a processed delivery. -/
theorem applyWebhook_optsOut (hf : w.Found env db p)
    (h : applyWebhook env db p w now = .ok step)
    (ho : p.optsOut env = true) :
    (step.db.contact w.attempt.contactId).map (·.status) = some .closed := by
  have hstatus : (w.handedContact (p.optsOut env)).status = .closed := by
    simp [AcceptedWebhook.handedContact, ho]
  have hc := applyWebhook_contact hf h
  split at hc
  · rw [hc.2]
    exact congrArg some hstatus
  · rw [hc.2]
    have hsame : w.recovery env db p now = terminalize
        (w.handedContact (p.optsOut env)) .suppressed :=
      handleDisconnect_suppressed (.inl hstatus)
    rw [hsame]
    exact congrArg some hstatus

/-- What "applied" says of a processed delivery: its attempt has the
outcome, and an opt-out has closed the contact. -/
def Applied (env : Env) (db : Db) (p : DograhWebhookPayload) (now : Instant)
    (ctx : InitialContext) (step : WebhookStep) : Prop :=
  step.outcome.final = true ∧
    (∃ attempt, db.attempt ctx.callAttemptId = some attempt ∧
      step.db.attempt ctx.callAttemptId = some (endAttempt
        (classifyCallOutcome env p.callStatus p.callDisposition) now
        (identifyRun p (isUnresolvedAmbiguousTrigger db ctx.callAttemptId
          attempt) attempt)) ∧
      (p.optsOut env = true →
        (step.db.contact attempt.contactId).map (·.status) = some .closed))

/-- A delivery that is accepted and goes through is applied. -/
theorem processDograhWebhook_applied {ctx : InitialContext}
    (haid : env.uuid.parse p.callAttemptId = some ctx.callAttemptId)
    (h : processDograhWebhook env db p now = .ok step)
    (hfinal : step.outcome.final = true) :
    Applied env db p now ctx step := by
  unfold processDograhWebhook at h
  cases hadm : admitWebhook env db p with
  | rejected e => rw [hadm] at h; cases h
  | answered o =>
      rw [hadm] at h
      obtain rfl := Except.ok.inj h
      rcases admitWebhook_answered hadm with rfl | rfl <;> cases hfinal
  | accepted w =>
      rw [hadm] at h
      have hf := admitWebhook_accepted hadm
      have hspec := applyWebhook_spec hf h
      obtain hw := Option.some.inj (hf.aid.symm.trans haid)
      refine ⟨hfinal, w.attempt, hw ▸ hf.attempt, ?_, applyWebhook_optsOut hf h⟩
      rw [← hw, hspec.attempt, if_pos rfl, ← hf.outcome, ← hf.unresolved]

/-- **The campaign decides.** A delivery that echoes what its trigger sent,
and that would go through without the campaign it echoes, is applied if and
only if its contact is in the campaign it was triggered for. -/
theorem echoed_applied_iff {ctx : InitialContext} {attempt : CallAttempt}
    {contact : Contact} (hecho : p.Echoes env ctx)
    (hread : env.uuid.parse (env.uuid.text ctx.callAttemptId)
      = some ctx.callAttemptId)
    (hapart : db.CampaignTextsApart env ctx.campaignId)
    (hattempt : db.attempt ctx.callAttemptId = some attempt)
    (hcontact : db.contact attempt.contactId = some contact)
    (h : processDograhWebhook env db p.withoutCampaign now = .ok step)
    (hfinal : step.outcome.final = true) :
    (∃ step', processDograhWebhook env db p now = .ok step' ∧
        Applied env db p now ctx step') ↔
      contact.campaignId = ctx.campaignId := by
  have haid : env.uuid.parse p.callAttemptId = some ctx.callAttemptId := by
    rw [hecho.attempt, hread]
  constructor
  · rintro ⟨step', hok, happ⟩
    obtain ⟨w, hf, -⟩ := processDograhWebhook_final hok happ.1
    have hw := Option.some.inj (hf.aid.symm.trans haid)
    have ha := hf.attempt
    rw [hw, hattempt] at ha
    have hc := hf.contact
    rw [← Option.some.inj ha, hcontact] at hc
    have htext := correlated_campaign hf hecho.campaign
    rw [← Option.some.inj hc] at htext
    refine (hapart contact.campaignId ?_ htext).symm
    have hcamp := hf.campaign
    rw [← Option.some.inj hc] at hcamp
    rw [hcamp]
    rfl
  · intro hsame
    unfold processDograhWebhook at h
    cases hadm : admitWebhook env db p.withoutCampaign with
    | rejected e => rw [hadm] at h; cases h
    | answered o =>
        rw [hadm] at h
        obtain rfl := Except.ok.inj h
        rcases admitWebhook_answered hadm with rfl | rfl <;> cases hfinal
    | accepted w =>
        rw [hadm] at h
        have hf := admitWebhook_accepted hadm
        have hw := Option.some.inj (hf.aid.symm.trans haid)
        have ha := hf.attempt
        rw [hw, hattempt] at ha
        have hc := hf.contact
        rw [← Option.some.inj ha, hcontact] at hc
        have hfound : w.Found env db p := by
          refine withoutCampaign_found hf fun t ht => ?_
          rw [hecho.campaign] at ht
          rw [← Option.some.inj ht, ← Option.some.inj hc, hsame]
        have hok : processDograhWebhook env db p now = .ok step := by
          unfold processDograhWebhook
          rw [admitWebhook_of_found hfound]
          exact h
        exact ⟨step, hok, processDograhWebhook_applied haid hok hfinal⟩

end

/-- An association with another campaign moves the contact. -/
theorem associate_moves {env : Env} {db db' : Db} {c : CampaignId}
    {k : ContactId} {contact : Contact} (hc : db.contact k = some contact)
    (hne : contact.campaignId ≠ c) (h : associate env db c k = .ok db') :
    ∃ number, db' = db.modifyContact k fun x =>
      { x with campaignId := c, status := .pending,
               normalizedPhoneNumber := number } := by
  unfold associate at h
  cases hg : db.campaign c with
  | none => simp [hg] at h
  | some campaign =>
      simp only [hg, hc, if_neg hne] at h
      split at h
      · cases h
      · unfold moveContact at h
        split at h
        · cases h
        · next canonical _ =>
          split at h
          · cases h
          · exact ⟨canonical.e164, (Except.ok.inj h).symm⟩

/-- An association with the contact's own campaign changes nothing. -/
theorem associate_stays {env : Env} {db db' : Db} {c : CampaignId}
    {k : ContactId} {contact : Contact} (hc : db.contact k = some contact)
    (hsame : contact.campaignId = c) (h : associate env db c k = .ok db') :
    db' = db := by
  rcases associate_ok h with rfl | ⟨x, number, hx, -, hne, -, -⟩
  · rfl
  · rw [hc] at hx
    rw [← Option.some.inj hx] at hne
    exact absurd hsame hne

/-- A pending contact's call is not analysed. -/
theorem loadInput_pending {db : Db} {a : CallAnalysis} {contact : Contact}
    (hc : db.contact a.contactId = some contact)
    (hs : contact.status = .pending) (session : AttemptId) :
    loadInput db a ≠ .ok session := by
  intro h
  obtain ⟨attempt, contact', -, hc', -, -, helig⟩ := loadInput_ok h
  obtain rfl := Option.some.inj (hc.symm.trans hc')
  simp [analysisEligible, hs] at helig

/-- **The analysis of a contact that moves is skipped**: one that would
have been read is read after an association if and only if the association
moved nothing. -/
theorem loadInput_associate_iff {env : Env} {db db' : Db} {a : CallAnalysis}
    {c : CampaignId} {session : AttemptId} (h : loadInput db a = .ok session)
    (hassoc : associate env db c a.contactId = .ok db') :
    loadInput db' a = .ok session ↔ a.campaignId = c := by
  obtain ⟨attempt, contact, -, hc, -, hcamp, -⟩ := loadInput_ok h
  by_cases hsame : contact.campaignId = c
  · rw [associate_stays hc hsame hassoc]
    exact ⟨fun _ => hcamp ▸ hsame, fun _ => h⟩
  · obtain ⟨number, rfl⟩ := associate_moves hc hsame hassoc
    refine ⟨fun hload => ?_, fun hk => absurd (hcamp.trans hk) hsame⟩
    have hmoved : (db.modifyContact a.contactId fun x =>
        { x with campaignId := c, status := .pending,
                 normalizedPhoneNumber := number }).contact a.contactId
        = some { contact with campaignId := c, status := .pending,
                              normalizedPhoneNumber := number } := by
      rw [Db.contact_modifyContact, if_pos rfl, hc]
      rfl
    exact absurd hload (loadInput_pending hmoved rfl session)

/-- **Re-association and the outcome of a call, exactly when.** A genuine
completion that would go through but for the campaign it echoes is applied
if and only if its contact is in the campaign it was triggered for; and an
analysis that would be read is read after an association if and only if
that association moved nothing. -/
theorem reassociation_outcome_iff {env : Env} :
    (∀ (db : Db) (p : DograhWebhookPayload) (now : Instant)
      (ctx : InitialContext) (attempt : CallAttempt) (contact : Contact)
      (step : WebhookStep),
      p.Echoes env ctx →
      env.uuid.parse (env.uuid.text ctx.callAttemptId)
        = some ctx.callAttemptId →
      db.CampaignTextsApart env ctx.campaignId →
      db.attempt ctx.callAttemptId = some attempt →
      db.contact attempt.contactId = some contact →
      processDograhWebhook env db p.withoutCampaign now = .ok step →
      step.outcome.final = true →
      ((∃ step', processDograhWebhook env db p now = .ok step' ∧
          Applied env db p now ctx step') ↔
        contact.campaignId = ctx.campaignId)) ∧
    (∀ (db db' : Db) (a : CallAnalysis) (c : CampaignId)
      (session : AttemptId),
      loadInput db a = .ok session →
      associate env db c a.contactId = .ok db' →
      (loadInput db' a = .ok session ↔ a.campaignId = c)) :=
  ⟨fun _ _ _ _ _ _ _ hecho hread hapart ha hc h hf =>
    echoed_applied_iff hecho hread hapart ha hc h hf,
   fun _ _ _ _ _ h hassoc => loadInput_associate_iff h hassoc⟩

/-! ### An opt-out that comes back after a move -/

/-- Attempt 0 is placed as run 501 for campaign 1. -/
def placedCall : List SystemAct :=
  ([.enqueue 1 (fun _ => 1) quietGate] : List SystemAct) ++ untilClaimed 1 1 ++
    ([.worker 1 .send, .worker 1 (.answer (.accepted 501) 0 true true),
      .worker 1 .settle] : List SystemAct)

/-- What its trigger sent. -/
def placedContext : InitialContext := ⟨0, 1, 1⟩

/-- The call ended, and the caller asked not to be called again. -/
def echoedOptOut : DograhWebhookPayload where
  callAttemptId := canonicalUuid.text 0
  contactId := some (canonicalUuid.text 1)
  campaignId := some (canonicalUuid.text 1)
  workflowRunId := some (.str "501")
  callStatus := some "completed"
  callDisposition := some "do_not_call"

/-- The same call without the wish. -/
def echoedCompletion : DograhWebhookPayload :=
  { echoedOptOut with callDisposition := none }

theorem echoedOptOut_echoes : echoedOptOut.Echoes dograhEnv placedContext :=
  ⟨rfl, rfl, rfl⟩

/-- After a move to campaign 2 the genuine delivery is refused, where the
same one without its campaign is processed, and the contact stays pending
and unsuppressed. And an analysis admitted before the move is skipped after
it. -/
theorem movedCall_loses :
    (∃ s, runActs (systemStep dograhEnv) twoActive
        (placedCall ++ [.service (.associate 2 1) true]) = some s ∧
      (processDograhWebhook dograhEnv s.db echoedOptOut s.now).map (·.outcome)
        = .error (.correlation .campaignMismatch) ∧
      (processDograhWebhook dograhEnv s.db echoedOptOut.withoutCampaign
        s.now).map (·.outcome) = .ok .endedNormally ∧
      (s.db.contact 1).map (·.status) = some .pending ∧
      s.db.suppressions.isSuppressed dograhEnv "+919876543210" = false) ∧
    ∃ s, runActs (systemStep dograhEnv) twoActive (placedCall ++
        [.service (.dograhWebhook echoedCompletion) true]) = some s ∧
      loadInput s.db ⟨0, 1, 1, some 0⟩ = .ok 0 ∧
      (associate dograhEnv s.db 2 1).map
          (fun db => loadInput db ⟨0, 1, 1, some 0⟩)
        = .ok (.error .badRelationship) := by
  constructor
  · have h : (runActs (systemStep dograhEnv) twoActive
        (placedCall ++ ([.service (.associate 2 1) true] : List SystemAct))).any
        (fun s => decide ((processDograhWebhook dograhEnv s.db echoedOptOut
              s.now).map (·.outcome)
            = .error (.correlation .campaignMismatch) ∧
          (processDograhWebhook dograhEnv s.db echoedOptOut.withoutCampaign
            s.now).map (·.outcome) = .ok .endedNormally ∧
          (s.db.contact 1).map (·.status) = some .pending ∧
          s.db.suppressions.isSuppressed dograhEnv "+919876543210" = false))
        = true := by
      decide +kernel
    obtain ⟨s, hs, hsaw⟩ := (Option.any_eq_true _ _).mp h
    exact ⟨s, hs, of_decide_eq_true hsaw⟩
  · have h : (runActs (systemStep dograhEnv) twoActive
        (placedCall ++ ([.service (.dograhWebhook echoedCompletion) true] :
          List SystemAct))).any
        (fun s => decide (loadInput s.db ⟨0, 1, 1, some 0⟩ = .ok 0 ∧
          (associate dograhEnv s.db 2 1).map
              (fun db => loadInput db ⟨0, 1, 1, some 0⟩)
            = .ok (.error .badRelationship))) = true := by
      decide +kernel
    obtain ⟨s, hs, hsaw⟩ := (Option.any_eq_true _ _).mp h
    exact ⟨s, hs, of_decide_eq_true hsaw⟩

/-- Without a move the opt-out is applied. -/
theorem placedCall_applied :
    ∃ s step, runActs (systemStep dograhEnv) twoActive placedCall = some s ∧
      processDograhWebhook dograhEnv s.db echoedOptOut s.now = .ok step ∧
      Applied dograhEnv s.db echoedOptOut s.now placedContext step := by
  have h : (runActs (systemStep dograhEnv) twoActive placedCall).any
      (fun s => (processDograhWebhook dograhEnv s.db
          echoedOptOut.withoutCampaign s.now).toOption.any (·.outcome.final)
        && (s.db.attempt 0).any (fun a => a.contactId == 1
          && (s.db.contact 1).any (·.campaignId == 1))
        && decide ((s.db.campaigns.entries.map (·.1)) = [1, 2])) = true := by
    decide +kernel
  obtain ⟨s, hs, hsaw⟩ := (Option.any_eq_true _ _).mp h
  simp only [Bool.and_eq_true, Option.any_eq_true, beq_iff_eq,
    decide_eq_true_eq] at hsaw
  obtain ⟨⟨⟨step, hok, hfinal⟩, attempt, ha, hof, contact, hc, hcamp⟩,
    hkeys⟩ := hsaw
  have hok : processDograhWebhook dograhEnv s.db echoedOptOut.withoutCampaign
      s.now = .ok step := by
    cases hp : processDograhWebhook dograhEnv s.db
        echoedOptOut.withoutCampaign s.now with
    | error e => rw [hp] at hok; cases hok
    | ok t => rw [hp] at hok; exact congrArg Except.ok (Option.some.inj hok)
  have hapart : s.db.CampaignTextsApart dograhEnv placedContext.campaignId := by
    intro c hsome htext
    have hmem : c ∈ s.db.campaigns.entries.map (·.1) := by
      have hkey := AList.lookup_isSome.mp hsome
      simpa [AList.mem_keys, AList.keys, List.keys] using hkey
    rw [hkeys] at hmem
    rcases List.mem_pair.mp hmem with rfl | rfl
    · rfl
    · exact absurd htext (by decide)
  obtain ⟨step', hok', happ⟩ := (reassociation_outcome_iff.1 s.db echoedOptOut
    s.now placedContext attempt contact step echoedOptOut_echoes (by decide)
    hapart ha (hof ▸ hc) hok hfinal).mpr hcamp
  exact ⟨s, step', hs, hok', happ⟩

end CallingAgent
