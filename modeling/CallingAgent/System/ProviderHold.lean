import CallingAgent.System.RetryGate

/-!
# The provider hold — what of a claim it takes back

A claim writes five columns of the contact: its status, its attempt count
and the three that say which retry waits. A hold puts back the first two.
Between the claim and the hold the worker only sends its request; the
other processes do anything.
-/

namespace CallingAgent

open Lib

/-! ## The columns -/

/-- The columns that say which retry waits are the same. -/
structure Contact.SameSchedule (before after : Contact) : Prop where
  nextRetryAt : after.nextRetryAt = before.nextRetryAt
  retryAttemptId : after.retryAttemptId = before.retryAttemptId
  retryAttemptNumber : after.retryAttemptNumber = before.retryAttemptNumber

/-- All five columns a claim writes are the same. -/
structure Contact.Restored (before after : Contact) : Prop
    extends before.SameSchedule after where
  status : after.status = before.status
  attemptCount : after.attemptCount = before.attemptCount

/-- The contact is as it was, for its columns and for a rebuild. -/
structure PutBack (c : ContactId) (before after : Contact) (db db' : Db) :
    Prop extends before.Restored after where
  rebuild : rebuildEntry db' c after = rebuildEntry db c before

/-- No retry waits for the contact. -/
def Contact.Unscheduled (c : Contact) : Prop :=
  c.clearSchedule.SameSchedule c

/-- Without a retry time there is nothing to rebuild. -/
theorem rebuildEntry_none {db : Db} {c : ContactId} {x : Contact}
    (h : x.nextRetryAt = none) : rebuildEntry db c x = none := by
  unfold rebuildEntry
  rw [h]
  split
  · next hd => cases hd
  · rfl

/-! ## From the claim to the hold -/

/-- What the claim remembers of the contact. -/
def Phase.prior : Phase → Option Prior
  | .claimed _ prior | .sent _ prior _ _ _ => some prior
  | _ => none

/-- The worker itself does nothing but send its request. -/
def onlySends (w : WorkerId) (_ : System) (act : SystemAct) : Prop :=
  ∀ a, act = .worker w a → a = .send

/-- A claim that the worker still carries meets `P`. -/
def System.Carries (s : System) (w : WorkerId) (P : DialJob → Prior → Prop) :
    Prop :=
  ∀ x, s.worker w = some x → ∀ p, x.phase.prior = some p → P x.job p

section

variable {env : Env} {s s' : System} {w : WorkerId} {x : Worker}
  {P : DialJob → Prior → Prop}

/-- Sending keeps the claim. -/
theorem sendStep_prior {aid : AttemptId} {p q : Prior} {phase : Phase}
    (h : (sendStep s x aid p).phase = some phase)
    (hq : phase.prior = some q) : q = p := by
  unfold sendStep at h
  split at h
  · cases h
  · cases h
    exact (Option.some.inj hq).symm

/-- Whatever the others do, the claim of the worker stays what it is. -/
theorem System.Carries.step {act : SystemAct} (hi : s.Carries w P)
    (hc : onlySends w s act) (h : systemStep env s act = some s') :
    s'.Carries w P := by
  intro y hy p hp
  rcases systemStep_worker h hy with ⟨hold, -⟩ | ⟨m, job, t, rfl, rfl⟩ |
    ⟨wact, k, r, phase, rfl, hk, hr, rfl, hphase, rfl⟩
  · exact hi y hold p hp
  · cases hp
  · cases hc wact rfl
    cases hk' : k.phase with
    | claimed aid q =>
        simp only [workerStep, hk', Option.some.injEq] at hr
        subst hr
        have hq : p = q := sendStep_prior hphase hp
        exact hi k hk p (by rw [hk', hq]; rfl)
    | _ => simp [workerStep, hk'] at hr

/-- A gate step that leaves a claim to carry has made it. -/
theorem gateStep_claims {view : DialView} {reads : GateReads}
    {native : NativeAnswer} {commits : Bool} {phase : Phase} {p : Prior}
    (h : (gateStep env s x view reads native commits).phase = some phase)
    (hp : phase.prior = some p) :
    ∃ aid db, claimAttempt env s.db x.job view x.startedAt s.now
        = .claimed aid p db ∧
      (gateStep env s x view reads native commits).db = db := by
  unfold gateStep at h ⊢
  split at h
  · cases h
  · cases h
    cases hp
  · split at h
    · cases h
      cases hp
    · next aid q db hclaim =>
      split at h
      · cases h
        cases hp
        exact ⟨aid, db, hclaim, rfl⟩
      · unfold nativeStep at h
        split at h
        · cases h
        · cases commits with
          | true => cases h; cases hp
          | false => cases h

/-- What a hold leaves of the contact. -/
theorem hold_step {act : WorkerAct} {h : HoldRecord} {r : WorkerStep}
    (hr : recordedHold env s x act = some h)
    (hstep : workerStep env s x act = some r) :
    r.db = holdForProviderHalt s.db h.aid x.job.contactId h.contact h.prior
      h.txStart s.now ∧ x.phase.prior = some h.prior := by
  unfold recordedHold at hr
  split at hr
  · split at hr
    · next aid prior hp =>
      obtain ⟨c, hc, rfl⟩ := Option.map_eq_some_iff.mp hr
      simp only [workerStep, hp, Option.some.injEq] at hstep
      subst hstep
      refine ⟨?_, by rw [hp]; rfl⟩
      simp [notConfiguredStep, hc, System.finish]
    · cases hr
  · next response streak _ =>
    split at hr
    · next aid prior c sentAt request category hp hd =>
      cases hr
      simp only [workerStep, hp] at hstep
      split at hstep
      · cases hstep
        refine ⟨?_, by rw [hp]; rfl⟩
        simp [answerStep, hd, System.finish]
      · cases hstep
    · cases hr
  · cases hr

/-- The hold never writes the columns of the schedule. -/
theorem HoldRecord.contact_after (h : HoldRecord) {db : Db} {c : ContactId}
    {cur : Contact} (now : Instant) (hc : db.contact c = some cur) :
    ∃ after, (holdForProviderHalt db h.aid c h.contact h.prior h.txStart
        now).contact c = some after ∧ cur.SameSchedule after ∧
      (h.contact = cur → after = { cur with
        status := h.prior.status, attemptCount := h.prior.attemptCount }) := by
  refine ⟨h.contact.flush { h.contact with
    status := h.prior.status, attemptCount := h.prior.attemptCount } cur,
    ?_, ?_, ?_⟩
  · show (Db.modifyContact _ _ _).contact _ = _
    rw [Db.contact_modify_self, (Db.logEvent_frame ..).1,
      (Db.modifyAttempt_frame ..).1, hc]
    rfl
  · constructor <;> exact writeBack_clean _ _
  · rintro rfl
    exact Contact.flush_fresh _ _

/-- What the claim and the hold make of an undisturbed row. -/
theorem restored_iff {before : Contact} {created : Bool} {c : ContactId}
    {db db' : Db} :
    PutBack c before { claimContact created before with
        status := before.status, attemptCount := before.attemptCount } db db' ↔
      before.Unscheduled := by
  constructor
  · intro h
    exact ⟨h.nextRetryAt.symm, h.retryAttemptId.symm, h.retryAttemptNumber.symm⟩
  · intro h
    have hnext : before.nextRetryAt = none := h.nextRetryAt
    exact
      { nextRetryAt := hnext.symm
        retryAttemptId := h.retryAttemptId.symm
        retryAttemptNumber := h.retryAttemptNumber.symm
        status := rfl
        attemptCount := rfl
        rebuild := by rw [rebuildEntry_none hnext, rebuildEntry_none rfl] }

/-- **What a hold takes back.** Between the claim of a worker and its hold
anything may happen; the columns of the schedule stay as the hold finds
them. Where nobody else writes the contact, it is put back exactly if no
retry waited for it. -/
theorem hold_restores_iff {s₀ s₁ s₂ s₃ : System} {x₀ x₂ : Worker}
    {view : DialView} {reads : GateReads} {native : NativeAnswer}
    {commits : Bool} {act : WorkerAct} {h : HoldRecord} {before cur : Contact}
    (hx₀ : s₀.worker w = some x₀) (hp₀ : x₀.phase = .ready view)
    (hbefore : s₀.db.contact x₀.job.contactId = some before)
    (hclaim : systemStep env s₀ (.worker w (.gate reads native commits))
      = some s₁)
    (hrun : Run (systemStep env) (onlySends w) s₁ s₂)
    (hx₂ : s₂.worker w = some x₂) (hh : recordedHold env s₂ x₂ act = some h)
    (hcur : s₂.db.contact x₀.job.contactId = some cur)
    (hhold : systemStep env s₂ (.worker w act) = some s₃) :
    ∃ after, s₃.db.contact x₀.job.contactId = some after ∧
      cur.SameSchedule after ∧
      (view.contact = before → s₁.db.contact x₀.job.contactId = some cur →
        h.contact = cur →
        (PutBack x₀.job.contactId before after s₀.db s₃.db ↔
          before.Unscheduled)) := by
  -- the gate step has made the claim that the hold takes back
  have hcarries : s₁.Carries w fun job p => job = x₀.job ∧
      p = ⟨view.contact.status, view.contact.attemptCount⟩ ∧
      ∃ created, s₁.db.contact x₀.job.contactId
        = some (view.contact.flush (claimContact created view.contact)
          before) := by
    simp only [systemStep, hx₀, Option.bind_some, workerStep, hp₀,
      Option.map_some, Option.some.injEq] at hclaim
    subst hclaim
    intro y hy p hp
    rw [System.worker_advance, if_pos rfl] at hy
    obtain ⟨phase, hphase, rfl⟩ := Option.map_eq_some_iff.mp hy
    obtain ⟨aid, db, hmade, hdb⟩ := gateStep_claims hphase hp
    obtain ⟨hprior, created, spec⟩ := claimAttempt_spec hmade
    refine ⟨rfl, hprior, created, ?_⟩
    show (gateStep env s₀ x₀ view reads native commits).db.contact _ = _
    rw [hdb, spec.contact, hbefore]
    rfl
  obtain ⟨r, hr, rfl⟩ : ∃ r, workerStep env s₂ x₂ act = some r ∧
      s₂.advance w x₂ r = s₃ := by
    simpa only [systemStep, hx₂, Option.bind_some, Option.map_eq_some_iff]
      using hhold
  obtain ⟨hdb, hprior⟩ := hold_step hh hr
  obtain ⟨hjob, hp, created, hclaimed⟩ :=
    hrun.inv (fun _ _ _ => System.Carries.step) hcarries x₂ hx₂ _ hprior
  obtain ⟨after, hafter, hsame, hback⟩ := h.contact_after s₂.now hcur
  refine ⟨after, ?_, hsame, fun hview hkept hcopy => ?_⟩
  · show r.db.contact _ = _
    rw [hdb, hjob, hafter]
  · subst hview
    rw [hclaimed, Contact.flush_fresh] at hkept
    cases hkept
    rw [hback hcopy, hp]
    exact restored_iff

end

/-! ## A retry that is held -/

/-- The claim of worker 2 after the lookup found no run. -/
def claimSecond : SystemAct :=
  .worker 2 (.gate quietGate ⟨"", none, false⟩ true)

/-- The provider answers the trigger of worker 2 with 401. -/
def secondRefused : SystemAct :=
  .worker 2 (.answer (.http 401 none) 0 true true)

/-- The response to the first call of a contact is lost; its retry is
claimed and sent, and the provider refuses the credentials. The hold leaves
the contact waiting for a retry that no column names any more, and the
rebuild has nothing to restore. -/
theorem heldRetry_lost :
    ∃ s₀ s₁ s₂ s₃ before after,
      runActs (systemStep dograhEnv) twoActive
        (gateReached ++ [.worker 2 (.secondLookup (.runs []))]) = some s₀ ∧
      s₀.db.contact 1 = some before ∧ before.status = .retryScheduled ∧
      systemStep dograhEnv s₀ claimSecond = some s₁ ∧
      systemStep dograhEnv s₁ (.worker 2 .send) = some s₂ ∧
      systemStep dograhEnv s₂ secondRefused = some s₃ ∧
      s₃.db.contact 1 = some after ∧ after.status = .retryScheduled ∧
      ¬ before.Restored after ∧
      (rebuildEntry s₀.db 1 before).isSome = true ∧
      rebuildEntry s₃.db 1 after = none := by
  have h : (runActs (systemStep dograhEnv) twoActive
      (gateReached ++ ([.worker 2 (.secondLookup (.runs []))] :
        List SystemAct))).any (fun s₀ =>
        (s₀.db.contact 1).any (fun x => x.status == .retryScheduled
          && x.nextRetryAt.isSome && (rebuildEntry s₀.db 1 x).isSome)
        && (runActs (systemStep dograhEnv) s₀
          [claimSecond, .worker 2 .send, secondRefused]).any fun s₃ =>
            (s₃.db.contact 1).any fun x =>
              x.status == .retryScheduled && x.nextRetryAt.isNone) = true := by
    decide +kernel
  simp only [Option.any_eq_true, Bool.and_eq_true, beq_iff_eq,
    Option.isSome_iff_exists, Option.isNone_iff_eq_none] at h
  obtain ⟨s₀, hs₀, ⟨before, hb, ⟨hstatus, due, hdue⟩, hentry⟩, s₃, hs₃, after,
    ha, hstatus', hnone⟩ := h
  obtain ⟨s₁, hs₁, hs₃⟩ := Option.bind_eq_some_iff.mp hs₃
  obtain ⟨s₂, hs₂, hs₃⟩ := Option.bind_eq_some_iff.mp hs₃
  obtain ⟨s₃', hs₃, hlast⟩ := Option.bind_eq_some_iff.mp hs₃
  cases hlast
  refine ⟨s₀, s₁, s₂, s₃, before, after, hs₀, hb, hstatus, hs₁, hs₂, hs₃, ha,
    hstatus', fun hr => ?_, Option.isSome_iff_exists.mpr hentry,
    rebuildEntry_none hnone⟩
  have hlost := hr.nextRetryAt
  rw [hnone, hdue] at hlost
  cases hlost

/-- A first attempt past its checks. -/
def firstReady : Worker where
  message := 1
  job := { campaignId := 1, contactId := 1, attemptNumber := 1 }
  startedAt := noon
  phase := .ready
    { contact := { campaignId := 1, normalizedPhoneNumber := "+919876543210" }
      held := none }

/-- A first attempt that is held is put back. -/
theorem firstHold_restored :
    ∃ s₀ s₁ s₃ before after, s₀.worker 1 = some firstReady ∧
      s₀.db.contact 1 = some before ∧
      systemStep dograhEnv s₀
        (.worker 1 (.gate quietGate ⟨"", none, false⟩ true)) = some s₁ ∧
      systemStep dograhEnv s₁ (.worker 1 (.notConfigured true)) = some s₃ ∧
      s₃.db.contact 1 = some after ∧ PutBack 1 before after s₀.db s₃.db := by
  let s₀ : System :=
    { twoActive with workers := AList.insert 1 firstReady ∅ }
  have h : (systemStep dograhEnv s₀
      (.worker 1 (.gate quietGate ⟨"", none, false⟩ true))).any (fun s₁ =>
        (s₁.db.contact 1).isSome && (s₁.worker 1).any (fun x =>
          x.job.contactId == 1
            && (recordedHold dograhEnv s₁ x (.notConfigured true)).isSome)
        && (systemStep dograhEnv s₁ (.worker 1 (.notConfigured true))).isSome)
      = true := by
    decide +kernel
  simp only [Option.any_eq_true, Bool.and_eq_true, beq_iff_eq,
    Option.isSome_iff_exists] at h
  obtain ⟨s₁, hs₁, ⟨⟨cur, hcur⟩, x, hx, hjob, hold, hh⟩, s₃, hs₃⟩ := h
  have hready : s₀.worker 1 = some firstReady := rfl
  obtain ⟨after, ha, -, hback⟩ :=
    hold_restores_iff hready rfl rfl hs₁ .refl hx hh hcur hs₃
  have hcopy : hold.contact = cur := by
    simp only [recordedHold] at hh
    split at hh
    · rw [hjob, hcur] at hh
      cases hh
      rfl
    · cases hh
  exact ⟨s₀, s₁, s₃, _, after, hready, rfl, hs₁, hs₃, ha,
    (hback rfl hcur hcopy).mpr ⟨rfl, rfl, rfl⟩⟩

end CallingAgent
