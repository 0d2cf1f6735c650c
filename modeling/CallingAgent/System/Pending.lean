import CallingAgent.System.Calls
import CallingAgent.System.Closed

/-!
# Pending — whether a waiting contact is owed its first dial

The scan of a campaign, the deferred dials and the settle paths all take a
contact for undialed that is pending and counts no attempt. Three writers
make a contact pending: its creation, the provider halt that gives it back,
and the association with another campaign.
-/

namespace CallingAgent

open Lib

/-! ## The rule -/

/-- No call of the contact is in progress. -/
def Db.Quiet (db : Db) (c : ContactId) : Prop :=
  ∀ a y, db.attempt a = some y → y.contactId = c → y.state.isLive = false

/-- The first dial of the contact is owed: the scan of its campaign selects
it, and a lost first-attempt job of it can be rebuilt. -/
structure Db.OwesDial (db : Db) (c : ContactId) (x : Contact) : Prop where
  count : x.attemptCount = 0
  quiet : db.Quiet c
  selected : c ∈ enqueueCandidates db x.campaignId
  rebuilt : ∀ job : DialJob, job.contactId = c → job.attemptNumber = 1 →
    job.isRecovery = false → rebuildable db job = true

/-! ## The condition -/

/-- A call of the contact is in progress, on another attempt than `a`. -/
def Db.callElsewhere (db : Db) (c : ContactId) (a : Option AttemptId) : Bool :=
  db.attempts.any fun k y => some k != a && y.contactId == c && y.state.isLive

/-- A hold that gives the contact `x` back as pending undoes the only
attempt that it counts, and no other call of it is in progress; another
hold does not meet a contact that is pending by now. -/
def holdFits (db : Db) (c : ContactId) (x : Contact) (h : HoldRecord) : Bool :=
  if h.prior.status = .pending then
    (h.contact.attemptCount != 0 || x.attemptCount == 0)
      && !db.callElsewhere c (some h.aid)
  else x.status != .pending || h.contact.status != h.prior.status

/-- What a run behind its checks has loaded. -/
def Phase.view : Phase → Option DialView
  | .secondGate _ view | .ready view => some view
  | _ => none

/-- An association moves only contacts without an attempt; a hold fits; and
a run that had loaded its contact as dialing does not find it pending. -/
def leavesOwed (env : Env) (s : System) : SystemAct → Bool
  | .service (.associate campaign c) true => (s.db.contact c).all fun x =>
      x.campaignId == campaign
        || x.attemptCount == 0 && !s.db.callElsewhere c none
  | .worker w act => (s.worker w).all fun k =>
      (s.db.contact k.job.contactId).all fun x =>
        (recordedHold env s k act).all (holdFits s.db k.job.contactId x)
          && k.phase.view.all fun view =>
            view.contact.status != .dialing || x.status != .pending
  | _ => true

/-- No run is going on, references are in order, and what is pending was
never called. -/
structure System.AtRest (s : System) : Prop where
  workers : ∀ w, s.worker w = none
  owner : ∀ a y, s.db.attempt a = some y → s.db.HasContact y.contactId
  owned : ∀ c x, s.db.contact c = some x → s.db.Owned x
  ended : ∀ a y, s.db.attempt a = some y → y.Ended
  owed : ∀ c x, s.db.contact c = some x → x.status = .pending →
    x.attemptCount = 0 ∧ s.db.Quiet c

/-! ## The invariant -/

/-- The copies of a pending contact count no attempt. -/
def Phase.CopiesOwed : Phase → Prop
  | .secondGate _ view | .ready view =>
      view.contact.status = .pending → view.contact.attemptCount = 0
  | .claimed _ prior | .sent _ prior _ _ _ =>
      prior.status = .pending → prior.attemptCount = 0
  | _ => True

structure PendingInv (env : Env) (s : System) : Prop where
  order : s.InOrder env
  ended : ∀ a y, s.db.attempt a = some y → y.Ended
  owed : ∀ c x, s.db.contact c = some x → x.status = .pending →
    x.attemptCount = 0 ∧ s.db.Quiet c
  runs : ∀ w k, s.worker w = some k → k.phase.CopiesOwed

section

variable {env : Env} {s s' : System} {act : SystemAct}

theorem System.AtRest.inv (h : s.AtRest) : PendingInv env s where
  order := ⟨h.owner, h.owned, fun w k hk => by rw [h.workers w] at hk; cases hk⟩
  ended := h.ended
  owed := h.owed
  runs w k hk := by
    rw [h.workers w] at hk
    cases hk

/-! ### Attempts -/

theorem CallChange.ended {a : AttemptId} {y y' : CallAttempt}
    (h : CallChange env s a y act y') (hy : y.Ended) : y'.Ended := by
  cases h with
  | same => exact hy
  | service change =>
      cases change with
      | same => exact hy
      | webhook found about row =>
          subst row
          exact ((endAttempt_kept found).ended hy).1
      | connected status found open_ => exact fun ht => (by cases ht)
      | failed => exact fun _ => rfl
      | swept => exact fun _ => rfl
      | ended => exact fun _ => rfl
      | dropped => exact fun _ => rfl
  | worker running change =>
      cases change with
      | same => exact hy
      | reopened phase found state noRun row =>
          rcases row with rfl | ⟨run, -, rfl⟩ <;> exact fun ht => (by cases ht)
      | ran record => exact hy
      | resumed phase held engine => exact fun ht => (by cases ht)
      | native phase engine answer row =>
          unfold nativeAttempt
          split
          · exact fun ht => (by cases ht)
          · exact fun _ => rfl
      | held record about => exact fun _ => rfl
      | failed record about => exact fun _ => rfl

theorem WorkerInsert.ended {k : Worker} {wact : WorkerAct} {y : CallAttempt}
    (h : WorkerInsert env s k wact y) : y.Ended := by
  cases h with
  | claimed => exact fun ht => (by cases ht)
  | native =>
      unfold nativeAttempt
      split
      · exact fun ht => (by cases ht)
      · exact fun _ => rfl

theorem SystemEffect.ended (h : SystemEffect env s act s')
    (hi : ∀ a y, s.db.attempt a = some y → y.Ended) {a : AttemptId}
    {y' : CallAttempt} (hy' : s'.db.attempt a = some y') : y'.Ended := by
  cases hy : s.db.attempt a with
  | some y =>
      obtain ⟨y'', hy'', hch⟩ := h.attempt a y hy
      rw [hy'] at hy''
      cases hy''
      exact hch.ended (hi a y hy)
  | none =>
      obtain ⟨w, k, wact, -, -, -, -, hins⟩ := h.inserted a y' hy hy'
      exact hins.ended

theorem Db.callElsewhere_false {db : Db} {c : ContactId} {a : Option AttemptId}
    (h : db.callElsewhere c a = false) {k : AttemptId} {y : CallAttempt}
    (hy : db.attempt k = some y) (hc : y.contactId = c) (hk : some k ≠ a) :
    y.state.isLive = false := by
  have h := Table.any_eq_false.mp h k y hy
  simpa [hc, hk] using h

/-! ### Contacts -/

theorem handedContact_onward {w : AcceptedWebhook} (optedOut : Bool) :
    w.contact.Onward (w.handedContact optedOut) := by
  unfold AcceptedWebhook.handedContact
  cases optedOut <;> cases w.unresolved <;> cases w.outcome.state <;>
    first
    | exact .refl _
    | exact ⟨rfl, fun h => (by cases h)⟩

theorem leftContact_onward {db : Db} {p : DograhWebhookPayload}
    {w : AcceptedWebhook} {now : Instant} :
    w.contact.Onward (w.leftContact env db p now) := by
  unfold AcceptedWebhook.leftContact
  split
  · exact handedContact_onward _
  · exact (handedContact_onward _).trans handleDisconnect_shape.onward

/-- A status that is written over another copy. -/
theorem flush_notPending {loaded new x : Contact} (hn : new.status = .dialing)
    (h : loaded.status = .dialing → x.status ≠ .pending) :
    (loaded.flush new x).status ≠ .pending := by
  show writeBack loaded.status new.status x.status ≠ .pending
  rcases writeBack_or loaded.status new.status x.status with
    ⟨hw, -⟩ | ⟨hw, he⟩
  · rw [hw, hn]
    decide
  · rw [hw]
    exact h (he.symm.trans hn)

/-- A contact that is pending after a step beside its calls was pending and
uncounted before, or it has been moved. -/
theorem Beside.owed {c : ContactId} {x x' : Contact}
    (h : Beside env s c x act x') (hp : x'.status = .pending)
    (hx : s.db.contact c = some x) (hc : leavesOwed env s act = true)
    (ho : x.status = .pending → x.attemptCount = 0 ∧ s.db.Quiet c) :
    x'.attemptCount = 0 ∧ s.db.Quiet c := by
  cases h with
  | same => exact ho hp
  | moved away =>
      simp only [leavesOwed, hx, Option.all_some, Bool.or_eq_true, beq_iff_eq,
        away, false_or, Bool.and_eq_true, Bool.not_eq_true'] at hc
      exact ⟨hc.1, fun a y hy hyc =>
        Db.callElsewhere_false hc.2 hy hyc (by simp)⟩
  | closed => cases hp
  | erased =>
      unfold scrubContact at hp
      dsimp only at hp
      split at hp <;> cases hp
  | reviewed => cases hp
  | @expired _ view =>
      have hon : x.Onward (view.contact.flush
          { view.contact with status := .completedPartial } x) :=
        flush_onward ⟨rfl, fun h => (by cases h)⟩
      obtain ⟨hcount, hquiet⟩ := ho (hon.pending hp)
      exact ⟨hon.attemptCount.trans hcount, hquiet⟩
  | dispatched change => cases change <;> exact ho hp
  | parked => cases hp

/-- The hold is recorded as failed, and gives back a contact that nobody
else has touched. -/
theorem holdFits_owed {c : ContactId} {x : Contact} {h : HoldRecord}
    (hfits : holdFits s.db c x h = true)
    (hprior : h.prior.status = .pending → h.prior.attemptCount = 0)
    (hp : (h.contact.flush { h.contact with
      status := h.prior.status, attemptCount := h.prior.attemptCount }
        x).status = .pending) :
    (h.contact.flush { h.contact with
        status := h.prior.status, attemptCount := h.prior.attemptCount }
        x).attemptCount = 0 ∧
      ∀ a y, s.db.attempt a = some y → y.contactId = c → a ≠ h.aid →
        y.state.isLive = false := by
  have hp : writeBack h.contact.status h.prior.status x.status = .pending := hp
  show writeBack h.contact.attemptCount h.prior.attemptCount x.attemptCount = 0
    ∧ _
  unfold holdFits at hfits
  split at hfits
  · next hpend =>
    simp only [Bool.and_eq_true, Bool.or_eq_true, bne_iff_ne, beq_iff_eq,
      Bool.not_eq_true'] at hfits
    refine ⟨?_, fun a y hy hyc hne => Db.callElsewhere_false hfits.2 hy hyc
      (by simpa using hne)⟩
    rcases writeBack_or h.contact.attemptCount h.prior.attemptCount
      x.attemptCount with ⟨hw, -⟩ | ⟨hw, he⟩
    · rw [hw]
      exact hprior hpend
    · rw [hw]
      rcases hfits.1 with hne | hz
      · exact absurd (he.symm.trans (hprior hpend)) hne
      · exact hz
  · next hpend =>
    simp only [Bool.or_eq_true, bne_iff_ne] at hfits
    -- the row keeps its own status, which is not pending
    rcases writeBack_or h.contact.status h.prior.status x.status with
      ⟨hw, -⟩ | ⟨hw, he⟩
    · exact absurd (hw.symm.trans hp) hpend
    · rcases hfits with hne | hne
      · exact absurd (hw.symm.trans hp) hne
      · exact absurd he.symm hne

/-- What a run behind its checks makes of its contact is not pending. -/
theorem view_notPending {w : WorkerId} {k : Worker} {wact : WorkerAct}
    {view : DialView} {new x : Contact} (hk : s.worker w = some k)
    (hv : k.phase.view = some view) (hx : s.db.contact k.job.contactId = some x)
    (hc : leavesOwed env s (.worker w wact) = true)
    (hn : new.status = .dialing) :
    (view.contact.flush new x).status ≠ .pending := by
  simp only [leavesOwed, hk, Option.all_some, hx, hv, Bool.and_eq_true,
    Bool.or_eq_true, bne_iff_ne] at hc
  refine flush_notPending hn fun hd => ?_
  rcases hc.2 with h | h
  · exact absurd hd h
  · exact h

/-- The prior of a hold is that of its claim. -/
theorem recordedHold_prior {k : Worker} {wact : WorkerAct}
    {h : HoldRecord} (hk : k.phase.CopiesOwed)
    (hr : recordedHold env s k wact = some h) :
    h.prior.status = .pending → h.prior.attemptCount = 0 := by
  unfold recordedHold at hr
  split at hr
  · split at hr
    · next hphase =>
      obtain ⟨x, -, rfl⟩ := Option.map_eq_some_iff.mp hr
      rw [hphase] at hk
      exact hk
    · cases hr
  · split at hr
    · next hphase _ =>
      cases hr
      rw [hphase] at hk
      exact hk
    · cases hr
  · cases hr

/-- A contact that is pending after a step on its call was pending before,
or is given back by a hold; and the call is over. -/
theorem CallStep.owed {c : ContactId} {a : AttemptId} {x x' : Contact}
    {st : CallAttemptState} (hi : PendingInv env s)
    (h : CallStep env s c a x act x' st) (hp : x'.status = .pending)
    (hx : s.db.contact c = some x) (hc : leavesOwed env s act = true)
    (hmine : ∀ y, s.db.attempt a = some y → y.contactId = c) :
    x'.attemptCount = 0 ∧ st.isLive = false ∧
      ∀ k y, s.db.attempt k = some y → y.contactId = c → k ≠ a →
        y.state.isLive = false := by
  -- a step after which the contact is pending only if it was
  have hon : x.Onward x' → (s.db.Quiet c → st.isLive = false) →
      x'.attemptCount = 0 ∧ st.isLive = false ∧
        ∀ k y, s.db.attempt k = some y → y.contactId = c → k ≠ a →
          y.state.isLive = false := by
    intro hon hst
    obtain ⟨hcount, hquiet⟩ := hi.owed c x hx (hon.pending hp)
    exact ⟨hon.attemptCount.trans hcount, hst hquiet,
      fun k y hy hyc _ => hquiet k y hy hyc⟩
  cases h with
  | @webhook p w found about aid =>
      have hrow : w.contact = x :=
        Option.some.inj (found.contact.symm.trans (about ▸ hx))
      refine hon (hrow ▸ leftContact_onward) fun _ => ?_
      have hwf : w.outcome.WellFormed :=
        found.outcome ▸ classifyCallOutcome_wellFormed env _ _
      rcases hwf.state with hs | hs | hs <;> rw [hs] <;> rfl
  | connected => cases hp
  | failed => exact hon (.refl x) fun _ => rfl
  | swept => cases hp
  | @ended reason pendingPoints =>
      have hp : Conversation.endingStatus reason pendingPoints = .pending := hp
      unfold Conversation.endingStatus at hp
      split at hp
      · cases hp
      · split at hp <;> cases hp
  | dropped attempt about campaign =>
      have hleft := handleDisconnect_shape.onward.pending hp
      cases hleft
  | reopened running about phase =>
      subst about
      exact absurd hp (view_notPending running (by rw [phase]; rfl) hx hc rfl)
  | ran running attempt record =>
      refine hon (.refl x) fun hquiet => hquiet a _ attempt ?_
      exact hmine _ attempt
  | claimed running about phase engine =>
      subst about
      exact absurd hp (view_notPending running (by rw [phase]; rfl) hx hc rfl)
  | placed => cases hp
  | unplaced running about phase =>
      subst about
      exact absurd hp (view_notPending running (by rw [phase]; rfl) hx hc rfl)
  | nativeRecovery running about phase =>
      subst about
      exact absurd (handleDisconnect_shape.onward.pending hp)
        (view_notPending running (by rw [phase]; rfl) hx hc rfl)
  | @held w k wact r running about record aid =>
      subst about aid
      have hfits : holdFits s.db k.job.contactId x r = true := by
        simp only [leavesOwed, running, Option.all_some, hx, record,
          Bool.and_eq_true] at hc
        exact hc.1
      obtain ⟨hcount, hothers⟩ := holdFits_owed hfits
        (recordedHold_prior (hi.runs w k running) record) hp
      exact ⟨hcount, rfl, fun b y hy hyc hne => hothers b y hy hyc hne⟩
  | @recorded w k wact f y campaign running about record aid attempt =>
      refine hon (flush_onward handleDisconnect_shape.onward) fun hquiet => ?_
      have hdead := hquiet a y attempt (hmine y attempt)
      obtain ⟨-, hlive⟩ := (@failAttempt_kept s.now f.loaded y).ended
        (hi.ended a y attempt)
      cases hl : (failAttempt f.loaded s.now y).state.isLive with
      | false => rfl
      | true =>
          rw [hlive hl] at hdead
          cases hdead

theorem PendingInv.step_owed (hi : PendingInv env s)
    (h : systemStep env s act = some s') (hc : leavesOwed env s act = true)
    {c : ContactId} {x' : Contact} (hx' : s'.db.contact c = some x')
    (hp : x'.status = .pending) : x'.attemptCount = 0 ∧ s'.db.Quiet c := by
  have he := systemStep_effect h
  cases hx : s.db.contact c with
  | none =>
      -- a new contact: nothing is about it yet
      obtain ⟨campaign, number, rfl, -⟩ := he.created c x' hx hx'
      refine ⟨rfl, fun a y' hy' hyc => ?_⟩
      have hold : s.db.HasContact y'.contactId := by
        cases hy : s.db.attempt a with
        | some y =>
            obtain ⟨y'', hy'', hch⟩ := he.attempt a y hy
            rw [hy'] at hy''
            cases hy''
            rw [hch.kept.1]
            exact hi.order.owner a y hy
        | none =>
            obtain ⟨w, k, wact, -, hk, -, -, hins⟩ := he.inserted a y' hy hy'
            have hrun := hi.order.runs w k hk
            rw [hins.key.1]
            cases hins with
            | claimed phase =>
                rw [phase] at hrun
                exact hrun.contact
            | native phase =>
                rw [phase] at hrun
                exact hrun.contact
      obtain ⟨x, hx₀⟩ := hold
      rw [hyc, hx] at hx₀
      cases hx₀
  | some x =>
      rcases systemStep_calls hi.order h with ho | ⟨c₀, a, x₀, x₁, y', hw⟩
      · obtain ⟨x'', hx'', hb⟩ := ho.contact c x hx
        rw [hx'] at hx''
        cases hx''
        obtain ⟨hcount, hquiet⟩ := hb.owed hp hx hc (hi.owed c x hx)
        refine ⟨hcount, fun a y hy hyc => ?_⟩
        rw [ho.attempt a] at hy
        exact hquiet a y hy hyc
      · by_cases hcc : c = c₀
        · subst hcc
          have hrow := hw.contact
          rw [hx'] at hrow
          cases hrow
          obtain ⟨hcount, hstate, hothers⟩ :=
            hw.change.owed hi hp hw.before hc hw.mine
          refine ⟨hcount, fun k y hy hyc => ?_⟩
          by_cases hk : k = a
          · subst hk
            rw [hw.attempt] at hy
            cases hy
            exact hstate
          · rw [hw.local_.attempt k hk] at hy
            exact hothers k y hy hyc hk
        · rw [hw.local_.contact c hcc] at hx'
          obtain ⟨hcount, hquiet⟩ := hi.owed c x' hx' hp
          refine ⟨hcount, fun k y hy hyc => ?_⟩
          by_cases hk : k = a
          · subst hk
            rw [hw.attempt] at hy
            cases hy
            exact absurd (hyc.symm.trans hw.owner) hcc
          · rw [hw.local_.attempt k hk] at hy
            exact hquiet k y hy hyc

theorem PendingInv.step_runs (hi : PendingInv env s)
    (h : systemStep env s act = some s') {w : WorkerId} {k : Worker}
    (hk : s'.worker w = some k) : k.phase.CopiesOwed := by
  have hchecked : ∀ {job : DialJob} {view : DialView},
      (dialCheck env s.db job s.now).view = some view →
      view.contact.status = .pending → view.contact.attemptCount = 0 :=
    fun hv hp => (hi.owed _ _ (dialCheck_passed hv).contact hp).1
  rcases systemStep_worker h hk with ⟨hold, -⟩ |
    ⟨m, job, startedAt, rfl, rfl⟩ | ⟨wact, k₀, r, phase, rfl, hk₀, hr, rfl,
      hphase, rfl⟩
  · exact hi.runs w k hold
  · trivial
  · have hp := hi.runs w k₀ hk₀
    cases workerStep_phase hr hphase with
    | cleared => trivial
    | deferring => trivial
    | admitted => trivial
    | settling => trivial
    | secondGate check => exact hchecked (by rw [check]; rfl)
    | ready check => exact hchecked (by rw [check]; rfl)
    | orphan check => trivial
    | passed phase gate =>
        rw [phase] at hp
        exact hp
    | claimed phase engine claim =>
        rw [phase] at hp
        obtain ⟨rfl, -⟩ := claimAttempt_spec claim
        exact hp
    | sent phase row =>
        rw [phase] at hp
        exact hp
    | unsure phase decided => trivial

theorem PendingInv.step (hi : PendingInv env s)
    (h : systemStep env s act = some s') (hc : leavesOwed env s act = true) :
    PendingInv env s' where
  order := hi.order.step h
  ended _ _ hy := (systemStep_effect h).ended hi.ended hy
  owed _ _ hx hp := hi.step_owed h hc hx hp
  runs _ _ hk := hi.step_runs h hk

theorem PendingInv.owes (hi : PendingInv env s) {c : ContactId} {x : Contact}
    (hx : s.db.contact c = some x) (hp : x.status = .pending) :
    s.db.OwesDial c x := by
  obtain ⟨hcount, hquiet⟩ := hi.owed c x hx hp
  have howed : x.owedFirstDial = true := by
    simp [Contact.owedFirstDial, hp, hcount]
  refine ⟨hcount, hquiet, ?_, fun job hj hn hr => ?_⟩
  · unfold enqueueCandidates
    rw [List.mem_insertionSort, List.mem_map]
    refine ⟨⟨c, x⟩, List.mem_filter.mpr ⟨AList.mem_lookup_iff.mp hx, ?_⟩, rfl⟩
    simp [enqueueSelects, howed]
  · simp [rebuildable, hn, hr, hj, hx, howed]

/-- **Pending means owed, under a condition.** In every run from a state at
rest in which an association moves only contacts without an attempt, a hold
that gives a contact back as pending undoes the only attempt it counts while
no other call of it is in progress, and no run claims a pending contact that
it had loaded as dialing: every pending contact counts no attempt, has no
call in progress, and is found by the scan of its campaign and by the settle
paths. -/
theorem run_pendingOwed {s₀ : System} (h₀ : s₀.AtRest)
    (hrun : Run (systemStep env) (fun s act => leavesOwed env s act = true)
      s₀ s) :
    ∀ c x, s.db.contact c = some x → x.status = .pending →
      s.db.OwesDial c x := by
  have hi : PendingInv env s :=
    Run.inv (P := PendingInv env) (fun _ _ _ hi hc hst => hi.step hst hc) hrun
      h₀.inv
  exact fun c x hx hp => hi.owes hx hp

end

/-! ## Moved after an attempt -/

/-- Nobody answers the first call; before the retry is due, the contact is
associated with campaign 2, whose scan then runs. -/
def movedAfterAttempt : List SystemAct :=
  ([.enqueue 1 (fun _ => 1) quietGate] : List SystemAct) ++ untilClaimed 1 1 ++
    ([.worker 1 .send, .worker 1 (.answer (.accepted 501) 0 true true),
      .worker 1 .settle, .service (.dograhWebhook (endReport "no_answer")) true,
      .service (.associate 2 1) true, .enqueue 2 (fun _ => 2) quietGate] :
      List SystemAct)

/-- The contact is pending, with an attempt; the scan has not found it. -/
theorem movedAfterAttempt_stranded :
    ∃ s x, runActs (systemStep dograhEnv) twoActive movedAfterAttempt = some s ∧
      s.db.contact 1 = some x ∧ x.status = .pending ∧ x.attemptCount = 1 ∧
      x.campaignId = 2 ∧ enqueueCandidates s.db 2 = [] ∧
      s.redis.stream.entries.length = 0 ∧ ¬ s.db.OwesDial 1 x := by
  have h : (runActs (systemStep dograhEnv) twoActive movedAfterAttempt).any
      (fun s => (s.db.contact 1).any fun x => decide (x.status = .pending ∧
        x.attemptCount = 1 ∧ x.campaignId = 2 ∧
        enqueueCandidates s.db 2 = [] ∧
        s.redis.stream.entries.length = 0)) = true := by
    decide +kernel
  obtain ⟨s, hs, h⟩ := (Option.any_eq_true _ _).mp h
  obtain ⟨x, hx, h⟩ := (Option.any_eq_true _ _).mp h
  obtain ⟨hp, hcount, hg, hscan, hstream⟩ := of_decide_eq_true h
  refine ⟨s, x, hs, hx, hp, hcount, hg, hscan, hstream, fun ho => ?_⟩
  rw [ho.count] at hcount
  cases hcount

theorem twoActive_atRest : twoActive.AtRest where
  workers _ := rfl
  owner a y hy := by cases hy
  owned c x hx := by
    have hrow : twoActive.db.contact c = if c = 1 then some
        { campaignId := 1, normalizedPhoneNumber := "+919876543210" }
          else none :=
      Table.lookup_insert' _ _ _ _
    rw [hrow] at hx
    split at hx
    · cases hx
      rfl
    · cases hx
  ended a y hy := by cases hy
  owed c x hx hp := by
    have hrow : twoActive.db.contact c = if c = 1 then some
        { campaignId := 1, normalizedPhoneNumber := "+919876543210" }
          else none :=
      Table.lookup_insert' _ _ _ _
    rw [hrow] at hx
    split at hx
    · cases hx
      exact ⟨rfl, fun a y hy => by cases hy⟩
    · cases hx

/-- A contact that is moved before its first attempt, and given back by a
provider halt, is owed its dial. -/
theorem heldAfterMove_owed :
    ∃ s x, runActs (systemStep dograhEnv) twoActive
        ([.service (.associate 2 1) true, .enqueue 2 (fun _ => 1) quietGate]
          ++ untilClaimed 1 1 ++ [.worker 1 (.notConfigured true)]) = some s ∧
      s.db.contact 1 = some x ∧ s.db.OwesDial 1 x := by
  have h : holdsAlong (systemStep dograhEnv) (leavesOwed dograhEnv) twoActive
      (([.service (.associate 2 1) true, .enqueue 2 (fun _ => 1) quietGate] :
        List SystemAct)
        ++ untilClaimed 1 1 ++ ([.worker 1 (.notConfigured true)] :
          List SystemAct)) = true := by
    decide +kernel
  have hend : (runActs (systemStep dograhEnv) twoActive
      (([.service (.associate 2 1) true, .enqueue 2 (fun _ => 1) quietGate] :
        List SystemAct)
        ++ untilClaimed 1 1 ++ ([.worker 1 (.notConfigured true)] :
          List SystemAct))).any
      (fun s => (s.db.contact 1).any (·.status == .pending)) = true := by
    decide +kernel
  obtain ⟨s, hs, hrun⟩ := Run.of_holdsAlong _ _ _ _ h
  rw [hs, Option.any_some] at hend
  obtain ⟨x, hx, hp⟩ := (Option.any_eq_true _ _).mp hend
  exact ⟨s, x, hs, hx, run_pendingOwed twoActive_atRest hrun 1 x hx
    (by simpa using hp)⟩

end CallingAgent
