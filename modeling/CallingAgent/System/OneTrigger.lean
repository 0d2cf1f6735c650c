import CallingAgent.System.Triggers

/-!
# One trigger — how many requests an attempt can have out

A trigger has no idempotency key at the provider, so the dialer claims the
attempt row before the request and never requests again on a claimed row,
unless the row is held: its last request ended in a definite no-call.
Two runs that find the same row held both resume it. What keeps them apart
is the lease, and the lease knows the job's campaign as well: the jobs of
two campaigns for one contact and number have different leases.
-/

namespace CallingAgent

open Lib

section

variable {env : Env} {s s' : System} {w : WorkerId} {x : Worker}

/-! ## The steps of a worker -/

theorem TriggerInv.early (h : TriggerInv s) (hx : s.worker w = some x)
    (reads : GateReads) : TriggerInv (s.advance w x (earlyStep env s x reads)) := by
  unfold earlyStep
  split
  · split
    · exact h.release hx (.refl _) rfl fun p hp => by cases hp; rfl
    · split
      · exact h.release hx (.refl _) rfl fun p hp => by cases hp
      · exact h.release hx (.refl _) rfl fun p hp => by cases hp; rfl
      · exact h.release hx (.refl _) rfl fun p hp => by cases hp; rfl
  · exact h.release hx (.refl _) rfl fun p hp => by cases hp

theorem TriggerInv.acquire (h : TriggerInv s) (hx : s.worker w = some x)
    (hd : s.dialing x.job.contactId x.job.attemptNumber = false) :
    TriggerInv (s.advance w x (s.stay (some .admitted))) := by
  refine h.advance hx (fun a => .inl ?_) h.unique (fun _ _ _ => .inr hd)
    fun p hp => ?_
  · refine TriggersKept.of_rows ?_ ?_ a
    · exact .refl s.db
    · rfl
  · cases hp
    trivial

/-- A held row has no open request. -/
theorem TriggerInv.noOpen_of_held (h : TriggerInv s) {a : AttemptId}
    (hh : s.db.held a = true) : s.NoOpen a := by
  intro i r hr ha
  cases ho : r.noCall with
  | true => rfl
  | false =>
      rw [(h.attempts a).notHeld i r hr ha ho] at hh
      cases hh

/-- What the checks load is sound. -/
theorem TriggerInv.view_sound (h : TriggerInv s) {view : DialView}
    (hv : view.Passed env s.db x.job s.now) (a : AttemptId)
    (ha : view.held = some a) :
    s.db.RowOf a x.job.contactId x.job.attemptNumber ∧ s.NoOpen a := by
  obtain ⟨hfind, y, hy, hheld⟩ := hv.held a ha
  refine ⟨Db.attemptByContactAndNumber_some hfind, h.noOpen_of_held ?_⟩
  simp [Db.held, hy, hheld]

theorem dialCheck_orphan {db : Db} {job : DialJob} {now : Instant}
    {aid : AttemptId} {a : CallAttempt} {contact : Contact}
    (h : dialCheck env db job now = .orphan aid a contact) :
    db.RowOf aid job.contactId job.attemptNumber := by
  have hnot : ∀ campaign view, checkEligible env db job campaign view now
      ≠ .orphan aid a contact := by
    intro campaign view he
    unfold checkEligible checkPrevious at he
    grind
  unfold dialCheck at h
  split at h
  · split at h
    · exact absurd h (hnot _ _)
    · next aid' hfind =>
      split at h
      · exact absurd h (hnot _ _)
      · have haid : aid' = aid := by
          unfold checkUnresolvedClaim at h
          grind
        exact haid ▸ Db.attemptByContactAndNumber_some hfind
  · cases h

theorem TriggerInv.check (h : TriggerInv s) (hx : s.worker w = some x)
    (hl : x.phase.holdsLease = true) :
    TriggerInv (s.advance w x (checkStep env s x)) := by
  unfold checkStep
  split
  · exact h.release hx (.refl _) rfl fun p hp => by cases hp; rfl
  · exact h.release hx (.refl _) rfl fun p hp => by cases hp
  · next horphan =>
    refine h.calm hx (.refl _) rfl (fun _ _ _ => hl) fun p hp => ?_
    cases hp
    exact ⟨dialCheck_orphan horphan, by decide, fun hne => absurd rfl hne⟩
  · next view hcheck =>
    refine h.calm hx (.refl _) rfl (fun _ _ _ => hl) fun p hp => ?_
    cases hp
    exact fun a ha => h.view_sound
      (dialCheck_passed (by rw [hcheck]; rfl)) a ha
  · next view hcheck =>
    refine h.calm hx (.refl _) rfl (fun _ _ _ => hl) fun p hp => ?_
    cases hp
    exact fun a ha => h.view_sound
      (dialCheck_passed (by rw [hcheck]; rfl)) a ha

theorem deferOrExpire_rows {db : Db} {previous : AttemptId} {c : ContactId}
    {contact : Contact} :
    RowsKept db (deferOrExpire env db previous c contact).2 := by
  unfold deferOrExpire
  split
  · exact .of_eq (fun _ => rfl) rfl
  · exact .of_eq (fun _ => rfl) rfl

/-- The second gate reopens the previous attempt at most. -/
theorem secondGate_rows {db db' : Db} {job : DialJob} {previous : AttemptId}
    {view : DialView} {result : LookupResult} {txStart : Instant}
    {o : JobOutcome}
    (h : secondGate env db job previous view result txStart = .stop o db') :
    RowsKept db db' := by
  unfold secondGate at h
  split at h
  · cases h
    exact deferOrExpire_rows
  · split at h
    · cases h
    · split at h
      · cases h
        exact .refl db
      · split at h
        · cases h
        · dsimp only at h
          split at h
          · cases h
          · next hres =>
            cases h
            have hreopen : RowsKept db ((db.modifyAttempt previous
                reopenAttempt).modifyContact job.contactId
                (view.contact.flush (reopenContact view.contact))) :=
              (RowsKept.initiate (a := previous) (f := reopenAttempt)
                fun _ => ⟨rfl, rfl, rfl⟩).trans (.of_eq (fun _ => rfl) rfl)
            exact hreopen.trans (resolveFoundRuns_onward hres).attempts.rows

theorem TriggerInv.secondLookup (h : TriggerInv s) (hx : s.worker w = some x)
    {previous : AttemptId} {view : DialView}
    (hp : x.phase = .secondGate previous view) (result : LookupResult) :
    TriggerInv (s.advance w x
      (secondLookupStep env s x previous view result)) := by
  have hs := h.sound w x hx
  rw [hp] at hs
  unfold secondLookupStep
  split
  · next hgate =>
    exact h.release hx (secondGate_rows hgate) rfl
      fun p hp => by cases hp; rfl
  · exact h.release hx (.refl _) rfl fun p hp => by cases hp
  · refine h.calm hx (.refl _) rfl (fun _ _ _ => by rw [hp]; rfl)
      fun p hp => ?_
    cases hp
    exact hs

/-! ### The claim -/

/-- The held row is resumed: claimed, and not held any more. -/
theorem resume_rows (db : Db) (a : AttemptId) (c : ContactId)
    (f : Contact → Contact) (now t : Instant) :
    RowsKept db (((db.modifyAttempt a (resumeAttempt now)).logEvent a
      resumedEventType t).modifyContact c f) := by
  have hresume : RowsKept db (db.modifyAttempt a (resumeAttempt now)) :=
    .initiate fun _ => ⟨rfl, rfl, rfl⟩
  have hlog : RowsKept (db.modifyAttempt a (resumeAttempt now))
      ((db.modifyAttempt a (resumeAttempt now)).logEvent a resumedEventType t) :=
    (AttemptsKept.log (by decide)).rows
  exact (hresume.trans hlog).trans (.of_eq (fun _ => rfl) rfl)

/-- A row that is initiated is not held. -/
theorem not_held_of_initiated {db : Db} {a : AttemptId} {y : CallAttempt}
    (hy : db.attempt a = some y) (hi : y.state = .initiated) :
    db.held a = false := by
  cases hh : db.held a with
  | false => rfl
  | true =>
      obtain ⟨z, hz, _, hst, _⟩ := Db.held_iff.mp hh
      rw [hy] at hz
      cases hz
      rw [hi] at hst
      cases hst

/-- A fresh row takes nothing from the others. -/
theorem insert_kept {s s' : System} (row : CallAttempt) (c : ContactId)
    (f : Contact → Contact) (hi : row.state = .initiated)
    (hdb : s'.db = (s.db.insertAttempt row).modifyContact c f)
    (hr : s'.requests = s.requests) (a : AttemptId) :
    TriggersKept s s' a where
  row c n hrow := by
    obtain ⟨y, hy, hc, hn⟩ := hrow
    have hne : a ≠ s.db.attempts.nextKey := (Table.lt_nextKey hy).ne
    refine ⟨y, ?_, hc, hn⟩
    rw [hdb, (Db.modifyContact_frame ..).2.1, Db.attempt_insertAttempt,
      if_neg hne]
    exact hy
  held hh := by
    rw [hdb] at hh
    rw [Db.held_iff] at hh ⊢
    obtain ⟨y, hy, hn, hst, hl⟩ := hh
    rw [(Db.modifyContact_frame ..).2.1, Db.attempt_insertAttempt] at hy
    by_cases ha : a = s.db.attempts.nextKey
    · rw [if_pos ha] at hy
      cases hy
      rw [hi] at hst
      cases hst
    · rw [if_neg ha] at hy
      exact ⟨y, hy, hn, hst, hl⟩
  holds e he _ _ := by
    rw [hdb] at he
    exact he
  new i r hi _ := by
    rw [System.request, ← hr]
    exact hi
  old i r hi _ := by
    rw [System.request, hr]
    exact hi

/-- A row inserted where the constraint finds none. -/
theorem insert_unique {db : Db} {row : CallAttempt}
    (hu : db.UniqueAttempts)
    (hn : db.attemptByContactAndNumber row.contactId row.attemptNumber = none) :
    (db.insertAttempt row).UniqueAttempts := by
  have hfree := Db.attemptByContactAndNumber_none.mp hn
  intro a b y z hy hz hc hnum
  rw [Db.attempt_insertAttempt] at hy hz
  split at hy
  · next ha =>
    split at hz
    · next hb => rw [ha, hb]
    · cases hy
      exact absurd hnum.symm (hfree b z hz hc.symm)
  · split at hz
    · cases hz
      exact absurd hnum (hfree a y hy hc)
    · exact hu a b y z hy hz hc hnum

theorem TriggerInv.gate (h : TriggerInv s) (hx : s.worker w = some x)
    (hengine : env.settings.callingEngine = .dograh) {view : DialView}
    (hp : x.phase = .ready view) (reads : GateReads) (native : NativeAnswer)
    (commits : Bool) :
    TriggerInv (s.advance w x
      (gateStep env s x view reads native commits)) := by
  have hs := h.sound w x hx
  rw [hp] at hs
  have hlease : x.phase.holdsLease = true := by rw [hp]; rfl
  unfold gateStep
  split
  · exact h.release hx (.refl _) rfl fun p hp => by cases hp
  · exact h.release hx (.refl _) rfl fun p hp => by cases hp; rfl
  · split
    · exact h.release hx (.refl _) rfl fun p hp => by cases hp; rfl
    · next a prior db hclaim =>
      rw [hengine]
      dsimp only
      unfold claimAttempt at hclaim
      dsimp only at hclaim
      split at hclaim
      · next a' hheld =>
        cases hclaim
        obtain ⟨hrow, hno⟩ := hs a hheld
        have hk := resume_rows s.db a x.job.contactId
          (view.contact.flush (claimContact true view.contact)) s.now
          x.startedAt
        refine h.calm hx hk rfl (fun _ _ _ => hlease) fun p hp => ?_
        cases hp
        have hrow' := hk.row a _ _ hrow
        obtain ⟨y, hy, _, _⟩ := hrow
        refine ⟨hrow', hno, not_held_of_initiated (y :=
          resumeAttempt s.now y) ?_ rfl⟩
        show (((s.db.modifyAttempt a (resumeAttempt s.now)).logEvent a
          resumedEventType x.startedAt).modifyContact _ _).attempt a = _
        simp [Db.attempt_modifyAttempt, hy]
      · split at hclaim
        · -- the row is there: under this engine the claim is lost
          rw [hengine] at hclaim
          simp at hclaim
        · next hfree =>
          cases hclaim
          refine h.advance hx (fun a => .inl ?_) ?_
            (fun _ _ _ => .inl hlease) fun p hp => ?_
          · refine insert_kept
              { contactId := x.job.contactId,
                attemptNumber := x.job.attemptNumber,
                state := .initiated, startedAt := x.startedAt }
              x.job.contactId
              (view.contact.flush (claimContact true view.contact))
              ?_ ?_ ?_ a
            · rfl
            · rfl
            · rfl
          · exact insert_unique h.unique hfree
          · cases hp
            have hnew : ((s.db.insertAttempt
                { contactId := x.job.contactId,
                  attemptNumber := x.job.attemptNumber, state := .initiated,
                  startedAt := x.startedAt }).modifyContact x.job.contactId
                (view.contact.flush (claimContact true view.contact))).attempt
                s.db.attempts.nextKey = some _ :=
              (Db.attempt_insertAttempt ..).trans (if_pos rfl)
            refine ⟨⟨_, hnew, rfl, rfl⟩, fun i q hq hqa => ?_,
              not_held_of_initiated hnew rfl⟩
            -- a request has a row, and this one is new
            obtain ⟨y, hy, _⟩ := (h.attempts _).requestRow i q hq hqa
            exact absurd (Table.lt_nextKey hy) (lt_irrefl _)

/-! ### The hold -/

/-- An attempt without an open request. -/
theorem AttemptInv.of_noOpen {s : System} {a : AttemptId} {c : ContactId}
    {n : Nat} (hrow : s.db.RowOf a c n) (hby : s.db.HoldsBy a s.now)
    (hreq : ∀ i r, s.request i = some r → r.attemptId = a →
      s.db.RowOf a r.contactId r.attemptNumber)
    (hno : s.NoOpen a) : AttemptInv s a where
  holdRow e _ _ _ := by
    obtain ⟨y, hy, _⟩ := hrow
    rw [hy]
    rfl
  holdBy := hby
  requestRow := hreq
  single i j r q hr _ ha _ ho _ := by
    rw [hno i r hr ha] at ho
    cases ho
  notHeld i r hr ha ho := by
    rw [hno i r hr ha] at ho
    cases ho

section Hold

variable {db : Db} {a b : AttemptId} {c : ContactId} {contact : Contact}
  {prior : Prior} {t now : Instant}

theorem attempt_hold :
    (holdForProviderHalt db a c contact prior t now).attempt b =
      if b = a then (db.attempt b).map (failAttempt none now)
      else db.attempt b :=
  Db.attempt_modifyAttempt ..

theorem rowOf_hold {k : ContactId} {n : Nat} (h : db.RowOf b k n) :
    (holdForProviderHalt db a c contact prior t now).RowOf b k n := by
  obtain ⟨y, hy, hc, hn⟩ := h
  unfold Db.RowOf
  rw [attempt_hold, hy]
  by_cases hb : b = a
  · rw [if_pos hb]
    exact ⟨_, rfl, hc, hn⟩
  · rw [if_neg hb]
    exact ⟨y, rfl, hc, hn⟩

theorem unique_hold (h : db.UniqueAttempts) :
    (holdForProviderHalt db a c contact prior t now).UniqueAttempts := by
  have hback : ∀ k y, (holdForProviderHalt db a c contact prior t now).attempt k
      = some y → ∃ z, db.attempt k = some z ∧ z.contactId = y.contactId ∧
        z.attemptNumber = y.attemptNumber := by
    intro k y hy
    rw [attempt_hold] at hy
    by_cases hk : k = a
    · rw [if_pos hk] at hy
      obtain ⟨z, hz, rfl⟩ := Option.map_eq_some_iff.mp hy
      exact ⟨z, hz, rfl, rfl⟩
    · rw [if_neg hk] at hy
      exact ⟨y, hy, rfl, rfl⟩
  intro i j y z hy hz hc hn
  obtain ⟨y', hy', hyc, hyn⟩ := hback i y hy
  obtain ⟨z', hz', hzc, hzn⟩ := hback j z hz
  exact h i j y' z' hy' hz' (by rw [hyc, hzc, hc]) (by rw [hyn, hzn, hn])

/-- The hold of one attempt is none of another's. -/
theorem held_hold (hb : b ≠ a) :
    (holdForProviderHalt db a c contact prior t now).held b = db.held b := by
  have hlatest : (holdForProviderHalt db a c contact prior t
      now).latestEventType b = db.latestEventType b := by
    show (db.logEvent a heldEventType t).latestEventType b = _
    rw [Db.latestEventType_eq, Db.latestEvent_logEvent, if_neg hb.symm]
    rfl
  unfold Db.held
  rw [attempt_hold, if_neg hb]
  cases db.attempt b with
  | none => rfl
  | some y => simp [isHeldAttempt, hlatest]

end Hold

/-- **A hold keeps the invariant**: whatever requests of its attempt were
open have been refused. -/
theorem TriggerInv.hold (h : TriggerInv s) (hx : s.worker w = some x)
    (hl : x.phase.holdsLease = true) {a : AttemptId} {contact : Contact}
    {prior : Prior} {t : Instant}
    {requests : Table RequestId TriggerRequest}
    (hrow : s.db.RowOf a x.job.contactId x.job.attemptNumber)
    (ht : t ≤ s.now)
    (hsame : ∀ b, b ≠ a → ∀ i r, r.attemptId = b →
      (AList.lookup i requests = some r ↔ s.request i = some r))
    (hreq : ∀ i r, AList.lookup i requests = some r → r.attemptId = a →
      r.noCall = true ∧ s.db.RowOf a r.contactId r.attemptNumber) :
    TriggerInv (s.advance w x
      { db := holdForProviderHalt s.db a x.job.contactId contact prior t s.now
        redis := s.redis
        requests
        phase := some (.settling .providerHalted) }) := by
  refine h.advance hx (fun b => ?_) (unique_hold h.unique)
    (fun p hp hlp => ?_) fun p hp => ?_
  · by_cases hb : b = a
    · subst hb
      refine .inr ⟨?_, hl, hrow⟩
      refine AttemptInv.of_noOpen (rowOf_hold hrow) ?_
        (fun i r hr hra => rowOf_hold (hreq i r hr hra).2)
        fun i r hr hra => (hreq i r hr hra).1
      intro e he hea hty
      rcases List.mem_cons.mp he with rfl | he
      · exact ht
      · exact (h.attempts b).holdBy e he hea hty
    · left
      constructor
      case row => exact fun k n hk => rowOf_hold hk
      case held => exact fun hh => (held_hold hb).symm.trans hh
      case holds =>
        intro e he hea _
        rcases List.mem_cons.mp he with rfl | he
        · exact absurd hea.symm hb
        · exact he
      case new => exact fun i r hr hra => (hsame b hb i r hra).mp hr
      case old => exact fun i r hr hra => (hsame b hb i r hra).mpr hr
  · cases hp
    cases hlp
  · cases hp
    trivial

theorem TriggerInv.notConfigured (h : TriggerInv s) (hx : s.worker w = some x)
    {a : AttemptId} {prior : Prior} (hp : x.phase = .claimed a prior)
    (haltWritable : Bool) :
    TriggerInv (s.advance w x (notConfiguredStep s x a prior haltWritable)) := by
  have hs := h.sound w x hx
  rw [hp] at hs
  obtain ⟨hrow, hno, _⟩ := hs
  unfold notConfiguredStep
  split
  · exact h.release hx (.refl _) rfl fun p hp => by cases hp
  · split
    · refine h.hold hx (by rw [hp]; rfl) hrow (le_refl _)
        (fun _ _ _ _ _ => Iff.rfl) fun i r hr hra => ?_
      exact ⟨hno i r hr hra, (h.attempts a).requestRow i r hr hra⟩
    · exact h.release hx (.refl _) rfl fun p hp => by cases hp

/-! ### The request and its answer -/

theorem TriggerInv.send (h : TriggerInv s) (hx : s.worker w = some x)
    {a : AttemptId} {prior : Prior} (hp : x.phase = .claimed a prior) :
    TriggerInv (s.advance w x (sendStep s x a prior)) := by
  have hs := h.sound w x hx
  rw [hp] at hs
  obtain ⟨hrow, hno, hheld⟩ := hs
  have hl : x.phase.holdsLease = true := by rw [hp]; rfl
  unfold sendStep
  split
  · exact h.release hx (.refl _) rfl fun p hp => by cases hp
  next contact _ =>
  -- the requests afterwards
  have hreq : ∀ i, AList.lookup i (AList.insert s.requests.nextKey
      { attemptId := a, contactId := x.job.contactId,
        attemptNumber := x.job.attemptNumber : TriggerRequest } s.requests)
      = if i = s.requests.nextKey then
          some { attemptId := a, contactId := x.job.contactId,
                 attemptNumber := x.job.attemptNumber }
        else s.request i :=
    fun i => Table.lookup_insert' _ _ _ _
  have hold : ∀ i r, s.request i = some r → i ≠ s.requests.nextKey :=
    fun i r hr => (Table.lt_nextKey hr).ne
  refine h.advance hx (fun b => ?_) h.unique (fun _ _ _ => .inl hl)
    fun p hp => ?_
  · by_cases hb : b = a
    · subst hb
      refine .inr ⟨?_, hl, hrow⟩
      have hinv := h.attempts b
      constructor
      case holdRow => exact hinv.holdRow
      case holdBy => exact hinv.holdBy
      case notHeld => exact fun _ _ _ _ _ => hheld
      case requestRow =>
        intro i r hr hra
        rw [System.request, System.advance, hreq] at hr
        split at hr
        · cases hr
          exact hrow
        · exact hinv.requestRow i r hr hra
      case single =>
        intro i j r q hr hq hra hqa hro hqo
        rw [System.request, System.advance, hreq] at hr hq
        split at hr
        · next hi =>
          split at hq
          · next hj => rw [hi, hj]
          · rw [hno j q hq hqa] at hqo
            cases hqo
        · rw [hno i r hr hra] at hro
          cases hro
    · left
      constructor
      case row => exact fun _ _ hk => hk
      case held => exact id
      case holds => exact fun _ he _ _ => he
      case new =>
        intro i r hr hra
        rw [System.request, System.advance, hreq] at hr
        split at hr
        · cases hr
          exact absurd hra.symm hb
        · exact hr
      case old =>
        intro i r hr _
        rw [System.request, System.advance, hreq, if_neg (hold i r hr)]
        exact hr
  · cases hp
    refine ⟨hrow, (h.attempts a).holdBy, le_refl _,
      { attemptId := a, contactId := x.job.contactId,
        attemptNumber := x.job.attemptNumber }, ?_, rfl, rfl⟩
    rw [System.request, System.advance, hreq, if_pos rfl]

theorem triggerEventType_ne (failure : TriggerFailure) :
    triggerEventType failure ≠ heldEventType := by
  unfold triggerEventType
  split <;> decide

theorem TriggerInv.answer (h : TriggerInv s) (hx : s.worker w = some x)
    {a : AttemptId} {prior : Prior} {contact : Contact} {sentAt : Instant}
    {request : RequestId} (hp : x.phase = .sent a prior contact sentAt request)
    (response : TriggerResponse) (streak : Nat) (haltWritable commits : Bool) :
    TriggerInv (s.advance w x (answerStep env s x a prior contact sentAt request
      response streak haltWritable commits)) := by
  have hs := h.sound w x hx
  rw [hp] at hs
  obtain ⟨hrow, hby, hle, r₀, hr₀, hr₀a, hr₀o⟩ := hs
  have hl : x.phase.holdsLease = true := by rw [hp]; rfl
  unfold answerStep
  split
  · split
    · next haccept =>
      exact h.release hx (acceptTrigger_onward haccept).attempts.rows rfl
        fun p hp => by cases hp; rfl
    · exact h.release hx (.refl _) rfl fun p hp => by cases hp
  · split
    · -- the request that is refused is the only open one
      have hreq : ∀ i, AList.lookup i
          (s.requests.modify request TriggerRequest.refuse)
          = if i = request then (s.request i).map TriggerRequest.refuse
            else s.request i :=
        fun i => Table.lookup_modify _ _ _ _
      refine h.hold hx hl hrow hle (fun b hb i r hra => ?_) fun i r hr hra => ?_
      · rw [hreq]
        split
        · next hi =>
          subst hi
          rw [hr₀]
          constructor
          · intro hr
            cases hr
            exact absurd (hra.symm.trans hr₀a) hb
          · intro hr
            cases hr
            exact absurd (hra.symm.trans hr₀a) hb
        · exact Iff.rfl
      · rw [hreq] at hr
        split at hr
        · obtain ⟨q, hq, rfl⟩ := Option.map_eq_some_iff.mp hr
          exact ⟨rfl, (h.attempts a).requestRow i q hq hra⟩
        · next hi =>
          refine ⟨?_, (h.attempts a).requestRow i r hr hra⟩
          cases ho : r.noCall with
          | true => rfl
          | false =>
              exact absurd ((h.attempts a).single i request r r₀ hr hr₀ hra
                hr₀a ho hr₀o) hi
    · exact h.release hx (.refl _) rfl fun p hp => by cases hp
  · refine h.calm hx (.refl _) rfl (fun _ _ _ => hl) fun p hp => ?_
    cases hp
    exact ⟨hrow, triggerEventType_ne _, fun _ => hby⟩
  · exact h.record hx (recordTriggerFailure_onward (triggerEventType_ne _)
      hby).attempts.rows

/-- The lookup of an attempt whose holds are older than the transaction
that records its failure. -/
theorem TriggerInv.firstLookup (h : TriggerInv s) (hx : s.worker w = some x)
    {a : AttemptId} {loaded : Option CallAttempt} {contact : Contact}
    {event : EventType} {failure : TriggerFailure} {otherwise : JobOutcome}
    {txStart : Instant}
    (hp : x.phase = .lookup a loaded contact event failure otherwise txStart)
    (hby : s.db.HoldsBy a txStart) (result : LookupResult) (commits : Bool) :
    TriggerInv (s.advance w x (firstLookupStep env s x a loaded contact event
      failure otherwise txStart result commits)) := by
  have hs := h.sound w x hx
  rw [hp] at hs
  unfold firstLookupStep
  split
  · split
    · next hres =>
      exact h.release hx (resolveFoundRuns_onward hres).attempts.rows rfl
        fun p hp => by cases hp; rfl
    · exact h.release hx (.refl _) rfl fun p hp => by cases hp
  · exact h.record hx (recordTriggerFailure_onward hs.2.1 hby).attempts.rows

/-- **Every step of a worker keeps the invariant.** -/
theorem TriggerInv.workerStep (h : TriggerInv s) (hx : s.worker w = some x)
    (hengine : env.settings.callingEngine = .dograh) {act : WorkerAct}
    {r : WorkerStep} (hc : soleRun s (.worker w act) = true)
    (hst : workerStep env s x act = some r) : TriggerInv (s.advance w x r) := by
  cases act with
  | early reads =>
      cases hp : x.phase <;> simp [CallingAgent.workerStep, hp] at hst
      subst hst
      exact h.early hx reads
  | acquire =>
      have hd : s.dialing x.job.contactId x.job.attemptNumber = false := by
        simpa [soleRun, hx] using hc
      cases hp : x.phase <;> simp [CallingAgent.workerStep, hp] at hst
      obtain ⟨_, rfl⟩ := hst
      exact h.acquire hx hd
  | check =>
      cases hp : x.phase <;> simp [CallingAgent.workerStep, hp] at hst
      subst hst
      exact h.check hx (by rw [hp]; rfl)
  | secondLookup result =>
      cases hp : x.phase <;> simp [CallingAgent.workerStep, hp] at hst
      subst hst
      exact h.secondLookup hx hp result
  | gate reads native commits =>
      cases hp : x.phase <;> simp [CallingAgent.workerStep, hp] at hst
      subst hst
      exact h.gate hx hengine hp reads native commits
  | notConfigured haltWritable =>
      cases hp : x.phase <;> simp [CallingAgent.workerStep, hp] at hst
      subst hst
      exact h.notConfigured hx hp haltWritable
  | send =>
      cases hp : x.phase <;> simp [CallingAgent.workerStep, hp] at hst
      subst hst
      exact h.send hx hp
  | answer response streak haltWritable commits =>
      cases hp : x.phase <;> simp [CallingAgent.workerStep, hp] at hst
      obtain ⟨_, rfl⟩ := hst
      exact h.answer hx hp response streak haltWritable commits
  | firstLookup result commits =>
      cases hp : x.phase with
      | lookup a loaded contact event failure otherwise txStart =>
          simp only [CallingAgent.workerStep, hp, Option.some.injEq] at hst
          subst hst
          refine h.firstLookup hx hp ?_ result commits
          -- an orphaned claim by the condition, the others as they began
          by_cases ho : otherwise = .ambiguousRecovery
          · subst ho
            intro e he hea hty
            have := hc
            simp only [soleRun, hx, Option.all_some, hp, List.all_eq_true,
              decide_eq_true_eq] at this
            exact this e he hea hty
          · have hs := h.sound w x hx
            rw [hp] at hs
            exact hs.2.2 ho
      | _ => simp [CallingAgent.workerStep, hp] at hst
  | settle =>
      cases hp : x.phase <;> simp [CallingAgent.workerStep, hp] at hst
      · subst hst
        exact h.release hx (.refl _) rfl fun p hp => by cases hp
      · subst hst
        exact h.release hx (.refl _) rfl fun p hp => by cases hp
  | crash =>
      cases hst
      exact h.release hx (.refl _) rfl fun p hp => by cases hp

/-- An idle worker that takes a delivery relies on nothing yet. -/
theorem TriggerInv.deliver (h : TriggerInv s) {m : MessageId} {job : DialJob}
    {startedAt : Instant} : TriggerInv (s.deliver w m job startedAt) := by
  have hworker : ∀ w', (s.deliver w m job startedAt).worker w' =
      if w' = w then some ⟨m, job, startedAt, .delivered⟩ else s.worker w' :=
    fun w' => Table.lookup_put ..
  constructor
  case attempts =>
    intro a
    have hinv := h.attempts a
    exact ⟨hinv.holdRow, hinv.holdBy, hinv.requestRow, hinv.single,
      hinv.notHeld⟩
  case unique => exact h.unique
  case exclusive =>
    intro w₁ w₂ x₁ x₂ h₁ h₂ hl₁ hl₂
    rw [hworker] at h₁ h₂
    split at h₁
    · cases h₁
      cases hl₁
    · split at h₂
      · cases h₂
        cases hl₂
      · exact h.exclusive w₁ w₂ x₁ x₂ h₁ h₂ hl₁ hl₂
  case sound =>
    intro w' x' hx'
    rw [hworker] at hx'
    split at hx'
    · cases hx'
      trivial
    · refine (h.sound w' x' hx').kept (le_refl _)
        fun a _ => .of_rows ?_ ?_ a
      · exact .refl s.db
      · rfl

/-- **The step lemma.** -/
theorem systemStep_triggerInv (hengine : env.settings.callingEngine = .dograh)
    (h : TriggerInv s) {a : SystemAct} (hc : soleRun s a = true)
    (hst : systemStep env s a = some s') : TriggerInv s' := by
  have hby : ∀ k, s.db.HoldsBy k s.now := fun k => (h.attempts k).holdBy
  cases a with
  | read w m startedAt =>
      simp only [systemStep] at hst
      split at hst
      · obtain ⟨job, _, rfl⟩ := Option.map_eq_some_iff.mp hst
        exact h.deliver
      · cases hst
  | worker w act =>
      obtain ⟨x, hx, hst⟩ := Option.bind_eq_some_iff.mp hst
      obtain ⟨r, hr, rfl⟩ := Option.map_eq_some_iff.mp hst
      exact h.workerStep hx hengine hc hr
  | service op commits =>
      obtain ⟨r, hr, rfl⟩ := Option.map_eq_some_iff.mp hst
      refine h.service ?_ rfl rfl (le_refl _)
      cases commits with
      | true => exact (serviceStep_attempts hby hr).rows
      | false => exact .refl _
  | enqueue c jobId reads =>
      obtain ⟨redis, _, rfl⟩ := Option.map_eq_some_iff.mp hst
      exact h.service (.refl s.db) rfl rfl (le_refl _)
  | dispatch e jobId commits =>
      simp only [systemStep] at hst
      split at hst
      · cases hst
        refine h.service ?_ rfl rfl (le_refl _)
        cases commits with
        | true => exact dispatchEntry_onward.attempts.rows
        | false => exact .refl _
      · cases hst
  | rebuild =>
      cases hst
      exact h.service (.refl s.db) rfl rfl (le_refl _)
  | flush =>
      cases hst
      exact h.service (.refl s.db) rfl rfl (le_refl _)
  | deadLetter m recorded =>
      obtain ⟨job, _, rfl⟩ := Option.map_eq_some_iff.mp hst
      refine h.service ?_ rfl rfl (le_refl _)
      cases recorded with
      | true => exact (recordDeadLetter_onward job).attempts.rows
      | false => exact .refl _
  | expireGuard key =>
      cases hst
      exact h.service (.refl s.db) rfl rfl (le_refl _)
  | tick d =>
      cases hst
      refine h.service (.refl s.db) rfl rfl ?_
      show s.now ≤ s.now + (d : Int) + 1
      exact (Int.le_add_of_nonneg_right (Int.natCast_nonneg d)).trans
        (Int.le_add_of_nonneg_right (by decide))

/-- **At most one trigger, under a condition.** In every run of the system
in which no two runs of the dialer are in progress for one contact and
number, and orphaned claims are recorded after the holds of their attempt
began, every request rests on a committed claim, and of the requests the
provider may have accepted there is at most one for each contact and
number. -/
theorem run_oneTrigger (hengine : env.settings.callingEngine = .dograh)
    (h : Run (systemStep env) (fun s a => soleRun s a = true) s s')
    (hs : s.Fresh) : s'.OneTrigger :=
  (Run.inv (P := TriggerInv)
    (fun _ _ _ ht hc hst => systemStep_triggerInv hengine ht hc hst) h
    hs.inv).oneTrigger

end

/-! ### Two campaigns, one row -/

/-- Contact 1 waits in campaign 1; both campaigns are active. -/
def twoActive : System where
  db :=
    { campaigns := AList.insert 1 { status := .active }
        (AList.insert 2 { status := .active } ∅)
      contacts := AList.insert 1
        { campaignId := 1, normalizedPhoneNumber := "+919876543210" } ∅ }
  now := noon

theorem twoActive_fresh : twoActive.Fresh where
  workers _ := rfl
  requests _ := rfl
  unique a b x y hx := by cases hx
  holdRow e he := by cases he
  holdBy a e he := by cases he

/-- A delivery up to the claim. -/
def untilClaimed (w : WorkerId) (m : MessageId) : List SystemAct :=
  [.read w m noon, .worker w (.early quietGate), .worker w .acquire,
    .worker w .check, .worker w (.gate quietGate ⟨"", none, false⟩ true)]

/-- The job of campaign 1 is held; the contact is associated with campaign
2, whose job finds the same row held; both runs resume it. -/
def heldTwice : List SystemAct :=
  ([.enqueue 1 (fun _ => 1) quietGate] : List SystemAct) ++ untilClaimed 1 1 ++
    ([.worker 1 (.notConfigured true), .worker 1 .settle,
      .service (.setControls {}) true, .service (.associate 2 1) true,
      .enqueue 2 (fun _ => 2) quietGate,
      .read 1 1 noon, .read 2 2 noon,
      .worker 1 (.early quietGate), .worker 2 (.early quietGate),
      .worker 1 .acquire, .worker 2 .acquire, .worker 1 .check, .worker 2 .check,
      .worker 1 (.gate quietGate ⟨"", none, false⟩ true),
      .worker 2 (.gate quietGate ⟨"", none, false⟩ true),
      .worker 1 .send, .worker 2 .send] : List SystemAct)

/-- Two requests leave for attempt number 1 of the contact, and neither
ended in a no-call. -/
theorem heldTwice_triggers :
    ∃ s, runActs (systemStep dograhEnv) twoActive heldTwice = some s ∧
      ¬ s.OneTrigger := by
  have h : (runActs (systemStep dograhEnv) twoActive heldTwice).map
      (fun s => (s.request 0, s.request 1)) =
      some (some ⟨0, 1, 1, false⟩, some ⟨0, 1, 1, false⟩) := by
    decide +kernel
  obtain ⟨s, hs, hreq⟩ := Option.map_eq_some_iff.mp h
  obtain ⟨h₀, h₁⟩ := Prod.mk.inj hreq
  refine ⟨s, hs, fun hone => ?_⟩
  have := hone.single 0 1 _ _ h₀ h₁ rfl rfl rfl rfl
  cases this

/-- One campaign's job: held, redelivered after the release, and
triggered. -/
theorem heldOnce_triggers :
    ∃ s, runActs (systemStep dograhEnv) twoActive
        ([.enqueue 1 (fun _ => 1) quietGate] ++ untilClaimed 1 1 ++
          [.worker 1 (.notConfigured true), .worker 1 .settle,
            .service (.setControls {}) true] ++ untilClaimed 2 1 ++
          [.worker 2 .send, .worker 2 (.answer (.accepted 501) 0 true true)])
        = some s ∧
      s.OneTrigger := by
  obtain ⟨s, hs, hrun⟩ := Run.of_holdsAlong (systemStep dograhEnv)
    soleRun twoActive
    (([.enqueue 1 (fun _ => 1) quietGate] : List SystemAct) ++ untilClaimed 1 1 ++
      ([.worker 1 (.notConfigured true), .worker 1 .settle,
        .service (.setControls {}) true] : List SystemAct) ++ untilClaimed 2 1 ++
      ([.worker 2 .send, .worker 2 (.answer (.accepted 501) 0 true true)] :
        List SystemAct))
    (by decide +kernel)
  exact ⟨s, hs, run_oneTrigger rfl hrun twoActive_fresh⟩

end CallingAgent
