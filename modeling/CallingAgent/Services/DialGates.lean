import CallingAgent.Services.Dial

/-!
# Gate completeness — no request without every gate

A run of the dialer asks a provider to place a call only if the outbound
gate was open and the contact was found eligible. A run that found any
gate closed claims nothing: no attempt row appears and no contact's
attempt count moves.
-/

namespace CallingAgent

open Lib

/-- Everything a run must have found to place a call. -/
structure AllGates (env : Env) (db : Db) (job : DialJob) (w : DialWorld) :
    Prop where
  gate : GateOpen env.settings w.gate
  target : ∃ contact campaign, db.contact job.contactId = some contact ∧
    db.campaign job.campaignId = some campaign ∧
    Eligible env db contact job.campaignId campaign w.checkedAt

/-! ## Writes that claim nothing -/

/-- What identifies an attempt row. -/
def CallAttempt.key (a : CallAttempt) : ContactId × Nat :=
  (a.contactId, a.attemptNumber)

/-- From `db` to `db'` no attempt row appeared, disappeared or changed its
identity, and no contact's attempt count moved. -/
structure Db.NoClaim (db db' : Db) : Prop where
  attempts : ∀ a, (db'.attempt a).map (·.key) = (db.attempt a).map (·.key)
  counts : ∀ c, (db'.contact c).map (·.attemptCount)
    = (db.contact c).map (·.attemptCount)

namespace Db.NoClaim

variable {db db' db'' : Db}

theorem refl : db.NoClaim db := ⟨fun _ => rfl, fun _ => rfl⟩

theorem of_eq (h : db' = db) : db.NoClaim db' := by
  subst h
  exact refl

theorem trans (h : db.NoClaim db') (h' : db'.NoClaim db'') :
    db.NoClaim db'' :=
  ⟨fun a => (h'.attempts a).trans (h.attempts a),
   fun c => (h'.counts c).trans (h.counts c)⟩

theorem logEvent (h : db.NoClaim db') (a : AttemptId) (ty : EventType)
    (t : Instant) : db.NoClaim (db'.logEvent a ty t) :=
  ⟨h.attempts, h.counts⟩

theorem modifyAttempt (h : db.NoClaim db') (a : AttemptId)
    {f : CallAttempt → CallAttempt} (hf : ∀ r, (f r).key = r.key) :
    db.NoClaim (db'.modifyAttempt a f) where
  attempts k := by
    rw [← h.attempts k, attempt_modifyAttempt]
    by_cases hk : k = a
    · rw [if_pos hk, Option.map_map]
      congr 1
      exact funext hf
    · rw [if_neg hk]
  counts c := by simpa using h.counts c

theorem modifyContact (h : db.NoClaim db') (c : ContactId)
    {f : Contact → Contact}
    (hf : ∀ r, (f r).attemptCount = r.attemptCount) :
    db.NoClaim (db'.modifyContact c f) where
  attempts a := by simpa using h.attempts a
  counts k := by
    rw [← h.counts k, contact_modifyContact]
    by_cases hk : k = c
    · rw [if_pos hk, Option.map_map]
      congr 1
      exact funext hf
    · rw [if_neg hk]

/-- An absent attempt stays absent. -/
theorem absent (h : db.NoClaim db') {c : ContactId} {n : Nat}
    (ha : db.attemptByContactAndNumber c n = none) :
    db'.attemptByContactAndNumber c n = none := by
  rw [attemptByContactAndNumber_none] at ha ⊢
  intro a row hrow hc hn
  have hk := h.attempts a
  rw [hrow] at hk
  cases hold : db.attempt a with
  | none => rw [hold] at hk; cases hk
  | some old =>
      rw [hold] at hk
      have hkey : row.key = old.key := by simpa using hk
      simp only [CallAttempt.key, Prod.mk.injEq] at hkey
      exact ha a old hold (by rw [← hkey.1, hc]) (by rw [← hkey.2, hn])

end Db.NoClaim

/-- A flush that leaves the session's attempt count alone leaves the
row's. -/
theorem Contact.flush_attemptCount {loaded new : Contact}
    (h : new.attemptCount = loaded.attemptCount) (current : Contact) :
    (loaded.flush new current).attemptCount = current.attemptCount := by
  simp [Contact.flush, h]

/-! ## The stages that claim nothing -/

section Stages

variable {env : Env} {db : Db} {aid : AttemptId} {txStart now : Instant}

theorem resolveFoundRuns_noClaim {loaded : Option CallAttempt}
    {runs : List Nat} {o : JobOutcome} {db' : Db}
    (h : resolveFoundRuns db aid loaded txStart runs = some (o, db')) :
    db.NoClaim db' := by
  unfold resolveFoundRuns at h
  split at h
  · unfold adoptRun at h
    split at h
    · cases h
    · cases h
      refine Db.NoClaim.logEvent ?_ ..
      exact Db.NoClaim.refl.modifyAttempt _ fun _ => rfl
  · cases h
    exact Db.NoClaim.refl.logEvent ..

theorem deferOrExpire_noClaim (contactId : ContactId) (contact : Contact) :
    db.NoClaim (deferOrExpire env db aid contactId contact).2 := by
  unfold deferOrExpire
  split
  · exact Db.NoClaim.refl.modifyContact _ fun r =>
      Contact.flush_attemptCount rfl r
  · exact ⟨fun _ => rfl, fun _ => rfl⟩

theorem secondGate_noClaim {job : DialJob} {view : DialView}
    {lookup : LookupResult} {o : JobOutcome} {db' : Db}
    (h : secondGate env db job aid view lookup txStart = .stop o db') :
    db.NoClaim db' := by
  unfold secondGate at h
  cases lookup with
  | failed =>
      cases h
      exact deferOrExpire_noClaim ..
  | runs ids =>
      simp only at h
      split at h
      · cases h
      · split at h
        · cases h; exact .refl
        · split at h
          · cases h
          · split at h
            · cases h
            · next hr =>
              cases h
              refine Db.NoClaim.trans ?_ (resolveFoundRuns_noClaim hr)
              refine Db.NoClaim.modifyContact ?_ _ fun r =>
                Contact.flush_attemptCount rfl r
              exact Db.NoClaim.refl.modifyAttempt _ fun _ => rfl

theorem recordTriggerFailure_noClaim {loaded : Option CallAttempt}
    {contactId : ContactId} {contact : Contact} {event : EventType}
    {failure : TriggerFailure} :
    db.NoClaim (recordTriggerFailure env db aid loaded contactId contact event
      failure txStart now).1 := by
  have hfail : db.NoClaim ((db.modifyAttempt aid
      (failAttempt loaded now)).logEvent aid event txStart) := by
    refine Db.NoClaim.logEvent ?_ ..
    exact Db.NoClaim.refl.modifyAttempt _ fun _ => rfl
  unfold recordTriggerFailure
  dsimp only
  split
  · refine (hfail.modifyContact _ fun r => ?_).logEvent ..
    exact Contact.flush_attemptCount handleDisconnect_shape.attemptCount r
  · exact hfail

theorem reconcileOrRecord_noClaim {job : DialJob} {w : DialWorld}
    {contact : Contact} {event : EventType} {failure : TriggerFailure}
    {o : JobOutcome} {sent : List PlaceRequest} :
    db.NoClaim (reconcileOrRecord env db job w aid contact event failure o
      txStart sent).db := by
  unfold reconcileOrRecord
  split
  · split
    · next hr => exact resolveFoundRuns_noClaim hr
    · exact .refl
  · exact recordTriggerFailure_noClaim

theorem reconcileOrRecord_requests {job : DialJob} {w : DialWorld}
    {contact : Contact} {event : EventType} {failure : TriggerFailure}
    {o : JobOutcome} {sent : List PlaceRequest} :
    (reconcileOrRecord env db job w aid contact event failure o
      txStart sent).requests = sent := by
  unfold reconcileOrRecord
  split
  · split <;> rfl
  · rfl

end Stages

/-! ## The whole run -/

section

variable {env : Env} {db : Db} {job : DialJob} {w : DialWorld}

/-- Behind the checks, the outbound gate decides. -/
theorem gateAndPlace_blocked {view : DialView}
    (h : ¬ GateOpen env.settings w.gate) :
    (gateAndPlace env db job w view).requests = [] ∧
      (gateAndPlace env db job w view).db = db := by
  unfold gateAndPlace
  cases hg : outboundGate env.settings w.gate with
  | raised => exact ⟨rfl, rfl⟩
  | blocked reason => exact ⟨rfl, rfl⟩
  | «open» => exact absurd (outboundGate_open_iff.mp hg) h

/-- A run that is behind the checks lacks only the outbound gate. -/
theorem gateAndPlace_refused {view : DialView}
    (hv : view.Passed env db job w.checkedAt)
    (h : ¬ AllGates env db job w) :
    (gateAndPlace env db job w view).requests = [] ∧
      (gateAndPlace env db job w view).db = db := by
  apply gateAndPlace_blocked
  intro hg
  obtain ⟨campaign, hc, he⟩ := hv.eligible
  exact h ⟨hg, view.contact, campaign, hv.contact, hc, he⟩

/-- A run that did not find every gate open asks nothing of a provider and
claims nothing. -/
theorem dial_refused (h : ¬ AllGates env db job w) :
    (dial env db job w).requests = [] ∧ db.NoClaim (dial env db job w).db := by
  unfold dial
  cases hc : dialCheck env db job w.checkedAt with
  | stop o => exact ⟨rfl, .refl⟩
  | raised => exact ⟨rfl, .refl⟩
  | orphan aid attempt contact =>
      exact ⟨reconcileOrRecord_requests, reconcileOrRecord_noClaim⟩
  | secondGate previous view =>
      have hv := dialCheck_passed (by rw [hc]; rfl)
      dsimp only
      cases hs : secondGate env db job previous view w.secondLookup
          w.startedAt with
      | stop o db' => exact ⟨rfl, secondGate_noClaim hs⟩
      | raised => exact ⟨rfl, .refl⟩
      | pass =>
          obtain ⟨hr, hdb⟩ := gateAndPlace_refused hv h
          exact ⟨hr, .of_eq hdb⟩
  | ready view =>
      have hv := dialCheck_passed (by rw [hc]; rfl)
      obtain ⟨hr, hdb⟩ := gateAndPlace_refused hv h
      exact ⟨hr, .of_eq hdb⟩

/-- **Gate completeness.** A run asks a provider to place a call only if
it found every gate open; otherwise it asks nothing, an attempt row that
did not exist does not exist afterwards, and no attempt count has moved. -/
theorem dial_gated :
    ((dial env db job w).requests ≠ [] → AllGates env db job w) ∧
    (¬ AllGates env db job w →
      (dial env db job w).requests = [] ∧
      (∀ c n, db.attemptByContactAndNumber c n = none →
        (dial env db job w).db.attemptByContactAndNumber c n = none) ∧
      ∀ c, ((dial env db job w).db.contact c).map (·.attemptCount)
        = (db.contact c).map (·.attemptCount)) := by
  constructor
  · intro hr
    by_contra hg
    exact hr (dial_refused hg).1
  · intro hg
    obtain ⟨hr, hn⟩ := dial_refused hg
    exact ⟨hr, fun c n => hn.absent, hn.counts⟩

end

end CallingAgent
