import Mathlib.Data.List.Sort
import CallingAgent.Services.CallStatus
import CallingAgent.Services.Reconciliation

/-!
# The sweep — one batch over the stuck attempts

`sweep_stuck_attempts` locks the attempts it selects, with their contacts,
passes over what others have locked, and marks each row it got in the
transaction that holds the locks. Nothing else can come between its read of
a row and its write.
-/

namespace CallingAgent

open Lib

/-! ## The batch -/

/-- An attempt the sweep has locked, as it read it. -/
abbrev SweepRow := AttemptId × CallAttempt

/-- `SweepResult`, with the rows it counts. -/
structure SweepResult where
  actioned : List SweepRow
  blocked : Bool := false

/-- `ORDER BY started_at, id` -/
def SweepRow.before (r r' : SweepRow) : Prop :=
  r.2.startedAt < r'.2.startedAt ∨
    r.2.startedAt = r'.2.startedAt ∧ r.1 ≤ r'.1

instance : DecidableRel SweepRow.before := fun _ _ =>
  inferInstanceAs (Decidable (_ ∨ _))

section

variable (env : Env) (db : Db)

/-- The locked read: at most `limit` stuck rows, less what others have
locked. -/
def stuckRows (locked : AttemptId → Bool) (limit : Nat) (now : Instant) :
    List SweepRow :=
  let selected := db.attempts.entries.filterMap fun e =>
    (db.contact e.2.contactId).bind fun contact =>
      if isStuck env e.2 contact now then some (e.1, e.2) else none
  ((selected.insertionSort SweepRow.before).filter
    fun r => !locked r.1).take limit

/-- The rows one by one. -/
def markRows (rows : List SweepRow) (now : Instant) : Db :=
  rows.foldl (fun db r => markForReview db r.1 r.2 now) db

/-- `sweep_stuck_attempts` -/
def sweepStuckAttempts (gate : GateReads) (locked : AttemptId → Bool)
    (limit : Nat) (now : Instant) : Db × SweepResult :=
  if killSwitchGate env.settings gate ≠ .open then (db, ⟨[], true⟩)
  else
    let rows := stuckRows env db locked limit now
    (markRows db rows now, ⟨rows, false⟩)

end

/-- The attempt of a row without a run id, marked. -/
def sweptAttempt (now : Instant) (a : CallAttempt) : CallAttempt :=
  { a with provider := a.provider.or (some "dograh"), state := .failedToConnect,
           connectionFailureReason := some .providerError, endedAt := some now }

/-- The contact of a row, marked. -/
def toReview (c : Contact) : Contact := { c with status := .needsReview }

/-- The row is among those, and has no run id. -/
def marksFailed (rows : List SweepRow) (a : AttemptId) : Bool :=
  rows.any fun r => r.1 == a && r.2.providerCallId.isNone

/-- A row of the contact is among those. -/
def marksContact (rows : List SweepRow) (c : ContactId) : Bool :=
  rows.any fun r => r.2.contactId == c

/-! ## What the batch does -/

section

variable {env : Env} {db : Db} {gate : GateReads} {locked : AttemptId → Bool}
  {limit : Nat} {now : Instant}

theorem sweptAttempt_idem (a : CallAttempt) :
    sweptAttempt now (sweptAttempt now a) = sweptAttempt now a := by
  cases h : a.provider <;> simp [sweptAttempt, h]

/-- A selected row is as it is in the database, stuck, and not locked. -/
theorem mem_stuckRows {r : SweepRow}
    (h : r ∈ stuckRows env db locked limit now) :
    db.attempt r.1 = some r.2 ∧ locked r.1 = false ∧
      ∃ x, db.contact r.2.contactId = some x ∧
        isStuck env r.2 x now = true := by
  obtain ⟨hsorted, hfree⟩ := List.mem_filter.mp (List.mem_of_mem_take h)
  obtain ⟨e, he, hr⟩ :=
    List.mem_filterMap.mp ((List.mem_insertionSort _).mp hsorted)
  obtain ⟨x, hx, hr⟩ := Option.bind_eq_some_iff.mp hr
  split at hr
  · next hstuck =>
    cases hr
    exact ⟨AList.mem_lookup_iff.mpr he, by simpa using hfree, x, hx, hstuck⟩
  · cases hr

theorem sweep_actioned {r : SweepRow}
    (h : r ∈ (sweepStuckAttempts env db gate locked limit now).2.actioned) :
    r ∈ stuckRows env db locked limit now := by
  unfold sweepStuckAttempts at h
  split at h
  · cases h
  · exact h

/-- The batch marks the rows it reports, and no others. -/
theorem sweep_marks :
    (sweepStuckAttempts env db gate locked limit now).1
      = markRows db (sweepStuckAttempts env db gate locked limit now).2.actioned
          now := by
  unfold sweepStuckAttempts
  split <;> rfl

theorem attempt_markForReview {aid k : AttemptId} {a : CallAttempt} :
    (markForReview db aid a now).attempt k =
      if marksFailed [(aid, a)] k then (db.attempt k).map (sweptAttempt now)
      else db.attempt k := by
  have hself : marksFailed [(aid, a)] k
      = (aid == k && a.providerCallId.isNone) := by simp [marksFailed]
  rw [hself]
  unfold markForReview
  cases ha : a.providerCallId with
  | some run => simp
  | none =>
      by_cases hk : aid = k
      · subst hk
        simp only [Option.isNone_none, Option.isSome_none, beq_self_eq_true,
          Bool.and_self, if_true, Bool.false_eq_true, if_false]
        exact Table.lookup_modify_self ..
      · simp [Db.attempt_modifyAttempt, hk, Ne.symm hk]

theorem contact_markForReview {aid : AttemptId} {a : CallAttempt}
    {c : ContactId} :
    (markForReview db aid a now).contact c =
      if marksContact [(aid, a)] c then (db.contact c).map toReview
      else db.contact c := by
  have hself : marksContact [(aid, a)] c = (a.contactId == c) := by
    simp [marksContact]
  rw [hself]
  unfold markForReview
  by_cases hc : a.contactId = c
  · subst hc
    cases a.providerCallId <;> simp [Db.contact_modifyContact] <;> rfl
  · cases a.providerCallId <;>
      simp [Db.contact_modifyContact, hc, Ne.symm hc]

/-- **The attempts a batch leaves.** Marking twice is marking once, so the
order of the rows does not matter. -/
theorem attempt_markRows (rows : List SweepRow) (k : AttemptId) :
    (markRows db rows now).attempt k =
      if marksFailed rows k then (db.attempt k).map (sweptAttempt now)
      else db.attempt k := by
  induction rows generalizing db with
  | nil => rfl
  | cons r rows ih =>
      have hcons : marksFailed (r :: rows) k
          = (marksFailed [r] k || marksFailed rows k) := by
        simp [marksFailed]
      have hrest : (markRows db (r :: rows) now).attempt k = _ :=
        @ih (markForReview db r.1 r.2 now)
      rw [hrest, attempt_markForReview, hcons]
      cases marksFailed [r] k <;> cases marksFailed rows k <;>
        simp [Function.comp_def, sweptAttempt_idem]

/-- The contacts a batch leaves. -/
theorem contact_markRows (rows : List SweepRow) (c : ContactId) :
    (markRows db rows now).contact c =
      if marksContact rows c then (db.contact c).map toReview
      else db.contact c := by
  induction rows generalizing db with
  | nil => rfl
  | cons r rows ih =>
      have hcons : marksContact (r :: rows) c
          = (marksContact [r] c || marksContact rows c) := by
        simp [marksContact]
      have hrest : (markRows db (r :: rows) now).contact c = _ :=
        @ih (markForReview db r.1 r.2 now)
      rw [hrest, contact_markForReview, hcons]
      have hidem : toReview ∘ toReview = toReview := rfl
      cases marksContact [r] c <;> cases marksContact rows c <;> simp [hidem]

theorem markForReview_events {aid : AttemptId} {a : CallAttempt} :
    db.events <:+ (markForReview db aid a now).events := by
  unfold markForReview
  split
  · exact List.suffix_cons _ _
  · exact (List.suffix_cons _ _).trans (List.suffix_cons _ _)

theorem markRows_events (rows : List SweepRow) :
    db.events <:+ (markRows db rows now).events := by
  induction rows generalizing db with
  | nil => exact List.suffix_rfl
  | cons r rows ih => exact markForReview_events.trans ih

/-- A row without a run id gets the marker of an ambiguous trigger. -/
theorem markRows_marker {rows : List SweepRow} {r : SweepRow} (h : r ∈ rows)
    (hid : r.2.providerCallId = none) :
    (markRows db rows now).hasEvent r.1 ambiguousTriggerEvent = true := by
  induction rows generalizing db with
  | nil => cases h
  | cons r' rows ih =>
      rcases List.mem_cons.mp h with rfl | h
      · -- the rows after it leave its event alone
        have hlog : ⟨r.1, ambiguousTriggerEvent, now⟩
            ∈ (markForReview db r.1 r.2 now).events := by
          simp [markForReview, hid, Db.logEvent, Db.modifyContact,
            Db.modifyAttempt]
        have hkept := @markRows_events (markForReview db r.1 r.2 now) now rows
        exact List.any_eq_true.mpr ⟨_, hkept.mem hlog, by simp⟩
      · exact ih h

/-- The rest of the database stays. -/
theorem markRows_rest (rows : List SweepRow) :
    (markRows db rows now).sessions = db.sessions ∧
      (markRows db rows now).campaigns = db.campaigns ∧
      (markRows db rows now).processedEvents = db.processedEvents := by
  induction rows generalizing db with
  | nil => exact ⟨rfl, rfl, rfl⟩
  | cons r rows ih =>
      have hone : (markForReview db r.1 r.2 now).sessions = db.sessions ∧
          (markForReview db r.1 r.2 now).campaigns = db.campaigns ∧
          (markForReview db r.1 r.2 now).processedEvents
            = db.processedEvents := by
        unfold markForReview
        split <;> exact ⟨rfl, rfl, rfl⟩
      obtain ⟨hs, hc, hp⟩ := @ih (markForReview db r.1 r.2 now)
      exact ⟨hs.trans hone.1, hc.trans hone.2.1, hp.trans hone.2.2⟩

end

end CallingAgent
