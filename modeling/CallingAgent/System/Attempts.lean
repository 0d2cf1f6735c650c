import CallingAgent.System.Model

/-!
# Attempts — what the transactions do to attempt rows

Apart from the claim, the provider-halt hold and the reopening by the
second gate, every transaction of the system leaves attempt rows in place,
never takes a run id from one, never reopens one, and never makes a row
look held. The last needs the clock: a failure recorded without a run id
hides a hold only if its event is not older than the hold.
-/

namespace CallingAgent

open Lib

/-! ## Held rows -/

namespace Db

variable (db : Db)

/-- The row is held, as the dialer tells it. -/
def held (a : AttemptId) : Bool := (db.attempt a).any (isHeldAttempt db a)

/-- Every hold of the attempt was stamped by `t`. -/
def HoldsBy (a : AttemptId) (t : Instant) : Prop :=
  ∀ e ∈ db.events, e.callAttemptId = a → e.eventType = heldEventType →
    e.occurredAt ≤ t

/-- `_latest_event_type`, the row itself. -/
def latestEvent (a : AttemptId) : Option CallEvent :=
  (db.events.filter fun e => e.callAttemptId == a).argmax (·.occurredAt)

variable {db} {a k : AttemptId} {ty : EventType} {t : Instant}

theorem latestEventType_eq :
    db.latestEventType a = (db.latestEvent a).map (·.eventType) := rfl

theorem latestEvent_mem {e : CallEvent} (h : db.latestEvent a = some e) :
    e ∈ db.events ∧ e.callAttemptId = a := by
  have hm := List.argmax_mem h
  simpa using hm

theorem latestEvent_logEvent :
    (db.logEvent a ty t).latestEvent k =
      if a = k then
        match db.latestEvent k with
        | some e => if t < e.occurredAt then some e else some ⟨a, ty, t⟩
        | none => some ⟨a, ty, t⟩
      else db.latestEvent k := by
  unfold latestEvent logEvent
  by_cases h : a = k
  · subst h
    simp only [List.filter_cons, beq_self_eq_true, if_true, List.argmax_cons]
    generalize List.argmax CallEvent.occurredAt
      (db.events.filter fun e => e.callAttemptId == a) = latest
    cases latest <;> rfl
  · have hb : (a == k) = false := by simpa using h
    simp [hb, h]

/-- An event of another kind never makes a hold the latest event. -/
theorem latestHeld_of_logEvent (hty : ty ≠ heldEventType)
    (h : (db.logEvent a ty t).latestEventType k = some heldEventType) :
    db.latestEventType k = some heldEventType := by
  rw [latestEventType_eq, latestEvent_logEvent] at h
  rw [latestEventType_eq]
  by_cases hk : a = k
  · rw [if_pos hk] at h
    cases hl : db.latestEvent k with
    | none =>
        rw [hl] at h
        exact absurd (Option.some.inj h) hty
    | some e =>
        rw [hl] at h
        dsimp only at h
        split at h
        · exact h
        · exact absurd (Option.some.inj h) hty
  · rwa [if_neg hk] at h

/-- Logged after every hold, an event of another kind is the latest that
counts. -/
theorem latestHeld_hidden (hty : ty ≠ heldEventType) (ht : db.HoldsBy a t) :
    (db.logEvent a ty t).latestEventType a ≠ some heldEventType := by
  intro h
  rw [latestEventType_eq, latestEvent_logEvent, if_pos rfl] at h
  cases hl : db.latestEvent a with
  | none =>
      rw [hl] at h
      exact hty (Option.some.inj h)
  | some e =>
      rw [hl] at h
      dsimp only at h
      split at h
      · next hlt =>
        have he : e.eventType = heldEventType := Option.some.inj h
        obtain ⟨hm, ha⟩ := latestEvent_mem hl
        exact absurd (ht e hm ha he) (not_le.mpr hlt)
      · exact hty (Option.some.inj h)

theorem latestEventType_congr {db' : Db} (h : db'.events = db.events)
    (k : AttemptId) : db'.latestEventType k = db.latestEventType k := by
  simp only [latestEventType, h]

theorem held_iff :
    db.held a = true ↔ ∃ x, db.attempt a = some x ∧ x.providerCallId = none ∧
      x.state = .failedToConnect ∧
      db.latestEventType a = some heldEventType := by
  unfold held
  rw [Option.any_eq_true]
  simp [isHeldAttempt, and_assoc]

theorem HoldsBy.mono {t t' : Instant} (h : db.HoldsBy a t) (ht : t ≤ t') :
    db.HoldsBy a t' :=
  fun e he ha hty => le_trans (h e he ha hty) ht

end Db

/-! ## Rows that go on -/

/-- A terminal row carries its end. -/
def CallAttempt.Ended (a : CallAttempt) : Prop :=
  a.state.isTerminal = true → a.endedAt.isSome = true

/-- What every transaction but the claim, the hold and the reopening keeps
of an attempt row. -/
structure CallAttempt.Kept (a a' : CallAttempt) : Prop where
  contactId : a'.contactId = a.contactId
  attemptNumber : a'.attemptNumber = a.attemptNumber
  run : a.providerCallId.isSome = true → a'.providerCallId.isSome = true
  notReopened : a.state ≠ .initiated → a'.state ≠ .initiated
  ended : a.Ended → a'.Ended ∧ (a'.state.isLive = true → a.state.isLive = true)

theorem CallAttempt.Kept.refl (a : CallAttempt) : a.Kept a :=
  ⟨rfl, rfl, id, id, fun h => ⟨h, id⟩⟩

theorem CallAttempt.Kept.trans {a b c : CallAttempt} (h₁ : a.Kept b)
    (h₂ : b.Kept c) : a.Kept c where
  contactId := h₂.contactId.trans h₁.contactId
  attemptNumber := h₂.attemptNumber.trans h₁.attemptNumber
  run h := h₂.run (h₁.run h)
  notReopened h := h₂.notReopened (h₁.notReopened h)
  ended h := by
    obtain ⟨hb, hab⟩ := h₁.ended h
    obtain ⟨hc, hbc⟩ := h₂.ended hb
    exact ⟨hc, fun hl => hab (hbc hl)⟩

/-- The same over a database: the rows go on, none is added, no hold is
logged, and no row comes to look held. -/
structure AttemptsKept (db db' : Db) : Prop where
  row : ∀ a x, db.attempt a = some x →
    ∃ x', db'.attempt a = some x' ∧ x.Kept x'
  fresh : ∀ a, db.attempt a = none → db'.attempt a = none
  holds : ∀ e ∈ db'.events, e.eventType = heldEventType → e ∈ db.events
  held : ∀ a, db'.held a = true → db.held a = true

namespace AttemptsKept

variable {db db' db'' : Db} {a : AttemptId} {ty : EventType} {t : Instant}
  {f : CallAttempt → CallAttempt}

theorem refl (db : Db) : AttemptsKept db db :=
  ⟨fun _ x h => ⟨x, h, .refl x⟩, fun _ h => h, fun _ h _ => h, fun _ h => h⟩

theorem trans (h₁ : AttemptsKept db db') (h₂ : AttemptsKept db' db'') :
    AttemptsKept db db'' where
  row a x h := by
    obtain ⟨y, hy, hxy⟩ := h₁.row a x h
    obtain ⟨z, hz, hyz⟩ := h₂.row a y hy
    exact ⟨z, hz, hxy.trans hyz⟩
  fresh a h := h₂.fresh a (h₁.fresh a h)
  holds e he hty := h₁.holds e (h₂.holds e he hty) hty
  held a h := h₁.held a (h₂.held a h)

/-- A row that exists now existed before. -/
theorem row_before (h : AttemptsKept db db') {x' : CallAttempt}
    (hx : db'.attempt a = some x') :
    ∃ x, db.attempt a = some x ∧ x.Kept x' := by
  cases hb : db.attempt a with
  | none =>
      rw [h.fresh a hb] at hx
      cases hx
  | some x =>
      obtain ⟨y, hy, hk⟩ := h.row a x hb
      rw [hx] at hy
      cases hy
      exact ⟨x, rfl, hk⟩

theorem holdsBy (h : AttemptsKept db db') (ht : db.HoldsBy a t) :
    db'.HoldsBy a t :=
  fun e he ha hty => ht e (h.holds e he hty) ha hty

/-- A write that touches neither attempts nor events. -/
theorem of_eq (ha : ∀ a, db'.attempt a = db.attempt a)
    (he : db'.events = db.events) : AttemptsKept db db' where
  row a x h := ⟨x, (ha a).trans h, .refl x⟩
  fresh a h := (ha a).trans h
  holds e h _ := he ▸ h
  held a h := by
    rw [Db.held_iff] at h ⊢
    rwa [ha, Db.latestEventType_congr he] at h

/-- A row is rewritten, and does not come to look like a failed connect
without a run. -/
theorem modify (hk : ∀ x, db.attempt a = some x → x.Kept (f x))
    (hh : ∀ x, db.attempt a = some x → (f x).state = .failedToConnect →
      (f x).providerCallId = none →
        x.state = .failedToConnect ∧ x.providerCallId = none) :
    AttemptsKept db (db.modifyAttempt a f) where
  row k x h := by
    rw [Db.attempt_modifyAttempt]
    by_cases hka : k = a
    · subst hka
      exact ⟨f x, by simp [h], hk x h⟩
    · exact ⟨x, by simp [hka, h], .refl x⟩
  fresh k h := by
    rw [Db.attempt_modifyAttempt, h]
    split <;> rfl
  holds e h _ := h
  held k h := by
    rw [Db.held_iff] at h ⊢
    obtain ⟨x', hx', hn, hs, hl⟩ := h
    rw [Db.attempt_modifyAttempt] at hx'
    by_cases hka : k = a
    · subst hka
      rw [if_pos rfl] at hx'
      obtain ⟨x, hx, rfl⟩ := Option.map_eq_some_iff.mp hx'
      obtain ⟨hs', hn'⟩ := hh x hx hs hn
      exact ⟨x, hx, hn', hs', hl⟩
    · rw [if_neg hka] at hx'
      exact ⟨x', hx', hn, hs, hl⟩

/-- An event that is no hold. -/
theorem log (hty : ty ≠ heldEventType) : AttemptsKept db (db.logEvent a ty t)
    where
  row k x h := ⟨x, h, .refl x⟩
  fresh k h := h
  holds e h hhe := by
    rcases List.mem_cons.mp h with rfl | h
    · exact absurd hhe hty
    · exact h
  held k h := by
    rw [Db.held_iff] at h ⊢
    obtain ⟨x, hx, hn, hs, hl⟩ := h
    exact ⟨x, hx, hn, hs, Db.latestHeld_of_logEvent hty hl⟩

/-- A row is rewritten in any way, and an event logged after its holds. -/
theorem modifyLog (hk : ∀ x, db.attempt a = some x → x.Kept (f x))
    (hty : ty ≠ heldEventType) (ht : db.HoldsBy a t) :
    AttemptsKept db ((db.modifyAttempt a f).logEvent a ty t) where
  row k x h := by
    rw [(Db.logEvent_frame ..).2.1, Db.attempt_modifyAttempt]
    by_cases hka : k = a
    · subst hka
      exact ⟨f x, by simp [h], hk x h⟩
    · exact ⟨x, by simp [hka, h], .refl x⟩
  fresh k h := by
    rw [(Db.logEvent_frame ..).2.1, Db.attempt_modifyAttempt, h]
    split <;> rfl
  holds e h hhe := by
    rcases List.mem_cons.mp h with rfl | h
    · exact absurd hhe hty
    · exact h
  held k h := by
    rw [Db.held_iff] at h ⊢
    obtain ⟨x, hx, hn, hs, hl⟩ := h
    by_cases hka : k = a
    · subst hka
      exact absurd hl (Db.latestHeld_hidden hty ht)
    · rw [(Db.logEvent_frame ..).2.1, Db.attempt_modifyAttempt, if_neg hka]
        at hx
      exact ⟨x, hx, hn, hs, Db.latestHeld_of_logEvent hty hl⟩

end AttemptsKept

/-! ## Writes to one attempt -/

/-- Only the row and the events of `a` are written, and every hold logged
is stamped by `t`. -/
structure TouchesOnly (a : AttemptId) (t : Instant) (db db' : Db) : Prop where
  attempt : ∀ k, k ≠ a → db'.attempt k = db.attempt k
  latest : ∀ k, k ≠ a → db'.latestEventType k = db.latestEventType k
  holds : ∀ e ∈ db'.events, e.eventType = heldEventType →
    e ∈ db.events ∨ e.occurredAt ≤ t

namespace TouchesOnly

variable {db db' db'' : Db} {a : AttemptId} {t : Instant}

theorem of_eq (ha : ∀ k, db'.attempt k = db.attempt k)
    (he : db'.events = db.events) : TouchesOnly a t db db' where
  attempt k _ := ha k
  latest k _ := Db.latestEventType_congr he k
  holds _ h _ := .inl (he ▸ h)

theorem trans (h₁ : TouchesOnly a t db db') (h₂ : TouchesOnly a t db' db'') :
    TouchesOnly a t db db'' where
  attempt k hk := (h₂.attempt k hk).trans (h₁.attempt k hk)
  latest k hk := (h₂.latest k hk).trans (h₁.latest k hk)
  holds e he hty := by
    rcases h₂.holds e he hty with h | h
    · exact h₁.holds e h hty
    · exact .inr h

theorem modify (f : CallAttempt → CallAttempt) :
    TouchesOnly a t db (db.modifyAttempt a f) where
  attempt k hk := by rw [Db.attempt_modifyAttempt, if_neg hk]
  latest k _ := rfl
  holds _ h _ := .inl h

theorem log {ty : EventType} {t' : Instant}
    (h : ty = heldEventType → t' ≤ t) :
    TouchesOnly a t db (db.logEvent a ty t') where
  attempt k _ := rfl
  latest k hk := by
    rw [Db.latestEventType_eq, Db.latestEvent_logEvent, if_neg hk.symm]
    rfl
  holds e he hty := by
    rcases List.mem_cons.mp he with rfl | he
    · exact .inr (h hty)
    · exact .inl he

theorem contact {c : ContactId} {f : Contact → Contact} :
    TouchesOnly a t db (db.modifyContact c f) :=
  of_eq (fun _ => rfl) rfl

theorem held (h : TouchesOnly a t db db') {k : AttemptId} (hk : k ≠ a) :
    db'.held k = db.held k := by
  unfold Db.held
  rw [h.attempt k hk]
  cases db.attempt k with
  | none => rfl
  | some x => simp [isHeldAttempt, h.latest k hk]

end TouchesOnly

end CallingAgent
