import CallingAgent.System.Onward

/-!
# Triggers — what is kept of the requests of an attempt

The attempt row is claimed before the request leaves, and a row on which a
request is open never looks held. Each worker relies on its own attempt
only; a step that keeps the triggers of every other attempt keeps what the
other workers rely on.
-/

namespace CallingAgent

open Lib

/-! ## What is claimed -/

/-- The row of a contact and number. -/
def Db.RowOf (db : Db) (a : AttemptId) (c : ContactId) (n : Nat) : Prop :=
  ∃ x, db.attempt a = some x ∧ x.contactId = c ∧ x.attemptNumber = n

/-- The unique constraint on contact and number. -/
def Db.UniqueAttempts (db : Db) : Prop :=
  ∀ a b x y, db.attempt a = some x → db.attempt b = some y →
    x.contactId = y.contactId → x.attemptNumber = y.attemptNumber → a = b

namespace System

variable (s : System)

/-- No request of the attempt may have been accepted. -/
def NoOpen (a : AttemptId) : Prop :=
  ∀ i r, s.request i = some r → r.attemptId = a → r.noCall = true

/-- **One trigger per attempt.** Every request was sent on a committed
claim of its contact and number, and of those the provider may have
accepted there is at most one for each. -/
structure OneTrigger : Prop where
  claimed : ∀ i r, s.request i = some r →
    s.db.RowOf r.attemptId r.contactId r.attemptNumber
  single : ∀ i j r q, s.request i = some r → s.request j = some q →
    r.noCall = false → q.noCall = false → r.contactId = q.contactId →
    r.attemptNumber = q.attemptNumber → i = j

/-- Some worker runs a job for this contact and number, whatever its
campaign. -/
def dialing (c : ContactId) (n : Nat) : Bool :=
  s.workers.any fun _ x => x.phase.holdsLease
    && (x.job.contactId == c && x.job.attemptNumber == n)

/-- Nothing has happened yet: no worker, no request, and a database as its
constraints allow it, without holds in the future. -/
structure Fresh : Prop where
  workers : ∀ w, s.worker w = none
  requests : ∀ i, s.request i = none
  unique : s.db.UniqueAttempts
  holdRow : ∀ e ∈ s.db.events, e.eventType = heldEventType →
    (s.db.attempt e.callAttemptId).isSome = true
  holdBy : ∀ a, s.db.HoldsBy a s.now

end System

/-- A run is admitted only while no other run is for the same contact and
number, and an orphaned claim is recorded in a transaction that began
after the holds of its attempt. -/
def soleRun (s : System) : SystemAct → Bool
  | .worker w .acquire => (s.worker w).all fun x =>
      !s.dialing x.job.contactId x.job.attemptNumber
  | .worker w (.firstLookup _ _) => (s.worker w).all fun x =>
      match x.phase with
      | .lookup aid _ _ _ _ .ambiguousRecovery txStart =>
          s.db.events.all fun e => decide (e.callAttemptId = aid →
            e.eventType = heldEventType → e.occurredAt ≤ txStart)
      | _ => true
  | _ => true

/-! ## The invariant -/

/-- What a worker relies on of its attempt. -/
def Phase.Sound (s : System) (job : DialJob) : Phase → Prop
  | .secondGate _ view | .ready view => ∀ a, view.held = some a →
      s.db.RowOf a job.contactId job.attemptNumber ∧ s.NoOpen a
  | .claimed a _ => s.db.RowOf a job.contactId job.attemptNumber ∧
      s.NoOpen a ∧ s.db.held a = false
  | .sent a _ _ sentAt i => s.db.RowOf a job.contactId job.attemptNumber ∧
      s.db.HoldsBy a sentAt ∧ sentAt ≤ s.now ∧
      ∃ r, s.request i = some r ∧ r.attemptId = a ∧ r.noCall = false
  | .lookup a _ _ event _ otherwise txStart =>
      s.db.RowOf a job.contactId job.attemptNumber ∧ event ≠ heldEventType ∧
      (otherwise ≠ .ambiguousRecovery → s.db.HoldsBy a txStart)
  | _ => True

/-- What holds of each attempt id. -/
structure AttemptInv (s : System) (a : AttemptId) : Prop where
  holdRow : ∀ e ∈ s.db.events, e.callAttemptId = a →
    e.eventType = heldEventType → (s.db.attempt a).isSome = true
  holdBy : s.db.HoldsBy a s.now
  requestRow : ∀ i r, s.request i = some r → r.attemptId = a →
    s.db.RowOf a r.contactId r.attemptNumber
  single : ∀ i j r q, s.request i = some r → s.request j = some q →
    r.attemptId = a → q.attemptId = a → r.noCall = false →
    q.noCall = false → i = j
  notHeld : ∀ i r, s.request i = some r → r.attemptId = a →
    r.noCall = false → s.db.held a = false

/-- At most one run for each contact and number. -/
def System.Exclusive (s : System) : Prop :=
  ∀ w w' x x', s.worker w = some x → s.worker w' = some x' →
    x.phase.holdsLease = true → x'.phase.holdsLease = true →
    x.job.contactId = x'.job.contactId →
    x.job.attemptNumber = x'.job.attemptNumber → w = w'

structure TriggerInv (s : System) : Prop where
  attempts : ∀ a, AttemptInv s a
  unique : s.db.UniqueAttempts
  exclusive : s.Exclusive
  sound : ∀ w x, s.worker w = some x → x.phase.Sound s x.job

/-- A row is found under its contact and number only. -/
theorem Db.RowOf.eq {db : Db} {a : AttemptId} {c c' : ContactId} {n n' : Nat}
    (h : db.RowOf a c n) (h' : db.RowOf a c' n') : c = c' ∧ n = n' := by
  obtain ⟨x, hx, rfl, rfl⟩ := h
  obtain ⟨y, hy, rfl, rfl⟩ := h'
  rw [hx] at hy
  cases hy
  exact ⟨rfl, rfl⟩

theorem TriggerInv.oneTrigger {s : System} (h : TriggerInv s) :
    s.OneTrigger where
  claimed i r hr := (h.attempts r.attemptId).requestRow i r hr rfl
  single i j r q hr hq hro hqo hc hn := by
    -- the two rows are the same one
    obtain ⟨x, hx, hxc, hxn⟩ := (h.attempts _).requestRow i r hr rfl
    obtain ⟨y, hy, hyc, hyn⟩ := (h.attempts _).requestRow j q hq rfl
    have hsame : r.attemptId = q.attemptId :=
      h.unique _ _ x y hx hy (by rw [hxc, hyc, hc]) (by rw [hxn, hyn, hn])
    exact (h.attempts q.attemptId).single i j r q hr hq hsame rfl hro hqo

theorem System.Fresh.inv {s : System} (h : s.Fresh) : TriggerInv s where
  attempts a :=
    { holdRow := fun e he ha hty => by
        rw [← ha]
        exact h.holdRow e he hty
      holdBy := h.holdBy a
      requestRow := fun i r hr => by
        rw [h.requests i] at hr
        cases hr
      single := fun i j r q hr => by
        rw [h.requests i] at hr
        cases hr
      notHeld := fun i r hr => by
        rw [h.requests i] at hr
        cases hr }
  unique := h.unique
  exclusive w w' x x' hx := by
    rw [h.workers w] at hx
    cases hx
  sound w x hx := by
    rw [h.workers w] at hx
    cases hx

/-! ## What a step leaves of an attempt -/

/-- Nothing that the triggers of `a` depend on was taken back. -/
structure TriggersKept (s s' : System) (a : AttemptId) : Prop where
  row : ∀ c n, s.db.RowOf a c n → s'.db.RowOf a c n
  held : s'.db.held a = true → s.db.held a = true
  holds : ∀ e ∈ s'.db.events, e.callAttemptId = a →
    e.eventType = heldEventType → e ∈ s.db.events
  new : ∀ i r, s'.request i = some r → r.attemptId = a → s.request i = some r
  old : ∀ i r, s.request i = some r → r.attemptId = a → s'.request i = some r

section

variable {s s' : System} {a : AttemptId} {job : DialJob}

theorem TriggersKept.holdsBy (h : TriggersKept s s' a) {t : Instant}
    (ht : s.db.HoldsBy a t) : s'.db.HoldsBy a t :=
  fun e he ha hty => ht e (h.holds e he ha hty) ha hty

theorem TriggersKept.notHeld (h : TriggersKept s s' a)
    (hn : s.db.held a = false) : s'.db.held a = false := by
  cases hh : s'.db.held a with
  | false => rfl
  | true =>
      rw [h.held hh] at hn
      cases hn

theorem TriggersKept.noOpen (h : TriggersKept s s' a) (hn : s.NoOpen a) :
    s'.NoOpen a :=
  fun i r hr ha => hn i r (h.new i r hr ha) ha

/-- The invariant of an attempt survives a step that keeps its triggers. -/
theorem AttemptInv.kept (h : AttemptInv s a) (hk : TriggersKept s s' a)
    (hnow : s.now ≤ s'.now) : AttemptInv s' a where
  holdRow e he ha hty := by
    obtain ⟨x, hx⟩ := Option.isSome_iff_exists.mp
      (h.holdRow e (hk.holds e he ha hty) ha hty)
    obtain ⟨x', hx', _⟩ := hk.row _ _ ⟨x, hx, rfl, rfl⟩
    rw [hx']
    rfl
  holdBy := (hk.holdsBy h.holdBy).mono hnow
  requestRow i r hr ha := hk.row _ _ (h.requestRow i r (hk.new i r hr ha) ha)
  single i j r q hr hq hra hqa :=
    h.single i j r q (hk.new i r hr hra) (hk.new j q hq hqa) hra hqa
  notHeld i r hr ha ho := hk.notHeld (h.notHeld i r (hk.new i r hr ha) ha ho)

/-- So does what a worker relies on. -/
theorem Phase.Sound.kept {p : Phase} (h : p.Sound s job)
    (hnow : s.now ≤ s'.now)
    (hk : ∀ a, s.db.RowOf a job.contactId job.attemptNumber →
      TriggersKept s s' a) : p.Sound s' job := by
  cases p with
  | secondGate previous view =>
      intro a ha
      obtain ⟨hrow, hno⟩ := h a ha
      exact ⟨(hk a hrow).row _ _ hrow, (hk a hrow).noOpen hno⟩
  | ready view =>
      intro a ha
      obtain ⟨hrow, hno⟩ := h a ha
      exact ⟨(hk a hrow).row _ _ hrow, (hk a hrow).noOpen hno⟩
  | claimed a prior =>
      obtain ⟨hrow, hno, hh⟩ := h
      exact ⟨(hk a hrow).row _ _ hrow, (hk a hrow).noOpen hno,
        (hk a hrow).notHeld hh⟩
  | sent a prior contact sentAt i =>
      obtain ⟨hrow, hby, hle, r, hr, hra, hro⟩ := h
      exact ⟨(hk a hrow).row _ _ hrow, (hk a hrow).holdsBy hby,
        hle.trans hnow, r,
        (hk a hrow).old i r hr hra, hra, hro⟩
  | lookup a loaded contact event failure otherwise txStart =>
      obtain ⟨hrow, hev, hby⟩ := h
      exact ⟨(hk a hrow).row _ _ hrow, hev,
        fun ho => (hk a hrow).holdsBy (hby ho)⟩
  | delivered => trivial
  | cleared => trivial
  | deferring due => trivial
  | admitted => trivial
  | settling o => trivial

/-- The rows stay under their contact and number, none is added, no hold is
logged, and no row comes to look held. -/
structure RowsKept (db db' : Db) : Prop where
  row : ∀ a c n, db.RowOf a c n → db'.RowOf a c n
  back : ∀ a c n, db'.RowOf a c n → db.RowOf a c n
  holds : ∀ e ∈ db'.events, e.eventType = heldEventType → e ∈ db.events
  held : ∀ a, db'.held a = true → db.held a = true

theorem RowsKept.trans {db db' db'' : Db} (h₁ : RowsKept db db')
    (h₂ : RowsKept db' db'') : RowsKept db db'' where
  row a c n h := h₂.row a c n (h₁.row a c n h)
  back a c n h := h₁.back a c n (h₂.back a c n h)
  holds e he hty := h₁.holds e (h₂.holds e he hty) hty
  held a h := h₁.held a (h₂.held a h)

theorem AttemptsKept.rows {db db' : Db} (h : AttemptsKept db db') :
    RowsKept db db' where
  row a c n hrow := by
    obtain ⟨x, hx, rfl, rfl⟩ := hrow
    obtain ⟨x', hx', hk⟩ := h.row a x hx
    exact ⟨x', hx', hk.contactId, hk.attemptNumber⟩
  back a c n hrow := by
    obtain ⟨x', hx', rfl, rfl⟩ := hrow
    obtain ⟨x, hx, hk⟩ := h.row_before hx'
    exact ⟨x, hx, hk.contactId.symm, hk.attemptNumber.symm⟩
  holds := h.holds
  held := h.held

/-- A write that touches neither attempts nor events. -/
theorem RowsKept.of_eq {db db' : Db} (ha : ∀ a, db'.attempt a = db.attempt a)
    (he : db'.events = db.events) : RowsKept db db' :=
  (AttemptsKept.of_eq ha he).rows

theorem RowsKept.refl (db : Db) : RowsKept db db := .of_eq (fun _ => rfl) rfl

/-- A row that becomes initiated is not held. -/
theorem RowsKept.initiate {db : Db} {f : CallAttempt → CallAttempt}
    (hf : ∀ x : CallAttempt, (f x).contactId = x.contactId ∧
      (f x).attemptNumber = x.attemptNumber ∧ (f x).state = .initiated) :
    RowsKept db (db.modifyAttempt a f) where
  row k c n hrow := by
    obtain ⟨x, hx, rfl, rfl⟩ := hrow
    unfold Db.RowOf
    rw [Db.attempt_modifyAttempt, hx]
    by_cases hk : k = a
    · rw [if_pos hk]
      exact ⟨f x, rfl, (hf x).1, (hf x).2.1⟩
    · rw [if_neg hk]
      exact ⟨x, rfl, rfl, rfl⟩
  back k c n hrow := by
    obtain ⟨x', hx', rfl, rfl⟩ := hrow
    rw [Db.attempt_modifyAttempt] at hx'
    by_cases hk : k = a
    · rw [if_pos hk] at hx'
      obtain ⟨x, hx, rfl⟩ := Option.map_eq_some_iff.mp hx'
      exact ⟨x, hx, (hf x).1.symm, (hf x).2.1.symm⟩
    · rw [if_neg hk] at hx'
      exact ⟨x', hx', rfl, rfl⟩
  holds e he _ := he
  held k hk := by
    rw [Db.held_iff] at hk ⊢
    obtain ⟨x', hx', hn, hs, hl⟩ := hk
    rw [Db.attempt_modifyAttempt] at hx'
    by_cases hka : k = a
    · rw [if_pos hka] at hx'
      obtain ⟨x, _, rfl⟩ := Option.map_eq_some_iff.mp hx'
      rw [(hf x).2.2] at hs
      cases hs
    · rw [if_neg hka] at hx'
      exact ⟨x', hx', hn, hs, hl⟩

theorem TriggersKept.of_rows (h : RowsKept s.db s'.db)
    (hr : s'.requests = s.requests) (a : AttemptId) : TriggersKept s s' a where
  row := h.row a
  held := h.held a
  holds e he _ hty := h.holds e he hty
  new i r hi _ := by
    rw [System.request, ← hr]
    exact hi
  old i r hi _ := by
    rw [System.request, hr]
    exact hi

theorem RowsKept.unique {db db' : Db} (h : RowsKept db db')
    (hu : db.UniqueAttempts) : db'.UniqueAttempts := by
  intro a b x' y' hx' hy' hc hn
  obtain ⟨x, hx, hxc, hxn⟩ := h.back a _ _ ⟨x', hx', rfl, rfl⟩
  obtain ⟨y, hy, hyc, hyn⟩ := h.back b _ _ ⟨y', hy', rfl, rfl⟩
  exact hu a b x y hx hy (by rw [hxc, hyc, hc]) (by rw [hxn, hyn, hn])

/-- A step of another process. -/
theorem TriggerInv.service (h : TriggerInv s) (hk : RowsKept s.db s'.db)
    (hr : s'.requests = s.requests) (hw : s'.workers = s.workers)
    (hnow : s.now ≤ s'.now) : TriggerInv s' where
  attempts a := (h.attempts a).kept (.of_rows hk hr a) hnow
  unique := hk.unique h.unique
  exclusive w w' x x' hx hx' :=
    h.exclusive w w' x x' (by rw [System.worker, ← hw]; exact hx)
      (by rw [System.worker, ← hw]; exact hx')
  sound w x hx :=
    (h.sound w x (by rw [System.worker, ← hw]; exact hx)).kept hnow
      fun a _ => .of_rows hk hr a

end

/-! ## Steps of a worker -/

/-- Without a lease a worker relies on nothing. -/
theorem Phase.sound_of_noLease {s : System} {job : DialJob} {p : Phase}
    (h : p.holdsLease = false) : p.Sound s job := by
  cases p <;> trivial

section

variable {env : Env} {s : System} {w : WorkerId} {x : Worker} {r : WorkerStep}

theorem System.worker_advance (w' : WorkerId) :
    (s.advance w x r).worker w' =
      if w' = w then r.phase.map fun phase => { x with phase }
      else s.worker w' :=
  Table.lookup_put ..

/-- **A worker's step keeps the invariant** if it keeps what other workers
rely on: an attempt whose triggers it touches is its own. -/
theorem TriggerInv.advance (h : TriggerInv s) (hx : s.worker w = some x)
    (hkept : ∀ a, TriggersKept s (s.advance w x r) a ∨
      AttemptInv (s.advance w x r) a ∧ x.phase.holdsLease = true ∧
        s.db.RowOf a x.job.contactId x.job.attemptNumber)
    (hunique : r.db.UniqueAttempts)
    (hlease : ∀ p, r.phase = some p → p.holdsLease = true →
      x.phase.holdsLease = true ∨
        s.dialing x.job.contactId x.job.attemptNumber = false)
    (hphase : ∀ p, r.phase = some p → p.Sound (s.advance w x r) x.job) :
    TriggerInv (s.advance w x r) := by
  -- another worker with a lease for the same contact and number
  have hother : ∀ w' x', w' ≠ w → s.worker w' = some x' →
      x'.phase.holdsLease = true →
      x.job.contactId = x'.job.contactId →
      x.job.attemptNumber = x'.job.attemptNumber →
      x.phase.holdsLease = false ∧
        s.dialing x.job.contactId x.job.attemptNumber = true := by
    intro w' x' hne hx' hl' hc hn
    constructor
    · cases hl : x.phase.holdsLease with
      | false => rfl
      | true => exact absurd (h.exclusive w w' x x' hx hx' hl hl' hc hn).symm hne
    · refine Table.any_iff.mpr ⟨w', x', hx', ?_⟩
      simp [hl', hc, hn]
  constructor
  case attempts =>
    intro a
    rcases hkept a with hk | ⟨hinv, _⟩
    · exact (h.attempts a).kept hk (le_refl _)
    · exact hinv
  case unique => exact hunique
  case exclusive =>
    intro w₁ w₂ x₁ x₂ h₁ h₂ hl₁ hl₂ hc hn
    rw [System.worker_advance] at h₁ h₂
    by_cases e₁ : w₁ = w
    · by_cases e₂ : w₂ = w
      · rw [e₁, e₂]
      · rw [if_pos e₁] at h₁
        rw [if_neg e₂] at h₂
        obtain ⟨p, hp, rfl⟩ := Option.map_eq_some_iff.mp h₁
        obtain ⟨hno, hd⟩ := hother w₂ x₂ e₂ h₂ hl₂ hc hn
        rcases hlease p hp hl₁ with hl | hl
        · rw [hno] at hl; cases hl
        · rw [hd] at hl; cases hl
    · by_cases e₂ : w₂ = w
      · rw [if_neg e₁] at h₁
        rw [if_pos e₂] at h₂
        obtain ⟨p, hp, rfl⟩ := Option.map_eq_some_iff.mp h₂
        obtain ⟨hno, hd⟩ := hother w₁ x₁ e₁ h₁ hl₁ hc.symm hn.symm
        rcases hlease p hp hl₂ with hl | hl
        · rw [hno] at hl; cases hl
        · rw [hd] at hl; cases hl
      · rw [if_neg e₁] at h₁
        rw [if_neg e₂] at h₂
        exact h.exclusive w₁ w₂ x₁ x₂ h₁ h₂ hl₁ hl₂ hc hn
  case sound =>
    intro w' x' hx'
    rw [System.worker_advance] at hx'
    by_cases hw : w' = w
    · rw [if_pos hw] at hx'
      obtain ⟨p, hp, rfl⟩ := Option.map_eq_some_iff.mp hx'
      exact hphase p hp
    · rw [if_neg hw] at hx'
      cases hl' : x'.phase.holdsLease with
      | false => exact Phase.sound_of_noLease hl'
      | true =>
          refine (h.sound w' x' hx').kept (le_refl _) fun a hrow' => ?_
          rcases hkept a with hk | ⟨_, hl, hrow⟩
          · exact hk
          · -- two leases for one row
            obtain ⟨hc, hn⟩ := hrow.eq hrow'
            obtain ⟨hno, _⟩ := hother w' x' hw hx' hl' hc hn
            rw [hno] at hl
            cases hl

/-- A step that keeps the rows and sends nothing. -/
theorem TriggerInv.calm (h : TriggerInv s) (hx : s.worker w = some x)
    (hk : RowsKept s.db r.db) (hr : r.requests = s.requests)
    (hlease : ∀ p, r.phase = some p → p.holdsLease = true →
      x.phase.holdsLease = true)
    (hphase : ∀ p, r.phase = some p → p.Sound (s.advance w x r) x.job) :
    TriggerInv (s.advance w x r) :=
  h.advance hx (fun a => .inl (.of_rows hk hr a)) (hk.unique h.unique)
    (fun p hp hl => .inl (hlease p hp hl)) hphase

/-- A step that ends the run, or leaves it without a lease. -/
theorem TriggerInv.release (h : TriggerInv s) (hx : s.worker w = some x)
    (hk : RowsKept s.db r.db) (hr : r.requests = s.requests)
    (hphase : ∀ p, r.phase = some p → p.holdsLease = false) :
    TriggerInv (s.advance w x r) := by
  refine h.calm hx hk hr (fun p hp hl => ?_)
    fun p hp => Phase.sound_of_noLease (hphase p hp)
  rw [hphase p hp] at hl
  cases hl

/-- A recorded outcome. -/
theorem TriggerInv.record (h : TriggerInv s) (hx : s.worker w = some x)
    {commits : Bool} {d : Db × Option (RecoveryJob × Instant)} {o : JobOutcome}
    (hk : RowsKept s.db d.1) :
    TriggerInv (s.advance w x (s.record commits d o)) := by
  refine h.release hx ?_ rfl fun p hp => ?_
  · unfold System.record
    cases commits with
    | true => exact hk
    | false => exact .refl _
  · unfold System.record at hp
    cases commits with
    | true => cases hp; rfl
    | false => cases hp

end

end CallingAgent
