import CallingAgent.Lib.RacedThrottle
import CallingAgent.Lib.Run

/-!
# Security events — a complete log, and rows that are a sample of it

Callers who are not authenticated can cause security events. Every event is
logged; of the events with one action and key a process lets one through to
its database a minute, and what it remembers for that is bounded: it forgets
everything before it would remember more. The threads of a process share
this memory without a lock, and a write that fails leaves no row.
-/

namespace CallingAgent

open Lib

/-- `_THROTTLE_SECONDS`, in milliseconds. -/
def throttleMs : Nat := 60000

/-- `_THROTTLE_MAX_KEYS` -/
def throttleMaxKeys : Nat := 10000

structure SecurityEvent where
  action : String
  actor : String
  entityType : String := "security"
  entityId : Option String := none
  metadata : List (String × String) := []
  throttleKey : Option String := none
  deriving DecidableEq

/-- A logged event, and what `_should_write` said of it. -/
structure SecurityRecord where
  event : SecurityEvent
  /-- the clock `_should_write` read -/
  time : Nat
  /-- it is let through to the database -/
  sampled : Bool
  deriving DecidableEq

/-- One process, with a call of `_should_write` for each thread that is in
one. -/
structure SecurityProcess where
  /-- in milliseconds -/
  now : Nat := 0
  /-- `_last_written` -/
  lastWritten : RacedThrottle (String × String) SecurityEvent := {}
  log : List SecurityRecord := []
  /-- let through, and not written yet -/
  writing : Table Nat SecurityRecord := ∅
  rows : List SecurityRecord := []

inductive SecurityAct where
  /-- `record_security_event` is called -/
  | event (event : SecurityEvent)
  /-- a call of `_should_write` goes on -/
  | step (i : Nat)
  /-- an event that was let through is written -/
  | write (i : Nat) (dbWorks : Bool)
  | tick (elapsed : Nat)

/-- `_should_write` has decided. -/
def SecurityProcess.conclude (s : SecurityProcess) (r : SecurityRecord) :
    SecurityProcess :=
  { s with
    log := r :: s.log
    writing := if r.sampled then AList.insert s.writing.nextKey r s.writing
      else s.writing }

def securityStep (s : SecurityProcess) : SecurityAct → Option SecurityProcess
  | .event e =>
      some <| match e.throttleKey with
        | none => s.conclude ⟨e, s.now, true⟩
        | some key =>
            { s with lastWritten := s.lastWritten.ask s.now (e.action, key) e }
  | .step i =>
      (s.lastWritten.step throttleMs (some throttleMaxKeys) i).map fun r =>
        match r.2 with
        | none => { s with lastWritten := r.1 }
        | some (c, sampled) =>
            { s with lastWritten := r.1 }.conclude ⟨c.payload, c.clock, sampled⟩
  | .write i dbWorks =>
      (AList.lookup i s.writing).map fun r =>
        { s with
          writing := AList.erase i s.writing
          rows := if dbWorks then r :: s.rows else s.rows }
  | .tick elapsed => some { s with now := s.now + elapsed }

/-- The record is let through with this action and key. -/
def SecurityRecord.isSample (r : SecurityRecord) (action key : String) : Bool :=
  r.sampled && decide (r.event.action = action)
    && decide (r.event.throttleKey = some key)

/-- The key and time an event that was let through leaves behind. -/
def SecurityRecord.stamp (r : SecurityRecord) : Option ((String × String) × Nat) :=
  if r.sampled then
    r.event.throttleKey.map fun key => ((r.event.action, key), r.time)
  else none

/-- **The sample.** Every event without a key is let through; every other
that is not, has one of its action and key that was let through less than a
minute before; a row is of an event that was let through, one for each at
most; and no more than ten thousand keys are remembered, beside one for each
other call that was in progress at the same time. Where the calls take
turns, of one action and key at most two are let through a minute, and one
more for every ten thousand. -/
structure SecurityProcess.Sampled (s : SecurityProcess) : Prop where
  unthrottled : ∀ r ∈ s.log, r.event.throttleKey = none → r.sampled = true
  sampled : ∀ r ∈ s.log, r.sampled = false →
    ∃ key, r.event.throttleKey = some key ∧
      ∃ r' ∈ s.log, r'.isSample r.event.action key = true ∧
        r.time < r'.time + throttleMs
  rows : ∀ p : SecurityRecord → Bool,
    s.rows.countP p ≤ s.log.countP fun r => r.sampled && p r
  small : s.lastWritten.throttle.size + 1
    ≤ throttleMaxKeys + max s.lastWritten.peak 1
  bounded : s.lastWritten.peak ≤ 1 → ∀ action key a,
    (s.log.countP fun r => r.isSample action key && decide (a ≤ r.time)
        && decide (r.time < a + throttleMs)) * throttleMaxKeys
      ≤ 2 * throttleMaxKeys + (s.log.countP fun r => r.stamp.isSome
        && decide (a ≤ r.time) && decide (r.time < a + throttleMs))

/-- What the log and the throttle know of each other. -/
structure SecurityProcess.Kept (s : SecurityProcess) : Prop where
  raced : s.lastWritten.Raced (some throttleMaxKeys) s.now
  turns : s.lastWritten.peak ≤ 1 →
    s.lastWritten.InTurn throttleMs (some throttleMaxKeys) s.now
  keyed : ∀ i c, s.lastWritten.call i = some c →
    ∃ key, c.payload.throttleKey = some key ∧ c.key = (c.payload.action, key)
  passed : s.lastWritten.throttle.passed = s.log.filterMap (·.stamp)
  unthrottled : ∀ r ∈ s.log, r.event.throttleKey = none → r.sampled = true
  sampled : ∀ r ∈ s.log, r.sampled = false →
    ∃ key, r.event.throttleKey = some key ∧
      ∃ r' ∈ s.log, r'.isSample r.event.action key = true ∧
        r.time < r'.time + throttleMs
  rows : ∀ p : SecurityRecord → Bool,
    s.rows.countP p + s.writing.count (fun _ r => p r)
      ≤ s.log.countP fun r => r.sampled && p r

namespace SecurityProcess

variable {s s' : SecurityProcess}

theorem mem_stamps {r : SecurityRecord} {action key : String} {t : Nat} :
    r.stamp = some ((action, key), t) ↔
      r.isSample action key = true ∧ r.time = t := by
  unfold SecurityRecord.stamp SecurityRecord.isSample
  cases r.sampled with
  | false => simp
  | true =>
      simp only [if_true, Option.map_eq_some_iff, Prod.mk.injEq, Bool.true_and,
        Bool.and_eq_true, decide_eq_true_eq]
      constructor
      · rintro ⟨key', hkey, ⟨haction, rfl⟩, htime⟩
        exact ⟨⟨haction, hkey⟩, htime⟩
      · rintro ⟨⟨haction, hkey⟩, htime⟩
        exact ⟨key, hkey, ⟨haction, rfl⟩, htime⟩

/-- A record is put in front of the log: what is new is what the throttle
has become, and what holds back the record if it is held back. -/
theorem Kept.conclude (h : s.Kept) {r : SecurityRecord}
    {t : RacedThrottle (String × String) SecurityEvent}
    (hraced : t.Raced (some throttleMaxKeys) s.now)
    (hturns : t.peak ≤ 1 → t.InTurn throttleMs (some throttleMaxKeys) s.now)
    (hkeyed : ∀ i c, t.call i = some c → ∃ key,
      c.payload.throttleKey = some key ∧ c.key = (c.payload.action, key))
    (hpassed : t.throttle.passed = (r :: s.log).filterMap (·.stamp))
    (hkeyless : r.event.throttleKey = none → r.sampled = true)
    (hheld : r.sampled = false → ∃ key, r.event.throttleKey = some key ∧
      ∃ r' ∈ s.log, r'.isSample r.event.action key = true ∧
        r.time < r'.time + throttleMs) :
    ({ s with lastWritten := t }.conclude r).Kept where
  raced := hraced
  turns := hturns
  keyed := hkeyed
  passed := hpassed
  unthrottled := by
    intro r' hr' hnone
    rcases List.mem_cons.mp hr' with rfl | hr'
    · exact hkeyless hnone
    · exact h.unthrottled r' hr' hnone
  sampled := by
    intro r' hr' hno
    have hfound : ∃ key, r'.event.throttleKey = some key ∧
        ∃ sample ∈ s.log, sample.isSample r'.event.action key = true ∧
          r'.time < sample.time + throttleMs := by
      rcases List.mem_cons.mp hr' with rfl | hr'
      · exact hheld hno
      · exact h.sampled r' hr' hno
    obtain ⟨key, hkey, sample, hmem, hsample⟩ := hfound
    exact ⟨key, hkey, sample, List.mem_cons_of_mem _ hmem, hsample⟩
  rows p := by
    have hrows := h.rows p
    show s.rows.countP p + Table.count (if r.sampled = true then _ else _) _
      ≤ List.countP _ (r :: s.log)
    rw [List.countP_cons]
    cases hs : r.sampled with
    | false =>
        simp only [Bool.false_eq_true, if_false, Bool.false_and]
        exact hrows
    | true =>
        simp only [if_true, Bool.true_and]
        rw [Table.count_insert_new (Table.lookup_nextKey _)]
        omega

/-- An event without a key leaves the throttle alone. -/
theorem Kept.unkeyed (h : s.Kept) {e : SecurityEvent}
    (hkey : e.throttleKey = none) : (s.conclude ⟨e, s.now, true⟩).Kept := by
  have hstamp : (⟨e, s.now, true⟩ : SecurityRecord).stamp = none := by
    simp [SecurityRecord.stamp, hkey]
  refine h.conclude h.raced h.turns h.keyed ?_ (fun _ => rfl) fun hno => ?_
  · rw [List.filterMap_cons_none hstamp]
    exact h.passed
  · cases hno

/-- The calls that go on are still about their events. -/
theorem keyed_step {t t' : RacedThrottle (String × String) SecurityEvent}
    {out : Option (AskCall (String × String) SecurityEvent × Bool)} {i : Nat}
    {capacity : Option Nat}
    (hk : ∀ i c, t.call i = some c → ∃ key,
      c.payload.throttleKey = some key ∧ c.key = (c.payload.action, key))
    (hstep : t.step throttleMs capacity i = some (t', out)) :
    ∀ j c, t'.call j = some c → ∃ key,
      c.payload.throttleKey = some key ∧ c.key = (c.payload.action, key) := by
  obtain ⟨d, hd, hs⟩ := RacedThrottle.step_cases hstep
  have hgoto : ∀ phase j c, (t.goto i d phase).call j = some c → ∃ key,
      c.payload.throttleKey = some key ∧ c.key = (c.payload.action, key) := by
    intro phase j c hc
    rw [RacedThrottle.call_goto] at hc
    split at hc
    · cases hc
      exact hk i d hd
    · exact hk j c hc
  have hfinish : ∀ j c, (t.finish i).call j = some c → ∃ key,
      c.payload.throttleKey = some key ∧ c.key = (c.payload.action, key) := by
    intro j c hc
    rw [RacedThrottle.call_finish] at hc
    split at hc
    · cases hc
    · exact hk j c hc
  cases hs with
  | held => exact hfinish
  | stored => exact hfinish
  | _ => exact hgoto _

/-- **A step of a thread keeps what is kept.** -/
theorem Kept.step (h : s.Kept) {i : Nat}
    (hstep : securityStep s (.step i) = some s') : s'.Kept := by
  obtain ⟨⟨t, out⟩, hst, rfl⟩ := Option.map_eq_some_iff.mp hstep
  have hraced := h.raced.step hst
  have hturns : t.peak ≤ 1 →
      t.InTurn throttleMs (some throttleMaxKeys) s.now := by
    intro hpeak
    rw [RacedThrottle.peak_step hst] at hpeak
    exact (h.turns hpeak).step hst
  have hkeyed := keyed_step h.keyed hst
  cases out with
  | none =>
      have hpassed := RacedThrottle.step_kept hst fun c hc => by cases hc
      exact ⟨hraced, hturns, hkeyed, hpassed.trans h.passed, h.unthrottled,
        h.sampled, h.rows⟩
  | some answer =>
      obtain ⟨c, sampled⟩ := answer
      obtain ⟨d, hd, hs⟩ := RacedThrottle.step_cases hst
      have hc : d = c := by cases hs <;> rfl
      subst hc
      obtain ⟨key, hkey, hck⟩ := h.keyed i d hd
      cases sampled with
      | true =>
          have hpassed := RacedThrottle.step_passed hst
          refine h.conclude hraced hturns hkeyed ?_ (fun _ => rfl)
            fun hno => by cases hno
          have hstamp : (⟨d.payload, d.clock, true⟩ : SecurityRecord).stamp
              = some (d.key, d.clock) := by
            simp [SecurityRecord.stamp, hkey, hck]
          rw [List.filterMap_cons_some hstamp, ← h.passed]
          exact hpassed
      | false =>
          have hpassed := RacedThrottle.step_kept hst fun c hc => by cases hc
          have hstamp : (⟨d.payload, d.clock, false⟩ : SecurityRecord).stamp
              = none := by
            simp [SecurityRecord.stamp]
          refine h.conclude hraced hturns hkeyed ?_ (fun hnone => ?_) fun _ => ?_
          · rw [List.filterMap_cons_none hstamp]
            exact hpassed.trans h.passed
          · rw [hkey] at hnone
            cases hnone
          · obtain ⟨last, hlast, -, hlt⟩ := h.raced.held hst
            rw [hpassed, h.passed] at hlast
            obtain ⟨sample, hmem, hstamped⟩ := List.mem_filterMap.mp hlast
            rw [hck] at hstamped
            obtain ⟨hsample, rfl⟩ := mem_stamps.mp hstamped
            exact ⟨key, hkey, sample, hmem, hsample, hlt⟩

theorem Kept.event (h : s.Kept) (e : SecurityEvent)
    (hstep : securityStep s (.event e) = some s') : s'.Kept := by
  cases hkey : e.throttleKey with
  | none =>
      simp only [securityStep, hkey, Option.some.injEq] at hstep
      rw [← hstep]
      exact h.unkeyed hkey
  | some key =>
      simp only [securityStep, hkey, Option.some.injEq] at hstep
      rw [← hstep]
      refine ⟨h.raced.ask _ _, fun hpeak => ?_, fun j c hc => ?_, h.passed,
        h.unthrottled, h.sampled, h.rows⟩
      · obtain ⟨hold, hfree⟩ := Nat.max_le.mp hpeak
        exact (h.turns hold).ask (by omega) _ _
      · have hc := (RacedThrottle.call_ask j).symm.trans hc
        split at hc
        · cases hc
          exact ⟨key, hkey, rfl⟩
        · exact h.keyed j c hc

theorem Kept.write (h : s.Kept) {i : Nat} {dbWorks : Bool}
    (hstep : securityStep s (.write i dbWorks) = some s') : s'.Kept := by
  obtain ⟨r, hr, rfl⟩ := Option.map_eq_some_iff.mp hstep
  refine ⟨h.raced, h.turns, h.keyed, h.passed, h.unthrottled, h.sampled,
    fun p => ?_⟩
  have hrows := h.rows p
  have hcount := Table.count_erase (p := fun _ r => p r) hr
  dsimp only
  cases dbWorks with
  | false =>
      simp only [Bool.false_eq_true, if_false]
      omega
  | true =>
      simp only [if_true, List.countP_cons]
      omega

/-- What passed in a minute is what the log says was let through. -/
theorem Kept.passesIn_eq (h : s.Kept) (action key : String) (a : Nat) :
    s.lastWritten.throttle.passesIn throttleMs (action, key) a
      = s.log.countP fun r => r.isSample action key && decide (a ≤ r.time)
        && decide (r.time < a + throttleMs) := by
  rw [Throttle.passesIn, h.passed, List.countP_filterMap]
  refine List.countP_congr fun r _ => ?_
  cases hstamp : r.stamp with
  | none =>
      have hno : r.isSample action key = false := by
        refine Bool.eq_false_iff.mpr fun hsample => ?_
        rw [mem_stamps.mpr ⟨hsample, rfl⟩] at hstamp
        cases hstamp
      simp [hno]
  | some stamp =>
      obtain ⟨⟨action', key'⟩, t⟩ := stamp
      obtain ⟨hsample, rfl⟩ := mem_stamps.mp hstamp
      have heq : r.isSample action key = true ↔
          (action', key') = (action, key) := by
        unfold SecurityRecord.isSample at hsample ⊢
        simp only [Bool.and_eq_true, decide_eq_true_eq] at hsample ⊢
        obtain ⟨⟨hsampled, haction⟩, hkey⟩ := hsample
        rw [hsampled, haction, hkey]
        simp
      simp only [Option.map_some, Option.getD_some, decide_eq_true_eq,
        Bool.and_eq_true, heq]
      tauto

theorem Kept.allIn_eq (h : s.Kept) (a : Nat) :
    s.lastWritten.throttle.allIn throttleMs a
      = s.log.countP fun r => r.stamp.isSome && decide (a ≤ r.time)
        && decide (r.time < a + throttleMs) := by
  rw [Throttle.allIn, h.passed, List.countP_filterMap]
  refine List.countP_congr fun r _ => ?_
  cases hstamp : r.stamp with
  | none => simp
  | some stamp =>
      obtain ⟨⟨action, key⟩, t⟩ := stamp
      obtain ⟨-, rfl⟩ := mem_stamps.mp hstamp
      simp

theorem Kept.sample (h : s.Kept) : s.Sampled where
  unthrottled := h.unthrottled
  sampled := h.sampled
  rows p := (Nat.le_add_right _ _).trans (h.rows p)
  small := h.raced.size_le rfl (by decide)
  bounded hpeak action key a := by
    have hbound := (h.turns hpeak).bounded rfl (action, key) a
    rwa [h.passesIn_eq, h.allIn_eq] at hbound

theorem kept_start : ({} : SecurityProcess).Kept where
  raced := RacedThrottle.raced_start
  turns _ := RacedThrottle.inTurn_start
  keyed _ _ hc := by cases hc
  passed := rfl
  unthrottled _ hr := by cases hr
  sampled _ hr := by cases hr
  rows _ := Nat.le_refl _

theorem Kept.tick (h : s.Kept) (elapsed : Nat) :
    ({ s with now := s.now + elapsed } : SecurityProcess).Kept := by
  have hle : s.now ≤ s.now + elapsed := Nat.le_add_right ..
  exact ⟨h.raced.later hle, fun hpeak => (h.turns hpeak).later hle, h.keyed,
    h.passed, h.unthrottled, h.sampled, h.rows⟩

/-- **No act of a process breaks what is kept.** -/
theorem Kept.act (h : s.Kept) {act : SecurityAct}
    (hstep : securityStep s act = some s') : s'.Kept := by
  cases act with
  | event e => exact h.event e hstep
  | step i => exact h.step hstep
  | write i dbWorks => exact h.write hstep
  | tick elapsed =>
      cases hstep
      exact h.tick elapsed

end SecurityProcess

/-- **The rows of a process are a sample of its events**, in every run,
whatever events there are, however its threads race, and whatever the
database refuses. -/
theorem securityEvents_sampled (s : SecurityProcess)
    (h : Run securityStep (fun _ _ => True) {} s) : s.Sampled :=
  (h.inv (fun _ _ _ ht _ hstep => SecurityProcess.Kept.act ht hstep)
    SecurityProcess.kept_start).sample

/-- A failed webhook from one address. -/
def badWebhook : SecurityEvent :=
  ⟨"webhook.auth_failed", "anonymous", "webhook", none,
    [("endpoint", "dograh")], some "dograh:203.0.113.9"⟩

/-- Two threads look before either of them stores, a third one comes a
second later; the first write fails. -/
theorem securityEvents_sampled_raced :
    ∃ s : SecurityProcess, Run securityStep (fun _ _ => True) {} s ∧
      s.log.map (·.sampled) = [false, true, true] ∧ s.rows.length = 1 ∧
      s.Sampled := by
  obtain ⟨s, hs⟩ : ∃ s, runActs securityStep {}
      [.event badWebhook, .event badWebhook, .step 0, .step 1, .step 0, .step 1,
        .step 0, .step 1, .tick 1000, .event badWebhook, .step 0,
        .write 0 false, .write 1 true] = some s := ⟨_, rfl⟩
  refine ⟨s, .of_runActs hs, ?_, ?_, securityEvents_sampled s (.of_runActs hs)⟩
  · cases hs
    decide
  · cases hs
    decide

end CallingAgent
