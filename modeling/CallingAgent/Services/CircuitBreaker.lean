import CallingAgent.Queue.Admission
import CallingAgent.Services.ProviderHealth

/-!
# Circuit breaker — failures counted across workers

`record_failure` is two Redis commands: it counts the failure, and opens the
circuit where the count has reached the threshold. `record_success` deletes
the count. Any number of workers report their calls, the commands of one come
between those of another, and a worker may stop between its two. An admission
asks whether the circuit of its provider is open.
-/

namespace CallingAgent

open Lib

/-! ## Reports -/

/-- A call that was placed, as far as the circuit breaker hears of it. -/
inductive PlacedCall where
  /-- `_place_call_via_dograh`, with the outcome of a reconciliation -/
  | dograh (decision : TriggerDecision) (resolved : Option JobOutcome)
  /-- `_place_call` on the provider of the native engine -/
  | native (provider : String) (initiated : Bool)

namespace PlacedCall

/-- The provider whose circuit it is. -/
def provider : PlacedCall → String
  | .dograh .. => "dograh"
  | .native provider _ => provider

/-- What is recorded: a success, a failure, or nothing for a call that was
held, which is no sign of the provider's health. -/
def healthy : PlacedCall → Option Bool
  | .dograh (.accept _) _ => some true
  | .dograh (.hold _) _ => none
  | .dograh (.reconcile _) resolved => some (resolved == some .reconciled)
  | .dograh (.fail _) _ => some false
  | .native _ initiated => some initiated

end PlacedCall

/-- `CircuitBreaker`: what its workers are configured with. -/
structure CircuitBreaker where
  errorThreshold : Nat
  openSeconds : Nat

/-! ## Commands -/

/-- What Redis did for a worker, or that the worker went no further. -/
inductive CircuitEvent where
  /-- the failure was counted; `answered` where its worker read the count -/
  | failed (provider : String) (worker : Nat) (answered : Bool)
  | succeeded (provider : String) (worker : Nat)
  | opened (provider : String) (worker : Nat) (time : Nat)
  /-- the worker died, or Redis refused its command -/
  | stopped (worker : Nat)
  deriving DecidableEq

namespace CircuitEvent

def worker : CircuitEvent → Nat
  | .failed _ w _ | .succeeded _ w | .opened _ w _ | .stopped w => w

/-- A report about this provider. -/
def reports (provider : String) : CircuitEvent → Bool
  | .failed p _ _ | .succeeded p _ => p == provider
  | _ => false

def isFailure : CircuitEvent → Bool
  | .failed .. => true
  | _ => false

end CircuitEvent

/-- The failures of a provider since its last success. -/
def failuresInRow (provider : String) (history : List CircuitEvent) : Nat :=
  ((history.filter (·.reports provider)).takeWhile (·.isFailure)).length

/-- The first command of an admission, with what Redis had done by then. -/
structure CircuitAnswer where
  request : AdmissionRequest
  /-- the request behind it -/
  next : AdmissionRequest
  reply : RedisReply
  time : Nat
  history : List CircuitEvent

structure CircuitState where
  now : Nat := 0
  /-- `circuit:<provider>:errors`, which never expires -/
  errors : Table String Nat := ∅
  /-- `circuit:<provider>:open` -/
  openKeys : Keyspace String String := ∅
  /-- the workers between the two commands of `record_failure` -/
  tripping : Table Nat String := ∅
  /-- everything that happened, the latest first -/
  history : List CircuitEvent := []
  answers : List CircuitAnswer := []

inductive CircuitAct where
  | tick (elapsed : Nat)
  /-- a worker reports its call, up to the first command -/
  | report (worker : Nat) (call : PlacedCall) (reply : RedisReply)
  /-- the second command of `record_failure` -/
  | trip (worker : Nat) (reply : RedisReply)
  | crash (worker : Nat)
  | ask (request : AdmissionRequest) (reply : RedisReply)

namespace CircuitState

variable (b : CircuitBreaker) (s : CircuitState)

/-- `is_open` -/
def isOpen (provider : String) : Bool :=
  (s.openKeys.get s.now provider).isSome

/-- `record_success` -/
def recordSuccess (provider : String) (w : Nat) : RedisReply → CircuitState
  | .refused => s
  | _ => { s with errors := AList.erase provider s.errors
                  history := .succeeded provider w :: s.history }

/-- `INCR`, which takes a missing key for 0. -/
def countFailure (provider : String) (w : Nat) (answered : Bool) :
    CircuitState :=
  { s with
    errors := AList.insert provider
      ((AList.lookup provider s.errors).getD 0 + 1) s.errors
    history := .failed provider w answered :: s.history }

/-- `record_failure` up to the comparison: a worker that read a count at the
threshold goes on. -/
def recordFailure (provider : String) (w : Nat) : RedisReply → CircuitState
  | .refused => s
  | .lost => s.countFailure provider w false
  | .answered =>
      let s := s.countFailure provider w true
      if b.errorThreshold ≤ (AList.lookup provider s.errors).getD 0 then
        { s with tripping := AList.insert w provider s.tripping }
      else s

/-- The worker goes no further. -/
def stop (w : Nat) : CircuitState :=
  { s with tripping := AList.erase w s.tripping
           history := .stopped w :: s.history }

/-- `SET ... EX` -/
def openCircuit (provider : String) (w : Nat) : CircuitState :=
  { s with
    openKeys := s.openKeys.set provider "1" (s.now + b.openSeconds * 1000)
    tripping := AList.erase w s.tripping
    history := .opened provider w s.now :: s.history }

/-- The breaker's part of `_admit`. -/
def ask (request : AdmissionRequest) (reply : RedisReply) : CircuitState :=
  let answer :=
    if reply = .answered then some (s.isOpen request.providerName) else none
  { s with answers :=
      ⟨request, request.onBreaker answer, reply, s.now, s.history⟩
        :: s.answers }

end CircuitState

/-- One step. A worker reports one call after the other. -/
def circuitStep (b : CircuitBreaker) (s : CircuitState) :
    CircuitAct → Option CircuitState
  | .tick d => some { s with now := s.now + d }
  | .report w call reply =>
      if (AList.lookup w s.tripping).isSome then none
      else
        match call.healthy with
        | none => some s
        | some true => some (s.recordSuccess call.provider w reply)
        | some false => some (s.recordFailure b call.provider w reply)
  | .trip w reply =>
      (AList.lookup w s.tripping).map fun provider =>
        if reply = .refused then s.stop w else s.openCircuit b provider w
  | .crash w => some (s.stop w)
  | .ask request reply => some (s.ask request reply)

section

variable {b : CircuitBreaker} {s s' : CircuitState} {a : CircuitAct}

/-- What a step can do. -/
theorem circuitStep_cases (h : circuitStep b s a = some s') :
    (∃ d, s' = { s with now := s.now + d }) ∨ s' = s ∨
    (∃ q reply, s' = s.ask q reply) ∨
    (∃ p w, AList.lookup w s.tripping = none ∧
      s' = s.recordSuccess p w .answered) ∨
    (∃ p w, AList.lookup w s.tripping = none ∧ s' = s.countFailure p w false) ∨
    (∃ p w, AList.lookup w s.tripping = none ∧
      s' = s.recordFailure b p w .answered) ∨
    (∃ w, s' = s.stop w) ∨
    (∃ p w, AList.lookup w s.tripping = some p ∧ s' = s.openCircuit b p w) := by
  cases a with
  | tick d => exact .inl ⟨d, (Option.some.inj h).symm⟩
  | ask q reply => exact .inr (.inr (.inl ⟨q, reply, (Option.some.inj h).symm⟩))
  | crash w =>
      exact .inr (.inr (.inr (.inr (.inr (.inr (.inl
        ⟨w, (Option.some.inj h).symm⟩))))))
  | trip w reply =>
      obtain ⟨p, hp, rfl⟩ := Option.map_eq_some_iff.mp h
      split
      · exact .inr (.inr (.inr (.inr (.inr (.inr (.inl ⟨w, rfl⟩))))))
      · exact .inr (.inr (.inr (.inr (.inr (.inr (.inr ⟨p, w, hp, rfl⟩))))))
  | report w call reply =>
      simp only [circuitStep] at h
      split at h
      · cases h
      next hidle =>
      have hidle : AList.lookup w s.tripping = none :=
        Option.not_isSome_iff_eq_none.mp hidle
      split at h
      · exact .inr (.inl (Option.some.inj h).symm)
      · cases Option.some.inj h
        cases reply with
        | refused => exact .inr (.inl rfl)
        | answered =>
            exact .inr (.inr (.inr (.inl ⟨_, w, hidle, rfl⟩)))
        | lost => exact .inr (.inr (.inr (.inl ⟨_, w, hidle, rfl⟩)))
      · cases Option.some.inj h
        cases reply with
        | refused => exact .inr (.inl rfl)
        | answered =>
            exact .inr (.inr (.inr (.inr (.inr (.inl ⟨_, w, hidle, rfl⟩)))))
        | lost => exact .inr (.inr (.inr (.inr (.inl ⟨_, w, hidle, rfl⟩))))

end

/-! ## The counts -/

section

variable {b : CircuitBreaker} {s s' : CircuitState} {a : CircuitAct}
  {e : CircuitEvent} {h : List CircuitEvent} {p : String} {w : Nat}

theorem failuresInRow_failed {q : String} {answered : Bool} :
    failuresInRow p (.failed q w answered :: h)
      = if q = p then failuresInRow p h + 1 else failuresInRow p h := by
  by_cases hq : q = p
  · simp [failuresInRow, CircuitEvent.reports, CircuitEvent.isFailure, hq]
  · simp [failuresInRow, CircuitEvent.reports, hq]

theorem failuresInRow_succeeded {q : String} :
    failuresInRow p (.succeeded q w :: h)
      = if q = p then 0 else failuresInRow p h := by
  by_cases hq : q = p
  · simp [failuresInRow, CircuitEvent.reports, CircuitEvent.isFailure, hq]
  · simp [failuresInRow, CircuitEvent.reports, hq]

/-- The key of every provider holds its failures in a row. -/
def CircuitState.Counts (s : CircuitState) : Prop :=
  ∀ p, (AList.lookup p s.errors).getD 0 = failuresInRow p s.history

theorem CircuitState.Counts.failed (hs : s.Counts) (answered : Bool) :
    (s.countFailure p w answered).Counts := by
  intro q
  rw [CircuitState.countFailure, Table.lookup_insert', failuresInRow_failed]
  by_cases hq : q = p
  · subst hq
    rw [if_pos rfl, if_pos rfl, ← hs q]
    rfl
  · rw [if_neg hq, if_neg (Ne.symm hq)]
    exact hs q

/-- What `record_failure` leaves beside the count. -/
theorem CircuitState.recordFailure_eq (hs : s.Counts) :
    s.recordFailure b p w .answered
      = { s.countFailure p w true with
          tripping :=
            if b.errorThreshold
                ≤ failuresInRow p (.failed p w true :: s.history) then
              AList.insert w p s.tripping
            else s.tripping } := by
  have hcount : (AList.lookup p (s.countFailure p w true).errors).getD 0
      = failuresInRow p (.failed p w true :: s.history) := hs.failed true p
  unfold CircuitState.recordFailure
  dsimp only
  rw [hcount]
  split <;> rfl

theorem CircuitState.Counts.step (hs : s.Counts)
    (hstep : circuitStep b s a = some s') : s'.Counts := by
  rcases circuitStep_cases hstep with ⟨d, rfl⟩ | rfl | ⟨q, reply, rfl⟩ |
    ⟨p, w, -, rfl⟩ | ⟨p, w, -, rfl⟩ | ⟨p, w, -, rfl⟩ | ⟨w, rfl⟩ | ⟨p, w, -, rfl⟩
  · exact hs
  · exact hs
  · exact hs
  · intro q
    simp only [CircuitState.recordSuccess]
    rw [failuresInRow_succeeded]
    by_cases hq : q = p
    · subst hq
      rw [if_pos rfl, AList.lookup_erase]
      rfl
    · rw [AList.lookup_erase_ne hq, if_neg (Ne.symm hq)]
      exact hs q
  · exact hs.failed false
  · rw [CircuitState.recordFailure_eq hs]
    exact hs.failed true
  · exact hs
  · exact hs

/-! ## The second command -/

/-- A worker counted a failure at the threshold, and did nothing since. -/
def TripDue (b : CircuitBreaker) (p : String) (w : Nat)
    (h : List CircuitEvent) : Prop :=
  ∃ later before, h = later ++ .failed p w true :: before ∧
    (∀ e ∈ later, e.worker ≠ w) ∧
    b.errorThreshold ≤ failuresInRow p (.failed p w true :: before)

theorem tripDue_cons : TripDue b p w (e :: h) ↔
    (e.worker ≠ w ∧ TripDue b p w h) ∨
      (e = .failed p w true ∧ b.errorThreshold ≤ failuresInRow p (e :: h)) := by
  constructor
  · rintro ⟨later, before, heq, hlater, hcount⟩
    cases later with
    | nil =>
        obtain ⟨rfl, rfl⟩ := List.cons.inj heq
        exact .inr ⟨rfl, hcount⟩
    | cons x later =>
        obtain ⟨rfl, rfl⟩ := List.cons.inj heq
        exact .inl ⟨hlater e (List.mem_cons_self ..), later, before, rfl,
          fun y hy => hlater y (List.mem_cons_of_mem _ hy), hcount⟩
  · rintro (⟨hne, later, before, rfl, hlater, hcount⟩ | ⟨rfl, hcount⟩)
    · refine ⟨e :: later, before, rfl, fun y hy => ?_, hcount⟩
      rcases List.mem_cons.mp hy with rfl | hy
      · exact hne
      · exact hlater y hy
    · exact ⟨[], h, rfl, by simp, hcount⟩

/-- The workers between the two commands are those for which the second
is due. -/
def CircuitState.TripsDue (b : CircuitBreaker) (s : CircuitState) : Prop :=
  ∀ w p, AList.lookup w s.tripping = some p ↔ TripDue b p w s.history

/-- A report that counts no failure finds its worker idle and leaves it so. -/
theorem CircuitState.TripsDue.idle (hs : s.TripsDue b)
    (hidle : AList.lookup e.worker s.tripping = none)
    (htripping : s'.tripping = s.tripping) (hhistory : s'.history = e :: s.history)
    (he : ∀ p, e ≠ .failed p e.worker true) : s'.TripsDue b := by
  intro v q
  rw [htripping, hhistory, tripDue_cons, hs v q]
  constructor
  · intro hd
    refine .inl ⟨?_, hd⟩
    rintro rfl
    have hsome := (hs e.worker q).mpr hd
    rw [hidle] at hsome
    cases hsome
  · rintro (⟨-, hd⟩ | ⟨rfl, -⟩)
    · exact hd
    · exact absurd rfl (he q)

/-- A worker that stops or opens the circuit has no command left. -/
theorem CircuitState.TripsDue.over (hs : s.TripsDue b)
    (htripping : s'.tripping = AList.erase e.worker s.tripping)
    (hhistory : s'.history = e :: s.history)
    (he : ∀ p, e ≠ .failed p e.worker true) : s'.TripsDue b := by
  intro v q
  rw [htripping, hhistory, tripDue_cons]
  by_cases hv : v = e.worker
  · subst hv
    rw [AList.lookup_erase]
    constructor
    · intro hq
      cases hq
    · rintro (⟨hne, -⟩ | ⟨heq, -⟩)
      · exact absurd rfl hne
      · exact absurd heq (he q)
  · rw [AList.lookup_erase_ne hv, hs v q]
    constructor
    · exact fun hd => .inl ⟨Ne.symm hv, hd⟩
    · rintro (⟨-, hd⟩ | ⟨rfl, -⟩)
      · exact hd
      · exact absurd rfl hv

theorem CircuitState.TripsDue.step (hs : s.TripsDue b) (hcounts : s.Counts)
    (hstep : circuitStep b s a = some s') : s'.TripsDue b := by
  rcases circuitStep_cases hstep with ⟨d, rfl⟩ | rfl | ⟨q, reply, rfl⟩ |
    ⟨p, w, hidle, rfl⟩ | ⟨p, w, hidle, rfl⟩ | ⟨p, w, hidle, rfl⟩ | ⟨w, rfl⟩ |
    ⟨p, w, htrip, rfl⟩
  · exact hs
  · exact hs
  · exact hs
  · exact hs.idle (e := .succeeded p w) hidle rfl rfl (by simp)
  · exact hs.idle (e := .failed p w false) hidle rfl rfl (by simp)
  · rw [CircuitState.recordFailure_eq hcounts]
    intro v q
    dsimp only
    rw [show (s.countFailure p w true).history
      = .failed p w true :: s.history from rfl, tripDue_cons]
    by_cases hv : v = w
    · subst hv
      have hnone : ∀ q, ¬TripDue b q v s.history := fun q hd => by
        have hsome := (hs v q).mpr hd
        rw [hidle] at hsome
        cases hsome
      simp only [CircuitEvent.worker, ne_eq, not_true, false_and, false_or,
        CircuitEvent.failed.injEq, and_true]
      split
      · next hcount =>
        rw [AList.lookup_insert]
        constructor
        · intro hq
          cases hq
          exact ⟨rfl, hcount⟩
        · rintro ⟨rfl, -⟩
          rfl
      · next hcount =>
        rw [hidle]
        constructor
        · intro hq
          cases hq
        · rintro ⟨rfl, hq⟩
          exact absurd hq hcount
    · have hother : AList.lookup v (if b.errorThreshold
          ≤ failuresInRow p (.failed p w true :: s.history) then
          AList.insert w p s.tripping else s.tripping)
          = AList.lookup v s.tripping := by
        split
        · exact AList.lookup_insert_ne hv
        · rfl
      rw [hother, hs v q]
      simp [CircuitEvent.worker, Ne.symm hv]
  · exact hs.over (e := .stopped w) rfl rfl (by simp)
  · exact hs.over (e := .opened p w s.now) rfl rfl (by simp)

/-! ## The key that is open -/

/-- The circuit was opened so late before this instant that it still is. -/
def OpenedLately (b : CircuitBreaker) (p : String) (now : Nat)
    (h : List CircuitEvent) : Prop :=
  ∃ w t, .opened p w t ∈ h ∧ now ≤ t + b.openSeconds * 1000

/-- The key is there from now on exactly as long as an opening lasts. -/
structure CircuitState.Opens (b : CircuitBreaker) (s : CircuitState) :
    Prop where
  past : ∀ p w t, .opened p w t ∈ s.history → t ≤ s.now
  key : ∀ p now, s.now ≤ now →
    ((s.openKeys.get now p).isSome = true ↔ OpenedLately b p now s.history)

theorem openedLately_cons (he : ∀ p w t, e ≠ .opened p w t) (now : Nat) :
    OpenedLately b p now (e :: h) ↔ OpenedLately b p now h := by
  constructor
  · rintro ⟨w, t, hmem, hnow⟩
    rcases List.mem_cons.mp hmem with rfl | hmem
    · exact absurd rfl (he p w t)
    · exact ⟨w, t, hmem, hnow⟩
  · rintro ⟨w, t, hmem, hnow⟩
    exact ⟨w, t, List.mem_cons_of_mem _ hmem, hnow⟩

/-- Other events leave the key alone. -/
theorem CircuitState.Opens.other (hs : s.Opens b) (hnow : s'.now = s.now)
    (hkeys : s'.openKeys = s.openKeys) (hhistory : s'.history = e :: s.history)
    (he : ∀ p w t, e ≠ .opened p w t) : s'.Opens b where
  past p w t hmem := by
    rw [hhistory] at hmem
    rw [hnow]
    rcases List.mem_cons.mp hmem with rfl | hmem
    · exact absurd rfl (he p w t)
    · exact hs.past p w t hmem
  key p now hle := by
    rw [hhistory, hkeys, openedLately_cons he]
    exact hs.key p now (hnow ▸ hle)

/-- An opening outlasts the ones before it. -/
theorem CircuitState.Opens.opened (hs : s.Opens b) :
    (s.openCircuit b p w).Opens b where
  past q v t hmem := by
    rcases List.mem_cons.mp hmem with heq | hmem
    · cases heq
      exact Nat.le_refl _
    · exact hs.past q v t hmem
  key q now hle := by
    show ((s.openKeys.set p "1" (s.now + b.openSeconds * 1000)).get now q).isSome
      = true ↔ OpenedLately b q now (.opened p w s.now :: s.history)
    rw [Keyspace.get_set]
    by_cases hq : q = p
    · subst hq
      rw [if_pos rfl]
      constructor
      · intro hlive
        refine ⟨w, s.now, List.mem_cons_self .., ?_⟩
        by_contra hover
        rw [if_pos (by omega)] at hlive
        cases hlive
      · rintro ⟨v, t, hmem, hlately⟩
        have hpast : t ≤ s.now := by
          rcases List.mem_cons.mp hmem with heq | hmem
          · cases heq
            exact Nat.le_refl _
          · exact hs.past q v t hmem
        rw [if_neg (by omega)]
        rfl
    · rw [if_neg hq, hs.key q now hle]
      constructor
      · rintro ⟨v, t, hmem, hlately⟩
        exact ⟨v, t, List.mem_cons_of_mem _ hmem, hlately⟩
      · rintro ⟨v, t, hmem, hlately⟩
        rcases List.mem_cons.mp hmem with heq | hmem
        · cases heq
          exact absurd rfl hq
        · exact ⟨v, t, hmem, hlately⟩

theorem CircuitState.Opens.step (hs : s.Opens b) (hcounts : s.Counts)
    (hstep : circuitStep b s a = some s') : s'.Opens b := by
  rcases circuitStep_cases hstep with ⟨d, rfl⟩ | rfl | ⟨q, reply, rfl⟩ |
    ⟨p, w, -, rfl⟩ | ⟨p, w, -, rfl⟩ | ⟨p, w, -, rfl⟩ | ⟨w, rfl⟩ | ⟨p, w, -, rfl⟩
  · refine ⟨fun p w t hmem => ?_, fun p now hle => hs.key p now ?_⟩
    · exact Nat.le_trans (hs.past p w t hmem) (Nat.le_add_right ..)
    · exact Nat.le_trans (Nat.le_add_right ..) hle
  · exact hs
  · exact ⟨hs.past, hs.key⟩
  · exact hs.other (e := .succeeded p w) rfl rfl rfl nofun
  · exact hs.other (e := .failed p w false) rfl rfl rfl nofun
  · rw [CircuitState.recordFailure_eq hcounts]
    exact hs.other (e := .failed p w true) rfl rfl rfl nofun
  · exact hs.other (e := .stopped w) rfl rfl rfl nofun
  · exact hs.opened

/-! ## Over whole runs -/

/-- A worker did nothing yet, or its next event is that it opens the circuit
or goes no further. -/
def OpensNext (p : String) (w : Nat) (later : List CircuitEvent) : Prop :=
  (∀ e ∈ later, e.worker ≠ w) ∨
    ∃ after e mid, later = after ++ e :: mid ∧ (∀ x ∈ mid, x.worker ≠ w) ∧
      (e = .stopped w ∨ ∃ t, e = .opened p w t)

/-- What is recorded of the past. -/
structure CircuitState.Recorded (b : CircuitBreaker) (s : CircuitState) :
    Prop where
  earned : ∀ later p w t earlier,
    s.history = later ++ .opened p w t :: earlier → TripDue b p w earlier
  goesOn : ∀ later p w before,
    s.history = later ++ .failed p w true :: before →
    b.errorThreshold ≤ failuresInRow p (.failed p w true :: before) →
    OpensNext p w later
  answers : ∀ x ∈ s.answers, ∃ answer, x.next = x.request.onBreaker answer ∧
    (answer.isSome = true ↔ x.reply = .answered) ∧
    ∀ isOpen, answer = some isOpen → (isOpen = true ↔
      OpenedLately b x.request.providerName x.time x.history)

theorem CircuitState.Recorded.fresh : CircuitState.Recorded b {} where
  earned later p w t earlier h :=
    absurd h.symm (List.append_ne_nil_of_right_ne_nil _ (List.cons_ne_nil _ _))
  goesOn later p w before h :=
    absurd h.symm (List.append_ne_nil_of_right_ne_nil _ (List.cons_ne_nil _ _))
  answers _ h := by cases h

/-- One more event: it opens a circuit only where that was due, and where
something was due for its worker, it is that. -/
theorem CircuitState.Recorded.event (hs : s.Recorded b)
    (hhistory : s'.history = e :: s.history) (hanswers : s'.answers = s.answers)
    (hopened : ∀ p w t, e = .opened p w t → TripDue b p w s.history)
    (hnext : ∀ p, TripDue b p e.worker s.history →
      e = .stopped e.worker ∨ ∃ t, e = .opened p e.worker t) :
    s'.Recorded b where
  earned later p w t earlier heq := by
    rw [hhistory] at heq
    cases later with
    | nil =>
        obtain ⟨rfl, rfl⟩ := List.cons.inj heq
        exact hopened p w t rfl
    | cons x later => exact hs.earned later p w t earlier (List.cons.inj heq).2
  goesOn later p w before heq hcount := by
    rw [hhistory] at heq
    cases later with
    | nil => exact .inl nofun
    | cons x later =>
        obtain ⟨rfl, htail⟩ := List.cons.inj heq
        rcases hs.goesOn later p w before htail hcount with hidle |
          ⟨after, y, mid, rfl, hmid, hy⟩
        · by_cases hw : e.worker = w
          · subst hw
            exact .inr ⟨[], e, later, rfl, hidle,
              hnext p ⟨later, before, htail, hidle, hcount⟩⟩
          · refine .inl fun y hy => ?_
            rcases List.mem_cons.mp hy with rfl | hy
            · exact hw
            · exact hidle y hy
        · exact .inr ⟨e :: after, y, mid, rfl, hmid, hy⟩
  answers x hx := hs.answers x (hanswers ▸ hx)

/-- Nothing is due for a worker that reports a call. -/
theorem CircuitState.Recorded.report (hs : s.Recorded b) (hdue : s.TripsDue b)
    (hidle : AList.lookup e.worker s.tripping = none)
    (hhistory : s'.history = e :: s.history) (hanswers : s'.answers = s.answers)
    (he : ∀ p w t, e ≠ .opened p w t) : s'.Recorded b := by
  refine hs.event hhistory hanswers (fun p w t h => absurd h (he p w t))
    fun p hd => ?_
  have hsome := (hdue _ p).mpr hd
  rw [hidle] at hsome
  cases hsome

theorem CircuitState.Recorded.ask (hs : s.Recorded b) (hopens : s.Opens b)
    (q : AdmissionRequest) (reply : RedisReply) :
    (s.ask q reply).Recorded b where
  earned := hs.earned
  goesOn := hs.goesOn
  answers x hx := by
    rcases List.mem_cons.mp hx with rfl | hx
    · refine ⟨_, rfl, ?_, fun isOpen hopen => ?_⟩
      · by_cases hr : reply = .answered <;> simp [hr]
      · have hkey := hopens.key q.providerName s.now (Nat.le_refl _)
        dsimp only at hopen ⊢
        rw [← hkey]
        by_cases hr : reply = .answered
        · rw [if_pos hr] at hopen
          rw [← Option.some.inj hopen]
          rfl
        · rw [if_neg hr] at hopen
          cases hopen
    · exact hs.answers x hx

/-- What holds in every state. -/
structure CircuitState.Inv (b : CircuitBreaker) (s : CircuitState) :
    Prop where
  counts : s.Counts
  due : s.TripsDue b
  opens : s.Opens b
  recorded : s.Recorded b

theorem CircuitState.Inv.fresh : CircuitState.Inv b {} where
  counts _ := rfl
  due w p := by
    constructor
    · intro h
      cases h
    · rintro ⟨later, before, heq, -⟩
      exact absurd heq.symm
        (List.append_ne_nil_of_right_ne_nil _ (List.cons_ne_nil _ _))
  opens := ⟨nofun, fun p now _ => by
    constructor
    · intro h
      cases h
    · rintro ⟨w, t, hmem, -⟩
      cases hmem⟩
  recorded := .fresh

theorem CircuitState.Inv.step (hs : s.Inv b)
    (hstep : circuitStep b s a = some s') : s'.Inv b := by
  refine ⟨hs.counts.step hstep, hs.due.step hs.counts hstep,
    hs.opens.step hs.counts hstep, ?_⟩
  have hrec := hs.recorded
  rcases circuitStep_cases hstep with ⟨d, rfl⟩ | rfl | ⟨q, reply, rfl⟩ |
    ⟨p, w, hidle, rfl⟩ | ⟨p, w, hidle, rfl⟩ | ⟨p, w, hidle, rfl⟩ | ⟨w, rfl⟩ |
    ⟨p, w, htrip, rfl⟩
  · exact ⟨hrec.earned, hrec.goesOn, hrec.answers⟩
  · exact hrec
  · exact hrec.ask hs.opens q reply
  · exact hrec.report (e := .succeeded p w) hs.due hidle rfl rfl nofun
  · exact hrec.report (e := .failed p w false) hs.due hidle rfl rfl nofun
  · rw [CircuitState.recordFailure_eq hs.counts]
    exact hrec.report (e := .failed p w true) hs.due hidle rfl rfl nofun
  · exact hrec.event (e := .stopped w) rfl rfl nofun fun p _ => .inl rfl
  · refine hrec.event (e := .opened p w s.now) rfl rfl (fun q v t heq => ?_)
      fun q hd => .inr ⟨s.now, ?_⟩
    · cases heq
      exact (hs.due w p).mp htrip
    · have hsame := (hs.due w q).mpr hd
      rw [htrip] at hsame
      cases hsame
      rfl

end

/-- **The circuit.** In every run of any number of workers, whatever Redis
does and wherever they stop: an admission is refused for an open circuit
exactly if Redis answered it and the circuit of its own provider was opened at
most `open_seconds` before, and passes exactly if Redis answered and it was
not. Who opened a circuit had counted a failure as its last event before, the
latest of as many in a row as the threshold; and who counts such a failure and
reads the count opens the circuit next, unless it stops. -/
theorem circuit_exact (b : CircuitBreaker) (s : CircuitState)
    (h : Run (circuitStep b) (fun _ _ => True) {} s) :
    (∀ x ∈ s.answers,
      (x.next.phase = .done (.refused .circuitOpen) ↔ x.reply = .answered ∧
        OpenedLately b x.request.providerName x.time x.history) ∧
      (x.next.phase = .acquire ↔ x.reply = .answered ∧
        ¬OpenedLately b x.request.providerName x.time x.history)) ∧
    (∀ later p w t earlier, s.history = later ++ .opened p w t :: earlier →
      ∃ mid before, earlier = mid ++ .failed p w true :: before ∧
        (∀ e ∈ mid, e.worker ≠ w) ∧
        b.errorThreshold ≤ failuresInRow p (.failed p w true :: before)) ∧
    ∀ later p w before, s.history = later ++ .failed p w true :: before →
      b.errorThreshold ≤ failuresInRow p (.failed p w true :: before) →
      OpensNext p w later := by
  have hinv : s.Inv b := h.inv (fun _ _ _ hi _ hs => hi.step hs) .fresh
  refine ⟨fun x hx => ?_, hinv.recorded.earned, hinv.recorded.goesOn⟩
  obtain ⟨answer, hnext, hsome, hopen⟩ := hinv.recorded.answers x hx
  rw [hnext, ← hsome]
  cases answer with
  | none => simp [AdmissionRequest.onBreaker, AdmissionRequest.goto]
  | some isOpen =>
      rw [← hopen isOpen rfl]
      cases isOpen <;>
        simp [AdmissionRequest.onBreaker, AdmissionRequest.goto]

/-- Two workers fail at a threshold of two; the second one's trip lasts 30
seconds, for its own provider only. -/
theorem circuit_exact_second :
    ∃ s, runActs (circuitStep ⟨2, 30⟩) {}
        [.report 1 (.native "mock" false) .answered,
          .report 2 (.native "mock" false) .answered, .trip 2 .answered,
          .tick 30000, .ask ⟨1, "mock", "a", "w", .breaker, none, [], [], [], false⟩
            .answered,
          .ask ⟨1, "dograh", "a", "w", .breaker, none, [], [], [], false⟩ .answered,
          .tick 1,
          .ask ⟨1, "mock", "a", "w", .breaker, none, [], [], [], false⟩ .answered]
        = some s ∧
      s.answers.map (fun x => decide (x.next.phase = .acquire))
        = [true, true, false] ∧
      ∀ x ∈ s.answers, x.next.phase = .acquire →
        ¬OpenedLately ⟨2, 30⟩ x.request.providerName x.time x.history := by
  have hany : (runActs (circuitStep ⟨2, 30⟩) {}
      [.report 1 (.native "mock" false) .answered,
        .report 2 (.native "mock" false) .answered, .trip 2 .answered,
        .tick 30000, .ask ⟨1, "mock", "a", "w", .breaker, none, [], [], [], false⟩
          .answered,
        .ask ⟨1, "dograh", "a", "w", .breaker, none, [], [], [], false⟩ .answered,
        .tick 1,
        .ask ⟨1, "mock", "a", "w", .breaker, none, [], [], [], false⟩
          .answered]).any (fun s => decide
      (s.answers.map (fun x => decide (x.next.phase = .acquire))
        = [true, true, false])) = true := by
    decide +kernel
  obtain ⟨s, hs, hdec⟩ := (Option.any_eq_true _ _).mp hany
  have hexact := circuit_exact ⟨2, 30⟩ s (Run.of_runActs hs)
  exact ⟨s, hs, of_decide_eq_true hdec, fun x hx hphase =>
    ((hexact.1 x hx).2.mp hphase).2⟩

end CallingAgent
