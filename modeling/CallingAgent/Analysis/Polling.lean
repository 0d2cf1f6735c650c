import CallingAgent.Analysis.Budget

/-!
# Polling — the retry schedule and the accounts of an analysis

An answer that is not ready yet costs no attempt: its claim is refunded,
and the row waits for about half the time it has waited already. The waits
are computed here as the worker computes them, from its clock, the row's
creation and a random number, with fractions in place of floats.
-/

namespace CallingAgent

open Lib

/-! ## Delays -/

/-- The settings of the retry schedule, as the startup validator leaves
them. -/
structure RetrySchedule where
  /-- `analysis_retry_base_seconds` -/
  base : Nat := 30
  /-- `analysis_retry_max_seconds` -/
  cap : Nat := 900
  basePos : 0 < base := by decide
  baseLe : base ≤ cap := by decide

/-- What `rng` returns. -/
structure Jitter where
  val : Rat
  nonneg : 0 ≤ val
  ltOne : val < 1

/-- `timedelta(seconds=...)`: to the nearest microsecond, halves to even. -/
def timedelta (seconds : Rat) : Int :=
  let x := seconds * 1000000
  let below := x.floor
  let rest := x - below
  if rest < 1 / 2 then below
  else if 1 / 2 < rest then below + 1
  else if below % 2 = 0 then below
  else below + 1

theorem le_timedelta {m : Int} {seconds : Rat}
    (h : (m : Rat) ≤ seconds * 1000000) : m ≤ timedelta seconds := by
  have hfloor := Rat.le_floor_iff.mpr h
  unfold timedelta
  dsimp only
  split
  · exact hfloor
  · split
    · omega
    · split <;> omega

namespace RetrySchedule

variable (p : RetrySchedule)

/-- Three quarters of `min(base, cap)`. -/
def minWait : Int := Nat.min p.base p.cap * 750000

/-- `poll_delay_seconds` -/
def pollDelaySeconds (elapsedSeconds : Rat) (rng : Jitter) : Rat :=
  let half := elapsedSeconds * (1 / 2)
  let wait : Rat := if (p.base : Rat) < half then half else p.base
  let delay : Rat := if wait < p.cap then wait else p.cap
  delay * (3 / 4 + 1 / 4 * rng.val)

/-- `backoff_seconds` -/
def backoffSeconds (attemptCount : Int) (retryAfter : Option Int)
    (rng : Jitter) : Rat :=
  let exponent := (attemptCount - 1).toNat
  let delay : Rat :=
    (Nat.min p.cap (p.base * Nat.pow 2 exponent) : Nat) * (1 / 2 + 1 / 2 * rng.val)
  match retryAfter with
  | none => delay
  | some retryAfter =>
      if 0 < retryAfter then
        let asked : Int := if retryAfter ≤ p.cap then retryAfter else p.cap
        if delay < asked then asked else delay
      else delay

/-- The delay `_persist_failure` adds to its clock. -/
def delay (elapsed attemptCount : Int) (kind : FailureKind)
    (retryAfter : Option Int) (rng : Jitter) : Int :=
  timedelta <|
    match kind with
    | .qaNotReady => p.pollDelaySeconds (elapsed / second) rng
    | _ => p.backoffSeconds attemptCount retryAfter rng

theorem backoffSeconds_nonneg (n : Int) (retryAfter : Option Int)
    (rng : Jitter) : 0 ≤ p.backoffSeconds n retryAfter rng := by
  have hu := rng.nonneg
  have hdelay : (0 : Rat) ≤ (Nat.min p.cap (p.base * Nat.pow 2 (n - 1).toNat) : Nat)
      * (1 / 2 + 1 / 2 * rng.val) :=
    Rat.mul_nonneg (Rat.natCast_nonneg) (by grind)
  unfold backoffSeconds
  dsimp only
  generalize ((Nat.min p.cap (p.base * Nat.pow 2 (n - 1).toNat) : Nat) : Rat)
    * (1 / 2 + 1 / 2 * rng.val) = delay at *
  have hlonger : ∀ asked : Rat, 0 ≤ if delay < asked then asked else delay := by
    intro asked
    split
    · next hlt => exact Rat.le_trans hdelay (Rat.le_of_lt hlt)
    · exact hdelay
  cases retryAfter with
  | none => exact hdelay
  | some retryAfter =>
      by_cases h : 0 < retryAfter
      · simp only [if_pos h]
        exact hlonger _
      · simp only [if_neg h]
        exact hdelay

theorem pollDelaySeconds_ge (elapsedSeconds : Rat) (rng : Jitter) :
    (Nat.min p.base p.cap : Nat) * (3 / 4 : Rat)
      ≤ p.pollDelaySeconds elapsedSeconds rng := by
  have hbase : ((Nat.min p.base p.cap : Nat) : Rat) ≤ p.base :=
    Rat.natCast_le_natCast.mpr (Nat.min_le_left ..)
  have hcap : ((Nat.min p.base p.cap : Nat) : Rat) ≤ p.cap :=
    Rat.natCast_le_natCast.mpr (Nat.min_le_right ..)
  have hnonneg : (0 : Rat) ≤ (Nat.min p.base p.cap : Nat) := Rat.natCast_nonneg
  unfold pollDelaySeconds
  generalize ((Nat.min p.base p.cap : Nat) : Rat) = m at *
  have hwait : m ≤ if (p.base : Rat) < elapsedSeconds * (1 / 2) then
      elapsedSeconds * (1 / 2) else p.base := by
    split
    · next hlt => exact Rat.le_trans hbase (Rat.le_of_lt hlt)
    · exact hbase
  dsimp only
  generalize (if (p.base : Rat) < elapsedSeconds * (1 / 2) then
    elapsedSeconds * (1 / 2) else (p.base : Rat)) = wait at *
  have hdelay : m ≤ if wait < (p.cap : Rat) then wait else p.cap := by
    split
    · exact hwait
    · exact hcap
  generalize (if wait < (p.cap : Rat) then wait else (p.cap : Rat)) = delay at *
  -- the jitter only adds to three quarters of the delay
  have hjitter := Rat.mul_nonneg (Rat.le_trans hnonneg hdelay) rng.nonneg
  grind

theorem delay_nonneg (elapsed n : Int) (kind : FailureKind)
    (retryAfter : Option Int) (rng : Jitter) :
    0 ≤ p.delay elapsed n kind retryAfter rng := by
  unfold delay
  apply le_timedelta
  have hwait := p.pollDelaySeconds_ge (elapsed / second) rng
  have hmin : (0 : Rat) ≤ (Nat.min p.base p.cap : Nat) := Rat.natCast_nonneg
  have hback := p.backoffSeconds_nonneg n retryAfter rng
  cases kind <;> dsimp only <;> grind

theorem delay_qaNotReady (elapsed n : Int) (retryAfter : Option Int)
    (rng : Jitter) : p.minWait ≤ p.delay elapsed n .qaNotReady retryAfter rng := by
  unfold delay
  apply le_timedelta
  have hwait := p.pollDelaySeconds_ge (elapsed / second) rng
  have hmin : (p.minWait : Rat)
      = (Nat.min p.base p.cap : Nat) * (750000 : Rat) := by
    unfold minWait
    push_cast
    rfl
  rw [hmin]
  dsimp only
  grind

end RetrySchedule

/-- How `_load_input` defers: never because an answer is not ready. -/
def AnalysisInput.loaded : AnalysisInput → Bool
  | .defer .transient _ => true
  | .defer .permanent _ => true
  | .defer _ _ => false
  | _ => true

/-- The kind of the failure, if it is one. -/
def AnalysisInput.kind : AnalysisInput → FailureKind
  | .defer kind _ => kind
  | _ => .transient

def AnalysisAnswer.kind : AnalysisAnswer → FailureKind
  | .failed kind _ => kind
  | _ => .transient

/-! ## The system with its accounts -/

/-- An answer of the provider, and how long after the row's creation it
was evaluated. -/
structure Evaluation where
  analysisId : AnalysisId
  token : ClaimToken
  elapsed : Int
  deriving DecidableEq

structure PolledSystem where
  base : BudgetSystem := {}
  /-- `created_at` -/
  created : Table AnalysisId Instant := ∅
  /-- not in the source: the latest time that was read for a row -/
  clock : Table AnalysisId Instant := ∅
  /-- not in the source: the claims that took their row -/
  claims : List (AnalysisId × ClaimToken) := []
  /-- not in the source -/
  evaluations : List Evaluation := []

/-- The steps that read a clock or a random number for the schedule, and
those that do not. -/
inductive PollAct where
  | register (id : AnalysisId) (call : CallAnalysis)
      (lastEnqueuedAt nextAttemptAt : Option Instant) (createdAt : Instant)
  | claim (w : JobRunId) (now : Instant) (token : ClaimToken)
  | load (w : JobRunId) (now : Instant) (rng : Jitter) (input : AnalysisInput)
  | analyze (w : JobRunId) (now : Instant) (rng : Jitter)
      (retryAfter : Option Int) (answer : AnalysisAnswer)
  | other (act : BudgetAct)

/-- The steps that have no act of their own here. -/
def BudgetAct.unscheduled : BudgetAct → Bool
  | .claim .. => false
  | .other (.register ..) => false
  | .other (.work _ (.load ..)) => false
  | .other (.work _ (.analyze ..)) => false
  | _ => true

namespace PolledSystem

variable (s : PolledSystem)

def withBase (base : BudgetSystem) : PolledSystem := { s with base }

def rows : Analyses := s.base.base.store.rows

def workers : Table JobRunId AnalysisJobRun := s.base.base.workers

/-- The clock was read for a row. -/
def readClock (id : AnalysisId) (now : Instant) : PolledSystem :=
  { s with clock := AList.insert id now s.clock }

/-- The row is created, if it is there now and was not before. -/
def register (base : BudgetSystem) (id : AnalysisId) (createdAt : Instant) :
    PolledSystem :=
  if (AList.lookup id s.rows).isNone &&
      (AList.lookup id base.base.store.rows).isSome then
    { s with base
             created := AList.insert id createdAt s.created
             clock := AList.insert id createdAt s.clock }
  else s.withBase base

/-- The claim is entered, if its token is in the row now. -/
def claimed (base : BudgetSystem) (id : AnalysisId) (token : ClaimToken) :
    PolledSystem :=
  if (AList.lookup id base.base.store.rows).any fun row =>
      row.claimToken = some token then
    { s with base, claims := (id, token) :: s.claims }
  else s.withBase base

def evaluate (base : BudgetSystem) (e : Evaluation) : PolledSystem :=
  { s with base, evaluations := e :: s.evaluations }

end PolledSystem

@[simp] theorem PolledSystem.register_base (s : PolledSystem)
    (base : BudgetSystem) (id : AnalysisId) (createdAt : Instant) :
    (s.register base id createdAt).base = base := by
  unfold PolledSystem.register
  split <;> rfl

@[simp] theorem PolledSystem.claimed_base (s : PolledSystem)
    (base : BudgetSystem) (id : AnalysisId) (token : ClaimToken) :
    (s.claimed base id token).base = base := by
  unfold PolledSystem.claimed
  split <;> rfl

def pollStep (cfg : AnalysisSettings) (p : RetrySchedule) (b : AnalysisBudget)
    (s : PolledSystem) : PollAct → Option PolledSystem
  | .register id call enqueued next createdAt =>
      (budgetStep cfg b s.base (.other (.register id call enqueued next))).map
        fun base => s.register base id createdAt
  | .claim w now token =>
      (AList.lookup w s.workers).bind fun job =>
        (budgetStep cfg b s.base (.claim w now token)).map fun base =>
          (s.claimed base job.analysisId token).readClock job.analysisId now
  | .load w now rng input =>
      (AList.lookup w s.workers).bind fun job =>
        match job.phase, AList.lookup job.analysisId s.created with
        | .load _ n, some createdAt =>
            if input.loaded then
              let elapsed := now - createdAt
              let delay := p.delay elapsed n input.kind none rng
              (budgetStep cfg b s.base
                  (.other (.work w (.load now elapsed delay input)))).map
                fun base => (s.withBase base).readClock job.analysisId now
            else none
        | _, _ => none
  | .analyze w now rng retryAfter answer =>
      (AList.lookup w s.workers).bind fun job =>
        match job.phase, AList.lookup job.analysisId s.created with
        | .analyze token n, some createdAt =>
            let elapsed := now - createdAt
            let delay := p.delay elapsed n answer.kind retryAfter rng
            (budgetStep cfg b s.base
                (.other (.work w (.analyze now elapsed delay answer)))).map
              fun base =>
                (s.evaluate base ⟨job.analysisId, token, elapsed⟩).readClock
                  job.analysisId now
        | _, _ => none
  | .other act =>
      if act.unscheduled then
        (budgetStep cfg b s.base act).map s.withBase
      else none

/-! ## The accounts of a row -/

/-- The outcome gives the attempt back. -/
def AnalysisOutcome.refunds : AnalysisOutcome → Bool
  | .retry _ _ refund => refund
  | _ => false

namespace PolledSystem

variable (s : PolledSystem)

def claimsOf (id : AnalysisId) : List (AnalysisId × ClaimToken) :=
  s.claims.filter fun e => e.1 = id

/-- The outcomes that were applied and gave the attempt back. -/
def refundsOf (id : AnalysisId) :
    List (AnalysisId × ClaimToken × AnalysisOutcome) :=
  s.base.base.store.outcomes.filter fun e =>
    decide (e.1 = id) && e.2.2.refunds

/-- The evaluation ended in an applied refund. -/
def refunded (e : Evaluation) : Bool :=
  (s.refundsOf e.analysisId).any fun r => r.2.1 = e.token

/-- The evaluations that did not end in an applied refund. -/
def spentOn (id : AnalysisId) : List Evaluation :=
  s.evaluations.filter fun e => decide (e.analysisId = id) && !s.refunded e

end PolledSystem

end CallingAgent
