import CallingAgent.Services.Analysis

/-!
# The analysis repository — claims and fenced writes

A claim is one conditional update: it takes a due row under a fresh token
and a lease. Every outcome is then written under that token, so a worker
whose row was taken over finds nothing to write to.
-/

namespace CallingAgent

open Lib

inductive AnalysisStatus where
  | pending
  | processing
  | completed
  | failed
  | retryWait
  | skipped
  deriving DecidableEq, Repr

/-- `TERMINAL_STATUSES` -/
def AnalysisStatus.terminal : AnalysisStatus → Bool
  | .completed => true
  | .failed => true
  | .skipped => true
  | _ => false

abbrev AnalysisId := Nat
abbrev ClaimToken := Nat

/-- The free text and the evidence an analysis extracts, and its score. -/
structure AnalysisContent where
  summary : Option String := none
  feedback : Option String := none
  keyFacts : List String := []
  objections : List String := []
  customerNeeds : List String := []
  leadScore : Option Int := none
  deriving DecidableEq, Repr

/-- A row of `call_analysis`. -/
structure AnalysisRow where
  call : CallAnalysis
  status : AnalysisStatus := .pending
  attemptCount : Int := 0
  claimToken : Option ClaimToken := none
  leaseExpiresAt : Option Instant := none
  nextAttemptAt : Option Instant := none
  lastEnqueuedAt : Option Instant := none
  processingStartedAt : Option Instant := none
  completedAt : Option Instant := none
  failedAt : Option Instant := none
  errorCode : Option String := none
  reservedCost : Option Rat := none
  content : AnalysisContent := {}
  deriving DecidableEq

abbrev Analyses := Table AnalysisId AnalysisRow

/-- The settings of the analysis worker and its sweeper. -/
structure AnalysisSettings where
  leaseSeconds : Nat := 120
  maxAttempts : Nat := 3
  budgetRecheckSeconds : Nat := 600
  qaReadyDeadlineSeconds : Nat := 1800
  republishAfterSeconds : Nat := 300

/-! ## Claim -/

inductive BudgetDecision where
  | notRequired
  | reserved
  | notConfigured
  | capReached
  deriving DecidableEq, Repr

/-- The decisions that deny the reservation, with the text they record. -/
def BudgetDecision.denied : BudgetDecision → Option String
  | .notConfigured => some "budget_not_configured"
  | .capReached => some "budget_cap_reached"
  | _ => none

namespace AnalysisRow

variable (row : AnalysisRow) (now : Instant)

/-- The `WHERE` clause of a claim, beside the id. -/
def claimable (maxAttempts : Nat) : Bool :=
  decide (row.attemptCount < maxAttempts) &&
    match row.status with
    | .pending => row.nextAttemptAt.all fun t => decide (t ≤ now)
    | .retryWait => row.nextAttemptAt.any fun t => decide (t ≤ now)
    | .processing => row.leaseExpiresAt.any fun t => decide (t < now)
    | _ => false

def claimed (leaseSeconds : Nat) (token : ClaimToken) : AnalysisRow :=
  { row with
    status := .processing
    attemptCount := row.attemptCount + 1
    claimToken := some token
    leaseExpiresAt := some (now + leaseSeconds * second)
    processingStartedAt := some now
    nextAttemptAt := none }

/-- `budget.reserve`, on the row. -/
def reserve (decision : BudgetDecision) (cost : Rat) : AnalysisRow :=
  if decision = .reserved ∧ row.reservedCost = none then
    { row with reservedCost := some cost }
  else row

end AnalysisRow

inductive ClaimResult where
  | claimed (attemptCount : Int)
  | deferred (reason : String)
  | notClaimable
  deriving DecidableEq, Repr

/-- `claim_for_processing`, up to the end of its savepoint; `_defer` comes
after it. -/
def claimForProcessing (cfg : AnalysisSettings) (t : Analyses)
    (id : AnalysisId) (token : ClaimToken) (now : Instant)
    (decision : BudgetDecision) (cost : Rat) : Analyses × ClaimResult :=
  match AList.lookup id t with
  | some row =>
      if row.claimable now cfg.maxAttempts then
        match decision.denied with
        | some reason => (t, .deferred reason)
        | none =>
            let claimed :=
              (row.claimed now cfg.leaseSeconds token).reserve decision cost
            (AList.insert id claimed t, .claimed claimed.attemptCount)
      else (t, .notClaimable)
  | none => (t, .notClaimable)

/-- `_defer` -/
def deferAnalysis (cfg : AnalysisSettings) (t : Analyses) (id : AnalysisId)
    (reason : String) (now : Instant) : Analyses :=
  t.modify id fun row =>
    if row.status = .pending ∨ row.status = .retryWait then
      { row with
        nextAttemptAt := some (now + cfg.budgetRecheckSeconds * second)
        errorCode := some reason }
    else row

/-! ## Fenced writes -/

/-- `_fenced`: the row is written if this token still owns it. -/
def fenced (t : Analyses) (id : AnalysisId) (token : ClaimToken)
    (values : AnalysisRow → AnalysisRow) : Analyses × Bool :=
  match AList.lookup id t with
  | some row =>
      if row.claimToken = some token ∧ row.status = .processing then
        (AList.insert id (values row) t, true)
      else (t, false)
  | none => (t, false)

/-- `renew_lease` -/
def renewLease (cfg : AnalysisSettings) (t : Analyses) (id : AnalysisId)
    (token : ClaimToken) (now : Instant) : Analyses × Bool :=
  fenced t id token fun row =>
    { row with leaseExpiresAt := some (now + cfg.leaseSeconds * second) }

/-- What a claim can end with. -/
inductive AnalysisOutcome where
  | complete (content : AnalysisContent)
  | retry (errorCode : String) (nextAttemptAt : Instant) (refund : Bool)
  | fail (errorCode : String)
  | skip (errorCode : String) (releaseBudget : Bool)
  deriving DecidableEq, Repr

/-- The columns each outcome writes: `complete`, `schedule_retry`, `fail`,
`skip`. All of them give the claim up. -/
def AnalysisRow.outcome (row : AnalysisRow) (now : Instant) :
    AnalysisOutcome → AnalysisRow
  | .complete content =>
      { row with
        status := .completed
        completedAt := some now
        errorCode := none
        claimToken := none
        leaseExpiresAt := none
        nextAttemptAt := none
        content }
  | .retry errorCode next refund =>
      { row with
        status := .retryWait
        failedAt := some now
        errorCode := some errorCode
        nextAttemptAt := some next
        claimToken := none
        leaseExpiresAt := none
        attemptCount :=
          if refund then row.attemptCount - 1 else row.attemptCount }
  | .fail errorCode =>
      { row with
        status := .failed
        failedAt := some now
        errorCode := some errorCode
        claimToken := none
        leaseExpiresAt := none
        nextAttemptAt := none }
  | .skip errorCode releaseBudget =>
      { row with
        status := .skipped
        failedAt := some now
        errorCode := some errorCode
        claimToken := none
        leaseExpiresAt := none
        nextAttemptAt := none
        reservedCost :=
          if releaseBudget ∧ row.reservedCost.any (· ≠ 0) then some 0
          else row.reservedCost }

def writeOutcome (t : Analyses) (id : AnalysisId) (token : ClaimToken)
    (now : Instant) (o : AnalysisOutcome) : Analyses × Bool :=
  fenced t id token (·.outcome now o)

/-! ## The sweeper -/

/-- The `WHERE` clause of `finalize_exhausted`. -/
def AnalysisRow.stuck (row : AnalysisRow) (now : Instant)
    (maxAttempts : Nat) : Bool :=
  decide ((maxAttempts : Int) ≤ row.attemptCount) &&
    match row.status with
    | .pending => true
    | .retryWait => true
    | .processing => row.leaseExpiresAt.any fun t => decide (t < now)
    | _ => false

def AnalysisRow.exhausted (row : AnalysisRow) (now : Instant) : AnalysisRow :=
  row.outcome now (.fail "lease_expired_attempts_exhausted")

/-- `finalize_exhausted` on the rows its select has locked; those that are
locked by others, or beyond its limit, are left out. -/
def finalizeExhausted (cfg : AnalysisSettings) (t : Analyses) (now : Instant)
    (locked : List AnalysisId) : Analyses :=
  t.mapRows fun id row =>
    if locked.contains id && row.stuck now cfg.maxAttempts then
      row.exhausted now
    else row

/-- The rows `_publish_due` selects. -/
def AnalysisRow.publishable (row : AnalysisRow) (now : Instant)
    (cfg : AnalysisSettings) : Bool :=
  match row.status with
  | .pending | .retryWait =>
      row.nextAttemptAt.all (fun t => decide (t ≤ now)) &&
        match row.lastEnqueuedAt with
        | none => true
        | some e =>
            decide (e < now - cfg.republishAfterSeconds * second) ||
              row.nextAttemptAt.any fun t => decide (e < t)
  | .processing =>
      row.leaseExpiresAt.any (fun t => decide (t < now)) &&
        decide (row.attemptCount < cfg.maxAttempts)
  | _ => false

/-- `_publish_due`, for the selected rows whose publication succeeded. -/
def publishDue (cfg : AnalysisSettings) (t : Analyses) (now : Instant)
    (published : List AnalysisId) : Analyses :=
  t.mapRows fun id row =>
    if published.contains id && row.publishable now cfg then
      { row with lastEnqueuedAt := some now }
    else row

/-- `get_or_create_pending`: the attempt's row, added if there is none. -/
def getOrCreatePending (t : Analyses) (id : AnalysisId) (call : CallAnalysis)
    (lastEnqueuedAt nextAttemptAt : Option Instant) : Option Analyses :=
  if t.any fun _ row => row.call.callAttemptId == call.callAttemptId then
    some t
  else if (AList.lookup id t).isNone then
    some (AList.insert id
      ({ call, lastEnqueuedAt, nextAttemptAt } : AnalysisRow) t)
  else none

end CallingAgent
