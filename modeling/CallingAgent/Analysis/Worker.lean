import CallingAgent.Analysis.Repository

/-!
# The analysis worker — one transaction at a time

`process_claimed_job` commits its claim, its lease renewal and its outcome
separately, and the request to the model runs between them with nothing
locked. Any number of workers and sweepers commit in any order; a worker
that crashes commits no more.
-/

namespace CallingAgent

open Lib

/-! ## Decisions -/

inductive FailureKind where
  | transient
  | rateLimited
  | invalidOutput
  | permanent
  | qaNotReady
  | qaUnavailable
  deriving DecidableEq, Repr

/-- `_persist_failure`: what is written for a failure. `elapsed` is the time
since the row was created, `delay` the backoff or the poll delay, with its
jitter. -/
def persistFailure (cfg : AnalysisSettings) (now elapsed delay : Int)
    (attemptCount : Int) (kind : FailureKind) (code : String) :
    AnalysisOutcome :=
  match kind with
  | .qaUnavailable => .skip "qa_unavailable" true
  | .qaNotReady =>
      if cfg.qaReadyDeadlineSeconds * second ≤ elapsed then
        .skip "qa_result_not_produced" true
      else .retry code (now + delay) true
  | _ =>
      if kind = .permanent ∨ (cfg.maxAttempts : Int) ≤ attemptCount then
        .fail code
      else .retry code (now + delay) false

/-- What `_load_input` makes of the stored call. -/
inductive AnalysisInput where
  | ready
  | skip (code : String)
  | defer (kind : FailureKind) (code : String)
  deriving DecidableEq, Repr

/-- What the model answers, or how its failure is classified. -/
inductive AnalysisAnswer where
  | result (content : AnalysisContent)
  | failed (kind : FailureKind) (code : String)
  deriving DecidableEq, Repr

/-- `AnalysisJobOutcome` -/
inductive AnalysisJobOutcome where
  | completed
  | failedRetriable
  | failedTerminal
  | skipped
  | deferred
  | stale
  | alreadyProcessed
  | notClaimable
  | notEligible
  deriving DecidableEq, Repr

/-- The outcome of a job whose write was applied. -/
def AnalysisOutcome.jobOutcome : AnalysisOutcome → AnalysisJobOutcome
  | .complete _ => .completed
  | .retry _ _ _ => .failedRetriable
  | .fail _ => .failedTerminal
  | .skip _ _ => .skipped

/-! ## Workers -/

/-- The transaction of `process_claimed_job` that comes next. -/
inductive AnalysisPhase where
  | claim
  | defer (reason : String) (now : Instant)
  | unclaimed
  | finalize
  | load (token : ClaimToken) (attemptCount : Int)
  | renew (token : ClaimToken) (attemptCount : Int)
  | analyze (token : ClaimToken) (attemptCount : Int)
  | persist (token : ClaimToken) (outcome : AnalysisOutcome)
  | acked (outcome : AnalysisJobOutcome)
  | crashed
  deriving DecidableEq, Repr

structure AnalysisJobRun where
  analysisId : AnalysisId
  phase : AnalysisPhase := .claim
  deriving DecidableEq, Repr

def AnalysisJobRun.goto (w : AnalysisJobRun) (phase : AnalysisPhase) :
    AnalysisJobRun :=
  { w with phase }

/-- The rows, and a record of the tokens that were drawn and of the outcomes
that were applied under them. -/
structure AnalysisStore where
  rows : Analyses := ∅
  tokens : List ClaimToken := []
  outcomes : List (AnalysisId × ClaimToken × AnalysisOutcome) := []

/-- What a worker commits next, with what it reads from its clock, the
provider and its random numbers. -/
inductive AnalysisCommit where
  | claim (now : Instant) (token : ClaimToken) (decision : BudgetDecision)
      (cost : Rat)
  | defer
  | readUnclaimed
  | finalize (now : Instant)
  | load (now elapsed delay : Int) (input : AnalysisInput)
  | renew (now : Instant)
  | analyze (now elapsed delay : Int) (answer : AnalysisAnswer)
  | persist (now : Instant)
  | crash

/-- `_handle_unclaimed`, for a job that was not deferred. -/
def handleUnclaimed (cfg : AnalysisSettings) (row : Option AnalysisRow) :
    AnalysisPhase :=
  match row with
  | none => .acked .notEligible
  | some row =>
      if row.status.terminal then .acked .alreadyProcessed
      else if (cfg.maxAttempts : Int) ≤ row.attemptCount then .finalize
      else .acked .notClaimable

def analysisWorkerStep (cfg : AnalysisSettings) (s : AnalysisStore)
    (w : AnalysisJobRun) : AnalysisCommit →
    Option (AnalysisStore × AnalysisJobRun)
  | .claim now token decision cost =>
      if w.phase = .claim ∧ token ∉ s.tokens then
        let (rows, result) :=
          claimForProcessing cfg s.rows w.analysisId token now decision cost
        let s := { s with rows, tokens := token :: s.tokens }
        match result with
        | .claimed n => some (s, w.goto (.load token n))
        | .deferred reason => some (s, w.goto (.defer reason now))
        | .notClaimable => some (s, w.goto .unclaimed)
      else none
  | .defer =>
      match w.phase with
      | .defer reason now =>
          let rows := deferAnalysis cfg s.rows w.analysisId reason now
          some ({ s with rows }, w.goto (.acked .deferred))
      | _ => none
  | .readUnclaimed =>
      if w.phase = .unclaimed then
        let row := AList.lookup w.analysisId s.rows
        some (s, w.goto (handleUnclaimed cfg row))
      else none
  | .finalize now =>
      if w.phase = .finalize then
        let rows := finalizeExhausted cfg s.rows now [w.analysisId]
        some ({ s with rows }, w.goto (.acked .failedTerminal))
      else none
  | .load now elapsed delay input =>
      match w.phase with
      | .load token n =>
          match input with
          | .ready => some (s, w.goto (.renew token n))
          | .skip code => some (s, w.goto (.persist token (.skip code true)))
          | .defer kind code =>
              let o := persistFailure cfg now elapsed delay n kind code
              some (s, w.goto (.persist token o))
      | _ => none
  | .renew now =>
      match w.phase with
      | .renew token n =>
          let (rows, applied) :=
            renewLease cfg s.rows w.analysisId token now
          some ({ s with rows },
            w.goto (if applied then .analyze token n else .acked .stale))
      | _ => none
  | .analyze now elapsed delay answer =>
      match w.phase with
      | .analyze token n =>
          match answer with
          | .result content =>
              some (s, w.goto (.persist token (.complete content)))
          | .failed kind code =>
              let o := persistFailure cfg now elapsed delay n kind code
              some (s, w.goto (.persist token o))
      | _ => none
  | .persist now =>
      match w.phase with
      | .persist token o =>
          let (rows, applied) := writeOutcome s.rows w.analysisId token now o
          if applied then
            some ({ s with
                rows, outcomes := (w.analysisId, token, o) :: s.outcomes },
              w.goto (.acked o.jobOutcome))
          else some ({ s with rows }, w.goto (.acked .stale))
      | _ => none
  | .crash => some (s, w.goto .crashed)

/-! ## The system -/

abbrev JobRunId := Nat

structure AnalysisSystem where
  store : AnalysisStore := {}
  workers : Table JobRunId AnalysisJobRun := ∅

inductive AnalysisAct where
  /-- `enqueue_call_analysis` or the sweeper registers a call. -/
  | register (id : AnalysisId) (call : CallAnalysis)
      (lastEnqueuedAt nextAttemptAt : Option Instant)
  | deliver (w : JobRunId) (id : AnalysisId)
  | work (w : JobRunId) (commit : AnalysisCommit)
  | sweepFinalize (now : Instant) (locked : List AnalysisId)
  | sweepPublish (now : Instant) (published : List AnalysisId)

def analysisStep (cfg : AnalysisSettings) (s : AnalysisSystem) :
    AnalysisAct → Option AnalysisSystem
  | .register id call enqueued next =>
      (getOrCreatePending s.store.rows id call enqueued next).map fun rows =>
        { s with store := { s.store with rows } }
  | .deliver w id =>
      if (AList.lookup w s.workers).isNone then
        let job : AnalysisJobRun := { analysisId := id }
        some { s with workers := AList.insert w job s.workers }
      else none
  | .work w commit =>
      (AList.lookup w s.workers).bind fun job =>
        (analysisWorkerStep cfg s.store job commit).map fun (store, job) =>
          { store, workers := AList.insert w job s.workers }
  | .sweepFinalize now locked =>
      let rows := finalizeExhausted cfg s.store.rows now locked
      some { s with store := { s.store with rows } }
  | .sweepPublish now published =>
      let rows := publishDue cfg s.store.rows now published
      some { s with store := { s.store with rows } }

end CallingAgent
