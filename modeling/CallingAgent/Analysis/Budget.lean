import CallingAgent.Analysis.StateMachine
import CallingAgent.Lib.Ledger
import CallingAgent.Services.SpendCap

/-!
# The analysis budget — reservations of a day

With a provider that costs, a claim reserves its estimated cost on the
budget day, in one conditional statement and inside the claim's savepoint.
An analysis that holds a reservation does not reserve again, and one that
is skipped before it ran gives its reservation back.
-/

namespace CallingAgent

open Lib

/-- The analysis budget's settings, as the startup validator leaves them. -/
structure AnalysisBudget where
  /-- `analysis_llm_provider != "mock"` -/
  required : Bool
  cap : Option Rat
  estimate : Option Rat
  /-- `budget_timezone` -/
  zone : Zone
  capNonneg : ∀ x, cap = some x → 0 ≤ x
  estimateNonneg : ∀ x, estimate = some x → 0 ≤ x
  together : cap.isNone = estimate.isNone

/-- The columns `budget_day` and `reserved_cost` of an analysis. -/
abbrev Reservation := Entry Int

/-- `analysis_budget_day` -/
abbrev BudgetLedger := Table Int Rat

/-- What `reserve` decides, the ledger after it, and the reservation it
writes to the analysis. -/
structure Reserve where
  decision : BudgetDecision
  ledger : BudgetLedger
  reservation : Option Reservation := none

namespace AnalysisBudget

variable (b : AnalysisBudget)

/-- `budget_day_for` -/
def dayFor (now : Instant) : Int := localDate now b.zone

/-- `reserve` -/
def reserve (ledger : BudgetLedger) (held : Option Reservation)
    (now : Instant) : Reserve :=
  if !b.required then { decision := .notRequired, ledger }
  else if held.isSome then { decision := .reserved, ledger }
  else
    match b.cap, b.estimate with
    | some cap, some cost =>
        -- the first insert of a day is unconditional
        if cap < cost then { decision := .capReached, ledger }
        else
          let day := b.dayFor now
          match AList.lookup day ledger with
          | none =>
              { decision := .reserved, ledger := AList.insert day cost ledger
                reservation := some ⟨day, cost⟩ }
          | some reserved =>
              if reserved + cost ≤ cap then
                { decision := .reserved
                  ledger := AList.insert day (reserved + cost) ledger
                  reservation := some ⟨day, cost⟩ }
              else { decision := .capReached, ledger }
    | _, _ => { decision := .notConfigured, ledger }

end AnalysisBudget

/-- `release` -/
def release (ledger : BudgetLedger) : Option Reservation → BudgetLedger
  | none => ledger
  | some held =>
      if held.amount ≤ 0 then ledger
      else debit ledger held.account held.amount

/-! ## The system with its ledger -/

/-- The analysis rows with their budget columns, and the ledger. -/
structure BudgetSystem where
  base : AnalysisSystem := {}
  ledger : BudgetLedger := ∅
  /-- `budget_day` and `reserved_cost` -/
  held : Table AnalysisId Reservation := ∅
  /-- what `skip` has read before its fenced write -/
  before : Table JobRunId (Option Reservation) := ∅
  /-- not in the source: every reservation that was made -/
  made : List (AnalysisId × Reservation) := []

inductive BudgetAct where
  | claim (w : JobRunId) (now : Instant) (token : ClaimToken)
  /-- the first statement of `skip` -/
  | readHeld (w : JobRunId)
  | persist (w : JobRunId) (now : Instant)
  | other (act : AnalysisAct)

/-- The acts of the analysis that have no budget in them. -/
def AnalysisAct.unbudgeted : AnalysisAct → Bool
  | .work _ (.claim ..) => false
  | .work _ (.persist _) => false
  | _ => true

namespace BudgetSystem

variable (s : BudgetSystem)

def withBase (base : AnalysisSystem) : BudgetSystem := { s with base }

def remember (w : JobRunId) (read : Option Reservation) : BudgetSystem :=
  { s with before := AList.insert w read s.before }

/-- A claim of this row would reserve: it is claimable. -/
def claimable (cfg : AnalysisSettings) (id : AnalysisId) (now : Instant) :
    Bool :=
  (AList.lookup id s.base.store.rows).any fun row =>
    row.claimable now cfg.maxAttempts

/-- The claim's reservation, if its savepoint is not rolled back. -/
def afterReserve (id : AnalysisId) (r : Reserve) : BudgetSystem :=
  match r.reservation with
  | none => s
  | some e => { s with ledger := r.ledger
                       held := AList.insert id e s.held
                       made := (id, e) :: s.made }

/-- The rest of `skip`, once its write is applied: the columns and the
release, with what was read before. -/
def afterSkip (id : AnalysisId) (read : Option Reservation) : BudgetSystem :=
  { s with
    ledger := release s.ledger read
    held :=
      if read.any fun e => e.amount ≠ 0 then
        s.held.modify id fun e => { e with amount := 0 }
      else s.held }

/-- The reservations booked on a day, summed up. -/
def heldOn (day : Int) : Rat := booked s.held day

end BudgetSystem

/-- The write of a worker that is about to persist is applied. -/
def AnalysisSystem.owns (s : AnalysisSystem) (id : AnalysisId)
    (token : ClaimToken) : Bool :=
  (AList.lookup id s.store.rows).any fun row =>
    decide (row.claimToken = some token ∧ row.status = .processing)

/-- One step of the analysis with its budget. -/
def budgetStep (cfg : AnalysisSettings) (b : AnalysisBudget)
    (s : BudgetSystem) : BudgetAct → Option BudgetSystem
  | .claim w now token =>
      (AList.lookup w s.base.workers).bind fun job =>
        let r := b.reserve s.ledger (AList.lookup job.analysisId s.held) now
        let cost := (r.reservation.map (·.amount)).getD 0
        (analysisStep cfg s.base
            (.work w (.claim now token r.decision cost))).map fun base =>
          if s.claimable cfg job.analysisId now then
            (s.withBase base).afterReserve job.analysisId r
          else s.withBase base
  | .readHeld w =>
      (AList.lookup w s.base.workers).bind fun job =>
        match job.phase with
        | .persist _ (.skip _ _) =>
            some (s.remember w (AList.lookup job.analysisId s.held))
        | _ => none
  | .persist w now =>
      (AList.lookup w s.base.workers).bind fun job =>
        match job.phase with
        | .persist token (.skip _ releaseBudget) =>
            (AList.lookup w s.before).bind fun read =>
              (analysisStep cfg s.base (.work w (.persist now))).map
                fun base =>
                  if s.base.owns job.analysisId token && releaseBudget then
                    (s.withBase base).afterSkip job.analysisId read
                  else s.withBase base
        | _ =>
            (analysisStep cfg s.base (.work w (.persist now))).map
              s.withBase
  | .other act =>
      if act.unbudgeted then
        (analysisStep cfg s.base act).map s.withBase
      else none

end CallingAgent
