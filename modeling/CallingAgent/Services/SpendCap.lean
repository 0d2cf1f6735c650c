import CallingAgent.Lib.Statements
import CallingAgent.Services.OutboundGate

/-!
# Spend cap — the daily budget and its cache

The numbers of a budget day are read from the attempts that started inside
its window. A process keeps the last status it read for a short time, for
one configuration and one day; a budget that cannot be read blocks.
-/

namespace CallingAgent

open Lib

/-! ## The budget day -/

/-- `budget_window`: `[start, stop)` and its local date, in days since the
local epoch. -/
structure BudgetWindow where
  start : Instant
  stop : Instant
  day : Int

def BudgetWindow.covers (w : BudgetWindow) (t : Instant) : Bool :=
  w.start ≤ t && t < w.stop

/-- `now.astimezone(tz).date()` -/
def localDate (now : Instant) (tz : Zone) : Int :=
  tz.toLocal now / dayMicros

/-- The window of a local date. -/
def dayWindow (day : Int) (tz : Zone) : BudgetWindow where
  start := tz.toUtc (day * dayMicros)
  stop := tz.toUtc ((day + 1) * dayMicros)
  day := day

def budgetWindow (now : Instant) (tz : Zone) : BudgetWindow :=
  dayWindow (localDate now tz) tz

/-- The attempts that started inside a window. -/
def Db.dialsIn (db : Db) (w : BudgetWindow) : Nat :=
  db.attempts.count fun _ a => w.covers a.startedAt

/-! ## The status -/

/-- `_config_key`: every value a status is computed from. -/
structure BudgetConfig where
  dailyDialCap : Nat
  dailyEstimatedSpendCap : Option Rat
  estimatedCostPerMinute : Option Rat
  estimatedMinutesPerUnknownAttempt : Rat
  budgetTimezone : String
  deriving DecidableEq

def configKey (s : Settings) : BudgetConfig where
  dailyDialCap := s.dailyDialCap
  dailyEstimatedSpendCap := s.dailyEstimatedSpendCap
  estimatedCostPerMinute := s.estimatedCostPerMinute
  estimatedMinutesPerUnknownAttempt := s.estimatedMinutesPerUnknownAttempt
  budgetTimezone := s.budgetTimezone

/-- A status of one budget day. -/
structure DayStatus extends BudgetStatus where
  day : Int

/-- `round(x, 4)`, half to even. -/
def round4 (x : Rat) : Rat :=
  let n := (x * 10000).floor
  let rest := x * 10000 - n
  let up := 1 / 2 < rest || (rest == 1 / 2 && n % 2 == 1)
  ((if up then n + 1 else n : Int) : Rat) / 10000

/-- The stored lengths of the calls of a window, in seconds. -/
def Db.secondsIn (db : Db) (w : BudgetWindow) (unknown : Rat) : Rat :=
  (db.attempts.entries.filter fun e => w.covers e.2.startedAt).foldr
    (fun e total => e.2.durationSeconds.getD unknown + total) 0

/-- `compute_status` -/
def computeStatus (c : BudgetConfig) (db : Db) (now : Instant) (tz : Zone) :
    DayStatus :=
  let w := budgetWindow now tz
  let minutes :=
    db.secondsIn w (c.estimatedMinutesPerUnknownAttempt * 60) / 60
  { day := w.day
    dials := db.dialsIn w
    dialCap := c.dailyDialCap
    estimatedSpend :=
      c.estimatedCostPerMinute.map fun cost => round4 (minutes * cost)
    spendCap := c.dailyEstimatedSpendCap }

/-! ## The cache of a process -/

/-- `_cache`: when it was stored, for which configuration, and what. -/
structure CachedStatus where
  storedAt : Instant
  key : BudgetConfig
  status : DayStatus

/-- The settings of a process and what it has cached. -/
structure BudgetProcess where
  config : BudgetConfig
  /-- `budget_check_cache_ttl_seconds` -/
  cacheTtl : Int
  cache : Option CachedStatus := none

/-- The cached status may answer. -/
def BudgetProcess.usable (p : BudgetProcess) (now : Instant) (day : Int)
    (e : CachedStatus) : Bool :=
  0 < p.cacheTtl && now - e.storedAt < p.cacheTtl && e.key == p.config
    && e.status.day == day

/-- `current_status`, and the process after it. A timezone that does not
load raises; a database that does not answer is reported as such. -/
def currentStatus (env : Env) (db : Db) (now : Instant) (readable : Bool)
    (p : BudgetProcess) : Read DayStatus × BudgetProcess :=
  match loadTimezone env p.config.budgetTimezone with
  | .error _ => (.raised, p)
  | .ok tz =>
      match p.cache.filter (p.usable now (localDate now tz)) with
      | some e => (.value e.status, p)
      | none =>
          if readable then
            let status := computeStatus p.config db now tz
            (.value status, { p with cache := some ⟨now, p.config, status⟩ })
          else (.unavailable, p)

/-- What the budget gate is told of a status. -/
def budgetRead : Read DayStatus → Read BudgetStatus
  | .value status => .value status.toBudgetStatus
  | .unavailable => .unavailable
  | .raised => .raised

section

variable {env : Env} {db : Db} {now : Instant} {readable : Bool}
  {p : BudgetProcess} {st : DayStatus}

/-- Where a status comes from: the cache, within its limits, or the
database. -/
inductive StatusFrom (env : Env) (db : Db) (now : Instant) (readable : Bool)
    (p : BudgetProcess) (tz : Zone) : DayStatus → Prop
  | cached {e : CachedStatus} (stored : p.cache = some e)
      (age : now - e.storedAt < p.cacheTtl) (key : e.key = p.config)
      (day : e.status.day = localDate now tz) :
      StatusFrom env db now readable p tz e.status
  | read (answered : readable = true) :
      StatusFrom env db now readable p tz (computeStatus p.config db now tz)

theorem currentStatus_value
    (h : (currentStatus env db now readable p).1 = .value st) :
    ∃ tz, loadTimezone env p.config.budgetTimezone = .ok tz ∧
      StatusFrom env db now readable p tz st := by
  unfold currentStatus at h
  split at h
  · cases h
  · next tz htz =>
    refine ⟨tz, htz, ?_⟩
    split at h
    · next e he =>
      cases h
      obtain ⟨hstored, hu⟩ := Option.filter_eq_some_iff.mp he
      simp only [BudgetProcess.usable, Bool.and_eq_true, decide_eq_true_eq,
        beq_iff_eq] at hu
      exact .cached hstored hu.1.1.2 hu.1.2 hu.2
    · split at h
      · next hr =>
        cases h
        exact .read hr
      · cases h

/-- A status used at some time is one of the day of that time. -/
theorem StatusFrom.day {tz : Zone}
    (h : StatusFrom env db now readable p tz st) :
    st.day = localDate now tz := by
  cases h with
  | cached stored age key day => exact day
  | read answered => rfl

/-- A status that is not reached is below its dial cap. -/
theorem BudgetStatus.below_of_open {b : BudgetStatus}
    (h : b.reached = none) : b.dials < b.dialCap := by
  unfold BudgetStatus.reached at h
  split at h
  · cases h
  · next hlt => exact Nat.lt_of_not_le hlt

/-- A consultation only ever stores what it has just read. -/
theorem currentStatus_cache {e : CachedStatus}
    (h : (currentStatus env db now readable p).2.cache = some e) :
    p.cache = some e ∨
      ∃ tz, loadTimezone env p.config.budgetTimezone = .ok tz ∧
        e = ⟨now, p.config, computeStatus p.config db now tz⟩ := by
  unfold currentStatus at h
  split at h
  · exact .inl h
  · next tz htz =>
    split at h
    · exact .inl h
    · split at h
      · cases h
        exact .inr ⟨tz, htz, rfl⟩
      · exact .inl h

end

end CallingAgent
