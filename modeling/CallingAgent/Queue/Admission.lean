import CallingAgent.Queue.Leases

/-!
# Admission control — one Redis command at a time

`AdmissionController.try_admit` checks the circuit, takes a lease and then
counts the call under three per-second keys; a counter over its limit has
the increments and the lease rolled back. Every command of it is a step of
its own, so any number of requests interleave between two of them, and each
command may be answered, may never reach Redis, or may run with its reply
lost.
-/

namespace CallingAgent

open Lib

/-! ## Calls per second -/

/-- A per-second counter. -/
inductive CpsKey where
  | global (second : Nat)
  | campaign (id : CampaignId) (second : Nat)
  | provider (name : String) (second : Nat)
  deriving DecidableEq, Repr

/-- `AdmissionController`: the limits every worker is configured with. -/
structure AdmissionController where
  leases : LeaseStore
  globalCpsLimit : Nat
  campaignCpsLimit : Nat
  providerCpsLimit : Nat

/-- `_cps_keys`, with the second the clock shows. -/
def AdmissionController.cpsKeys (c : AdmissionController)
    (campaignId : CampaignId) (providerName : String) (second : Nat) :
    List (CpsKey × Nat) :=
  [(.global second, c.globalCpsLimit),
    (.campaign campaignId second, c.campaignCpsLimit),
    (.provider providerName second, c.providerCpsLimit)]

/-- The limit of a key. -/
def AdmissionController.cpsLimit (c : AdmissionController) : CpsKey → Nat
  | .global _ => c.globalCpsLimit
  | .campaign _ _ => c.campaignCpsLimit
  | .provider _ _ => c.providerCpsLimit

abbrev CpsCounters := Table CpsKey Int

/-- The value of a counter; `INCR` and `DECR` take a missing key for 0. -/
def CpsCounters.value (t : CpsCounters) (k : CpsKey) : Int :=
  (AList.lookup k t).getD 0

def CpsCounters.by (t : CpsCounters) (k : CpsKey) (n : Int) : CpsCounters :=
  AList.insert k (t.value k + n) t

/-! ## A request -/

/-- What became of a Redis command. -/
inductive Fate where
  | answered
  | unsent
  | replyLost
  deriving DecidableEq, Repr

/-- The command ran on Redis. -/
def Fate.executed : Fate → Bool
  | .unsent => false
  | _ => true

inductive RefusalReason where
  | circuitOpen
  | duplicateLease
  | concurrencyExceeded
  | cpsExceeded
  deriving DecidableEq, Repr

/-- How `try_admit` ends: with a result, or with a `RedisError`. -/
inductive AdmissionResult where
  | admitted
  | refused (reason : RefusalReason)
  | raised
  deriving DecidableEq, Repr

/-- The command of `_admit` that comes next, with the loop variables. -/
inductive AdmitPhase where
  | breaker
  | acquire
  /-- `_release_best_effort`, after an acquire that raised -/
  | acquireFailed
  | window
  | incr (rest : List (CpsKey × Nat)) (counted : List CpsKey)
  | expire (key : CpsKey) (limit : Nat) (value : Int)
      (rest : List (CpsKey × Nat)) (counted : List CpsKey)
  | rollback (rest : List CpsKey)
  | release (result : AdmissionResult)
  | done (result : AdmissionResult)
  | crashed
  deriving DecidableEq, Repr

/-- The request makes no more step. -/
def AdmitPhase.over : AdmitPhase → Bool
  | .done _ => true
  | .crashed => true
  | _ => false

/-- One call of `try_admit`. The last three fields are a record of what
happened, which the code does not keep: the increments that ran and were
not undone, those that were answered within the limit, and whether a
release never reached Redis. -/
structure AdmissionRequest where
  campaignId : CampaignId
  providerName : String
  holderId : HolderId
  workerId : String
  phase : AdmitPhase := .breaker
  lease : Option ConcurrencyLease := none
  keys : List (CpsKey × Nat) := []
  outstanding : List CpsKey := []
  passed : List CpsKey := []
  releaseFailed : Bool := false
  deriving DecidableEq

namespace AdmissionRequest

variable (q : AdmissionRequest)

def goto (phase : AdmitPhase) : AdmissionRequest := { q with phase }

/-- The answer of the circuit breaker; `none` where Redis raised. -/
def onBreaker : Option Bool → AdmissionRequest
  | none => q.goto (.done .raised)
  | some true => q.goto (.done (.refused .circuitOpen))
  | some false => q.goto .acquire

/-- The reply of the acquire script, or a `RedisError`. -/
def onAcquire (l : ConcurrencyLease) (fate : Fate) (o : AcquireOutcome) :
    AdmissionRequest :=
  let q := { q with lease := some l }
  if fate = .answered then
    match o.lease with
    | some _ => q.goto .window
    | none =>
        if o.reason = some .duplicateLease then
          q.goto (.done (.refused .duplicateLease))
        else q.goto (.done (.refused .concurrencyExceeded))
  else q.goto .acquireFailed

/-- The counter joined `cps_incremented`: rolled back if over its limit. -/
def onCounted (key : CpsKey) (limit : Nat) (value : Int)
    (rest : List (CpsKey × Nat)) (counted : List CpsKey) : AdmissionRequest :=
  let counted := counted ++ [key]
  if (limit : Int) < value then { q.goto (.rollback counted) with passed := [] }
  else
    match rest with
    | [] => q.goto (.done .admitted)
    | _ => q.goto (.incr rest counted)

/-- The reply of an increment; a first one is given its expiry next. -/
def onIncr (fate : Fate) (key : CpsKey) (limit : Nat) (value : Int)
    (rest : List (CpsKey × Nat)) (counted : List CpsKey) : AdmissionRequest :=
  let q :=
    if fate.executed then { q with outstanding := q.outstanding ++ [key] }
    else q
  if fate = .answered then
    let q :=
      if (limit : Int) < value then q else { q with passed := key :: q.passed }
    if value = 1 then q.goto (.expire key limit value rest counted)
    else q.onCounted key limit value rest counted
  else q.goto (.release .raised)

/-- The reply of a decrement in `_rollback`. -/
def onDecr (fate : Fate) (rest : List CpsKey) : AdmissionRequest :=
  let q := if fate.executed then { q with outstanding := rest } else q
  if fate = .answered then
    match rest with
    | [] => q.goto (.release (.refused .cpsExceeded))
    | _ => q.goto (.rollback rest)
  else q.goto (.release .raised)

/-- `release` never raises, and neither does `_release_best_effort`. -/
def onRelease (fate : Fate) (result : AdmissionResult) : AdmissionRequest :=
  { q.goto (.done result) with
    releaseFailed := q.releaseFailed || !fate.executed }

end AdmissionRequest

/-! ## Commands -/

/-- What Redis and the requests share, beside what they keep themselves. -/
structure Shared where
  leases : LeaseSystem
  counters : CpsCounters := ∅

/-- A step of one request, with what came of it. -/
inductive AdmitCommand where
  | breaker (answer : Option Bool)
  | acquire (id : LeaseId) (fate : Fate)
  | window (second : Nat)
  | incr (fate : Fate)
  | expire (fate : Fate)
  | decr (fate : Fate)
  | release (fate : Fate)
  | crash

/-- The release script on the lease of a request, if the command ran. -/
def Shared.release (st : LeaseStore) (x : Shared) (q : AdmissionRequest)
    (fate : Fate) : Option Shared :=
  if fate.executed then
    q.lease.bind fun l =>
      (leaseStep st x.leases (.release l.leaseId)).map fun leases =>
        { x with leases }
  else some x

/-- The acquire script under a fresh id, if the command ran. -/
def Shared.acquire (st : LeaseStore) (x : Shared) (l : ConcurrencyLease)
    (workerId : String) (fate : Fate) : Option Shared :=
  (leaseStep st x.leases
    (if fate.executed then .acquire l workerId else .lost l)).map fun leases =>
      { x with leases }

def Shared.count (x : Shared) (k : CpsKey) (n : Int) (fate : Fate) : Shared :=
  if fate.executed then { x with counters := x.counters.by k n } else x

/-- `_admit`, one command further. -/
def requestStep (c : AdmissionController) (x : Shared) (q : AdmissionRequest) :
    AdmitCommand → Option (Shared × AdmissionRequest)
  | .breaker answer =>
      if q.phase = .breaker then some (x, q.onBreaker answer) else none
  | .acquire id fate =>
      if q.phase = .acquire then
        let l : ConcurrencyLease := ⟨id, q.holderId, q.campaignId, q.providerName⟩
        (x.acquire c.leases l q.workerId fate).map fun x' =>
          (x', q.onAcquire l fate
            (x.leases.redis.acquire c.leases l q.workerId).2)
      else none
  | .window second =>
      if q.phase = .window then
        let keys := c.cpsKeys q.campaignId q.providerName second
        some (x, { q.goto (.incr keys []) with keys })
      else none
  | .incr fate =>
      match q.phase with
      | .incr ((key, limit) :: rest) counted =>
          some (x.count key 1 fate,
            q.onIncr fate key limit (x.counters.value key + 1) rest counted)
      | _ => none
  | .expire fate =>
      match q.phase with
      | .expire key limit value rest counted =>
          if fate = .answered then
            some (x, q.onCounted key limit value rest counted)
          else some (x, q.goto (.release .raised))
      | _ => none
  | .decr fate =>
      match q.phase with
      | .rollback (key :: rest) =>
          some (x.count key (-1) fate, q.onDecr fate rest)
      | _ => none
  | .release fate =>
      match q.phase with
      | .release result =>
          (x.release c.leases q fate).map fun x => (x, q.onRelease fate result)
      | .acquireFailed =>
          (x.release c.leases q fate).map fun x => (x, q.onRelease fate .raised)
      | _ => none
  | .crash => if q.phase.over then none else some (x, q.goto .crashed)

/-! ## The system -/

abbrev AdmissionRequestId := Nat

/-- Every request that was ever made. -/
structure AdmissionSystem where
  shared : Shared
  requests : Table AdmissionRequestId AdmissionRequest := ∅
  /-- Keys that have expired once. -/
  retired : List CpsKey := []

inductive AdmitAct where
  | request (r : AdmissionRequestId) (campaignId : CampaignId) (providerName : String)
      (holderId : HolderId) (workerId : String)
  | step (r : AdmissionRequestId) (command : AdmitCommand)
  /-- Renewals, the release once the outcome is committed, and time. -/
  | lease (act : LeaseAct)
  | counterExpires (key : CpsKey)

def admitStep (c : AdmissionController) (s : AdmissionSystem) :
    AdmitAct → Option AdmissionSystem
  | .request r campaignId providerName holderId workerId =>
      if (AList.lookup r s.requests).isNone then
        let q : AdmissionRequest :=
          { campaignId, providerName, holderId, workerId }
        some { s with requests := AList.insert r q s.requests }
      else none
  | .step r command =>
      (AList.lookup r s.requests).bind fun q =>
        (requestStep c s.shared q command).map fun (x, q) =>
          { s with shared := x, requests := AList.insert r q s.requests }
  | .lease act =>
      (leaseStep c.leases s.shared.leases act).map fun leases =>
        { s with shared := { s.shared with leases } }
  | .counterExpires k =>
      let counters := AList.erase k s.shared.counters
      some { s with
        shared := { s.shared with counters }
        retired := k :: s.retired }

/-- Every request is over before a counter it counts under expires, and none
starts to count under a second that is gone. -/
def inTime (c : AdmissionController) (s : AdmissionSystem) : AdmitAct → Bool
  | .step r (.window second) =>
      (AList.lookup r s.requests).all fun q =>
        (c.cpsKeys q.campaignId q.providerName second).all fun e =>
          !s.retired.contains e.1
  | .counterExpires k =>
      !s.requests.any fun _ q => q.keys.any (·.1 == k) && !q.phase.over
  | _ => true

/-- No request yet. -/
def AdmissionSystem.fresh (now : Nat) : AdmissionSystem :=
  { shared := { leases := .fresh now } }

/-! ## What is promised -/

/-- The requests that were admitted and are counted under `k`. -/
def AdmissionSystem.admittedUnder (s : AdmissionSystem) (k : CpsKey) : Nat :=
  s.requests.count fun _ q =>
    q.phase == .done .admitted && q.keys.any (·.1 == k)

/-- The increments of `k` that ran and were not undone. -/
def AdmissionSystem.outstanding (s : AdmissionSystem) (k : CpsKey) : Nat :=
  s.requests.count fun _ q => q.outstanding.contains k

end CallingAgent
