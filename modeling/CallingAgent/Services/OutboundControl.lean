import CallingAgent.Lib.Run
import CallingAgent.Services.OutboundGate

/-!
# Outbound controls — durable rows and a cache per process

A control is engaged and released by one statement each. `read_all` answers
from a short cache of its process, or selects the rows and stores them
there; the threads of the process interleave between any two of these.
-/

namespace CallingAgent

open Lib

/-! ## Rows and statements -/

/-- A row of `outbound_control`, by its key. -/
structure ControlState where
  engaged : Bool
  reason : Option String
  category : Option String
  engagedBy : Option String
  engagedAt : Option Instant
  releasedBy : Option String
  releasedAt : Option Instant
  deriving DecidableEq, Repr

abbrev ControlTable := Table String ControlState

/-- `KILL_SWITCH` -/
def killSwitchKey : String := "kill_switch"

/-- `PROVIDER_HALT` -/
def providerHaltKey : String := "provider_halt"

/-- A missing row is a control that is off. -/
def ControlTable.engaged (t : ControlTable) (key : String) : Bool :=
  (AList.lookup key t).any (·.engaged)

/-- What the gates read of the rows. -/
def ControlTable.controls (t : ControlTable) : OutboundControls where
  killSwitch := t.engaged killSwitchKey
  providerHalt := t.engaged providerHaltKey

/-- `_clip` -/
def clip (value : Option String) (limit : Nat) : Option String :=
  let text := String.ofList ((value.getD "").toList.take limit)
  if text = "" then none else some text

/-- The `values` of `engage`. -/
def engagedState (actor : String) (reason category : Option String)
    (now : Instant) : ControlState where
  engaged := true
  reason := clip reason 200
  category := clip category 64
  engagedBy := some actor
  engagedAt := some now
  releasedBy := none
  releasedAt := none

/-- The upsert of `engage`: the rows, and whether it changed one. -/
def engageStatement (t : ControlTable) (key : String) (values : ControlState) :
    ControlTable × Bool :=
  if t.engaged key then (t, false) else (AList.insert key values t, true)

/-- The update of `release`. -/
def releaseStatement (t : ControlTable) (key actor : String) (now : Instant) :
    ControlTable × Bool :=
  match AList.lookup key t with
  | some row =>
      if row.engaged then
        let row := { row with
          engaged := false, releasedBy := some actor, releasedAt := some now }
        (AList.insert key row t, true)
      else (t, false)
  | none => (t, false)

section Statements

variable {t : ControlTable} {key key' : String}

theorem engaged_engage {actor : String} {reason category : Option String}
    {now : Instant} :
    (engageStatement t key
      (engagedState actor reason category now)).1.engaged key'
      = (key' == key || t.engaged key') := by
  unfold engageStatement
  by_cases h : t.engaged key = true
  · rw [if_pos h]
    by_cases hk : key' = key
    · simp [hk, h]
    · simp [hk]
  · rw [if_neg h]
    unfold ControlTable.engaged
    rw [Table.lookup_insert']
    by_cases hk : key' = key <;> simp [hk, engagedState]

theorem engaged_release {actor : String} {now : Instant} :
    (releaseStatement t key actor now).1.engaged key'
      = (key' != key && t.engaged key') := by
  unfold releaseStatement ControlTable.engaged
  cases hrow : AList.lookup key t with
  | none =>
      by_cases hk : key' = key
      · subst hk
        simp [hrow]
      · simp [hk]
  | some row =>
      dsimp only
      by_cases hr : row.engaged = true
      · rw [if_pos hr]
        dsimp only
        rw [Table.lookup_insert']
        by_cases hk : key' = key <;> simp [hk]
      · rw [if_neg hr]
        by_cases hk : key' = key
        · subst hk
          simp [hrow, hr]
        · simp [hk]

/-- Engaging changes something exactly where the control was off. -/
theorem engage_changed {values : ControlState} :
    (engageStatement t key values).2 = !t.engaged key := by
  unfold engageStatement
  cases h : t.engaged key <;> simp

end Statements

/-! ## Threads of one process -/

/-- Where a `read_all` is. -/
inductive ReadPhase where
  | look
  | select
  | store (states : ControlTable)
  | returned (states : ControlTable)
  /-- `ControlUnavailableError` -/
  | unavailable
  deriving DecidableEq

/-- A call of `read_all`. `owed` records the controls an engage had returned
for when the call started, and which were not released since. -/
structure ReadCall where
  now : Int
  useCache : Bool
  phase : ReadPhase := .look
  owed : List String := []
  deriving DecidableEq

/-- A call of `engage` or `release` whose statement has been committed. One
of another process never gets to the cache of this one. -/
structure ChangeCall where
  key : String
  /-- the control was engaged by it, and not released since -/
  stands : Bool
  changed : Bool
  returned : Bool := false
  deriving DecidableEq, Repr

abbrev ThreadId := Nat

structure ControlProcess where
  clock : Int := 0
  rows : ControlTable := ∅
  cache : Option (Int × ControlTable) := none
  reads : Table ThreadId ReadCall := ∅
  changes : Table ThreadId ChangeCall := ∅
  /-- The controls an engage of this process has returned for, and which
  were not released since. -/
  promised : List String := []
  /-- The answers of the engages of a control, since it was off last. -/
  answers : String → List Bool

inductive ControlAct where
  | tick (elapsed : Nat)
  | beginRead (r : ThreadId) (useCache : Bool)
  | look (r : ThreadId)
  | select (r : ThreadId) (fails : Bool)
  | store (r : ThreadId)
  | engage (c : ThreadId) (key actor : String)
      (reason category : Option String) (now : Instant)
  | release (c : ThreadId) (key actor : String) (now : Instant)
  /-- `reset_state`, and the answer -/
  | finish (c : ThreadId)

/-- The cached rows answer a read that started at `now`. -/
def cacheAnswers (ttl now : Int) (cachedAt : Int) : Bool :=
  decide (0 ≤ now - cachedAt) && decide (now - cachedAt < ttl)

/-- A read of the cache, for a call that may use it. -/
def ReadCall.look (ttl : Int) (cache : Option (Int × ControlTable))
    (q : ReadCall) : ReadPhase :=
  if q.useCache && decide (0 < ttl) then
    match cache with
    | some (cachedAt, states) =>
        if cacheAnswers ttl q.now cachedAt then .returned states else .select
    | none => .select
  else .select

/-- No call yet. A control that is on was turned on by some engage. -/
def ControlProcess.start (rows : ControlTable) : ControlProcess where
  rows
  answers key := if rows.engaged key then [true] else []

def controlStep (ttl : Int) (s : ControlProcess) :
    ControlAct → Option ControlProcess
  | .tick d => some { s with clock := s.clock + d }
  | .beginRead r useCache =>
      if (AList.lookup r s.reads).isNone then
        let q : ReadCall := { now := s.clock, useCache, owed := s.promised }
        some { s with reads := AList.insert r q s.reads }
      else none
  | .look r =>
      (AList.lookup r s.reads).bind fun q =>
        if q.phase = .look then
          let q' := { q with phase := q.look ttl s.cache }
          some { s with reads := AList.insert r q' s.reads }
        else none
  | .select r fails =>
      (AList.lookup r s.reads).bind fun q =>
        if q.phase = .select then
          let q' := { q with
            phase := if fails then .unavailable else .store s.rows }
          some { s with reads := AList.insert r q' s.reads }
        else none
  | .store r =>
      (AList.lookup r s.reads).bind fun q =>
        match q.phase with
        | .store states =>
            let q' := { q with phase := .returned states }
            some { s with
              cache := some (q.now, states)
              reads := AList.insert r q' s.reads }
        | _ => none
  | .engage c key actor reason category now =>
      if (AList.lookup c s.changes).isNone then
        let (rows, changed) :=
          engageStatement s.rows key (engagedState actor reason category now)
        let call : ChangeCall := { key, stands := true, changed }
        some { s with
          rows, changes := AList.insert c call s.changes
          answers :=
            Function.update s.answers key (changed :: s.answers key) }
      else none
  | .release c key actor now =>
      if (AList.lookup c s.changes).isNone then
        let (rows, changed) := releaseStatement s.rows key actor now
        let call : ChangeCall := { key, stands := false, changed }
        some { s with
          rows
          reads := s.reads.mapRows fun _ q =>
            { q with owed := q.owed.filter (· ≠ key) }
          changes := AList.insert c call (s.changes.mapRows fun _ e =>
            { e with stands := e.stands && decide (e.key ≠ key) })
          promised := s.promised.filter (· ≠ key)
          answers := Function.update s.answers key [] }
      else none
  | .finish c =>
      (AList.lookup c s.changes).bind fun e =>
        if e.returned then none
        else
          some { s with
            cache := none
            changes := AList.insert c { e with returned := true } s.changes
            promised := if e.stands then e.key :: s.promised else s.promised }

/-! ## When a stored answer is out of date -/

/-- A read that would still be answered with rows cached at `cachedAt`, and
that is owed the control. -/
def ControlProcess.wouldServe (s : ControlProcess) (ttl cachedAt : Int)
    (key : String) : Bool :=
  (s.promised.contains key && decide (s.clock < cachedAt + ttl)) ||
    s.reads.any fun _ q =>
      q.phase == .look && q.useCache && cacheAnswers ttl q.now cachedAt &&
        q.owed.contains key

/-- The rows a read is about to store do not show a control off that some
read, started since its engage returned, could still be served. -/
def upToDate (ttl : Int) (s : ControlProcess) : ControlAct → Bool
  | .store r =>
      (AList.lookup r s.reads).all fun q =>
        match q.phase with
        | .store states =>
            let keys := s.promised ++ s.reads.entries.flatMap (·.2.owed)
            keys.all fun key =>
              states.engaged key || !s.wouldServe ttl q.now key
        | _ => true
  | _ => true

end CallingAgent
