import CallingAgent.Lib.FixedWindow
import CallingAgent.Lib.Run
import CallingAgent.Model.Settings

/-!
# Login throttle — failed logins counted per client address

A login first reads the failure counters of its address, then evaluates the
password, and counts the failure only if that fails. Every Redis command and
the evaluation are steps of their own, so any number of requests interleave
between two of them. Redis answers.
-/

namespace CallingAgent

open Lib

/-! ## Credentials -/

structure LoginSettings where
  loginRateLimitPerMinute : Nat := 10
  loginIpFailureCeilingPerMinute : Nat := 50
  adminUsername : String := "admin"
  adminPassword : String
  operatorUsername : String := "operator"
  operatorPassword : String

structure AdminPrincipal where
  username : String
  role : String
  deriving DecidableEq, Repr

/-- `authenticate`; `none` is `InvalidCredentialsError`. -/
def authenticate (s : LoginSettings) (username password : String) :
    Option AdminPrincipal :=
  if username = s.adminUsername ∧ password = s.adminPassword then
    some ⟨username, "admin"⟩
  else if username = s.operatorUsername ∧ password = s.operatorPassword then
    some ⟨username, "operator"⟩
  else none

/-! ## Buckets -/

/-- The key of a failure counter. -/
inductive FailureKey where
  /-- `login_fail_user:{identity}:{user_hash}` -/
  | user (identity userHash : String)
  /-- `login_fail_ip:{identity}` -/
  | address (identity : String)
  deriving DecidableEq, Repr

/-- The client address a counter belongs to. -/
def FailureKey.identity : FailureKey → String
  | .user identity _ | .address identity => identity

structure FailureBucket where
  key : FailureKey
  /-- failures allowed per window; the next attempt is refused -/
  limit : Nat
  deriving DecidableEq, Repr

/-- What a login is configured with; `userHash` is
`sha256(·).hexdigest()[:16]`. -/
structure LoginEnv where
  settings : LoginSettings
  lower : String → String
  userHash : String → String

/-- The limit of a key. -/
def LoginEnv.limit (env : LoginEnv) : FailureKey → Nat
  | .user _ _ => env.settings.loginRateLimitPerMinute
  | .address _ => env.settings.loginIpFailureCeilingPerMinute

/-- `_failure_buckets` -/
def failureBuckets (env : LoginEnv) (identity username : String) :
    List FailureBucket :=
  [⟨.user identity (env.userHash (env.lower (strip username))),
      env.settings.loginRateLimitPerMinute⟩,
    ⟨.address identity, env.settings.loginIpFailureCeilingPerMinute⟩]

/-- `_WINDOW_SECONDS`, in milliseconds. -/
def loginWindow : Nat := 60000

/-- `TTL`, in seconds, rounded as Redis does; -2 when the key is gone. -/
def ttlSeconds (t : Keyspace FailureKey Nat) (now : Nat) (key : FailureKey) :
    Int :=
  match AList.lookup key t with
  | some e =>
      if e.expireAt < now then -2 else ((e.expireAt - now + 500) / 1000 : Nat)
  | none => -2

/-! ## One request -/

inductive LoginResponse where
  | loggedIn (principal : AdminPrincipal)
  /-- 401 -/
  | unauthorized
  /-- 429 -/
  | tooMany (retryAfter : Int)
  deriving DecidableEq, Repr

/-- The command that comes next, with the loop variables. -/
inductive LoginPhase where
  /-- `enforce_failure_buckets`: `GET` of the next bucket -/
  | enforce (rest : List FailureBucket) (overLimit : Bool) (worstTtl : Int)
  /-- the `TTL` of a bucket with this many failures -/
  | ttl (bucket : FailureBucket) (failures : Nat) (rest : List FailureBucket)
      (overLimit : Bool) (worstTtl : Int)
  | authenticate
  /-- `record_failure_buckets`: the script on the next bucket -/
  | record (rest : List FailureBucket)
  | done (response : LoginResponse)
  deriving DecidableEq, Repr

structure LoginCall where
  identity : String
  username : String
  password : String
  phase : LoginPhase
  deriving DecidableEq, Repr

abbrev LoginId := Nat

structure LoginSystem where
  failures : FixedWindows FailureKey := {}
  /-- in milliseconds -/
  now : Nat := 0
  calls : Table LoginId LoginCall := ∅

inductive LoginAct where
  | arrive (identity username password : String)
  | step (i : LoginId)
  | tick (elapsed : Nat)
  deriving DecidableEq, Repr

section

variable (env : LoginEnv) (s : LoginSystem)

def LoginSystem.call (i : LoginId) : Option LoginCall := AList.lookup i s.calls

/-- The failures counted in the open window of a bucket. -/
def LoginSystem.count (key : FailureKey) : Nat := s.failures.count s.now key

/-- Where `enforce_failure_buckets` goes on after a bucket. -/
def enforced (b : FailureBucket) (failures : Nat) (ttl : Int)
    (rest : List FailureBucket) (overLimit : Bool) (worstTtl : Int) : LoginPhase :=
  if failures ≥ b.limit then .enforce rest true (max worstTtl ttl)
  else .enforce rest overLimit worstTtl

/-- One command of a request. -/
def LoginCall.next (c : LoginCall) :
    Option (LoginPhase × FixedWindows FailureKey) :=
  match c.phase with
  | .enforce [] overLimit worstTtl =>
      some (if overLimit then .done (.tooMany (max worstTtl 1)) else .authenticate,
        s.failures)
  | .enforce (b :: rest) overLimit worstTtl =>
      match s.failures.counters.get s.now b.key with
      | none => some (enforced b 0 0 rest overLimit worstTtl, s.failures)
      | some n => some (.ttl b n rest overLimit worstTtl, s.failures)
  | .ttl b n rest overLimit worstTtl =>
      some (enforced b n (ttlSeconds s.failures.counters s.now b.key) rest overLimit
        worstTtl, s.failures)
  | .authenticate =>
      match authenticate env.settings c.username c.password with
      | some principal => some (.done (.loggedIn principal), s.failures)
      | none =>
          some (.record (failureBuckets env c.identity c.username), s.failures)
  | .record [] => some (.done .unauthorized, s.failures)
  | .record (b :: rest) =>
      some (.record rest, s.failures.hit s.now b.key loginWindow)
  | .done _ => none

/-- A new request. -/
def newLogin (identity username password : String) : LoginCall where
  identity := identity
  username := username
  password := password
  phase := .enforce (failureBuckets env identity username) false 0

/-- A request is at its next command. -/
def LoginSystem.setCall (i : LoginId) (c : LoginCall) : LoginSystem :=
  { s with calls := AList.insert i c s.calls }

def loginStep : LoginAct → Option LoginSystem
  | .arrive identity username password =>
      some (s.setCall s.calls.nextKey (newLogin env identity username password))
  | .step i =>
      (s.call i).bind fun c => (c.next env s).map fun r =>
        { s.setCall i { c with phase := r.1 } with failures := r.2 }
  | .tick d => some { s with now := s.now + d }

end

end CallingAgent
