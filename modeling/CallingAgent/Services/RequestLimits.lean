import CallingAgent.Lib.FixedWindow
import CallingAgent.Model.Phone
import CallingAgent.Model.Redis
import CallingAgent.Services.LoginThrottle
import CallingAgent.Services.RateIdentity
import CallingAgent.Services.SecurityEvents

/-!
# Request limits — authenticate first, then count

A webhook is authenticated before anything is counted. What is valid is
counted under a generous ceiling, what is not in a counter of its own, both
by the address of the client; a route of the dashboard is counted by the
verified user. Each count is one script in Redis. Redis may fail before the
script or after it; the routes that are expensive then refuse, and everything
else is let through and audited: the row is written in the session of the
request, and is lost when that does not commit.
-/

namespace CallingAgent

open Lib

structure RateLimitSettings where
  dograhWebhookSecret : String
  telephonyWebhookSecret : String
  webhookValidCeilingPerMinute : Nat := 6000
  webhookRateLimitPerMinute : Nat := 120
  enqueueRateLimitPerMinute : Nat := 5
  importRateLimitPerMinute : Nat := 5
  mutationRateLimitPerMinute : Nat := 120
  analysisRateLimitPerMinute : Nat := 120

/-! ## Requests -/

inductive WebhookEndpoint where
  | dograh
  | telephony
  deriving DecidableEq, Repr

/-- The budgets of `route_limits`. -/
inductive RouteBudget where
  | enqueue
  | bulkImport
  | mutation
  | analysis
  deriving DecidableEq, Repr

/-- `fail_closed` -/
def RouteBudget.failClosed : RouteBudget → Bool
  | .enqueue | .bulkImport => true
  | .mutation | .analysis => false

structure WebhookRequest where
  authorization : Option String := none
  xApiKey : Option String := none
  xWebhookSecret : Option String := none
  client : ForwardedRequest

inductive Arrival where
  | webhook (e : WebhookEndpoint) (r : WebhookRequest)
  /-- with the principal of its token, if that is valid -/
  | route (b : RouteBudget) (principal : Option AdminPrincipal)

/-- The token behind `Bearer `, in any case. -/
def bearerToken (authorization : Option String) : Option String :=
  authorization.bind fun text =>
    if "bearer ".toList.isPrefixOf (asciiLower text).toList then
      some (strip (String.ofList (text.toList.drop 7)))
    else none

/-- `supplied and secrets.compare_digest(supplied, expected)` -/
def presents (expected : String) (supplied : Option String) : Bool :=
  supplied.any fun text => decide (text ≠ "") && decide (text = expected)

/-- The credential of a webhook is the secret of its endpoint. -/
def authenticated (settings : RateLimitSettings) (r : WebhookRequest) :
    WebhookEndpoint → Bool
  | .dograh =>
      presents settings.dograhWebhookSecret (bearerToken r.authorization)
        || presents settings.dograhWebhookSecret r.xApiKey
  | .telephony => presents settings.telephonyWebhookSecret r.xWebhookSecret

/-! ## Buckets -/

/-- What a counter counts. -/
inductive LimitScope where
  | valid (e : WebhookEndpoint)
  | failed (e : WebhookEndpoint)
  | budget (b : RouteBudget)
  deriving DecidableEq, Repr

/-- `key_prefix` -/
def LimitScope.keyPrefix : LimitScope → List Char
  | .valid .dograh => "dograh_webhook".toList
  | .valid .telephony => "telephony_webhook".toList
  | .failed .dograh => "dograh_webhook_authfail".toList
  | .failed .telephony => "telephony_webhook_authfail".toList
  | .budget .enqueue => "enqueue".toList
  | .budget .bulkImport => "import".toList
  | .budget .mutation => "mutation".toList
  | .budget .analysis => "analysis".toList

structure Bucket where
  scope : LimitScope
  owner : List Char
  deriving DecidableEq

/-- The key in Redis. -/
def Bucket.key (b : Bucket) : String :=
  "ratelimit:" ++ String.ofList (b.scope.keyPrefix ++ ':' :: b.owner)

structure LimitEnv where
  settings : RateLimitSettings
  trusted : List Network

section

variable (env : LimitEnv)

def LimitEnv.limit : LimitScope → Nat
  | .valid _ => env.settings.webhookValidCeilingPerMinute
  | .failed _ => env.settings.webhookRateLimitPerMinute
  | .budget .enqueue => env.settings.enqueueRateLimitPerMinute
  | .budget .bulkImport => env.settings.importRateLimitPerMinute
  | .budget .mutation => env.settings.mutationRateLimitPerMinute
  | .budget .analysis => env.settings.analysisRateLimitPerMinute

/-- `client_ip_identity` -/
def LimitEnv.identity (client : ForwardedRequest) : List Char :=
  rateLimitIdentity (clientAddress env.trusted client)

/-- `principal_identity` -/
def principalIdentity (principal : AdminPrincipal) : List Char :=
  "user:".toList ++ principal.username.toList

/-- The bucket a request is counted in; a route without a principal is
refused before it is counted. -/
def Arrival.bucket : Arrival → Option Bucket
  | .webhook e r =>
      let scope := if authenticated env.settings r e then LimitScope.valid e
        else .failed e
      some ⟨scope, env.identity r.client⟩
  | .route b principal =>
      principal.map fun p => ⟨.budget b, principalIdentity p⟩

end

/-! ## One count -/

/-- `_WINDOW_SECONDS`, in milliseconds. -/
def limitWindow : Nat := 60000

/-- `_atomic_incr`: the counters, and the count with the seconds that are
left of its window, unless it raises. -/
def atomicIncr (f : FixedWindows String) (now : Nat) (key : String) :
    RedisReply → FixedWindows String × Option (Nat × Nat)
  | .answered => (f.hit now key limitWindow, some (f.count now key + 1,
      (f.windowEnd now key limitWindow - now + 500) / 1000))
  | .lost => (f.hit now key limitWindow, none)
  | .refused => (f, none)

inductive RequestAnswer where
  /-- the handler runs -/
  | admitted
  /-- 401 -/
  | unauthorized
  /-- 429, with `Retry-After` -/
  | tooMany (retryAfter : Nat)
  /-- 503 -/
  | unavailable
  deriving DecidableEq, Repr

/-- What `check_rate_limit` returns or raises. -/
inductive RateCheck where
  | healthy
  | degraded
  | exceeded (retryAfter : Nat)
  | unavailable
  deriving DecidableEq, Repr

/-- `check_rate_limit`, after its script. -/
def checkRateLimit (limit : Nat) (failClosed : Bool) :
    Option (Nat × Nat) → RateCheck
  | none => if failClosed then .unavailable else .degraded
  | some (count, ttl) =>
      if count ≤ limit then .healthy else .exceeded (max ttl 1)

def RateCheck.answer : RateCheck → RequestAnswer
  | .healthy | .degraded => .admitted
  | .exceeded retryAfter => .tooMany retryAfter
  | .unavailable => .unavailable

/-- `throttle_failed_webhook_auth`, after its script, and the 401 of its
caller. -/
def failedAnswer (limit : Nat) : Option (Nat × Nat) → RequestAnswer
  | none => .unauthorized
  | some (failures, ttl) =>
      if failures > limit then .tooMany (max ttl 1) else .unauthorized

/-! ## The servers -/

abbrev ServerId := Nat

/-- A request that was answered. -/
structure ServedRequest where
  process : ServerId
  arrival : Arrival
  reply : RedisReply
  time : Nat
  /-- the end of the window it was counted in -/
  window : Option Nat
  answer : RequestAnswer

/-- `_DEGRADED_AUDIT_INTERVAL_SECONDS`, in milliseconds. -/
def degradedAuditMs : Nat := 60000

/-- What a process notes while the limiter is down, by the endpoint. -/
structure DegradedAudit where
  /-- `_last_degraded_audit` -/
  last : RacedThrottle (List Char) Unit := {}
  /-- rows in the sessions of requests that have not ended -/
  flushed : Table Nat (List Char) := ∅
  rows : List (List Char) := []
  /-- attempted, and refused or rolled back -/
  lost : List (List Char) := []

inductive DegradedAct where
  /-- a call of `_audit_degraded` goes on -/
  | step (i : Nat)
  /-- the session of a request with a row ends -/
  | settle (i : Nat) (commits : Bool)

def degradedStep (d : DegradedAudit) : DegradedAct → Option DegradedAudit
  | .step i =>
      (d.last.step degradedAuditMs none i).map fun r =>
        match r.2 with
        | some (c, true) =>
            { d with
              last := r.1
              flushed := AList.insert d.flushed.nextKey c.key d.flushed }
        | _ => { d with last := r.1 }
  | .settle i commits =>
      (AList.lookup i d.flushed).map fun endpoint =>
        { d with
          flushed := AList.erase i d.flushed
          rows := if commits then endpoint :: d.rows else d.rows
          lost := if commits then d.lost else endpoint :: d.lost }

structure LimitSystem where
  windows : FixedWindows String := {}
  /-- in milliseconds -/
  now : Nat := 0
  /-- the security events of each process -/
  security : ServerId → SecurityProcess := fun _ => {}
  degraded : ServerId → DegradedAudit := fun _ => {}
  log : List ServedRequest := []

namespace LimitSystem

section

variable (env : LimitEnv) (s : LimitSystem) (p : ServerId)

/-- `_audit_degraded` is called. -/
def auditDegraded (endpoint : List Char) : LimitSystem :=
  { s with degraded := fun p' =>
      if p' = p then
        { s.degraded p with last := (s.degraded p).last.ask s.now endpoint () }
      else s.degraded p' }

/-- `check_rate_limit` on a bucket, and what its callers make of it. -/
def enforce (b : Bucket) (failClosed : Bool) (reply : RedisReply) :
    LimitSystem × RequestAnswer :=
  let script := atomicIncr s.windows s.now b.key reply
  let check := checkRateLimit (env.limit b.scope) failClosed script.2
  let s := { s with windows := script.1 }
  (if check = .degraded then s.auditDegraded p b.scope.keyPrefix else s,
    check.answer)

/-- `enforce_valid_webhook_ceiling` -/
def enforceValidWebhookCeiling (e : WebhookEndpoint) (r : WebhookRequest)
    (reply : RedisReply) : LimitSystem × RequestAnswer :=
  s.enforce env p ⟨.valid e, env.identity r.client⟩ false reply

/-- `throttle_failed_webhook_auth`, with the 401 of its caller. -/
def throttleFailedWebhookAuth (e : WebhookEndpoint) (r : WebhookRequest)
    (reply : RedisReply) : LimitSystem × RequestAnswer :=
  let b : Bucket := ⟨.failed e, env.identity r.client⟩
  let script := atomicIncr s.windows s.now b.key reply
  ({ s with windows := script.1 },
    failedAnswer (env.limit b.scope) script.2)

/-- The event of a webhook that failed authentication. -/
def authFailedEvent (e : WebhookEndpoint) (r : WebhookRequest) :
    SecurityEvent :=
  let endpoint := match e with
    | .dograh => "dograh"
    | .telephony => "telephony"
  let presented := match e with
    | .dograh => (bearerToken r.authorization).any (· ≠ "")
        || r.xApiKey.any (· ≠ "")
    | .telephony => r.xWebhookSecret.any (· ≠ "")
  let sourceIp := String.ofList (clientAddress env.trusted r.client)
  { action := "webhook.auth_failed"
    actor := "anonymous"
    entityType := "webhook"
    metadata := [("endpoint", endpoint),
      ("credential_presented", toString presented), ("source_ip", sourceIp)]
    throttleKey := some (endpoint ++ ":" ++ sourceIp) }

/-- A process goes on with its security events. -/
def secure (act : SecurityAct) : LimitSystem :=
  { s with security := fun p' =>
      if p' = p then (securityStep (s.security p) act).getD (s.security p)
      else s.security p' }

/-- A process goes on with its audit of the limiter. -/
def audit (act : DegradedAct) : LimitSystem :=
  { s with degraded := fun p' =>
      if p' = p then (degradedStep (s.degraded p) act).getD (s.degraded p)
      else s.degraded p' }

/-- `_authenticate_then_limit` of both webhooks. -/
def authenticateThenLimit (e : WebhookEndpoint) (r : WebhookRequest)
    (reply : RedisReply) : LimitSystem × RequestAnswer :=
  if authenticated env.settings r e then
    s.enforceValidWebhookCeiling env p e r reply
  else
    (s.secure p (.event (authFailedEvent env e r))).throttleFailedWebhookAuth
      env e r reply

/-- `rate_limit_dependency`, behind the authentication of its identity. -/
def rateLimitDependency (b : RouteBudget) (reply : RedisReply) :
    Option AdminPrincipal → LimitSystem × RequestAnswer
  | none => (s, .unauthorized)
  | some principal =>
      s.enforce env p ⟨.budget b, principalIdentity principal⟩ b.failClosed reply

/-- A request up to its handler. -/
def answer (a : Arrival) (reply : RedisReply) : LimitSystem × RequestAnswer :=
  match a with
  | .webhook e r => s.authenticateThenLimit env p e r reply
  | .route b principal => s.rateLimitDependency env p b reply principal

/-- The window a request is counted in. -/
def windowOf (b : Option Bucket) (reply : RedisReply) : Option Nat :=
  if reply = .refused then none
  else b.map fun b => s.windows.windowEnd s.now b.key limitWindow

def serve (a : Arrival) (reply : RedisReply) : LimitSystem :=
  let served := s.answer env p a reply
  { served.1 with
    log := ⟨p, a, reply, s.now, s.windowOf (a.bucket env) reply, served.2⟩
      :: s.log }

end

end LimitSystem

inductive LimitAct where
  | serve (p : ServerId) (a : Arrival) (reply : RedisReply)
  /-- a security event of a process, of another kind too, and what its
  threads do about these -/
  | secure (p : ServerId) (act : SecurityAct)
  | audit (p : ServerId) (act : DegradedAct)
  | tick (elapsed : Nat)

def limitStep (env : LimitEnv) (s : LimitSystem) : LimitAct → LimitSystem
  | .serve p a reply => s.serve env p a reply
  | .secure p act => s.secure p act
  | .audit p act => s.audit p act
  | .tick elapsed =>
      { s with
        now := s.now + elapsed
        security := fun p =>
          { s.security p with now := (s.security p).now + elapsed } }

/-! ## Keys -/

theorem LimitScope.keyPrefix_injective {a b : LimitScope}
    (h : a.keyPrefix = b.keyPrefix) : a = b := by
  cases a with
  | valid e | failed e =>
      cases e <;> cases b with
      | valid e' | failed e' =>
          cases e' <;> first | rfl | exact absurd h (by decide)
      | budget b => cases b <;> exact absurd h (by decide)
  | budget a =>
      cases a <;> cases b with
      | valid e' | failed e' => cases e' <;> exact absurd h (by decide)
      | budget b => cases b <;> first | rfl | exact absurd h (by decide)

theorem LimitScope.colon_not_mem_keyPrefix (a : LimitScope) :
    ':' ∉ a.keyPrefix := by
  cases a with
  | valid e | failed e => cases e <;> decide
  | budget b => cases b <;> decide

/-- Two buckets have different keys. -/
theorem Bucket.key_injective {b b' : Bucket} (h : b.key = b'.key) : b = b' := by
  have hrest : b.scope.keyPrefix ++ ':' :: b.owner
      = b'.scope.keyPrefix ++ ':' :: b'.owner := by
    have hlist := congrArg String.toList h
    simp only [key, String.toList_append, String.toList_ofList] at hlist
    exact List.append_cancel_left hlist
  have hsplit := congrArg (List.splitOn ':') hrest
  rw [List.splitOn_append_cons_self_of_not_mem
      b.scope.colon_not_mem_keyPrefix,
    List.splitOn_append_cons_self_of_not_mem
      b'.scope.colon_not_mem_keyPrefix] at hsplit
  have hkey := (List.cons.inj hsplit).1
  rw [hkey] at hrest
  have howner := (List.cons.inj (List.append_cancel_left hrest)).2
  obtain ⟨scope, owner⟩ := b
  obtain ⟨scope', owner'⟩ := b'
  obtain rfl := LimitScope.keyPrefix_injective hkey
  obtain rfl := howner
  rfl

theorem Bucket.key_eq_iff {b b' : Bucket} : b.key = b'.key ↔ b = b' :=
  ⟨Bucket.key_injective, fun h => h ▸ rfl⟩

/-! ## What a request does -/

/-- `fail_closed` of the check of a scope. -/
def LimitScope.failClosed : LimitScope → Bool
  | .budget b => b.failClosed
  | .valid _ | .failed _ => false

/-- The answer to a request that is the `n`-th of its bucket in its window. -/
def LimitEnv.verdict (env : LimitEnv) (scope : LimitScope) (reply : RedisReply)
    (n ttl : Nat) : RequestAnswer :=
  if reply = .answered ∧ env.limit scope < n then .tooMany (max ttl 1)
  else
    match scope with
    | .failed _ => .unauthorized
    | .valid _ => .admitted
    | .budget b =>
        if reply ≠ .answered ∧ b.failClosed = true then .unavailable
        else .admitted

/-- What failed authentication is never let through. -/
theorem verdict_failed {env : LimitEnv} (endpoint : WebhookEndpoint)
    (reply : RedisReply) (n ttl : Nat) :
    env.verdict (.failed endpoint) reply n ttl ≠ .admitted := by
  unfold LimitEnv.verdict
  split
  · intro h
    cases h
  · intro h
    cases h

theorem atomicIncr_fst (f : FixedWindows String) (now : Nat)
    (key : String) (reply : RedisReply) :
    (atomicIncr f now key reply).1
      = if reply = .refused then f else f.hit now key limitWindow := by
  cases reply <;> rfl

namespace LimitSystem

variable (env : LimitEnv) (s : LimitSystem) (p : ServerId)

/-- What the count of a request says. -/
def scriptOf (b : Bucket) (reply : RedisReply) : Option (Nat × Nat) :=
  (atomicIncr s.windows s.now b.key reply).2

theorem checkRateLimit_answer (b : Bucket) (failClosed : Bool)
    (reply : RedisReply) :
    (checkRateLimit (env.limit b.scope) failClosed (s.scriptOf b reply)).answer
      = if reply = .answered ∧
            env.limit b.scope < s.windows.count s.now b.key + 1 then
          .tooMany (max ((s.windows.windowEnd s.now b.key limitWindow - s.now
            + 500) / 1000) 1)
        else if reply ≠ .answered ∧ failClosed = true then .unavailable
        else .admitted := by
  cases reply with
  | answered =>
      simp only [scriptOf, atomicIncr, checkRateLimit, true_and, ne_eq,
        not_true_eq_false, false_and, if_false]
      by_cases h : s.windows.count s.now b.key + 1 ≤ env.limit b.scope
      · rw [if_pos h, if_neg (by omega)]
        rfl
      · rw [if_neg h, if_pos (by omega)]
        rfl
  | lost | refused => cases failClosed <;> rfl

theorem failedAnswer_eq (b : Bucket) (reply : RedisReply) :
    failedAnswer (env.limit b.scope) (s.scriptOf b reply)
      = if reply = .answered ∧
            env.limit b.scope < s.windows.count s.now b.key + 1 then
          .tooMany (max ((s.windows.windowEnd s.now b.key limitWindow - s.now
            + 500) / 1000) 1)
        else .unauthorized := by
  cases reply with
  | answered =>
      simp only [scriptOf, atomicIncr, failedAnswer, true_and, gt_iff_lt]
  | lost | refused => rfl

/-- The verdict on a request with this bucket, if it has one. -/
def expected (reply : RedisReply) : Option Bucket → RequestAnswer
  | none => .unauthorized
  | some b => env.verdict b.scope reply (s.windows.count s.now b.key + 1)
      ((s.windows.windowEnd s.now b.key limitWindow - s.now + 500) / 1000)

/-- **What a request comes to**: its bucket is checked, or it failed
authentication, or it has no bucket. -/
theorem answer_cases (a : Arrival) (reply : RedisReply) :
    (∃ b, a.bucket env = some b ∧ (∀ e, b.scope ≠ .failed e) ∧
      s.answer env p a reply
        = s.enforce env p b b.scope.failClosed reply) ∨
    (∃ e r, a.bucket env = some ⟨.failed e, env.identity r.client⟩ ∧
      s.answer env p a reply
        = (s.secure p (.event (authFailedEvent env e r))
          ).throttleFailedWebhookAuth env e r reply) ∨
    (a.bucket env = none ∧
      s.answer env p a reply = (s, .unauthorized)) := by
  cases a with
  | webhook e r =>
      by_cases hauth : authenticated env.settings r e = true
      · refine .inl ⟨⟨.valid e, env.identity r.client⟩, ?_,
          fun _ h => (by cases h), ?_⟩
        · simp [Arrival.bucket, hauth]
        · simp only [answer, authenticateThenLimit, hauth, if_true]
          rfl
      · refine .inr (.inl ⟨e, r, ?_, ?_⟩)
        · simp [Arrival.bucket, hauth]
        · simp only [answer, authenticateThenLimit, hauth, Bool.false_eq_true,
            if_false]
  | route b principal =>
      cases principal with
      | none => exact .inr (.inr ⟨rfl, rfl⟩)
      | some principal =>
          exact .inl ⟨_, rfl, fun _ h => (by cases h), rfl⟩

theorem enforce_snd {b : Bucket} (hscope : ∀ e, b.scope ≠ .failed e)
    (reply : RedisReply) :
    (s.enforce env p b b.scope.failClosed reply).2
      = s.expected env reply (some b) := by
  refine (s.checkRateLimit_answer env b b.scope.failClosed reply).trans ?_
  obtain ⟨scope, owner⟩ := b
  cases scope with
  | valid e => simp [expected, LimitEnv.verdict, LimitScope.failClosed]
  | failed e => exact absurd rfl (hscope e)
  | budget b => rfl

/-- **Every answer is the verdict** on the count of the request's bucket. -/
theorem answer_snd (a : Arrival) (reply : RedisReply) :
    (s.answer env p a reply).2 = s.expected env reply (a.bucket env) := by
  rcases s.answer_cases env p a reply with
    ⟨b, hb, hscope, heq⟩ | ⟨e, r, hb, heq⟩ | ⟨hb, heq⟩
  · rw [heq, hb]
    exact s.enforce_snd env p hscope reply
  · rw [heq, hb]
    exact s.failedAnswer_eq env ⟨.failed e, env.identity r.client⟩ reply
  · rw [heq, hb]
    rfl

/-- The counters after a request of this bucket, if it has one. -/
def counted (reply : RedisReply) : Option Bucket → FixedWindows String
  | none => s.windows
  | some b => (atomicIncr s.windows s.now b.key reply).1

/-- What a request leaves of the rest of the system. -/
structure Reaches (s' : LimitSystem) : Prop where
  now : s'.now = s.now
  log : s'.log = s.log
  security : ∀ p', s'.security p' = s.security p' ∨
    ∃ event, securityStep (s.security p') (.event event)
      = some (s'.security p')
  degraded : ∀ p', s'.degraded p' = s.degraded p' ∨
    ∃ endpoint, s'.degraded p' = { s.degraded p' with
      last := (s.degraded p').last.ask s.now endpoint () }

theorem enforce_windows (b : Bucket) (failClosed : Bool) (reply : RedisReply) :
    (s.enforce env p b failClosed reply).1.windows
      = (atomicIncr s.windows s.now b.key reply).1 := by
  unfold enforce
  dsimp only
  split <;> rfl

theorem enforce_reaches (b : Bucket) (failClosed : Bool) (reply : RedisReply) :
    s.Reaches (s.enforce env p b failClosed reply).1 := by
  unfold enforce
  dsimp only
  split
  · refine ⟨rfl, rfl, fun _ => .inl rfl, fun p' => ?_⟩
    by_cases hp : p' = p
    · subst hp
      exact .inr ⟨b.scope.keyPrefix, if_pos rfl⟩
    · exact .inl (if_neg hp)
  · exact ⟨rfl, rfl, fun _ => .inl rfl, fun _ => .inl rfl⟩

theorem raise_reaches (event : SecurityEvent) :
    s.Reaches (s.secure p (.event event)) := by
  refine ⟨rfl, rfl, fun p' => ?_, fun _ => .inl rfl⟩
  by_cases hp : p' = p
  · subst hp
    refine .inr ⟨event, ?_⟩
    simp only [secure, if_true, securityStep, Option.getD_some]
  · exact .inl (if_neg hp)

theorem answer_windows (a : Arrival) (reply : RedisReply) :
    (s.answer env p a reply).1.windows
      = s.counted reply (a.bucket env) := by
  rcases s.answer_cases env p a reply with
    ⟨b, hb, -, heq⟩ | ⟨e, r, hb, heq⟩ | ⟨hb, heq⟩
  · rw [heq, hb]
    exact s.enforce_windows env p b _ reply
  · rw [heq, hb]
    rfl
  · rw [heq, hb]
    rfl

theorem answer_reaches (a : Arrival) (reply : RedisReply) :
    s.Reaches (s.answer env p a reply).1 := by
  rcases s.answer_cases env p a reply with
    ⟨b, -, -, heq⟩ | ⟨e, r, -, heq⟩ | ⟨-, heq⟩
  · rw [heq]
    exact s.enforce_reaches env p b _ reply
  · rw [heq]
    have hrecord := s.raise_reaches p (authFailedEvent env e r)
    exact ⟨hrecord.now, hrecord.log, hrecord.security, hrecord.degraded⟩
  · rw [heq]
    exact ⟨rfl, rfl, fun _ => .inl rfl, fun _ => .inl rfl⟩

end LimitSystem

/-! ## What a run keeps -/

section

variable (env : LimitEnv)

def ServedRequest.bucket (e : ServedRequest) : Option Bucket := e.arrival.bucket env

/-- The request was counted in this bucket and window. -/
def ServedRequest.isIn (e : ServedRequest) (b : Bucket) (t : Nat) : Bool :=
  decide (e.bucket env = some b) && decide (e.window = some t)

/-- The answer is the verdict on the requests of the bucket that were counted
in the window before, and this one. -/
def ServedRequest.Judged (e : ServedRequest) (earlier : List ServedRequest) :
    Prop :=
  (e.bucket env = none → e.answer = .unauthorized) ∧
  ∀ b, e.bucket env = some b →
    (e.reply = .refused ∧ e.window = none ∧
      e.answer = env.verdict b.scope .refused 0 0) ∨
    (e.reply ≠ .refused ∧ ∃ w, e.window = some w ∧
      e.answer = env.verdict b.scope e.reply
        ((e :: earlier).countP (·.isIn env b w)) ((w - e.time + 500) / 1000))

structure LimitSystem.Tracked (s : LimitSystem) : Prop where
  consistent : s.windows.Consistent
  apart : s.windows.Apart limitWindow
  ends : ∀ k e, AList.lookup k s.windows.counters = some e →
    e.expireAt ≤ s.now + limitWindow
  hits : ∀ b t, s.windows.hits.count (b.key, t)
    = s.log.countP (·.isIn env b t)
  judged : ∀ later e earlier, s.log = later ++ e :: earlier →
    e.Judged env earlier
  spans : ∀ e ∈ s.log, ∀ w, e.window = some w →
    e.time ≤ w ∧ w ≤ e.time + limitWindow

end

namespace LimitSystem

variable {env : LimitEnv} {s : LimitSystem}

theorem windowEnd_le (hends : ∀ k e, AList.lookup k s.windows.counters = some e →
      e.expireAt ≤ s.now + limitWindow) (k : String) :
    s.windows.windowEnd s.now k limitWindow ≤ s.now + limitWindow := by
  unfold FixedWindows.windowEnd
  cases he : AList.lookup k s.windows.counters with
  | none => exact Nat.le_refl _
  | some e =>
      have hle := hends k e he
      dsimp only
      split <;> omega

/-- The counters of a request whose script ran. -/
theorem counted_of_ran {reply : RedisReply} (hran : reply ≠ .refused) (b : Bucket) :
    s.counted reply (some b) = s.windows.hit s.now b.key limitWindow := by
  rw [counted, atomicIncr_fst, if_neg hran]

theorem verdict_of_not_answered {scope : LimitScope} {reply : RedisReply}
    (h : reply ≠ .answered) (n ttl : Nat) :
    env.verdict scope reply n ttl = env.verdict scope .refused 0 0 := by
  cases reply with
  | answered => exact absurd rfl h
  | lost | refused => simp [LimitEnv.verdict]

/-- A request that is put in front of the log. -/
theorem judged_cons {e : ServedRequest} {log : List ServedRequest}
    (hfirst : e.Judged env log)
    (hrest : ∀ later x earlier, log = later ++ x :: earlier →
      x.Judged env earlier) :
    ∀ later x earlier, e :: log = later ++ x :: earlier →
      x.Judged env earlier := by
  intro later x earlier heq
  cases later with
  | nil =>
      obtain ⟨rfl, rfl⟩ := List.cons.inj heq
      exact hfirst
  | cons y later => exact hrest later x earlier (List.cons.inj heq).2

/-- A request that is not counted changes no counter. -/
theorem Tracked.uncounted (h : s.Tracked env) {s' : LimitSystem}
    {e : ServedRequest} (hnow : s'.now = s.now) (hlog : s'.log = e :: s.log)
    (hwindows : s'.windows = s.windows) (hwindow : e.window = none)
    (hjudged : e.Judged env s.log) : s'.Tracked env where
  consistent := hwindows ▸ h.consistent
  apart := hwindows ▸ h.apart
  ends := by
    rw [hwindows, hnow]
    exact h.ends
  hits b t := by
    have hout : e.isIn env b t = false := by
      simp [ServedRequest.isIn, hwindow]
    rw [hwindows, hlog, List.countP_cons, hout]
    exact h.hits b t
  judged := hlog ▸ judged_cons hjudged h.judged
  spans x hx w hw := by
    rw [hlog] at hx
    rcases List.mem_cons.mp hx with rfl | hx
    · rw [hwindow] at hw
      cases hw
    · exact h.spans x hx w hw

/-- One that is counted is the next of its window. -/
theorem Tracked.counts (h : s.Tracked env) {s' : LimitSystem}
    {e : ServedRequest} {b : Bucket} (hnow : s'.now = s.now)
    (hlog : s'.log = e :: s.log)
    (hwindows : s'.windows = s.windows.hit s.now b.key limitWindow)
    (hbucket : e.bucket env = some b) (htime : e.time = s.now)
    (hran : e.reply ≠ .refused)
    (hwindow : e.window = some (s.windows.windowEnd s.now b.key limitWindow))
    (hanswer : e.answer = s.expected env e.reply (some b)) : s'.Tracked env := by
  have hin (b' : Bucket) (t : Nat) : e.isIn env b' t = true ↔
      (b.key, s.windows.windowEnd s.now b.key limitWindow) = (b'.key, t) := by
    simp [ServedRequest.isIn, hbucket, hwindow, Bucket.key_eq_iff]
  have hhits (b' : Bucket) (t : Nat) :
      s'.windows.hits.count (b'.key, t) = s'.log.countP (·.isIn env b' t) := by
    have hcons : s'.windows.hits
        = (b.key, s.windows.windowEnd s.now b.key limitWindow)
          :: s.windows.hits := hwindows ▸ rfl
    rw [hcons, hlog, List.count_cons, List.countP_cons, h.hits]
    simp only [beq_iff_eq, ← hin]
  have hwindowEnd := windowEnd_le h.ends b.key
  exact {
    consistent := hwindows ▸ h.consistent.hit (by decide)
    apart := hwindows ▸ h.apart.hit
    ends := by
      intro k x hx
      rw [hwindows, FixedWindows.lookup_hit] at hx
      rw [hnow]
      by_cases hk : k = b.key
      · rw [if_pos hk] at hx
        cases hx
        exact hwindowEnd
      · rw [if_neg hk] at hx
        exact h.ends k x hx
    hits := hhits
    judged := by
      rw [hlog]
      refine judged_cons ⟨fun hnone => ?_, fun b' hb' => ?_⟩ h.judged
      · rw [hbucket] at hnone
        cases hnone
      · rw [hbucket] at hb'
        cases hb'
        refine .inr ⟨hran, _, hwindow, ?_⟩
        have hcount := hhits b (s.windows.windowEnd s.now b.key limitWindow)
        rw [hwindows, hlog] at hcount
        have hnext : (s.windows.hit s.now b.key limitWindow).hits.count
              (b.key, s.windows.windowEnd s.now b.key limitWindow)
            = s.windows.count s.now b.key + 1 := by
          have hopen : s.windows.hits.count
                (b.key, s.windows.windowEnd s.now b.key limitWindow)
              = s.windows.count s.now b.key :=
            h.consistent.hits_windowEnd (show 0 < limitWindow by decide)
          show List.count _ (_ :: _) = _
          rw [List.count_cons_self, hopen]
        rw [← hcount, hnext, hanswer, htime]
        rfl
    spans := by
      intro x hx w hw
      rw [hlog] at hx
      rcases List.mem_cons.mp hx with rfl | hx
      · rw [hwindow] at hw
        cases hw
        rw [htime]
        exact ⟨FixedWindows.le_windowEnd, hwindowEnd⟩
      · exact h.spans x hx w hw }

theorem Tracked.serve (h : s.Tracked env) (p : ServerId) (a : Arrival)
    (reply : RedisReply) : (s.serve env p a reply).Tracked env := by
  have hreaches := s.answer_reaches env p a reply
  have hwindows := s.answer_windows env p a reply
  have hanswer := s.answer_snd env p a reply
  have hlog : (s.serve env p a reply).log = _ :: s.log := rfl
  cases hbucket : a.bucket env with
  | none =>
      rw [hbucket] at hwindows hanswer
      refine h.uncounted hreaches.now hlog hwindows ?_
        ⟨fun _ => hanswer, fun b hb => ?_⟩
      · simp [windowOf, hbucket]
      · rw [ServedRequest.bucket, hbucket] at hb
        cases hb
  | some b =>
      rw [hbucket] at hwindows hanswer
      by_cases hran : reply = .refused
      · subst hran
        refine h.uncounted hreaches.now hlog hwindows rfl
          ⟨fun hnone => ?_, fun b' hb' => ?_⟩
        · rw [ServedRequest.bucket, hbucket] at hnone
          cases hnone
        · rw [ServedRequest.bucket, hbucket] at hb'
          cases hb'
          exact .inl ⟨rfl, rfl, hanswer.trans
            (verdict_of_not_answered (by decide) _ _)⟩
      · rw [counted_of_ran hran] at hwindows
        refine h.counts hreaches.now hlog hwindows hbucket rfl hran ?_ hanswer
        simp [windowOf, hran, hbucket]

theorem Tracked.step (h : s.Tracked env) (act : LimitAct) :
    (limitStep env s act).Tracked env := by
  cases act with
  | serve p a reply => exact h.serve p a reply
  | secure p act | audit p act =>
      exact ⟨h.consistent, h.apart, h.ends, h.hits, h.judged, h.spans⟩
  | tick elapsed =>
      refine ⟨h.consistent, h.apart, fun k e he => ?_, h.hits, h.judged, h.spans⟩
      exact Nat.le_trans (h.ends k e he)
        (Nat.add_le_add_right (Nat.le_add_right _ _) _)

theorem tracked_start : ({} : LimitSystem).Tracked env where
  consistent := FixedWindows.consistent_empty
  apart := FixedWindows.apart_empty
  ends _ _ h := by cases h
  hits _ _ := rfl
  judged later e earlier h := by simp at h
  spans _ h := by cases h

end LimitSystem

/-! ## How many are let through -/

section

variable (env : LimitEnv)

/-- A request of the bucket that was counted and let through. -/
def ServedRequest.isAdmitted (e : ServedRequest) (b : Bucket) : Bool :=
  decide (e.bucket env = some b) && decide (e.answer = .admitted)
    && decide (e.reply = .answered)

end

variable {env : LimitEnv}

/-- It has a window, and is within the limit of it. -/
theorem ServedRequest.Judged.admitted {e : ServedRequest}
    {earlier : List ServedRequest} (h : e.Judged env earlier) {b : Bucket}
    (ha : e.isAdmitted env b = true) :
    ∃ w, e.window = some w ∧ e.isIn env b w = true ∧
      (e :: earlier).countP (·.isIn env b w) ≤ env.limit b.scope := by
  simp only [isAdmitted, Bool.and_eq_true, decide_eq_true_eq] at ha
  obtain ⟨⟨hbucket, hadmitted⟩, hanswered⟩ := ha
  rcases h.2 b hbucket with ⟨hrefused, -⟩ | ⟨-, w, hw, hverdict⟩
  · rw [hanswered] at hrefused
    cases hrefused
  · refine ⟨w, hw, by simp [isIn, hbucket, hw], Nat.le_of_not_lt fun hlt => ?_⟩
    have htoo : env.verdict b.scope e.reply
        ((e :: earlier).countP (·.isIn env b w)) ((w - e.time + 500) / 1000)
        = .tooMany (max ((w - e.time + 500) / 1000) 1) := if_pos ⟨hanswered, hlt⟩
    rw [hadmitted, htoo] at hverdict
    cases hverdict

/-- No window lets more through than the limit. -/
theorem admitted_le_limit {log : List ServedRequest} (b : Bucket) (w : Nat)
    (h : ∀ later e earlier, log = later ++ e :: earlier →
      e.Judged env earlier) :
    log.countP (fun e => e.isAdmitted env b && e.isIn env b w)
      ≤ env.limit b.scope := by
  induction log with
  | nil => exact Nat.zero_le _
  | cons e log ih =>
      have hrest := ih fun later x earlier heq =>
        h (e :: later) x earlier (heq ▸ rfl)
      rw [List.countP_cons]
      by_cases ha : (e.isAdmitted env b && e.isIn env b w) = true
      · obtain ⟨hadmitted, hin⟩ := (Bool.and_eq_true _ _).mp ha
        obtain ⟨w', hw', -, hle⟩ := (h [] e log rfl).admitted hadmitted
        have hwindow : w' = w := by
          simp only [ServedRequest.isIn, Bool.and_eq_true, decide_eq_true_eq,
            hw'] at hin
          exact Option.some.inj hin.2
        subst hwindow
        rw [List.countP_cons, if_pos hin] at hle
        have hmono : log.countP (fun e => e.isAdmitted env b && e.isIn env b w')
            ≤ log.countP (·.isIn env b w') :=
          List.countP_mono_left fun x _ hx => ((Bool.and_eq_true _ _).mp hx).2
        rw [if_pos ha]
        omega
      · rw [if_neg ha]
        exact hrest

/-- A request of the log that was let through, with its window. -/
theorem LimitSystem.Tracked.admitted {s : LimitSystem} (h : s.Tracked env)
    {e : ServedRequest} (he : e ∈ s.log) {b : Bucket}
    (ha : e.isAdmitted env b = true) :
    ∃ w, e.window = some w ∧ e.isIn env b w = true ∧ e.time ≤ w ∧
      w ≤ e.time + limitWindow := by
  obtain ⟨later, earlier, hsplit⟩ := List.append_of_mem he
  obtain ⟨w, hw, hin, -⟩ := (h.judged later e earlier hsplit).admitted ha
  obtain ⟨hle, hge⟩ := h.spans e he w hw
  exact ⟨w, hw, hin, hle, hge⟩

/-- Two windows of a bucket lie apart. -/
theorem LimitSystem.Tracked.windows_apart {s : LimitSystem} (h : s.Tracked env)
    {e e' : ServedRequest} (he : e ∈ s.log) (he' : e' ∈ s.log) {b : Bucket}
    {w w' : Nat} (hin : e.isIn env b w = true) (hin' : e'.isIn env b w' = true)
    (hlt : w < w') : w + limitWindow < w' := by
  have hhit {x : ServedRequest} {t : Nat} (hx : x ∈ s.log)
      (hxin : x.isIn env b t = true) : (b.key, t) ∈ s.windows.hits := by
    refine List.count_pos_iff.mp ?_
    rw [h.hits]
    exact List.countP_pos_iff.mpr ⟨x, hx, hxin⟩
  exact h.apart.apart b.key w w' (hhit he hin) (hhit he' hin') hlt

/-- **At most twice the limit** is let through in any minute. -/
theorem LimitSystem.Tracked.admitted_in_span {s : LimitSystem}
    (h : s.Tracked env) (b : Bucket) (a : Nat) :
    s.log.countP (fun e => e.isAdmitted env b && decide (a ≤ e.time)
        && decide (e.time < a + limitWindow)) ≤ 2 * env.limit b.scope := by
  rw [List.countP_eq_length_filter, ← List.length_map
    fun e : ServedRequest => (e.time, e.window.getD 0)]
  refine @FixedWindows.length_le_of_windows limitWindow a _ _
    (fun q hq => ?_) (fun q hq q' hq' hlt => ?_) fun t => ?_
  · obtain ⟨e, he, rfl⟩ := List.mem_map.mp hq
    obtain ⟨hmem, he⟩ := List.mem_filter.mp he
    simp only [Bool.and_eq_true, decide_eq_true_eq] at he
    obtain ⟨w, hw, -, hle, hge⟩ := h.admitted hmem he.1.1
    rw [hw]
    exact ⟨hle, hge, he.1.2, he.2⟩
  · obtain ⟨e, he, rfl⟩ := List.mem_map.mp hq
    obtain ⟨e', he', rfl⟩ := List.mem_map.mp hq'
    obtain ⟨hmem, he⟩ := List.mem_filter.mp he
    obtain ⟨hmem', he'⟩ := List.mem_filter.mp he'
    simp only [Bool.and_eq_true] at he he'
    obtain ⟨w, hw, hin, -⟩ := h.admitted hmem he.1.1
    obtain ⟨w', hw', hin', -⟩ := h.admitted hmem' he'.1.1
    rw [hw, hw'] at hlt ⊢
    exact h.windows_apart hmem hmem' hin hin' hlt
  · rw [List.countP_map, List.countP_filter]
    refine Nat.le_trans (List.countP_mono_left fun e hmem he => ?_)
      (admitted_le_limit b t h.judged)
    simp only [Function.comp_apply, Bool.and_eq_true, decide_eq_true_eq] at he
    obtain ⟨w, hw, hin, -⟩ := h.admitted hmem he.2.1.1
    have ht : w = t := by
      have hend := he.1
      rwa [hw] at hend
    rw [he.2.1.1, ← ht, hin]
    rfl

/-! ## The audit trail -/

/-- What holds of the audit of a process: its calls race for the stamps, and
for every one that passed a row was attempted. -/
structure DegradedAudit.Kept (d : DegradedAudit) (now : Nat) : Prop where
  raced : d.last.Raced none now
  turns : d.last.peak ≤ 1 → d.last.InTurn degradedAuditMs none now
  attempted : ∀ endpoint, d.rows.count endpoint + d.lost.count endpoint
    + d.flushed.count (fun _ e => e == endpoint)
      = d.last.throttle.passed.countP (·.1 == endpoint)

namespace DegradedAudit

variable {d d' : DegradedAudit} {now : Nat}

theorem kept_start : ({} : DegradedAudit).Kept now where
  raced := RacedThrottle.raced_start
  turns _ := RacedThrottle.inTurn_start
  attempted _ := rfl

theorem Kept.later (h : d.Kept now) {later : Nat} (hle : now ≤ later) :
    d.Kept later where
  raced := h.raced.later hle
  turns hpeak := (h.turns hpeak).later hle
  attempted := h.attempted

theorem Kept.ask (h : d.Kept now) (endpoint : List Char) :
    ({ d with last := d.last.ask now endpoint () } : DegradedAudit).Kept now where
  raced := h.raced.ask endpoint ()
  turns hpeak := by
    obtain ⟨hold, hfree⟩ := Nat.max_le.mp hpeak
    exact (h.turns hold).ask (by omega) endpoint ()
  attempted := h.attempted

theorem Kept.step (h : d.Kept now) {act : DegradedAct}
    (hstep : degradedStep d act = some d') : d'.Kept now := by
  cases act with
  | step i =>
      obtain ⟨⟨t, out⟩, hst, rfl⟩ := Option.map_eq_some_iff.mp hstep
      have hraced := h.raced.step hst
      have hturns : t.peak ≤ 1 → t.InTurn degradedAuditMs none now := by
        intro hpeak
        rw [RacedThrottle.peak_step hst] at hpeak
        exact (h.turns hpeak).step hst
      have hheld (hout : ∀ c, out ≠ some (c, true)) :
          ({ d with last := t } : DegradedAudit).Kept now := by
        refine ⟨hraced, hturns, fun endpoint => ?_⟩
        rw [RacedThrottle.step_kept hst hout]
        exact h.attempted endpoint
      cases out with
      | none => exact hheld fun _ hc => by cases hc
      | some answer =>
          obtain ⟨c, passes⟩ := answer
          cases passes with
          | false => exact hheld fun _ hc => by cases hc
          | true =>
              refine ⟨hraced, hturns, fun endpoint => ?_⟩
              have hold := h.attempted endpoint
              dsimp only
              rw [RacedThrottle.step_passed hst, List.countP_cons,
                Table.count_insert_new (Table.lookup_nextKey _)]
              dsimp only
              omega
  | settle i commits =>
      obtain ⟨row, hrow, rfl⟩ := Option.map_eq_some_iff.mp hstep
      refine ⟨h.raced, h.turns, fun endpoint => ?_⟩
      have hold := h.attempted endpoint
      have herase := Table.count_erase (p := fun _ e => e == endpoint) hrow
      dsimp only
      cases commits with
      | true =>
          simp only [if_true, List.count_cons]
          omega
      | false =>
          simp only [Bool.false_eq_true, if_false, List.count_cons]
          omega

/-- A call that has begun comes to its answer. -/
theorem Kept.answers (h : d.Kept now) {endpoint : List Char} {clock : Nat}
    (hanswers : d.last.Answers degradedAuditMs endpoint clock)
    {act : DegradedAct} (hstep : degradedStep d act = some d') :
    d'.last.Answers degradedAuditMs endpoint clock := by
  cases act with
  | step i =>
      obtain ⟨⟨t, out⟩, hst, rfl⟩ := Option.map_eq_some_iff.mp hstep
      have hnext := hanswers.step (by decide) h.raced hst
      rcases out with _ | ⟨c, _ | _⟩ <;> exact hnext
  | settle i commits =>
      obtain ⟨row, -, rfl⟩ := Option.map_eq_some_iff.mp hstep
      exact hanswers

end DegradedAudit

/-- What the processes keep beside the counters. -/
structure LimitSystem.Noted (env : LimitEnv) (s : LimitSystem) : Prop where
  security : ∀ p, (s.security p).Kept
  degraded : ∀ p, (s.degraded p).Kept s.now
  noted : ∀ e ∈ s.log, e.answer = .admitted → e.reply ≠ .answered →
    ∃ b, e.bucket env = some b ∧
      (s.degraded e.process).last.Answers degradedAuditMs b.scope.keyPrefix
        e.time

namespace LimitSystem

variable {s : LimitSystem}

/-- A request that is let through without an answer is noted. -/
theorem enforce_degraded {p : ServerId} {b : Bucket} {failClosed : Bool}
    {reply : RedisReply} (hreply : reply ≠ .answered)
    (hadmitted : (s.enforce env p b failClosed reply).2 = .admitted) :
    ((s.enforce env p b failClosed reply).1.degraded p).last
      = (s.degraded p).last.ask s.now b.scope.keyPrefix () := by
  have hnone : (atomicIncr s.windows s.now b.key reply).2 = none := by
    cases reply with
    | answered => exact absurd rfl hreply
    | lost | refused => rfl
  unfold enforce at hadmitted ⊢
  dsimp only at hadmitted ⊢
  rw [hnone] at hadmitted ⊢
  cases failClosed with
  | true => cases hadmitted
  | false =>
      have hcheck : checkRateLimit (env.limit b.scope) false none = .degraded :=
        rfl
      rw [if_pos hcheck]
      exact congrArg DegradedAudit.last (if_pos rfl)

theorem answer_degraded {p : ServerId} {a : Arrival} {reply : RedisReply}
    (hreply : reply ≠ .answered)
    (hadmitted : (s.answer env p a reply).2 = .admitted) :
    ∃ b, a.bucket env = some b ∧
      ((s.answer env p a reply).1.degraded p).last
        = (s.degraded p).last.ask s.now b.scope.keyPrefix () := by
  rcases s.answer_cases env p a reply with
    ⟨b, hb, -, heq⟩ | ⟨e, r, hb, -⟩ | ⟨-, heq⟩
  · rw [heq] at hadmitted ⊢
    exact ⟨b, hb, enforce_degraded hreply hadmitted⟩
  · have hanswer := s.answer_snd env p a reply
    rw [hadmitted, hb] at hanswer
    exact absurd hanswer.symm (verdict_failed e reply _ _)
  · rw [heq] at hadmitted
    cases hadmitted

theorem Noted.reaches (h : s.Noted env) {s' : LimitSystem}
    (hr : s.Reaches s') : s'.Noted env where
  security p := by
    rcases hr.security p with heq | ⟨event, hstep⟩
    · exact heq ▸ h.security p
    · exact (h.security p).act hstep
  degraded p := by
    rw [hr.now]
    rcases hr.degraded p with heq | ⟨endpoint, heq⟩
    · exact heq ▸ h.degraded p
    · exact heq ▸ (h.degraded p).ask endpoint
  noted e he hadmitted hreply := by
    obtain ⟨b, hb, hanswers⟩ := h.noted e (hr.log ▸ he) hadmitted hreply
    refine ⟨b, hb, ?_⟩
    rcases hr.degraded e.process with heq | ⟨endpoint, heq⟩
    · exact heq ▸ hanswers
    · exact heq ▸ hanswers.ask endpoint ()

theorem Noted.serve (h : s.Noted env) (p : ServerId) (a : Arrival)
    (reply : RedisReply) : (s.serve env p a reply).Noted env := by
  have hreaches := s.answer_reaches env p a reply
  have hanswered := h.reaches hreaches
  refine ⟨hanswered.security, hanswered.degraded, fun e he hadmitted hreply => ?_⟩
  rcases List.mem_cons.mp he with rfl | he
  · obtain ⟨b, hb, hasked⟩ := answer_degraded hreply hadmitted
    refine ⟨b, hb, ?_⟩
    show ((s.answer env p a reply).1.degraded p).last.Answers _ _ s.now
    rw [hasked]
    exact RacedThrottle.answers_ask _ _
  · exact hanswered.noted e (hreaches.log ▸ he) hadmitted hreply

theorem Noted.secure (h : s.Noted env) (p : ServerId) (act : SecurityAct) :
    (s.secure p act).Noted env := by
  refine ⟨fun p' => ?_, h.degraded, h.noted⟩
  unfold LimitSystem.secure
  dsimp only
  split
  · cases hstep : securityStep (s.security p) act with
    | none => exact h.security p
    | some d => exact (h.security p).act hstep
  · exact h.security p'

theorem Noted.audit (h : s.Noted env) (p : ServerId) (act : DegradedAct) :
    (s.audit p act).Noted env := by
  have haudited (p' : ServerId) : (s.audit p act).degraded p' = s.degraded p' ∨
      degradedStep (s.degraded p') act = some ((s.audit p act).degraded p') := by
    unfold LimitSystem.audit
    dsimp only
    split
    · next hp =>
      subst hp
      cases hstep : degradedStep (s.degraded p') act with
      | none => exact .inl rfl
      | some d => exact .inr rfl
    · exact .inl rfl
  refine ⟨h.security, fun p' => ?_, fun e he hadmitted hreply => ?_⟩
  · rcases haudited p' with heq | hstep
    · exact heq ▸ h.degraded p'
    · exact (h.degraded p').step hstep
  · obtain ⟨b, hb, hanswers⟩ := h.noted e he hadmitted hreply
    refine ⟨b, hb, ?_⟩
    rcases haudited e.process with heq | hstep
    · exact heq ▸ hanswers
    · exact (h.degraded e.process).answers hanswers hstep

theorem Noted.step (h : s.Noted env) (act : LimitAct) :
    (limitStep env s act).Noted env := by
  cases act with
  | serve p a reply => exact h.serve p a reply
  | secure p act => exact h.secure p act
  | audit p act => exact h.audit p act
  | tick elapsed =>
      exact ⟨fun p => (h.security p).tick elapsed,
        fun p => (h.degraded p).later (Nat.le_add_right _ _), h.noted⟩

theorem noted_start : ({} : LimitSystem).Noted env where
  security _ := SecurityProcess.kept_start
  degraded _ := DegradedAudit.kept_start
  noted _ he := by cases he

end LimitSystem

/-! ## The limits -/

/-- A request with the secret of its webhook, or with a valid token. -/
def ServedRequest.Credited (env : LimitEnv) (e : ServedRequest) : Prop :=
  match e.arrival with
  | .webhook endpoint r => authenticated env.settings r endpoint = true
  | .route _ principal => principal.isSome = true

/-- **What the limits keep**, of every request that was answered. -/
structure LimitsKept (env : LimitEnv) (s : LimitSystem) : Prop where
  /-- nothing is let through without a credential -/
  credited : ∀ e ∈ s.log, e.answer = .admitted → e.Credited env
  /-- every answer is the verdict on the requests of the same bucket that
  were counted in the same window so far -/
  judged : ∀ later e earlier, s.log = later ++ e :: earlier →
    e.Judged env earlier
  /-- a window is at most a minute long and holds the request -/
  spans : ∀ e ∈ s.log, ∀ w, e.window = some w →
    e.time ≤ w ∧ w ≤ e.time + limitWindow
  /-- and the next one of the bucket begins after it -/
  apart : ∀ e ∈ s.log, ∀ e' ∈ s.log, ∀ b w w', e.isIn env b w = true →
    e'.isIn env b w' = true → w < w' → w + limitWindow < w'
  /-- in any minute a bucket lets through at most twice its limit -/
  bounded : ∀ b a, s.log.countP (fun e => e.isAdmitted env b
    && decide (a ≤ e.time) && decide (e.time < a + limitWindow))
      ≤ 2 * env.limit b.scope
  /-- what is let through without an answer of Redis is still in its audit, or
  that passed, or one of the last minute that passed held it back -/
  noted : ∀ e ∈ s.log, e.answer = .admitted → e.reply ≠ .answered →
    ∃ b, e.bucket env = some b ∧
      (s.degraded e.process).last.Answers degradedAuditMs b.scope.keyPrefix
        e.time
  /-- for each one that passed there is a row, or it is not committed yet, or
  it was lost -/
  attempted : ∀ p endpoint, (s.degraded p).rows.count endpoint
    + (s.degraded p).lost.count endpoint
    + (s.degraded p).flushed.count (fun _ e => e == endpoint)
      = (s.degraded p).last.throttle.passed.countP (·.1 == endpoint)
  /-- and where the audits of a process take turns, one passes a minute for
  each endpoint -/
  once : ∀ p, (s.degraded p).last.peak ≤ 1 → ∀ endpoint a,
    (s.degraded p).last.throttle.passesIn degradedAuditMs endpoint a ≤ 1
  /-- the rows about failed authentication are a sample of its events -/
  sampled : ∀ p, (s.security p).Sampled

/-- An answer that admits is to a request with a credential. -/
theorem ServedRequest.Judged.credited {e : ServedRequest}
    {earlier : List ServedRequest} (h : e.Judged env earlier)
    (hadmitted : e.answer = .admitted) : e.Credited env := by
  unfold Credited
  cases ha : e.arrival with
  | webhook endpoint r =>
      by_cases hauth : authenticated env.settings r endpoint = true
      · exact hauth
      · have hbucket : e.bucket env
            = some ⟨.failed endpoint, env.identity r.client⟩ := by
          simp [ServedRequest.bucket, ha, Arrival.bucket, hauth]
        rcases h.2 _ hbucket with ⟨-, -, hverdict⟩ | ⟨-, w, -, hverdict⟩
        · exact absurd (hverdict.symm.trans hadmitted) (verdict_failed _ _ _ _)
        · exact absurd (hverdict.symm.trans hadmitted) (verdict_failed _ _ _ _)
  | route b principal =>
      cases principal with
      | some principal => rfl
      | none =>
          have hbucket : e.bucket env = none := by
            simp [ServedRequest.bucket, ha, Arrival.bucket]
          have hanswer := h.1 hbucket
          rw [hadmitted] at hanswer
          cases hanswer

/-- **The limits are kept** in every run of the servers: whatever requests
arrive, at whichever process, however its threads race, and whatever Redis
and the database do. -/
theorem requestLimits_kept (env : LimitEnv) (acts : List LimitAct) :
    LimitsKept env (acts.foldl (limitStep env) {}) := by
  have htracked : (acts.foldl (limitStep env) {}).Tracked env :=
    List.foldlRecOn acts _ LimitSystem.tracked_start fun _ h act _ => h.step act
  have hnoted : (acts.foldl (limitStep env) {}).Noted env :=
    List.foldlRecOn acts _ LimitSystem.noted_start fun _ h act _ => h.step act
  exact {
    credited := fun e he hadmitted => by
      obtain ⟨later, earlier, hsplit⟩ := List.append_of_mem he
      exact (htracked.judged later e earlier hsplit).credited hadmitted
    judged := htracked.judged
    spans := htracked.spans
    apart := fun e he e' he' b w w' => htracked.windows_apart he he'
    bounded := htracked.admitted_in_span
    noted := hnoted.noted
    attempted := fun p => (hnoted.degraded p).attempted
    once := fun p hpeak => ((hnoted.degraded p).turns hpeak).once rfl
    sampled := fun p => (hnoted.security p).sample }

/-! ## Requests of other buckets -/

/-- The request is of one of these buckets. -/
def ServedRequest.concerns (env : LimitEnv) (bs : Bucket → Bool)
    (e : ServedRequest) : Bool := (e.bucket env).any bs

def LimitAct.concerns (env : LimitEnv) (bs : Bucket → Bool) : LimitAct → Bool
  | .serve _ a _ => (a.bucket env).any bs
  | .secure _ _ | .audit _ _ => false
  | .tick _ => true

/-- Two systems that have the same in these buckets, where the second has
served no others. -/
structure LimitSystem.Agrees (env : LimitEnv) (bs : Bucket → Bool)
    (s t : LimitSystem) : Prop where
  now : s.now = t.now
  counters : ∀ b, bs b = true → AList.lookup b.key s.windows.counters
    = AList.lookup b.key t.windows.counters
  log : s.log.filter (·.concerns env bs) = t.log

namespace LimitSystem

variable {bs : Bucket → Bool} {s t : LimitSystem}

theorem lookup_counted (s : LimitSystem) (b b' : Bucket) (reply : RedisReply) :
    AList.lookup b'.key (s.counted reply (some b)).counters
      = if b' = b ∧ reply ≠ .refused then
          some ⟨s.windows.count s.now b.key + 1,
            s.windows.windowEnd s.now b.key limitWindow⟩
        else AList.lookup b'.key s.windows.counters := by
  rw [counted, atomicIncr_fst]
  by_cases hran : reply = .refused
  · simp [hran]
  · rw [if_neg hran, FixedWindows.lookup_hit]
    simp [hran, Bucket.key_eq_iff]

/-- A request of these buckets is answered alike. -/
theorem Agrees.serve (h : s.Agrees env bs t) (p : ServerId) {a : Arrival}
    {b : Bucket} (hbucket : a.bucket env = some b) (hb : bs b = true)
    (reply : RedisReply) :
    (s.serve env p a reply).Agrees env bs (t.serve env p a reply) := by
  have hs := s.answer_reaches env p a reply
  have ht := t.answer_reaches env p a reply
  have hcount : s.windows.count s.now b.key = t.windows.count t.now b.key := by
    rw [h.now]
    exact FixedWindows.count_congr (h.counters b hb)
  have hwindow : s.windows.windowEnd s.now b.key limitWindow
      = t.windows.windowEnd t.now b.key limitWindow := by
    rw [h.now]
    exact FixedWindows.windowEnd_congr (h.counters b hb)
  refine ⟨hs.now.trans (h.now.trans ht.now.symm), fun b' hb' => ?_, ?_⟩
  · show AList.lookup b'.key (s.answer env p a reply).1.windows.counters
      = AList.lookup b'.key (t.answer env p a reply).1.windows.counters
    rw [answer_windows, answer_windows, hbucket, lookup_counted, lookup_counted,
      hcount, hwindow, h.counters b' hb']
  · have hentry : (⟨p, a, reply, s.now, s.windowOf (a.bucket env) reply,
          (s.answer env p a reply).2⟩ : ServedRequest)
        = ⟨p, a, reply, t.now, t.windowOf (a.bucket env) reply,
          (t.answer env p a reply).2⟩ := by
      rw [answer_snd, answer_snd, hbucket, expected, expected, windowOf, windowOf,
        Option.map_some, Option.map_some, hcount, hwindow, h.now]
    show (_ :: s.log).filter _ = _ :: t.log
    rw [hentry, List.filter_cons_of_pos, h.log]
    simp [ServedRequest.concerns, ServedRequest.bucket, hbucket, hb]

/-- A request of another bucket leaves these alone. -/
theorem Agrees.serve_other (h : s.Agrees env bs t) (p : ServerId) {a : Arrival}
    (hother : (a.bucket env).any bs = false) (reply : RedisReply) :
    (s.serve env p a reply).Agrees env bs t := by
  have hs := s.answer_reaches env p a reply
  refine ⟨hs.now.trans h.now, fun b' hb' => ?_, ?_⟩
  · show AList.lookup b'.key (s.answer env p a reply).1.windows.counters
      = _
    rw [answer_windows, ← h.counters b' hb']
    cases hbucket : a.bucket env with
    | none => rfl
    | some b =>
        have hne : b' ≠ b := by
          rintro rfl
          rw [hbucket, Option.any_some, hb'] at hother
          cases hother
        rw [lookup_counted, if_neg fun hand => hne hand.1]
  · show (_ :: s.log).filter _ = t.log
    rw [List.filter_cons_of_neg, h.log]
    simp [ServedRequest.concerns, ServedRequest.bucket, hother]

theorem Agrees.step (h : s.Agrees env bs t) {act : LimitAct}
    (hact : act.concerns env bs = true) :
    (limitStep env s act).Agrees env bs (limitStep env t act) := by
  cases act with
  | serve p a reply =>
      obtain ⟨b, hbucket, hb⟩ := (Option.any_eq_true _ _).mp hact
      exact h.serve p hbucket hb reply
  | secure p act | audit p act => cases hact
  | tick elapsed => exact ⟨congrArg (· + elapsed) h.now, h.counters, h.log⟩

theorem Agrees.step_other (h : s.Agrees env bs t) {act : LimitAct}
    (hact : act.concerns env bs = false) :
    (limitStep env s act).Agrees env bs t := by
  cases act with
  | serve p a reply => exact h.serve_other p hact reply
  | secure p act | audit p act => exact ⟨h.now, h.counters, h.log⟩
  | tick elapsed => cases hact

/-- The steps that do not concern these buckets may be left out. -/
theorem Agrees.run (h : s.Agrees env bs t) (acts : List LimitAct) :
    (acts.foldl (limitStep env) s).Agrees env bs
      ((acts.filter (·.concerns env bs)).foldl (limitStep env) t) := by
  induction acts generalizing s t with
  | nil => exact h
  | cons act acts ih =>
      cases hact : act.concerns env bs with
      | true =>
          rw [List.filter_cons_of_pos hact]
          exact ih (h.step hact)
      | false =>
          rw [List.filter_cons_of_neg (by simp [hact])]
          exact ih (h.step_other hact)

end LimitSystem

/-- **A bucket is answered as if there were no others**: the answers to the
requests of any set of buckets, their times and their windows are the same
when every other request is left out of the run. So a flood of requests that
fail authentication, or of other clients, changes no answer to a request
with the secret. -/
theorem requestLimits_apart (env : LimitEnv) (bs : Bucket → Bool)
    (acts : List LimitAct) :
    (acts.foldl (limitStep env) {}).log.filter (·.concerns env bs)
      = ((acts.filter (·.concerns env bs)).foldl (limitStep env) {}).log :=
  (LimitSystem.Agrees.run ⟨rfl, fun _ _ => rfl, rfl⟩ acts).log

end CallingAgent
