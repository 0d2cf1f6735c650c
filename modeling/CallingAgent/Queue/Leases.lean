import CallingAgent.Lib.Run
import CallingAgent.Lib.SortedSet
import CallingAgent.Model.Records

/-!
# Concurrency leases — the three scripts

A concurrency slot is a lease: one member in each of three sorted sets
(global, campaign, provider), scored with the instant it expires at, and a
record under the key of its holder. Acquire, renew and release are one Lua
script each, so each is one step on Redis.
-/

namespace CallingAgent

open Lib

/-! ## Keys and records -/

/-- A scope of the limits, standing for the key of its set. -/
inductive Scope where
  | global
  | campaign (id : CampaignId)
  | provider (name : String)
  deriving DecidableEq, Repr

abbrev LeaseId := Nat
abbrev HolderId := String

/-- `ConcurrencyLease`: the handle of one slot in every scope. -/
structure ConcurrencyLease where
  leaseId : LeaseId
  holderId : HolderId
  campaignId : CampaignId
  providerName : String
  deriving DecidableEq, Repr

/-- `scope_keys`, in the order the scripts go through them. -/
def ConcurrencyLease.scopeKeys (l : ConcurrencyLease) : List Scope :=
  [.global, .campaign l.campaignId, .provider l.providerName]

/-- What is stored under a holder key. -/
structure HolderRecord where
  leaseId : LeaseId
  expires : Nat
  acquiredAt : Nat
  acquiredBy : String
  deriving DecidableEq, Repr

/-- Why an acquisition was rejected. -/
inductive RejectReason where
  | duplicateLease
  | global
  | campaign
  | provider
  deriving DecidableEq, Repr

def Scope.reason : Scope → RejectReason
  | .global => .global
  | .campaign _ => .campaign
  | .provider _ => .provider

structure AcquireOutcome where
  lease : Option ConcurrencyLease
  reason : Option RejectReason
  reclaimed : Nat

/-- `ConcurrencyLeaseStore`: what every worker is configured with. A lease
always expires. -/
structure LeaseStore where
  ttlMs : Nat
  ttl_pos : 0 < ttlMs
  limit : Scope → Nat

/-- The lease keys of Redis, and its clock in milliseconds. -/
structure LeaseRedis where
  now : Nat
  scopes : Keyspace Scope (SortedSet LeaseId) := ∅
  holders : Keyspace HolderId HolderRecord := ∅

namespace LeaseRedis

variable (r : LeaseRedis)

/-- The set of a scope; an absent or expired key is an empty one. -/
def members (k : Scope) : SortedSet LeaseId := (r.scopes.get r.now k).getD ∅

def holder (h : HolderId) : Option HolderRecord := r.holders.get r.now h

/-- A write that leaves the expiry of the key as it is. -/
def touch (f : SortedSet LeaseId → SortedSet LeaseId) (k : Scope) : LeaseRedis :=
  { r with scopes := r.scopes.update r.now k f }

/-- A write followed by `PEXPIRE`. -/
def extend (f : SortedSet LeaseId → SortedSet LeaseId) (ttl : Nat) (k : Scope) :
    LeaseRedis :=
  { r with scopes := r.scopes.set k (f (r.members k)) (r.now + ttl) }

/-- `elapsed` milliseconds later. -/
def after (elapsed : Nat) : LeaseRedis := { r with now := r.now + elapsed }

/-- The holder key still names this lease. -/
def names (l : ConcurrencyLease) : Bool :=
  (r.holder l.holderId).any (·.leaseId == l.leaseId)

/-! ## Acquire -/

/-- The expired members of every scope are dropped. -/
def prune (keys : List Scope) : LeaseRedis :=
  keys.foldl (fun r k => r.touch (·.removeUpTo r.now) k) r

/-- How many that were. -/
def stale (keys : List Scope) : Nat :=
  keys.foldr (fun k n => (r.members k).card - (r.members k).above r.now + n) 0

/-- The slot is taken in every scope. -/
def take (st : LeaseStore) (l : ConcurrencyLease) (workerId : String) :
    LeaseRedis :=
  let s := l.scopeKeys.foldl
    (fun s k => s.extend (·.add l.leaseId (s.now + st.ttlMs)) st.ttlMs k) r
  let record : HolderRecord :=
    { leaseId := l.leaseId, expires := s.now + st.ttlMs, acquiredAt := s.now,
      acquiredBy := workerId }
  { s with holders := s.holders.set l.holderId record (s.now + st.ttlMs) }

/-- `_ACQUIRE_LUA`, and the outcome `acquire` makes of its reply. -/
def acquire (st : LeaseStore) (l : ConcurrencyLease) (workerId : String) :
    LeaseRedis × AcquireOutcome :=
  let reclaimed := r.stale l.scopeKeys
  let r := r.prune l.scopeKeys
  if (r.holder l.holderId).any fun h => decide (r.now < h.expires) then
    (r, ⟨none, some .duplicateLease, reclaimed⟩)
  else
    match l.scopeKeys.find? fun k => decide (st.limit k ≤ (r.members k).card) with
    | some k => (r, ⟨none, some k.reason, reclaimed⟩)
    | none => (r.take st l workerId, ⟨some l, none, reclaimed⟩)

/-! ## Renew and release -/

/-- Every scope still holds the lease, unexpired. -/
def holds (l : ConcurrencyLease) : Bool :=
  l.scopeKeys.all fun k =>
    ((r.members k).score l.leaseId).any fun x => decide (r.now < x)

/-- `_RENEW_LUA` -/
def renew (st : LeaseStore) (l : ConcurrencyLease) : LeaseRedis × Bool :=
  if r.holds l then
    let s := l.scopeKeys.foldl (fun s k =>
      s.extend (·.addExisting l.leaseId (s.now + st.ttlMs)) st.ttlMs k) r
    match s.holder l.holderId with
    | some h =>
        if h.leaseId = l.leaseId then
          let record := { h with expires := s.now + st.ttlMs }
          ({ s with
            holders := s.holders.set l.holderId record (s.now + st.ttlMs) },
            true)
        else (s, true)
    | none => (s, true)
  else (r, false)

/-- `_RELEASE_LUA`; whether some scope still held the lease. -/
def release (l : ConcurrencyLease) : LeaseRedis × Bool :=
  let removed := l.scopeKeys.any fun k =>
    ((r.members k).score l.leaseId).isSome
  let s := l.scopeKeys.foldl (fun s k => s.touch (·.remove l.leaseId) k) r
  (if s.names l then { s with holders := s.holders.del l.holderId } else s,
    removed)

end LeaseRedis

/-! ## The system -/

/-- Redis, and every lease id a worker has drawn so far with the handle it
was drawn for. Ids are random tokens: no two are equal. -/
structure LeaseSystem where
  redis : LeaseRedis
  issued : Table LeaseId ConcurrencyLease := ∅

/-- What the workers ask of Redis, and the passing of its time. A handle is
presented by whoever has it, any number of times, and a worker that crashes
presents it no more. -/
inductive LeaseAct where
  | acquire (lease : ConcurrencyLease) (workerId : String)
  /-- The id was drawn, but the script never ran. -/
  | lost (lease : ConcurrencyLease)
  | renew (id : LeaseId)
  | release (id : LeaseId)
  | tick (elapsed : Nat)

def leaseStep (st : LeaseStore) (s : LeaseSystem) : LeaseAct → Option LeaseSystem
  | .acquire l workerId =>
      if (AList.lookup l.leaseId s.issued).isNone then
        some { redis := (s.redis.acquire st l workerId).1
               issued := AList.insert l.leaseId l s.issued }
      else none
  | .lost l =>
      if (AList.lookup l.leaseId s.issued).isNone then
        some { s with issued := AList.insert l.leaseId l s.issued }
      else none
  | .renew id =>
      (AList.lookup id s.issued).map fun l =>
        { s with redis := (s.redis.renew st l).1 }
  | .release id =>
      (AList.lookup id s.issued).map fun l =>
        { s with redis := (s.redis.release l).1 }
  | .tick d => some { s with redis := s.redis.after d }

/-- No lease yet. -/
def LeaseSystem.fresh (now : Nat) : LeaseSystem := { redis := { now } }

end CallingAgent
