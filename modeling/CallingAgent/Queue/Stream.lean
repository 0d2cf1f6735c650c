import CallingAgent.Lib.ConsumerGroup
import CallingAgent.Lib.Run
import CallingAgent.Lib.SortedSet
import CallingAgent.Model.Redis
import CallingAgent.Model.Settings
import CallingAgent.Queue.Payload

/-!
# The dial stream — commands of the queue on Redis

`RedisStreamQueue` reads through one consumer group. Adding a job with its
guard is one script, acknowledging and dead-lettering one transaction each;
`read_one` and `reclaim_stale` are several commands, and their worker may
crash between any two of them.
-/

namespace CallingAgent

open Lib

abbrev ConsumerName := String
abbrev GuardKey := String

/-! ## Dead letters -/

inductive DeadLetterReason where
  | malformedPayload
  | maxDeliveriesExceeded
  deriving DecidableEq, Repr

def DeadLetterReason.value : DeadLetterReason → String
  | .malformedPayload => "malformed_payload"
  | .maxDeliveriesExceeded => "max_deliveries_exceeded"

/-- `DeadLetter` -/
structure DeadLetter where
  messageId : MessageId
  reason : DeadLetterReason
  raw : String
  timesDelivered : Nat
  job : Option UntypedJob

/-- An entry of the dead-letter stream. -/
structure DeadEntry where
  job : String
  reason : DeadLetterReason
  originalId : MessageId
  timesDelivered : Nat
  deadAt : Nat

/-! ## Redis -/

/-- The stream with its group, the dead-letter stream and the guards; the
clock is in milliseconds. -/
structure StreamRedis where
  now : Nat
  stream : GroupStream ConsumerName String := {}
  dlq : List DeadEntry := []
  guards : Keyspace GuardKey Unit := ∅

/-- What the script of `enqueue_once` answers; `failed` is the error of its
last command. -/
inductive EnqueueReply where
  | queued
  | guarded
  | backlogFull
  | failed
  deriving DecidableEq, Repr

/-- The job was added. -/
def EnqueueReply.adds : EnqueueReply → Bool
  | .queued | .failed => true
  | .guarded | .backlogFull => false

/-- `_HOLD_CONSUMER` -/
def holdConsumer : ConsumerName := "hold-reset"

/-- `SET … EX` refuses an expiry that is not positive or overflows. -/
def validExpiry (now : Nat) (ttlSeconds : Int) : Bool :=
  decide (0 < ttlSeconds)
    && decide (ttlSeconds * 1000 + now ≤ 9223372036854775807)

namespace StreamRedis

variable (r : StreamRedis)

/-- A guard that has not expired. -/
def guarded (k : GuardKey) : Bool := (r.guards.get r.now k).isSome

/-- `enqueue` -/
def enqueue (payload : String) : StreamRedis :=
  { r with stream := r.stream.add payload }

/-- `_ENQUEUE_ONCE_LUA`: a script does not roll back, so the job is added
before its guard is set. -/
def enqueueOnce (settings : Settings) (payload : String) (guardKey : GuardKey)
    (ttlSeconds : Int) : StreamRedis × EnqueueReply :=
  if r.guarded guardKey then (r, .guarded)
  else if settings.queueMaxBacklog ≤ r.stream.length then (r, .backlogFull)
  else
    let r := r.enqueue payload
    if validExpiry r.now ttlSeconds then
      ({ r with
        guards := r.guards.set guardKey () (r.now + 1000 * ttlSeconds.toNat) },
        .queued)
    else (r, .failed)

/-- `ack`: one transaction. -/
def ack (m : MessageId) : StreamRedis := { r with stream := r.stream.settle m }

/-- `reset_deliveries` -/
def resetDeliveries (m : MessageId) : StreamRedis :=
  { r with stream := r.stream.setTimes holdConsumer r.now m 0 }

/-- The transaction of `_dead_letter`. -/
def deadLetter (l : DeadLetter) : StreamRedis :=
  { r with
    dlq := r.dlq ++ [{ job := l.raw, reason := l.reason,
                       originalId := l.messageId,
                       timesDelivered := l.timesDelivered, deadAt := r.now }]
    stream := r.stream.settle l.messageId }

end StreamRedis

/-! ## A worker -/

/-- Where a worker is inside a call of the queue. -/
inductive Doing where
  | idle
  /-- `read_one`, about to read -/
  | reading
  /-- `read_one`, about to move what it could not read -/
  | discarding (letter : DeadLetter)
  /-- `reclaim_stale`, about to claim -/
  | claiming (idleMs count : Nat)
  /-- `reclaim_stale`, about to ask for the deliveries of the next message -/
  | examining (batch : List (MessageId × String))
      (ready : List (MessageId × UntypedJob))
  /-- `reclaim_stale`, about to move a message -/
  | condemning (letter : DeadLetter) (batch : List (MessageId × String))
      (ready : List (MessageId × UntypedJob))

/-- Back at the head of the loop over the claimed messages; `none` when it
is over. -/
def Doing.proceed (ready : List (MessageId × UntypedJob)) :
    List (MessageId × String) → Option Doing
  | [] => none
  | x :: batch => some (.examining (x :: batch) ready)

/-- A worker with its queue object. -/
structure StreamWorker where
  doing : Doing := .idle
  /-- the messages that were gone when the present call began -/
  called : List MessageId := []
  /-- `_dead_letters` -/
  deadLetters : List DeadLetter := []

/-- What a call returned. -/
structure Returned where
  called : List MessageId
  messages : List (MessageId × UntypedJob)

/-! ## The system -/

/-- Redis and the workers, with the history the results are about: what was
added, under which guard, what a caller acknowledged, and what the calls
returned. -/
structure StreamSystem where
  redis : StreamRedis
  workers : Table ConsumerName StreamWorker := ∅
  added : List (MessageId × String) := []
  addedOnce : List (GuardKey × MessageId × String) := []
  acked : List MessageId := []
  returned : List Returned := []

inductive StreamAct where
  | enqueue (payload : String)
  | enqueueOnce (payload : String) (guardKey : GuardKey) (ttlSeconds : Int)
  /-- a caller deletes the guard -/
  | deleteGuard (guardKey : GuardKey)
  | ack (id : MessageId)
  | resetDeliveries (id : MessageId)
  /-- a call begins -/
  | readOne (c : ConsumerName)
  | reclaimStale (c : ConsumerName) (idleMs count : Nat)
  /-- the next command of the present call -/
  | command (c : ConsumerName)
  | crash (c : ConsumerName)
  | tick (elapsed : Nat)

namespace StreamSystem

variable (s : StreamSystem)

def worker (c : ConsumerName) : StreamWorker :=
  (AList.lookup c s.workers).getD {}

/-- Acknowledged or dead-lettered. -/
def gone : List MessageId := s.acked ++ s.redis.dlq.map (·.originalId)

def setWorker (c : ConsumerName) (w : StreamWorker) : StreamSystem :=
  { s with workers := AList.insert c w s.workers }

def setDoing (c : ConsumerName) (d : Doing) : StreamSystem :=
  s.setWorker c { s.worker c with doing := d }

/-- The call returns. -/
def answer (c : ConsumerName) (messages : List (MessageId × UntypedJob)) :
    StreamSystem :=
  { s.setDoing c .idle with
    returned := ⟨(s.worker c).called, messages⟩ :: s.returned }

/-- A call begins, unless one is under way. -/
def begin (c : ConsumerName) (d : Doing) : Option StreamSystem :=
  match (s.worker c).doing with
  | .idle => some (s.setWorker c { s.worker c with doing := d, called := s.gone })
  | _ => none

def setStream (stream : GroupStream ConsumerName String) : StreamSystem :=
  { s with redis := { s.redis with stream := stream } }

/-- The history of an addition. -/
def logAdded (payload : String) : StreamSystem :=
  { s with added := (s.redis.stream.lastId + 1, payload) :: s.added }

def enqueue (payload : String) : StreamSystem :=
  { s.logAdded payload with redis := s.redis.enqueue payload }

def enqueueOnce (settings : Settings) (payload : String) (guardKey : GuardKey)
    (ttlSeconds : Int) : StreamSystem :=
  let answer := s.redis.enqueueOnce settings payload guardKey ttlSeconds
  if answer.2.adds then
    { s.logAdded payload with
      redis := answer.1
      addedOnce :=
        (guardKey, s.redis.stream.lastId + 1, payload) :: s.addedOnce }
  else { s with redis := answer.1 }

def ack (m : MessageId) : StreamSystem :=
  { s with
    redis := s.redis.ack m
    acked := if (AList.lookup m s.redis.stream.entries).isSome then m :: s.acked
      else s.acked }

/-- `_dead_letter`, whose letter stays with the worker. -/
def deadLetter (c : ConsumerName) (l : DeadLetter) : StreamSystem :=
  { s with redis := s.redis.deadLetter l }.setWorker c
    { s.worker c with deadLetters := (s.worker c).deadLetters ++ [l] }

/-- The loop of `reclaim_stale` goes on, or returns. -/
def proceed (c : ConsumerName) (batch : List (MessageId × String))
    (ready : List (MessageId × UntypedJob)) : StreamSystem :=
  match Doing.proceed ready batch with
  | some d => s.setDoing c d
  | none => s.answer c ready

/-- One message of `reclaim_stale`. -/
def examine (settings : Settings) (json : JsonModule) (c : ConsumerName)
    (m : MessageId) (raw : String) (batch : List (MessageId × String))
    (ready : List (MessageId × UntypedJob)) : StreamSystem :=
  let delivered := (s.redis.stream.times m).getD 1
  match parse json raw with
  | .raised => s.setDoing c .idle
  | .unreadable =>
      s.setDoing c (.condemning
        ⟨m, .malformedPayload, raw, delivered, none⟩ batch ready)
  | .job job =>
      if settings.queueMaxDeliveries < delivered then
        s.setDoing c (.condemning
          ⟨m, .maxDeliveriesExceeded, raw, delivered, some job⟩ batch ready)
      else s.proceed c batch (ready ++ [(m, job)])

/-- What `read_one` does with its answer from Redis. -/
def received (json : JsonModule) (c : ConsumerName) :
    Option (MessageId × String) → StreamSystem
  | none => s.answer c []
  | some (m, raw) =>
      match parse json raw with
      | .raised => s.setDoing c .idle
      | .unreadable =>
          s.setDoing c (.discarding ⟨m, .malformedPayload, raw, 1, none⟩)
      | .job job => s.answer c [(m, job)]

/-- The next command of a worker. -/
def command (settings : Settings) (json : JsonModule) (c : ConsumerName) :
    Option StreamSystem :=
  match (s.worker c).doing with
  | .idle => none
  | .reading =>
      let read := s.redis.stream.readNew c s.redis.now
      some ((s.setStream read.1).received json c read.2)
  | .discarding l => some ((s.deadLetter c l).setDoing c .reading)
  | .claiming idleMs count =>
      let claim := s.redis.stream.autoclaim c s.redis.now idleMs count
      some ((s.setStream claim.1).proceed c claim.2 [])
  | .examining [] ready => some (s.answer c ready)
  | .examining ((m, raw) :: batch) ready =>
      some (s.examine settings json c m raw batch ready)
  | .condemning l batch ready =>
      some ((s.deadLetter c l).proceed c batch ready)

end StreamSystem

def streamStep (settings : Settings) (json : JsonModule) (s : StreamSystem) :
    StreamAct → Option StreamSystem
  | .enqueue payload => some (s.enqueue payload)
  | .enqueueOnce payload k ttl => some (s.enqueueOnce settings payload k ttl)
  | .deleteGuard k =>
      some { s with redis := { s.redis with guards := s.redis.guards.del k } }
  | .ack m => some (s.ack m)
  | .resetDeliveries m => some { s with redis := s.redis.resetDeliveries m }
  | .readOne c => s.begin c .reading
  | .reclaimStale c idleMs count => s.begin c (.claiming idleMs count)
  | .command c => s.command settings json c
  -- the process is gone, with everything it had in memory
  | .crash c => some (s.setWorker c {})
  | .tick d => some { s with redis := { s.redis with now := s.redis.now + d } }

/-- Nothing was added yet. -/
def StreamSystem.fresh (now : Nat) : StreamSystem := { redis := { now } }

end CallingAgent
