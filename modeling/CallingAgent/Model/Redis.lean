import CallingAgent.Model.Records
import CallingAgent.Lib.Table

/-!
# Redis — the dial stream, its guards and the recovery schedule

The stream holds the jobs that are unread or in flight, under their
message ids; an acknowledged message is deleted. Everything here can be
lost in a flush; PostgreSQL is the record.
-/

namespace CallingAgent

open Lib

abbrev MessageId := Nat

/-- How Redis answers a command. -/
inductive RedisReply where
  | answered
  /-- the command did not reach Redis -/
  | refused
  /-- the command was executed and its answer lost -/
  | lost
  deriving DecidableEq

structure Redis where
  stream : Table MessageId DialJob := ∅
  /-- the last id given out; ids are never used twice -/
  lastMessageId : MessageId := 0
  /-- `enqueued:{idempotency_key}` -/
  guards : List IdempotencyKey := []
  /-- `recovery:scheduled`: members and their due times -/
  schedule : List (ScheduleEntry × Instant) := []

namespace Redis

variable (r : Redis)

/-- What `enqueue_once` answers; a full backlog is an exception of its
caller's. -/
inductive Enqueued where
  | queued
  | guarded
  | backlogFull
  deriving DecidableEq, Repr

/-- `RedisStreamQueue.enqueue_once`: the job and its guard in one step. -/
def enqueueOnce (maxBacklog : Nat) (job : DialJob) : Redis × Enqueued :=
  if job.idempotencyKey ∈ r.guards then (r, .guarded)
  else if r.stream.entries.length ≥ maxBacklog then (r, .backlogFull)
  else ({ r with
      stream := AList.insert (r.lastMessageId + 1) job r.stream
      lastMessageId := r.lastMessageId + 1
      guards := job.idempotencyKey :: r.guards }, .queued)

/-- `RedisStreamQueue.ack`: acknowledged and deleted. -/
def ack (m : MessageId) : Redis :=
  { r with stream := AList.erase m r.stream }

/-- `DEL enqueued:{key}`; also how a guard expires. -/
def deleteGuard (k : IdempotencyKey) : Redis :=
  { r with guards := r.guards.filter (· ≠ k) }

/-- `ZADD`: a new member, or a new score for the same one. -/
def schedulePut (e : ScheduleEntry) (due : Instant) : Redis :=
  { r with schedule := (e, due) :: r.schedule.filter fun x => x.1 ≠ e }

/-- `ZADD NX` -/
def scheduleAddMissing (e : ScheduleEntry) (due : Instant) : Redis :=
  if r.schedule.any fun x => x.1 = e then r
  else { r with schedule := (e, due) :: r.schedule }

/-- `ZREM`: the claim of a due entry. -/
def scheduleClaim (e : ScheduleEntry) : Redis :=
  { r with schedule := r.schedule.filter fun x => x.1 ≠ e }

/-- What the recovery manager added to the schedule. -/
def scheduleRetry : Option (RecoveryJob × Instant) → Redis
  | none => r
  | some (job, due) => r.schedulePut (.retry job) due

end Redis

end CallingAgent
