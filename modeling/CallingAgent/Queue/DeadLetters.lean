import CallingAgent.Model.Database
import CallingAgent.Queue.StreamSafety

/-!
# Dead letters — what the worker records of them

`handle_dead_letters` takes the letters its queue object has moved since the
last call and records each in a transaction of its own: an audit row, and
the contact parked. A letter that cannot be recorded is logged and dropped.
-/

namespace CallingAgent

open Lib

/-! ## Recording -/

/-- The `metadata` of the audit row. -/
structure LetterMetadata where
  reason : String
  messageId : MessageId
  timesDelivered : Nat
  dlqStream : String
  attemptNumber : Option Json := none
  previousStatus : Option ContactStatus := none

/-- An audit row of `_record_dead_letter`. -/
structure LetterAudit where
  actor : String
  action : String
  entityType : String
  entityId : Option ContactId
  metadata : LetterMetadata

/-- The database of the recording, and the audit rows it has written. -/
structure LetterStore where
  db : Db
  audits : List LetterAudit := []

/-- What the recording uses besides the database. -/
structure LetterEnv where
  uuid : UuidModule
  /-- the values a `JSONB` column takes: some escapes and numbers that
  `json` knows are refused -/
  storable : Json → Bool
  queueStreamKey : String

/-- `DLQ_ACTOR` -/
def dlqActor : String := "dead-letter-handler"

/-- `DLQ_AUDIT_ACTION` -/
def dlqAuditAction : String := "queue.dead_lettered"

/-- `_PARKABLE` -/
def ContactStatus.parkable : ContactStatus → Bool
  | .pending | .retryScheduled => true
  | _ => false

/-- Never dialed, never enqueued again, and nothing left to rebuild. -/
def Contact.park (c : Contact) : Contact :=
  { c.clearSchedule with status := .needsReview }

section Record

variable (env : LetterEnv)

/-- `queue_dlq_key` -/
def queueDlqKey : String := env.queueStreamKey ++ ":dlq"

/-- `uuid.UUID(job.contact_id)`; `none` when it raises, as it does for
whatever is not a text. -/
def UntypedJob.contactUuid (job : UntypedJob) : Option ContactId :=
  match job.contactId with
  | .string text => env.uuid.parse text
  | _ => none

def DeadLetter.metadata (l : DeadLetter) : LetterMetadata where
  reason := l.reason.value
  messageId := l.messageId
  timesDelivered := l.timesDelivered
  dlqStream := queueDlqKey env

/-- The audit row of a letter about `entity`, a contact and its status. -/
def DeadLetter.audit (l : DeadLetter)
    (entity : Option (ContactId × ContactStatus)) : LetterAudit where
  actor := dlqActor
  action := dlqAuditAction
  entityType := if entity.isSome then "contact" else "queue_message"
  entityId := entity.map (·.1)
  metadata :=
    { l.metadata env with
      attemptNumber := l.job.map (·.attemptNumber)
      previousStatus := entity.map (·.2) }

/-- `_record_dead_letter`; `none` when it raises. -/
def recordLetter (store : LetterStore) (l : DeadLetter) :
    Option LetterStore :=
  match l.job with
  | none => some { store with audits := l.audit env none :: store.audits }
  | some job =>
      (job.contactUuid env).bind fun id =>
        -- the row is refused when it is flushed
        if env.storable job.attemptNumber then
          match store.db.contact id with
          | none =>
              some { store with audits := l.audit env none :: store.audits }
          | some c =>
              some {
                db := if c.status.parkable then
                    store.db.modifyContact id Contact.park else store.db
                audits := l.audit env (some (id, c.status)) :: store.audits }
        else none

/-- One turn of the loop: committed, or rolled back and logged. -/
def recordOrRollBack (store : LetterStore) (l : DeadLetter) : LetterStore :=
  (recordLetter env store l).getD store

/-- `handle_dead_letters` over the letters it has drained. -/
def handleDeadLetters (store : LetterStore) (letters : List DeadLetter) :
    LetterStore :=
  letters.foldl (recordOrRollBack env) store

/-- The letter names an existing contact. -/
def DeadLetter.names (l : DeadLetter) (id : ContactId) : Prop :=
  ∃ job, l.job = some job ∧ job.contactUuid env = some id

/-- What is to come of a dead letter: one audit row, and its contact
parked. -/
structure Recorded (before : LetterStore) (l : DeadLetter)
    (after : LetterStore) : Prop where
  audited : ∃ row, after.audits = row :: before.audits ∧
    row.action = dlqAuditAction ∧ row.metadata.messageId = l.messageId
  parked : ∀ id c, l.names env id → before.db.contact id = some c →
    c.status.parkable = true → after.db.contact id = some c.park

/-- The contact id of the job is one, and its attempt number can be
stored. -/
def UntypedJob.recordable (job : UntypedJob) : Bool :=
  (job.contactUuid env).isSome && env.storable job.attemptNumber

/-- The payload is no job at all, or a job that can be recorded. -/
def recordablePayload (json : JsonModule) (raw : String) : Bool :=
  match parse json raw with
  | .job job => job.recordable env
  | .unreadable | .raised => true

variable {env}

theorem recordLetter_isSome {store : LetterStore} {l : DeadLetter} :
    (recordLetter env store l).isSome = l.job.all (·.recordable env) := by
  unfold recordLetter UntypedJob.recordable
  cases l.job with
  | none => rfl
  | some job =>
      dsimp only [Option.all_some]
      cases job.contactUuid env with
      | none => rfl
      | some id =>
          cases env.storable job.attemptNumber with
          | false => rfl
          | true =>
              dsimp only [Option.bind_some]
              cases store.db.contact id <;> rfl

theorem recordLetter_recorded {store store' : LetterStore} {l : DeadLetter}
    (h : recordLetter env store l = some store') :
    Recorded env store l store' := by
  unfold recordLetter at h
  cases hjob : l.job with
  | none =>
      rw [hjob] at h
      cases h
      refine ⟨⟨_, rfl, rfl, rfl⟩, fun id c hn => ?_⟩
      obtain ⟨job, hj, -⟩ := hn
      rw [hjob] at hj
      cases hj
  | some job =>
      rw [hjob] at h
      obtain ⟨id, hid, h⟩ := Option.bind_eq_some_iff.mp h
      have hnamed : ∀ id', l.names env id' → id' = id := by
        rintro id' ⟨job', hj, hid'⟩
        rw [hjob] at hj
        cases hj
        rw [hid] at hid'
        exact (Option.some.inj hid').symm
      split at h
      · cases hc : store.db.contact id with
        | none =>
            rw [hc] at h
            cases h
            refine ⟨⟨_, rfl, rfl, rfl⟩, fun id' c hn hc' => ?_⟩
            rw [hnamed id' hn, hc] at hc'
            cases hc'
        | some c =>
            rw [hc] at h
            cases h
            refine ⟨⟨_, rfl, rfl, rfl⟩, fun id' c' hn hc' hpark => ?_⟩
            rw [hnamed id' hn, hc] at hc'
            cases hc'
            rw [hnamed id' hn]
            dsimp only
            rw [if_pos hpark, Db.contact_modifyContact, if_pos rfl, hc]
            rfl
      · cases h

/-- **A letter is recorded exactly when it can be.** -/
theorem recorded_iff {store : LetterStore} {l : DeadLetter} :
    Recorded env store l (recordOrRollBack env store l)
      ↔ l.job.all (·.recordable env) = true := by
  rw [← @recordLetter_isSome env store]
  unfold recordOrRollBack
  cases h : recordLetter env store l with
  | none =>
      -- rolled back: there is no new row
      refine ⟨fun hrec => ?_, fun hsome => nomatch hsome⟩
      obtain ⟨row, hrow, -⟩ := hrec.audited
      exact absurd (congrArg List.length hrow) (Nat.ne_of_lt (Nat.lt_succ_self _))
  | some store' =>
      exact ⟨fun _ => rfl, fun _ => recordLetter_recorded h⟩

/-- The turn of a letter starts from what the turns before it left. -/
theorem handleDeadLetters_append (store : LetterStore)
    (before : List DeadLetter) (l : DeadLetter) :
    handleDeadLetters env store (before ++ [l])
      = recordOrRollBack env (handleDeadLetters env store before) l := by
  simp [handleDeadLetters]

end Record

end CallingAgent
