import CallingAgent.Queue.JobText
import Mathlib.Data.List.Sort
import Mathlib.Data.List.Forall2

/-!
# Schedule texts — the members of the recovery schedule as they are stored

A member of the schedule is a text: the canonical JSON of a retry without
its times, or of a deferred dial with a mark. Redis compares the texts. Here
is that two entries have one text only if they are the same entry, that the
dispatcher reads back the entry a text was written for, and that the
scheduler on texts and the scheduler on entries go on alike.
-/

namespace CallingAgent

open Lib

/-! ## Retries -/

/-- `RecoveryJob` as `from_json` makes it. -/
structure UntypedRecoveryJob where
  jobId : Json
  attemptId : Json
  contactId : Json
  campaignId : Json
  attemptNumber : Json
  recoveryType : Json
  idempotencyKey : Json
  scheduledAt : Json
  traceId : Json

namespace UntypedRecoveryJob

def fieldNames : List String :=
  ["job_id", "attempt_id", "contact_id", "campaign_id", "attempt_number",
   "recovery_type", "idempotency_key", "scheduled_at", "trace_id"]

/-- `cls(**fields)`; `none` is the `TypeError` of an unexpected or missing
argument. -/
def ofFields (fields : List (String × Json)) : Option UntypedRecoveryJob :=
  if fields.all fun f => fieldNames.contains f.1 then do
    return {
      jobId := ← fields.lookup "job_id"
      attemptId := ← fields.lookup "attempt_id"
      contactId := ← fields.lookup "contact_id"
      campaignId := ← fields.lookup "campaign_id"
      attemptNumber := ← fields.lookup "attempt_number"
      recoveryType := ← fields.lookup "recovery_type"
      idempotencyKey := ← fields.lookup "idempotency_key"
      scheduledAt := ← fields.lookup "scheduled_at"
      traceId := ← fields.lookup "trace_id" }
  else none

end UntypedRecoveryJob

namespace Wire

/-- `RecoveryJob` -/
structure RecoveryJob where
  jobId : String
  attemptId : String
  contactId : String
  campaignId : String
  attemptNumber : Nat
  recoveryType : String
  idempotencyKey : String
  scheduledAt : String
  traceId : String

namespace RecoveryJob

variable (j : RecoveryJob)

/-- `{**asdict(self), "scheduled_at": ""}` -/
def timeless : JobFields :=
  [("job_id", .text j.jobId), ("attempt_id", .text j.attemptId),
   ("contact_id", .text j.contactId), ("campaign_id", .text j.campaignId),
   ("attempt_number", .int j.attemptNumber),
   ("recovery_type", .text j.recoveryType),
   ("idempotency_key", .text j.idempotencyKey), ("scheduled_at", .text ""),
   ("trace_id", .text j.traceId)]

/-- `to_json`: sorted, and without the time. -/
def toJson : Option String := j.timeless.dumpsSorted

/-- What `from_json` makes of the job's own fields. -/
def untyped : UntypedRecoveryJob where
  jobId := .string j.jobId
  attemptId := .string j.attemptId
  contactId := .string j.contactId
  campaignId := .string j.campaignId
  attemptNumber := (FieldValue.int j.attemptNumber).decoded
  recoveryType := .string j.recoveryType
  idempotencyKey := .string j.idempotencyKey
  scheduledAt := .string ""
  traceId := .string j.traceId

end RecoveryJob

/-- `DIAL_JOB_KIND` -/
def dialJobKind : String := "dial_job"

/-- `{"kind": DIAL_JOB_KIND, **asdict(job)}` -/
def DialJob.marked (j : DialJob) : JobFields :=
  ("kind", .text dialJobKind) :: j.asdict

/-- The member `schedule_dial` adds. -/
def DialJob.scheduledText (j : DialJob) : Option String := j.marked.dumpsSorted

end Wire

/-! ## The dispatcher's reading -/

inductive ScheduledJob where
  | dial (job : UntypedJob)
  | retry (job : UntypedRecoveryJob)

/-- `payload.get("kind") == DIAL_JOB_KIND` -/
def hasDialKind (fields : List (String × Json)) : Bool :=
  match fields.lookup "kind" with
  | some (.string kind) => kind == Wire.dialJobKind
  | _ => false

/-- What the loop of `dispatch_due_recovery_jobs` makes of a member it has
claimed; `none` where anything raises. -/
def readMember (json : JsonModule) (member : String) : Option ScheduledJob :=
  match json.loads member with
  | .ok (.object fields) =>
      if hasDialKind fields then
        (UntypedJob.ofFields (fields.filter fun f => f.1 != "kind")).map .dial
      else (UntypedRecoveryJob.ofFields fields).map .retry
  | _ => none

/-! ## Fields in any order -/

section

variable {fields fields' : List (String × Json)}

/-- The order of the fields of an object does not matter. -/
theorem lookup_perm (h : fields.Perm fields')
    (hn : (fields.map (·.1)).Nodup) (key : String) :
    fields.lookup key = fields'.lookup key := by
  induction h with
  | nil => rfl
  | cons x _ ih =>
      rw [List.map_cons, List.nodup_cons] at hn
      rw [List.lookup_cons, List.lookup_cons, ih hn.2]
  | swap x y _ =>
      obtain ⟨kx, vx⟩ := x
      obtain ⟨ky, vy⟩ := y
      simp only [List.map_cons, List.nodup_cons, List.mem_cons, not_or] at hn
      by_cases hx : key = kx
      · have hy : key ≠ ky := fun hy => hn.1.1 (hy ▸ hx)
        simp [List.lookup_cons, hx, beq_false_of_ne (hx ▸ hy)]
      · simp [List.lookup_cons, beq_false_of_ne hx]
  | trans h _ ih ih' => exact (ih hn).trans (ih' ((h.map _).nodup hn))

theorem all_perm (h : fields.Perm fields') (p : String × Json → Bool) :
    fields.all p = fields'.all p := by
  rw [Bool.eq_iff_iff, List.all_eq_true, List.all_eq_true]
  exact ⟨fun hp x hx => hp x (h.mem_iff.mpr hx),
    fun hp x hx => hp x (h.mem_iff.mp hx)⟩

theorem UntypedRecoveryJob.ofFields_perm (h : fields.Perm fields')
    (hn : (fields.map (·.1)).Nodup) : ofFields fields = ofFields fields' := by
  simp only [ofFields, all_perm h, lookup_perm h hn]

theorem UntypedJob.ofFields_perm (h : fields.Perm fields')
    (hn : (fields.map (·.1)).Nodup) : ofFields fields = ofFields fields' := by
  simp only [ofFields, all_perm h, lookup_perm h hn]

theorem hasDialKind_perm (h : fields.Perm fields')
    (hn : (fields.map (·.1)).Nodup) :
    hasDialKind fields = hasDialKind fields' := by
  simp only [hasDialKind, lookup_perm h hn]

end

/-- Sorted fields are read as the same fields in some order. -/
theorem loads_dumpsSorted {limit : Nat} {fields : JobFields} {text : String}
    (hlimit : 0 < limit) (hn : (fields.map (·.1)).Nodup)
    (h : fields.dumpsSorted = some text) :
    ∃ read, (jsonModule limit).loads text = .ok (.object read) ∧
      read.Perm (fields.map fun f => (f.1, f.2.decoded)) ∧
      (read.map (·.1)).Nodup := by
  have hperm : (List.insertionSort (fun a b => a.1 ≤ b.1) fields).Perm fields :=
    List.perm_insertionSort _ _
  have hsorted := ((hperm.map Prod.fst).nodup_iff).mpr hn
  refine ⟨_, loads_dumps hlimit hsorted h, hperm.map _, ?_⟩
  simpa [List.map_map, Function.comp_def] using hsorted

section

variable {limit : Nat} {text : String}

/-- **The dispatcher reads a retry as that retry**, without its time. -/
theorem readMember_retry {j : Wire.RecoveryJob} (hlimit : 0 < limit)
    (h : j.toJson = some text) :
    readMember (jsonModule limit) text = some (.retry j.untyped) := by
  have hkeys : (j.timeless.map (·.1)).Nodup := by
    show ["job_id", "attempt_id", "contact_id", "campaign_id",
      "attempt_number", "recovery_type", "idempotency_key", "scheduled_at",
      "trace_id"].Nodup
    decide
  obtain ⟨read, hread, hperm, hn⟩ := loads_dumpsSorted hlimit hkeys h
  have hkind : hasDialKind read = false := (hasDialKind_perm hperm hn).trans rfl
  have hjob : UntypedRecoveryJob.ofFields read = some j.untyped :=
    (UntypedRecoveryJob.ofFields_perm hperm hn).trans rfl
  simp [readMember, hread, hkind, hjob]

/-- **The dispatcher reads a deferred dial as its dial job.** -/
theorem readMember_dial {j : Wire.DialJob} (hlimit : 0 < limit)
    (h : j.scheduledText = some text) :
    readMember (jsonModule limit) text = some (.dial j.untyped) := by
  have hkeys : (j.marked.map (·.1)).Nodup := by
    show ["kind", "job_id", "campaign_id", "contact_id", "attempt_number",
      "idempotency_key", "enqueued_at", "trace_id", "recovery_type",
      "previous_attempt_id"].Nodup
    decide
  obtain ⟨read, hread, hperm, hn⟩ := loads_dumpsSorted hlimit hkeys h
  have hkind : hasDialKind read = true := (hasDialKind_perm hperm hn).trans rfl
  have hfilter := hperm.filter fun f => f.1 != "kind"
  have hjob : UntypedJob.ofFields (read.filter fun f => f.1 != "kind")
      = some j.untyped :=
    (UntypedJob.ofFields_perm hfilter (hn.sublist
      (List.filter_sublist.map _))).trans rfl
  simp [readMember, hread, hkind, hjob]

end

/-! ## The entries of the model -/

/-- The texts of identifiers and times. What a dial job is made with (its
own id, its trace and the time) is given by its id. -/
structure JobNames where
  /-- `str(·)` of the id of a row -/
  uuid : Nat → String
  /-- `str(uuid.uuid4())`, the id of a job -/
  jobId : Nat → String
  enqueuedAt : Nat → String
  traceId : Nat → String
  /-- `str(uuid.uuid5(_NS, ·))` -/
  uuid5 : String → String

/-- Different rows and different jobs have different texts, and a derived
id is no random one. -/
structure JobNames.Distinct (names : JobNames) : Prop where
  uuid : Function.Injective names.uuid
  jobId : Function.Injective names.jobId
  derived : ∀ s i, names.uuid5 s ≠ names.jobId i

section

variable (names : JobNames)

/-- `f"{campaign_id}:{contact_id}:{attempt_number}"` -/
def IdempotencyKey.text (k : IdempotencyKey) : String :=
  names.uuid k.campaignId ++ ":" ++ names.uuid k.contactId ++ ":"
    ++ String.ofList (JsonText.natLiteral k.attemptNumber)

/-- The `DialJob` object of a job. -/
def DialJob.wire (j : DialJob) : Wire.DialJob where
  jobId := names.jobId j.jobId
  campaignId := names.uuid j.campaignId
  contactId := names.uuid j.contactId
  attemptNumber := j.attemptNumber
  idempotencyKey := j.idempotencyKey.text names
  enqueuedAt := names.enqueuedAt j.jobId
  traceId := names.traceId j.jobId
  recoveryType := if j.isRecovery then some "RECONNECT" else none
  previousAttemptId := j.previousAttemptId.map names.uuid

/-- The `RecoveryJob` object of a retry, made at the given time. -/
def RecoveryJob.wire (scheduledAt : String) (j : RecoveryJob) :
    Wire.RecoveryJob where
  jobId := j.jobId.elim (names.uuid5 (j.idempotencyKey.text names ++ ":job"))
    names.jobId
  attemptId := names.uuid j.attemptId
  contactId := names.uuid j.contactId
  campaignId := names.uuid j.campaignId
  attemptNumber := j.attemptNumber
  recoveryType := "RECONNECT"
  idempotencyKey := j.idempotencyKey.text names
  scheduledAt := scheduledAt
  traceId := j.jobId.elim
    (names.uuid5 (j.idempotencyKey.text names ++ ":trace")) names.traceId

/-- The member of the schedule an entry is stored as. -/
def ScheduleEntry.member (scheduledAt : String) : ScheduleEntry → Option String
  | .retry job => (job.wire names scheduledAt).toJson
  | .dial job => (job.wire names).scheduledText

/-- What the dispatcher reads of the entry's member. -/
def ScheduleEntry.read : ScheduleEntry → ScheduledJob
  | .retry job => .retry (job.wire names "").untyped
  | .dial job => .dial (job.wire names).untyped

end

section

variable {names : JobNames} {e e' : ScheduleEntry} {m : String}

/-- When an entry was made leaves no trace in its member. -/
theorem member_timeless (scheduledAt : String) :
    e.member names scheduledAt = e.member names "" := by
  cases e with
  | retry job => rfl
  | dial job => rfl

theorem readMember_member {limit : Nat} {t : String} (hlimit : 0 < limit)
    (h : e.member names t = some m) :
    readMember (jsonModule limit) m = some (e.read names) := by
  cases e with
  | retry job => exact readMember_retry hlimit h
  | dial job => exact readMember_dial hlimit h

theorem int_decoded_injective {n n' : Nat}
    (h : (FieldValue.int n).decoded = (FieldValue.int n').decoded) : n = n' :=
  JsonText.natLiteral_injective (String.ofList_injective (Json.number.inj h))

theorem optional_decoded_injective {o o' : Option String}
    (h : (Wire.optional o).decoded = (Wire.optional o').decoded) : o = o' := by
  cases o <;> cases o' <;> simp_all [Wire.optional, FieldValue.decoded]

theorem RecoveryJob.read_injective (hn : names.Distinct)
    {job job' : RecoveryJob}
    (h : (job.wire names "").untyped = (job'.wire names "").untyped) :
    job = job' := by
  simp only [Wire.RecoveryJob.untyped, RecoveryJob.wire,
    UntypedRecoveryJob.mk.injEq, Json.string.injEq] at h
  obtain ⟨hid, hattempt, hcontact, hcampaign, hnumber, -⟩ := h
  have hattempt := hn.uuid hattempt
  have hcontact := hn.uuid hcontact
  have hcampaign := hn.uuid hcampaign
  have hnumber := int_decoded_injective hnumber
  have hid : job.jobId = job'.jobId := by
    cases hj : job.jobId with
    | none =>
        cases hj' : job'.jobId with
        | none => rfl
        | some i =>
            rw [hj, hj'] at hid
            exact absurd hid (hn.derived _ _)
    | some i =>
        cases hj' : job'.jobId with
        | none =>
            rw [hj, hj'] at hid
            exact absurd hid.symm (hn.derived _ _)
        | some i' =>
            rw [hj, hj'] at hid
            exact congrArg some (hn.jobId hid)
  cases job
  cases job'
  simp_all

theorem DialJob.read_injective (hn : names.Distinct) {job job' : DialJob}
    (h : (job.wire names).untyped = (job'.wire names).untyped) :
    job = job' := by
  simp only [Wire.DialJob.untyped, DialJob.wire, UntypedJob.mk.injEq,
    Json.string.injEq] at h
  obtain ⟨hid, hcampaign, hcontact, hnumber, -, -, -, htype, hprevious⟩ := h
  have hid := hn.jobId hid
  have hcampaign := hn.uuid hcampaign
  have hcontact := hn.uuid hcontact
  have hnumber := int_decoded_injective hnumber
  have hprevious := Option.map_injective hn.uuid
    (optional_decoded_injective hprevious)
  have htype : job.isRecovery = job'.isRecovery := by
    have hopt := optional_decoded_injective htype
    cases hr : job.isRecovery <;> cases hr' : job'.isRecovery <;>
      simp [hr, hr'] at hopt ⊢
  cases job
  cases job'
  simp_all

/-- An entry is known by what is read of it. -/
theorem ScheduleEntry.read_injective (hn : names.Distinct)
    (h : e.read names = e'.read names) : e = e' := by
  cases e with
  | retry job =>
      cases e' with
      | retry job' =>
          exact congrArg _ (RecoveryJob.read_injective hn
            (ScheduledJob.retry.inj h))
      | dial job' => cases h
  | dial job =>
      cases e' with
      | retry job' => cases h
      | dial job' =>
          exact congrArg _ (DialJob.read_injective hn (ScheduledJob.dial.inj h))

/-- **One text, one entry.** -/
theorem member_injective (hn : names.Distinct) {t t' : String}
    (h : e.member names t = some m) (h' : e'.member names t' = some m) :
    e = e' := by
  have hread := readMember_member Nat.one_pos h
  rw [readMember_member Nat.one_pos h'] at hread
  exact (ScheduleEntry.read_injective hn (Option.some.inj hread)).symm

end

/-! ## The scheduler on entries and on texts -/

/-- The operations of `RecoveryScheduler`; an entry that is put is made at
the given time. -/
inductive SchedulerOp where
  /-- `schedule`, `schedule_dial`, `reschedule` -/
  | put (e : ScheduleEntry) (due : Instant) (scheduledAt : String)
  /-- one entry of `add_missing`, `put_back` -/
  | addMissing (e : ScheduleEntry) (due : Instant) (scheduledAt : String)
  /-- `due_jobs` -/
  | dueJobs (now : Instant) (limit : Nat)
  /-- `claim` -/
  | claim (e : ScheduleEntry)

/-- What an operation answers. -/
inductive SchedulerAnswer (α : Type) where
  /-- whether the entry was added, or removed -/
  | changed (b : Bool)
  | due (jobs : List α)
  deriving DecidableEq

/-- The order of a sorted set: by the score, then by the text. -/
def Earlier (x y : String × Instant) : Prop :=
  x.2 < y.2 ∨ x.2 = y.2 ∧ x.1 ≤ y.1

instance : DecidableRel Earlier := fun _ _ => inferInstanceAs (Decidable (_ ∨ _))

/-- `ZRANGEBYSCORE -inf now LIMIT 0 limit` -/
def dueTexts (z : List (String × Instant)) (now : Instant) (limit : Nat) :
    List String :=
  (((z.filter fun x => x.2 ≤ now).insertionSort Earlier).take limit).map (·.1)

/-- A scheduled entry as it is stored. -/
def storedMember (names : JobNames) (x : ScheduleEntry × Instant) :
    String × Instant :=
  ((x.1.member names "").getD "", x.2)

/-- The first `limit` entries that are due, in the order of their times;
between entries due at one time the texts decide. -/
def dueEntries (names : JobNames) (l : List (ScheduleEntry × Instant))
    (now : Instant) (limit : Nat) : List ScheduleEntry :=
  (((l.filter fun x => x.2 ≤ now).insertionSort fun x y =>
    Earlier (storedMember names x) (storedMember names y)).take limit).map (·.1)

namespace SchedulerOp

section

variable (names : JobNames)

/-- The operation on the entries of the model. -/
def onEntries (r : Redis) :
    SchedulerOp → Redis × SchedulerAnswer ScheduleEntry
  | .put e due _ =>
      (r.schedulePut e due, .changed (!r.schedule.any fun x => x.1 = e))
  | .addMissing e due _ =>
      (r.scheduleAddMissing e due, .changed (!r.schedule.any fun x => x.1 = e))
  | .dueJobs now limit => (r, .due (dueEntries names r.schedule now limit))
  | .claim e => (r.scheduleClaim e, .changed (r.schedule.any fun x => x.1 = e))

/-- `ZADD`, `ZADD NX`, `ZRANGEBYSCORE` and `ZREM` on the stored texts; `none`
where a text cannot be written. -/
def onTexts (z : List (String × Instant)) :
    SchedulerOp → Option (List (String × Instant) × SchedulerAnswer String)
  | .put e due t => (e.member names t).map fun m =>
      ((m, due) :: z.filter fun x => x.1 ≠ m,
        .changed (!z.any fun x => x.1 = m))
  | .addMissing e due t => (e.member names t).map fun m =>
      (if z.any fun x => x.1 = m then z else (m, due) :: z,
        .changed (!z.any fun x => x.1 = m))
  | .dueJobs now limit => some (z, .due (dueTexts z now limit))
  | .claim e => (e.member names "").map fun m =>
      (z.filter fun x => x.1 ≠ m, .changed (z.any fun x => x.1 = m))

/-- A sequence of operations with their answers. -/
def runEntries (r : Redis) :
    List SchedulerOp → Redis × List (SchedulerAnswer ScheduleEntry)
  | [] => (r, [])
  | op :: ops =>
      let x := op.onEntries names r
      let y := runEntries x.1 ops
      (y.1, x.2 :: y.2)

/-- The same on texts. -/
def runTexts (z : List (String × Instant)) : List SchedulerOp →
    Option (List (String × Instant) × List (SchedulerAnswer String))
  | [] => some (z, [])
  | op :: ops => do
      let x ← op.onTexts names z
      let y ← runTexts x.1 ops
      some (y.1, x.2 :: y.2)

end

end SchedulerOp

/-- The text is the entry's, and the dispatcher reads the entry of it. -/
structure ScheduleEntry.Says (names : JobNames) (limit : Nat)
    (e : ScheduleEntry) (m : String) : Prop where
  text : e.member names "" = some m
  read : readMember (jsonModule limit) m = some (e.read names)

/-- One answer about entries and about texts. -/
inductive SchedulerAnswer.Same (names : JobNames) (limit : Nat) :
    SchedulerAnswer ScheduleEntry → SchedulerAnswer String → Prop
  | changed (b : Bool) : Same names limit (.changed b) (.changed b)
  | due {es : List ScheduleEntry} {ms : List String}
      (h : List.Forall₂ (ScheduleEntry.Says names limit) es ms) :
      Same names limit (.due es) (.due ms)

/-- The stored members are the texts of the entries, with their scores. -/
def Stores (names : JobNames) :
    List (ScheduleEntry × Instant) → List (String × Instant) → Prop :=
  List.Forall₂ fun x y => x.1.member names "" = some y.1 ∧ x.2 = y.2

section

variable {names : JobNames} {e : ScheduleEntry} {m : String}
  {l : List (ScheduleEntry × Instant)} {z : List (String × Instant)}

/-- The member is the entry's own text. -/
theorem member_eq_iff (hn : names.Distinct) {e' : ScheduleEntry} {m' : String}
    (h : e.member names "" = some m) (h' : e'.member names "" = some m') :
    m' = m ↔ e' = e := by
  constructor
  · rintro rfl
    exact member_injective hn h' h
  · rintro rfl
    exact Option.some.inj (h'.symm.trans h)

/-- The member is stored if the entry is scheduled. -/
theorem Stores.any_eq (hn : names.Distinct) (he : e.member names "" = some m)
    (h : Stores names l z) :
    (z.any fun y => y.1 = m) = l.any fun x => x.1 = e := by
  induction h with
  | nil => rfl
  | cons hxy _ ih => simp only [List.any_cons, ih, member_eq_iff hn he hxy.1]

theorem Stores.filter (hn : names.Distinct) (he : e.member names "" = some m)
    (h : Stores names l z) :
    Stores names (l.filter fun x => x.1 ≠ e) (z.filter fun y => y.1 ≠ m) := by
  induction h with
  | nil => exact .nil
  | @cons x y _ _ hxy _ ih =>
      have hiff := member_eq_iff hn he hxy.1
      by_cases hx : x.1 = e
      · simpa [hx, hiff.mpr hx] using ih
      · rw [List.filter_cons_of_pos (by simpa using hx),
          List.filter_cons_of_pos (by simpa using mt hiff.mp hx)]
        exact .cons hxy ih

theorem Stores.says (h : Stores names l z) {limit : Nat} (hlimit : 0 < limit) :
    List.Forall₂ (fun x y => x.1.Says names limit y.1) l z :=
  h.imp fun _ _ hxy => ⟨hxy.1, readMember_member hlimit hxy.1⟩

/-- Every entry that is stored has a text. -/
theorem Stores.written (h : Stores names l z) :
    ∀ x ∈ l, ∃ m, x.1.member names "" = some m := by
  induction h with
  | nil => exact nofun
  | cons hxy _ ih =>
      rintro x hx
      rcases List.mem_cons.mp hx with rfl | hx
      · exact ⟨_, hxy.1⟩
      · exact ih x hx

/-- What is stored is the stored members. -/
theorem Stores.eq_map (h : Stores names l z) : z = l.map (storedMember names) := by
  induction h with
  | nil => rfl
  | @cons x y _ _ hxy _ ih =>
      obtain ⟨m, due⟩ := y
      obtain ⟨hm, hdue⟩ := hxy
      rw [List.map_cons, ← ih, storedMember, hm, hdue]
      rfl

/-- The first due texts are the texts of the first due entries. -/
theorem dueTexts_map (now : Instant) (n : Nat) :
    dueTexts (l.map (storedMember names)) now n
      = (dueEntries names l now n).map fun e => (e.member names "").getD "" := by
  have hsort : ((l.filter fun x => x.2 ≤ now).insertionSort fun x y =>
        Earlier (storedMember names x) (storedMember names y)).map
          (storedMember names)
      = ((l.map (storedMember names)).filter fun x => x.2 ≤ now).insertionSort
          Earlier := by
    rw [List.filter_map]
    exact List.map_insertionSort _ _ _ _ fun _ _ _ _ => Iff.rfl
  rw [dueTexts, dueEntries, ← hsort, ← List.map_take, List.map_map, List.map_map]
  rfl

/-- `due_jobs` answers the texts of the entries that are due first. -/
theorem Stores.due (h : Stores names l z) {limit : Nat} (hlimit : 0 < limit)
    (now : Instant) (n : Nat) :
    List.Forall₂ (ScheduleEntry.Says names limit) (dueEntries names l now n)
      (dueTexts z now n) := by
  rw [h.eq_map, dueTexts_map, List.forall₂_map_right_iff, List.forall₂_same]
  intro e he
  obtain ⟨x, hx, rfl⟩ := List.mem_map.mp he
  have hmem := List.mem_of_mem_take hx
  rw [List.mem_insertionSort] at hmem
  obtain ⟨m, hm⟩ := h.written x (List.mem_of_mem_filter hmem)
  rw [hm]
  exact ⟨hm, readMember_member hlimit hm⟩

/-- **One operation** does the same to the entries and to the texts. -/
theorem Stores.step (hn : names.Distinct) {limit : Nat} (hlimit : 0 < limit)
    {op : SchedulerOp} {r : Redis}
    {x : List (String × Instant) × SchedulerAnswer String}
    (hx : op.onTexts names z = some x) (h : Stores names r.schedule z) :
    Stores names (op.onEntries names r).1.schedule x.1 ∧
      SchedulerAnswer.Same names limit (op.onEntries names r).2 x.2 := by
  cases op with
  | put e due t =>
      obtain ⟨m, hm, rfl⟩ := Option.map_eq_some_iff.mp hx
      rw [member_timeless] at hm
      refine ⟨.cons ⟨hm, rfl⟩ (h.filter hn hm), ?_⟩
      dsimp only [SchedulerOp.onEntries]
      rw [h.any_eq hn hm]
      exact .changed _
  | addMissing e due t =>
      obtain ⟨m, hm, rfl⟩ := Option.map_eq_some_iff.mp hx
      rw [member_timeless] at hm
      have hany := h.any_eq hn hm
      dsimp only [SchedulerOp.onEntries]
      rw [hany]
      refine ⟨?_, .changed _⟩
      unfold Redis.scheduleAddMissing
      by_cases hin : (r.schedule.any fun x => x.1 = e) = true
      · rw [if_pos hin, if_pos hin]
        exact h
      · rw [if_neg hin, if_neg hin]
        exact .cons ⟨hm, rfl⟩ h
  | dueJobs now n =>
      cases hx
      exact ⟨h, .due (h.due hlimit now n)⟩
  | claim e =>
      obtain ⟨m, hm, rfl⟩ := Option.map_eq_some_iff.mp hx
      refine ⟨h.filter hn hm, ?_⟩
      dsimp only [SchedulerOp.onEntries]
      rw [h.any_eq hn hm]
      exact .changed _

/-- A sequence of operations. -/
theorem Stores.run (hn : names.Distinct) {limit : Nat} (hlimit : 0 < limit)
    {ops : List SchedulerOp} {r : Redis}
    {x : List (String × Instant) × List (SchedulerAnswer String)}
    (hx : SchedulerOp.runTexts names z ops = some x)
    (h : Stores names r.schedule z) :
    Stores names (SchedulerOp.runEntries names r ops).1.schedule x.1 ∧
      List.Forall₂ (SchedulerAnswer.Same names limit)
        (SchedulerOp.runEntries names r ops).2 x.2 := by
  induction ops generalizing r z x with
  | nil =>
      cases hx
      exact ⟨h, .nil⟩
  | cons op ops ih =>
      obtain ⟨y, hy, hrest⟩ := Option.bind_eq_some_iff.mp hx
      obtain ⟨w, hw, hpair⟩ := Option.bind_eq_some_iff.mp hrest
      cases hpair
      obtain ⟨hnext, hanswer⟩ := h.step hn hlimit hy
      obtain ⟨hstores, hanswers⟩ := ih hw hnext
      exact ⟨hstores, .cons hanswer hanswers⟩

/-- **The schedule of texts is the schedule of entries.** A text is that of
one entry only. Whatever is scheduled, deferred, put back, moved, looked up
or claimed, in any order and at any time: Redis stores exactly the texts of
the entries with their due times, every answer is the same, and the
dispatcher reads of each stored text, and of each text it is given as due,
the entry it stands for. -/
theorem schedule_on_texts (names : JobNames) (hn : names.Distinct)
    (limit : Nat) (hlimit : 0 < limit) (ops : List SchedulerOp) (r : Redis)
    (z z' : List (String × Instant)) (answers : List (SchedulerAnswer String))
    (h : Stores names r.schedule z)
    (hrun : SchedulerOp.runTexts names z ops = some (z', answers)) :
    (∀ (e e' : ScheduleEntry) (t t' m : String), e.member names t = some m →
      e'.member names t' = some m → e = e') ∧
    Stores names (SchedulerOp.runEntries names r ops).1.schedule z' ∧
    List.Forall₂ (SchedulerAnswer.Same names limit)
      (SchedulerOp.runEntries names r ops).2 answers ∧
    List.Forall₂ (fun x y => x.1.Says names limit y.1)
      (SchedulerOp.runEntries names r ops).1.schedule z' := by
  obtain ⟨hstores, hanswers⟩ := h.run hn hlimit hrun
  exact ⟨fun _ _ _ _ _ he he' => member_injective hn he he', hstores, hanswers,
    hstores.says hlimit⟩

end

/-! ### A retry and a deferred dial -/

/-- Identifiers by their numbers, with the version of random and derived
ones in front. -/
def numberedNames : JobNames where
  uuid n := String.ofList (JsonText.natLiteral n)
  jobId n := String.ofList ('4' :: '-' :: JsonText.natLiteral n)
  enqueuedAt _ := "2026-01-05T09:00:00.000000+00:00"
  traceId n := String.ofList ('4' :: '-' :: 't' :: JsonText.natLiteral n)
  uuid5 s := String.ofList ('5' :: '-' :: s.toList)

theorem numberedNames_distinct : numberedNames.Distinct where
  uuid _ _ h := JsonText.natLiteral_injective (String.ofList_injective h)
  jobId _ _ h := by
    have hlist := String.ofList_injective h
    exact JsonText.natLiteral_injective (List.cons.inj (List.cons.inj hlist).2).2
  derived _ _ h := by
    have hlist := String.ofList_injective h
    exact absurd (List.cons.inj hlist).1 (by decide)

/-- A first dial, deferred. -/
def deferredDial : ScheduleEntry :=
  .dial { jobId := 9, campaignId := 2, contactId := 3, attemptNumber := 1 }

/-- A retry is scheduled twice and a first dial deferred; both are looked up
as due, and the retry is claimed. -/
def scheduleOps : List SchedulerOp :=
  let retry := ScheduleEntry.retry (.new 7 1 2 2)
  [.put retry 100 "2026-01-05T09:00:00+00:00", .put deferredDial 200 "",
    .addMissing retry 300 "2026-01-05T09:05:00+00:00", .dueJobs 250 50,
    .claim retry]

theorem schedule_on_texts_demo :
    ∃ z answers, SchedulerOp.runTexts numberedNames [] scheduleOps
        = some (z, answers) ∧
      List.Forall₂ (SchedulerAnswer.Same numberedNames 100)
        [.changed true, .changed true, .changed false,
          .due [.retry (.new 7 1 2 2), deferredDial], .changed true] answers ∧
      Stores numberedNames [(deferredDial, 200)] z := by
  have hsome : (SchedulerOp.runTexts numberedNames [] scheduleOps).isSome
      = true := by
    decide +kernel
  obtain ⟨⟨z, answers⟩, hrun⟩ := Option.isSome_iff_exists.mp hsome
  obtain ⟨-, hstores, hanswers, -⟩ := schedule_on_texts numberedNames
    numberedNames_distinct 100 (by decide) scheduleOps {} [] z answers .nil hrun
  have hentries : SchedulerOp.runEntries numberedNames {} scheduleOps
      = ({ schedule := [(deferredDial, 200)] },
        [.changed true, .changed true, .changed false,
          .due [.retry (.new 7 1 2 2), deferredDial], .changed true]) := by
    rfl
  rw [hentries] at hstores hanswers
  exact ⟨z, answers, hrun, hanswers, hstores⟩

end CallingAgent
