import CallingAgent.Lifecycle.Records

/-!
# Retention — eight classes of data, one bounded run

Each class selects the rows that are past their period and still need the
action, leaves out what a hold covers, and works in batches of its own
transactions under a budget of run time. A dry run only counts.
-/

namespace CallingAgent

open Lib

/-- `RetentionConfig`; a period of no days, or none, keeps the class for
ever. -/
structure RetentionConfig where
  transcriptDays : Option Int := none
  analysisDays : Option Int := none
  contactDays : Option Int := none
  auditLogDays : Option Int := none
  processedEventDays : Option Int := none
  runHistoryDays : Option Int := none
  batchSize : Nat := 500

/-- A `_Step`: the rows still needing the action, and the action. -/
structure RetentionStep where
  key : String
  days : RetentionConfig → Option Int
  candidates : LifecycleDb → (cutoff : Instant) → (current : Nat) → List Nat
  apply : LifecycleDb → List Nat → (now : Instant) → LifecycleDb

namespace Retention

/-! ## The classes -/

/-- `_transcript_messages`: the input of an analysis that has not finished
is left alone. -/
def transcriptMessages (db : LifecycleDb) (cutoff : Instant) (_ : Nat) :
    List Nat :=
  db.messages.select fun _ m =>
    decide (m.createdAt < cutoff) && !db.sessionHeld m.sessionId
      && !((AList.lookup m.sessionId db.sessions).any fun s =>
        db.analyses.any fun _ a =>
          decide (a.row.call.callAttemptId = s.callAttemptId)
            && !a.row.status.terminal)

/-- `_delete_messages` -/
def deleteMessages (db : LifecycleDb) (ids : List Nat) (_ : Instant) :
    LifecycleDb := { db with messages := db.messages.deleteIn ids }

/-- `_transcript_links` -/
def transcriptLinks (db : LifecycleDb) (cutoff : Instant) (_ : Nat) :
    List Nat :=
  db.sessions.select fun _ s =>
    s.transcriptUrl.isSome && decide (s.startedAt < cutoff)
      && !db.attemptHeld s.callAttemptId

/-- `_clear_transcript_links` -/
def clearTranscriptLinks (db : LifecycleDb) (ids : List Nat) (_ : Instant) :
    LifecycleDb :=
  { db with
    sessions := db.sessions.updateIn ids fun s => { s with transcriptUrl := none } }

/-- `_snapshots` -/
def snapshots (db : LifecycleDb) (cutoff : Instant) (_ : Nat) : List Nat :=
  db.snapshots.select fun _ s =>
    decide (s.snapshottedAt < cutoff) && !db.attemptHeld s.attemptId
      && s.memory.hasContent

/-- `_scrub_snapshots` -/
def scrubSnapshots (db : LifecycleDb) (ids : List Nat) (_ : Instant) :
    LifecycleDb :=
  { db with
    snapshots := db.snapshots.updateIn ids WorkingMemorySnapshot.cleared }

/-- `_analysis` -/
def analysis (db : LifecycleDb) (cutoff : Instant) (_ : Nat) : List Nat :=
  db.analyses.select fun _ a =>
    decide (a.createdAt < cutoff) && a.row.status.terminal
      && !db.contactHeld a.row.call.contactId && a.hasContent

/-- `_scrub_analysis` -/
def scrubAnalysis (db : LifecycleDb) (ids : List Nat) (_ : Instant) :
    LifecycleDb :=
  { db with analyses := db.analyses.updateIn ids StoredAnalysis.cleared }

/-- `_contacts`: the campaign was completed before the cutoff; one without
a closing date is never purged by age. -/
def contacts (db : LifecycleDb) (cutoff : Instant) (_ : Nat) : List Nat :=
  db.core.contacts.select fun _ c =>
    (db.core.campaign c.campaignId).any (fun k =>
      decide (k.status = .completed) && !k.legalHold)
      && (AList.lookup c.campaignId db.closedAt).any (fun t => decide (t < cutoff))
      && !c.legalHold && c.purgedAt.isNone

/-- `scrub_contacts`, one row. -/
def purgeContact (now : Instant) (id : ContactId) (c : Contact) : Contact :=
  { c with normalizedPhoneNumber := purgePlaceholder id, purgedAt := some now }

/-- `scrub_contacts` -/
def scrubContacts (db : LifecycleDb) (ids : List Nat) (now : Instant) :
    LifecycleDb :=
  { db with
    core := { db.core with
      contacts := db.core.contacts.mapRows fun id c =>
        if ids.contains id then purgeContact now id c else c } }

/-- `_audit` -/
def audit (db : LifecycleDb) (cutoff : Instant) (_ : Nat) : List Nat :=
  db.auditLog.select fun _ a =>
    decide (a.createdAt < cutoff) && !db.entityHeld a.entity

/-- `_delete_audit` -/
def deleteAudit (db : LifecycleDb) (ids : List Nat) (_ : Instant) :
    LifecycleDb := { db with auditLog := db.auditLog.deleteIn ids }

/-- `_processed` -/
def processed (db : LifecycleDb) (cutoff : Instant) (_ : Nat) : List Nat :=
  db.processedEvents.select fun _ t => decide (t < cutoff)

/-- `_delete_processed` -/
def deleteProcessed (db : LifecycleDb) (ids : List Nat) (_ : Instant) :
    LifecycleDb := { db with processedEvents := db.processedEvents.deleteIn ids }

/-- `_run_history`, but for the run under way. -/
def runHistory (db : LifecycleDb) (cutoff : Instant) (current : Nat) :
    List Nat :=
  db.retentionRuns.select fun id r =>
    decide (r.startedAt < cutoff) && decide (id ≠ current)

/-- `_delete_runs` -/
def deleteRuns (db : LifecycleDb) (ids : List Nat) (_ : Instant) :
    LifecycleDb := { db with retentionRuns := db.retentionRuns.deleteIn ids }

/-- `_STEPS` -/
def steps : List RetentionStep :=
  [⟨"transcript_messages", (·.transcriptDays), transcriptMessages,
      deleteMessages⟩,
    ⟨"transcript_links", (·.transcriptDays), transcriptLinks,
      clearTranscriptLinks⟩,
    ⟨"working_memory_snapshots", (·.transcriptDays), snapshots, scrubSnapshots⟩,
    ⟨"analysis_free_text", (·.analysisDays), analysis, scrubAnalysis⟩,
    ⟨"contacts", (·.contactDays), contacts, scrubContacts⟩,
    ⟨"audit_log", (·.auditLogDays), audit, deleteAudit⟩,
    ⟨"processed_events", (·.processedEventDays), processed, deleteProcessed⟩,
    ⟨"retention_runs", (·.runHistoryDays), runHistory, deleteRuns⟩]

/-! ## The run -/

/-- `_days` -/
def periodOf (cfg : RetentionConfig) (step : RetentionStep) : Option Int :=
  (step.days cfg).filter fun d => decide (d ≠ 0)

/-- `_cutoff`, as a number. -/
def cutoffAt (now : Instant) (days : Int) : Instant := now - days * 86400 * second

/-- `datetime.min`, the beginning of the year 1. -/
def dateMin : Instant := -62135596800 * second

/-- `_cutoff` gives a date; otherwise `now - timedelta(...)` raises
`OverflowError`. `now` is a date and a period is not negative, so that only
the lower end matters. -/
def isDate (cutoff : Instant) : Bool := decide (dateMin ≤ cutoff)

/-- What the head of the loop over the batches meets. -/
inductive Turn where
  | withinBudget
  | overBudget
  | dbError
  deriving DecidableEq, Repr

inductive Status where
  | running
  /-- `"partial"` -/
  | stopped
  | completed
  | failed
  deriving DecidableEq, Repr

def Status.value : Status → String
  | .running => "running"
  | .stopped => "partial"
  | .completed => "completed"
  | .failed => "failed"

/-- A run on its way: the result so far, and the turns that are left. -/
structure Progress where
  db : LifecycleDb
  turns : List Turn
  status : Status := .running
  counts : List (String × Nat) := []
  disabled : List String := []
  errorCategory : Option String := none

/-- The loop over the batches of one step, with the rows it treated. When no
turn is left the budget is used up. -/
def runBatches (step : RetentionStep) (cfg : RetentionConfig) (now cutoff : Instant)
    (current : Nat) : List Turn → LifecycleDb → Nat → Progress × Nat
  | [], db, total => ({ db, turns := [], status := .stopped }, total)
  | .overBudget :: turns, db, total => ({ db, turns, status := .stopped }, total)
  | .dbError :: turns, db, total => ({ db, turns, status := .failed }, total)
  | .withinBudget :: turns, db, total =>
      let ids := (step.candidates db cutoff current).take cfg.batchSize
      if ids.isEmpty then ({ db, turns }, total)
      else
        runBatches step cfg now cutoff current turns (step.apply db ids now)
          (total + ids.length)

/-- One step of the run, unless it is over. -/
def runStep (cfg : RetentionConfig) (now : Instant) (apply : Bool)
    (current : Nat) (p : Progress) (step : RetentionStep) : Progress :=
  if p.status ≠ .running then p
  else
    match periodOf cfg step with
    | none => { p with disabled := p.disabled ++ [step.key] }
    | some days =>
        let cutoff := cutoffAt now days
        if !isDate cutoff then
          { p with status := .failed, errorCategory := some "internal" }
        else if apply then
          let done := runBatches step cfg now cutoff current p.turns p.db 0
          { p with
            db := done.1.db
            turns := done.1.turns
            status := done.1.status
            -- the count of a failing step is lost with the exception
            counts := if done.1.status = .failed then p.counts
              else p.counts ++ [(step.key, done.2)]
            errorCategory :=
              if done.1.status = .failed then some "db_error" else none }
        else
          let n := (step.candidates p.db cutoff current).length
          { p with counts := p.counts ++ [(step.key, n)] }

/-- `_finish` -/
def finish (db : LifecycleDb) (current : Nat) (actor : String) (now : Instant)
    (p : Progress) : LifecycleDb :=
  { db with
    retentionRuns := db.retentionRuns.modify current fun r =>
      { r with
        finishedAt := some now
        status := p.status.value
        counts := p.counts
        disabled := p.disabled
        errorCategory := p.errorCategory } }.audit
    { actor, action := "retention.run", entity := some (.retentionRun current)
      createdAt := now }

/-- `run_retention`: the database it leaves and its result, `none` for
`RetentionLockHeld`. -/
def run (cfg : RetentionConfig) (now : Instant) (apply : Bool) (actor : String)
    (lockGot : Bool) (turns : List Turn) (db : LifecycleDb) :
    LifecycleDb × Option Progress :=
  let current := db.retentionRuns.nextKey
  let db := { db with
    retentionRuns :=
      AList.insert current { startedAt := now, apply } db.retentionRuns }
  if lockGot then
    let p := steps.foldl (runStep cfg now apply current) { db, turns }
    let p := if p.status = .running then { p with status := .completed } else p
    let db := finish p.db current actor now p
    (db, some { p with db })
  else
    (finish db current actor now
      { db, turns, status := .failed, errorCategory := some "lock_held" }, none)

end Retention

end CallingAgent
