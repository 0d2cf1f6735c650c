import CallingAgent.Lib.Purge
import CallingAgent.Lifecycle.LegalHold

/-!
# RetentionPolicy — what each class of retention is for

A class has rows with an age, an action that they still need or not, and
something that excludes them: a hold, or work in progress. What a class
selects is what has expired, needs the action and is not excluded. The
action leaves nothing that needs it, and what excludes a row or dates it is
not touched by any class.
-/

namespace CallingAgent

open Lib

/-- A class of data. -/
inductive RetentionClass where
  | transcriptMessages | transcriptLinks | workingMemorySnapshots
  | analysisFreeText | contacts | auditLog | processedEvents | retentionRuns
  deriving DecidableEq

namespace RetentionClass

/-- In the order of `_STEPS`. -/
def all : List RetentionClass :=
  [.transcriptMessages, .transcriptLinks, .workingMemorySnapshots,
    .analysisFreeText, .contacts, .auditLog, .processedEvents, .retentionRuns]

/-- The step of the run that works on the class. -/
def step : RetentionClass → RetentionStep
  | .transcriptMessages => ⟨"transcript_messages", (·.transcriptDays),
      Retention.transcriptMessages, Retention.deleteMessages⟩
  | .transcriptLinks => ⟨"transcript_links", (·.transcriptDays),
      Retention.transcriptLinks, Retention.clearTranscriptLinks⟩
  | .workingMemorySnapshots => ⟨"working_memory_snapshots", (·.transcriptDays),
      Retention.snapshots, Retention.scrubSnapshots⟩
  | .analysisFreeText => ⟨"analysis_free_text", (·.analysisDays),
      Retention.analysis, Retention.scrubAnalysis⟩
  | .contacts => ⟨"contacts", (·.contactDays), Retention.contacts,
      Retention.scrubContacts⟩
  | .auditLog => ⟨"audit_log", (·.auditLogDays), Retention.audit,
      Retention.deleteAudit⟩
  | .processedEvents => ⟨"processed_events", (·.processedEventDays),
      Retention.processed, Retention.deleteProcessed⟩
  | .retentionRuns => ⟨"retention_runs", (·.runHistoryDays),
      Retention.runHistory, Retention.deleteRuns⟩

abbrev Row : RetentionClass → Type
  | .transcriptMessages => ConversationMessage
  | .transcriptLinks => ConversationSession
  | .workingMemorySnapshots => WorkingMemorySnapshot
  | .analysisFreeText => StoredAnalysis
  | .contacts => Contact
  | .auditLog => AuditRow
  | .processedEvents => Instant
  | .retentionRuns => RetentionRun

def table : (c : RetentionClass) → LifecycleDb → Table Nat c.Row
  | .transcriptMessages, db => db.messages
  | .transcriptLinks, db => db.sessions
  | .workingMemorySnapshots, db => db.snapshots
  | .analysisFreeText, db => db.analyses
  | .contacts, db => db.core.contacts
  | .auditLog, db => db.auditLog
  | .processedEvents, db => db.processedEvents
  | .retentionRuns, db => db.retentionRuns

/-- From when the age of a row is counted, if it is. -/
def stamp : (c : RetentionClass) → LifecycleDb → c.Row → Option Instant
  | .transcriptMessages, _, m => some m.createdAt
  | .transcriptLinks, _, s => some s.startedAt
  | .workingMemorySnapshots, _, s => some s.snapshottedAt
  | .analysisFreeText, _, a => some a.createdAt
  | .contacts, db, c =>
      if (db.core.campaign c.campaignId).any fun k => k.status = .completed then
        AList.lookup c.campaignId db.closedAt
      else none
  | .auditLog, _, a => some a.createdAt
  | .processedEvents, _, t => some t
  | .retentionRuns, _, r => some r.startedAt

/-- The row still needs the action. -/
def needs : (c : RetentionClass) → c.Row → Bool
  | .transcriptLinks, s => s.transcriptUrl.isSome
  | .workingMemorySnapshots, s => s.memory.hasContent
  | .analysisFreeText, a => a.hasContent
  | .contacts, c => c.purgedAt.isNone
  | .transcriptMessages, _ | .auditLog, _ | .processedEvents, _
  | .retentionRuns, _ => true

end RetentionClass

/-- The messages of the session are input of an analysis in progress. -/
def LifecycleDb.analysing (db : LifecycleDb) (s : SessionId) : Bool :=
  (AList.lookup s db.sessions).any fun row =>
    db.analyses.any fun _ a =>
      decide (a.row.call.callAttemptId = row.callAttemptId)
        && !a.row.status.terminal

namespace RetentionClass

/-- A hold covers the row, or work on it is in progress. -/
def excluded : (c : RetentionClass) → LifecycleDb → c.Row → Bool
  | .transcriptMessages, db, m => db.sessionHeld m.sessionId || db.analysing m.sessionId
  | .transcriptLinks, db, s => db.attemptHeld s.callAttemptId
  | .workingMemorySnapshots, db, s => db.attemptHeld s.attemptId
  | .analysisFreeText, db, a =>
      db.contactHeld a.row.call.contactId || !a.row.status.terminal
  | .contacts, db, c => db.holdCovers c
  | .auditLog, db, a => db.entityHeld a.entity
  | .processedEvents, _, _ | .retentionRuns, _, _ => false

/-- What becomes of a row; `none` where it is deleted. -/
def treat : (c : RetentionClass) → Instant → Nat → c.Row → Option c.Row
  | .transcriptLinks, _, _, s => some { s with transcriptUrl := none }
  | .workingMemorySnapshots, _, _, s => some s.cleared
  | .analysisFreeText, _, _, a => some a.cleared
  | .contacts, now, id, c => some (Retention.purgeContact now id c)
  | .transcriptMessages, _, _, _ | .auditLog, _, _, _ | .processedEvents, _, _, _
  | .retentionRuns, _, _, _ => none

/-- **Due before a cutoff.** -/
def wants (c : RetentionClass) (db : LifecycleDb) (cutoff : Instant)
    (r : c.Row) : Bool :=
  (c.stamp db r).any (fun t => decide (t < cutoff)) && c.needs r
    && !c.excluded db r

/-- The row of the run under way is left alone. -/
def keep : RetentionClass → Nat → Nat → Bool
  | .retentionRuns, current, id => decide (id ≠ current)
  | _, _, _ => true

/-! ## The steps and their classes -/

theorem map_step_all : all.map step = Retention.steps := rfl

theorem mem_all (c : RetentionClass) : c ∈ all := by
  cases c <;> simp [all]

variable {db db' : LifecycleDb}

/-- **What a step selects is what is due before its cutoff.** -/
theorem candidates_eq (c : RetentionClass) (cutoff : Instant) (current : Nat) :
    c.step.candidates db cutoff current
      = (c.table db).select fun k r => c.wants db cutoff r && c.keep current k := by
  cases c with
  | contacts =>
      change Retention.contacts db cutoff current = _
      rw [Retention.contacts]
      refine congrArg (Table.select db.core.contacts) (funext fun k => funext fun r => ?_)
      simp only [wants, stamp, needs, excluded, keep, LifecycleDb.holdCovers]
      cases db.core.campaign r.campaignId with
      | none => simp
      | some campaign =>
          by_cases hdone : campaign.status = .completed
          · cases r.legalHold with
            | true => simp
            | false =>
                simp only [hdone, Option.any_some, decide_true, if_true,
                  Bool.true_and, Bool.not_false, Bool.and_true, Bool.false_or]
                rw [Bool.and_assoc, Bool.and_comm]
          · simp [hdone]
  | transcriptMessages =>
      change Retention.transcriptMessages db cutoff current = _
      rw [Retention.transcriptMessages]
      refine congrArg (Table.select db.messages) (funext fun k => funext fun r => ?_)
      simp only [wants, stamp, needs, excluded, keep, Option.any_some,
        Bool.and_true, Bool.not_or, LifecycleDb.analysing, Bool.and_assoc]
  | transcriptLinks =>
      change Retention.transcriptLinks db cutoff current = _
      rw [Retention.transcriptLinks]
      refine congrArg (Table.select db.sessions) (funext fun k => funext fun r => ?_)
      simp only [wants, stamp, needs, excluded, keep, Option.any_some,
        Bool.and_true]
      rw [Bool.and_comm (decide _)]
  | workingMemorySnapshots =>
      change Retention.snapshots db cutoff current = _
      rw [Retention.snapshots]
      refine congrArg (Table.select db.snapshots) (funext fun k => funext fun r => ?_)
      simp only [wants, stamp, needs, excluded, keep, Option.any_some,
        Bool.and_true]
      rw [Bool.and_right_comm]
  | analysisFreeText =>
      change Retention.analysis db cutoff current = _
      rw [Retention.analysis]
      refine congrArg (Table.select db.analyses) (funext fun k => funext fun r => ?_)
      simp only [wants, stamp, needs, excluded, keep, Option.any_some,
        Bool.and_true, Bool.not_or, Bool.not_not]
      rw [Bool.eq_iff_iff]
      simp only [Bool.and_eq_true]
      constructor
      · rintro ⟨⟨⟨hold, hterminal⟩, hheld⟩, hcontent⟩
        exact ⟨⟨hold, hcontent⟩, hheld, hterminal⟩
      · rintro ⟨⟨hold, hcontent⟩, hheld, hterminal⟩
        exact ⟨⟨⟨hold, hterminal⟩, hheld⟩, hcontent⟩
  | auditLog =>
      change Retention.audit db cutoff current = _
      rw [Retention.audit]
      refine congrArg (Table.select db.auditLog) (funext fun k => funext fun r => ?_)
      simp only [wants, stamp, needs, excluded, keep, Option.any_some,
        Bool.and_true]
  | processedEvents =>
      change Retention.processed db cutoff current = _
      rw [Retention.processed]
      refine congrArg (Table.select db.processedEvents) (funext fun k => funext fun r => ?_)
      simp only [wants, stamp, needs, excluded, keep, Option.any_some,
        Bool.and_true, Bool.not_false]
  | retentionRuns =>
      change Retention.runHistory db cutoff current = _
      rw [Retention.runHistory]
      refine congrArg (Table.select db.retentionRuns) (funext fun k => funext fun r => ?_)
      simp only [wants, stamp, needs, excluded, keep, Option.any_some,
        Bool.and_true, Bool.not_false]

/-- What a step does to its table. -/
theorem treats_apply (c : RetentionClass) (ids : List Nat) (now : Instant) :
    Treats (c.treat now) ids (c.table db) (c.table (c.step.apply db ids now)) := by
  cases c with
  | transcriptMessages | auditLog | processedEvents | retentionRuns =>
      exact treats_deleteIn
  | transcriptLinks | workingMemorySnapshots | analysisFreeText =>
      exact treats_updateIn
  | contacts => exact treats_mapRows

/-- It does nothing to the tables of the others. -/
theorem table_apply_ne {c c' : RetentionClass} (h : c' ≠ c) (ids : List Nat)
    (now : Instant) : c'.table (c.step.apply db ids now) = c'.table db := by
  cases c <;> cases c' <;> first | rfl | exact absurd rfl h

/-- What the action leaves of a row needs it no more. -/
theorem needs_treat {c : RetentionClass} {now : Instant} {id : Nat} {r r' : c.Row}
    (h : c.treat now id r = some r') : c.needs r' = false := by
  cases c with
  | transcriptMessages | auditLog | processedEvents | retentionRuns => cases h
  | transcriptLinks | workingMemorySnapshots | analysisFreeText | contacts =>
      cases h
      rfl

/-! ## What no class touches -/

/-- What dates a row or excludes it is the same in both databases. -/
structure Frame (db db' : LifecycleDb) : Prop where
  campaigns : db'.core.campaigns = db.core.campaigns
  attempts : db'.core.attempts = db.core.attempts
  closedAt : db'.closedAt = db.closedAt
  contacts : ∀ c, (db'.core.contact c).map (fun r => (r.legalHold, r.campaignId))
    = (db.core.contact c).map fun r => (r.legalHold, r.campaignId)
  links : ∀ s, (AList.lookup s db'.sessions).map (·.callAttemptId)
    = (AList.lookup s db.sessions).map (·.callAttemptId)
  analyses : ∀ k, (AList.lookup k db'.analyses).map
      (fun a => (a.row.call.callAttemptId, a.row.status))
    = (AList.lookup k db.analyses).map
      fun a => (a.row.call.callAttemptId, a.row.status)

namespace Frame

theorem holdCovers (h : Frame db db') (c : Contact) :
    db'.holdCovers c = db.holdCovers c := by
  rw [LifecycleDb.holdCovers, LifecycleDb.holdCovers, Db.campaign, Db.campaign,
    h.campaigns]

theorem contactHeld (h : Frame db db') (c : ContactId) :
    db'.contactHeld c = db.contactHeld c := by
  have hvia : ∀ d : LifecycleDb, d.contactHeld c
      = ((d.core.contact c).map fun r => (r.legalHold, r.campaignId)).any
        fun x => x.1 || (d.core.campaign x.2).any (·.legalHold) := by
    intro d
    rw [LifecycleDb.contactHeld, Option.any_map]
    rfl
  rw [hvia, hvia, h.contacts c]
  unfold Db.campaign
  rw [h.campaigns]

theorem attemptHeld (h : Frame db db') (a : AttemptId) :
    db'.attemptHeld a = db.attemptHeld a :=
  attemptHeld_congr h.attempts h.contactHeld a

theorem sessionHeld (h : Frame db db') (s : SessionId) :
    db'.sessionHeld s = db.sessionHeld s :=
  sessionHeld_congr h.attemptHeld (h.links s)

theorem entityHeld (h : Frame db db') (e : Option AuditEntity) :
    db'.entityHeld e = db.entityHeld e :=
  entityHeld_congr h.campaigns h.contactHeld e

theorem analysing (h : Frame db db') (s : SessionId) :
    db'.analysing s = db.analysing s := by
  have hvia : ∀ d : LifecycleDb, d.analysing s
      = ((AList.lookup s d.sessions).map (·.callAttemptId)).any fun x =>
        d.analyses.any fun _ a =>
          decide (a.row.call.callAttemptId = x) && !a.row.status.terminal := by
    intro d
    rw [LifecycleDb.analysing, Option.any_map]
  rw [hvia, hvia, h.links s]
  refine congrArg (fun f => Option.any f _) (funext fun x => ?_)
  exact Table.any_congr (q := fun y => decide (y.1 = x) && !y.2.terminal) h.analyses

/-- **What is due in a class depends on nothing that is worked on.** -/
theorem wants_eq (h : Frame db db') (c : RetentionClass) (cutoff : Instant)
    (r : c.Row) : c.wants db' cutoff r = c.wants db cutoff r := by
  have hstamp : c.stamp db' r = c.stamp db r := by
    cases c with
    | contacts =>
        simp only [stamp]
        unfold Db.campaign
        rw [h.campaigns, h.closedAt]
    | _ => rfl
  have hexcluded : c.excluded db' r = c.excluded db r := by
    cases c with
    | transcriptMessages =>
        simp only [excluded]
        rw [h.sessionHeld, h.analysing]
    | transcriptLinks => exact h.attemptHeld _
    | workingMemorySnapshots => exact h.attemptHeld _
    | analysisFreeText =>
        simp only [excluded]
        rw [h.contactHeld]
    | contacts => exact h.holdCovers _
    | auditLog => exact h.entityHeld _
    | processedEvents | retentionRuns => rfl
  rw [wants, wants, hstamp, hexcluded]

end Frame

/-- Whether a row is one of the job's own: what its runs report at `now`,
and the rows that the runs have opened since `db`. -/
def Own : (c : RetentionClass) → Instant → LifecycleDb → Nat → c.Row → Prop
  | .auditLog, now, _, _, a => a.createdAt = now ∧ a.action = "retention.run"
  | .retentionRuns, now, db, k, r =>
      db.retentionRuns.nextKey ≤ k ∧ r.startedAt = now
  | .transcriptMessages, _, _, _, _ | .transcriptLinks, _, _, _, _
  | .workingMemorySnapshots, _, _, _, _ | .analysisFreeText, _, _, _, _
  | .contacts, _, _, _, _ | .processedEvents, _, _, _, _ => False

end RetentionClass

/-- Settings that are valid: a period is a day or more, or none, and a batch
is not empty. -/
structure RetentionPolicy extends RetentionConfig where
  periods : ∀ c : RetentionClass,
    ∀ d ∈ Retention.periodOf toRetentionConfig c.step, 0 < d
  batchSize_pos : 0 < batchSize

/-- The cutoff of every enabled class is a date. -/
def RetentionPolicy.Dated (policy : RetentionPolicy) (now : Instant) : Prop :=
  ∀ (c : RetentionClass) (d : Int),
    Retention.periodOf policy.toRetentionConfig c.step = some d →
    Retention.isDate (Retention.cutoffAt now d) = true

namespace RetentionClass

/-- **Due at `now`**: the class is enabled, the row has expired, still needs
the action and is not excluded. -/
def due (c : RetentionClass) (cfg : RetentionConfig) (now : Instant)
    (db : LifecycleDb) (r : c.Row) : Bool :=
  (Retention.periodOf cfg c.step).any fun d =>
    c.wants db (Retention.cutoffAt now d) r

section

variable {c : RetentionClass} {cfg : RetentionConfig} {policy : RetentionPolicy}
  {now : Instant} {db db' : LifecycleDb} {k : Nat} {r r' : c.Row}

theorem stamp_of_own (h : c.Own now db k r) : c.stamp db' r = some now := by
  cases c with
  | auditLog => exact congrArg some h.1
  | retentionRuns => exact congrArg some h.2
  | _ => exact h.elim

theorem cutoffAt_lt {d : Int} (hd : 0 < d) : Retention.cutoffAt now d < now := by
  have hday : (0 : Int) < d * 86400 * second :=
    Int.mul_pos (Int.mul_pos hd (by decide)) (by decide)
  exact Int.sub_lt_self now hday

/-- A row of the job's own is not due. -/
theorem not_due_of_own (h : c.Own now db k r) :
    c.due policy.toRetentionConfig now db' r = false := by
  rw [due]
  cases hd : Retention.periodOf policy.toRetentionConfig c.step with
  | none => rfl
  | some d =>
      have hpast : Retention.cutoffAt now d < now :=
        cutoffAt_lt (policy.periods c d hd)
      rw [Option.any_some, wants, stamp_of_own h, Option.any_some,
        decide_eq_false (not_lt.mpr hpast.le)]
      rfl

theorem not_due_of_treat (h : c.treat now k r = some r') :
    c.due cfg now db r' = false := by
  rw [due]
  cases Retention.periodOf cfg c.step with
  | none => rfl
  | some d => rw [Option.any_some, wants, needs_treat h, Bool.and_false, Bool.false_and]

theorem Frame.due_eq (h : Frame db db') : c.due cfg now db' = c.due cfg now db := by
  funext r
  rw [due, due]
  simp only [h.wants_eq]

end

/-- The purge of a class, from a database on. -/
def purge (c : RetentionClass) (policy : RetentionPolicy) (now : Instant)
    (db : LifecycleDb) : Purge Nat c.Row where
  due := c.due policy.toRetentionConfig now db
  treat := c.treat now
  own := c.Own now db
  clears _ h := not_due_of_treat h
  own_not_due h := not_due_of_own h

end RetentionClass

end CallingAgent
