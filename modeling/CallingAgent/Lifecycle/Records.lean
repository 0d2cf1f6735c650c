import CallingAgent.Analysis.Repository
import CallingAgent.Conversation.Orchestrator
import CallingAgent.Lib.Statements

/-!
# Data lifecycle — the records with personal content, and legal holds

Beside the rows of the calls themselves, a call leaves a conversation
session with its messages, snapshots of the working memory, an analysis and
audit rows. A legal hold is set on a contact or on a campaign and covers
what concerns the contact, or every contact of the campaign.
-/

namespace CallingAgent

open Lib

abbrev SessionId := Nat

structure ConversationSession where
  callAttemptId : AttemptId
  startedAt : Instant
  transcriptStatus : Option String := none
  transcriptUnavailableReason : Option String := none
  transcriptUrl : Option String := none
  deriving DecidableEq, Repr

structure ConversationMessage where
  sessionId : SessionId
  role : ConversationRole
  content : String
  createdAt : Instant
  deriving DecidableEq, Repr

structure WorkingMemorySnapshot where
  attemptId : AttemptId
  memory : WorkingMemory
  snapshottedAt : Instant

/-- A row of `call_analysis` with the columns only the lifecycle looks at. -/
structure StoredAnalysis where
  row : AnalysisRow
  errorMessage : Option String := none
  createdAt : Instant

/-- What the `entity_id` of an audit row identifies. -/
inductive AuditEntity where
  | contact (id : ContactId)
  | campaign (id : CampaignId)
  | attempt (id : AttemptId)
  | analysis (id : AnalysisId)
  | retentionRun (id : Nat)
  | erasureLog (fingerprint : String)
  deriving DecidableEq, Repr

structure AuditRow where
  actor : String
  action : String
  entity : Option AuditEntity
  createdAt : Instant
  deriving DecidableEq, Repr

structure RetentionRun where
  startedAt : Instant
  apply : Bool
  status : String := "running"
  counts : List (String × Nat) := []
  disabled : List String := []
  errorCategory : Option String := none
  finishedAt : Option Instant := none

/-- The database as the lifecycle sees it: the rows of the calls, and the
tables around them. -/
structure LifecycleDb where
  core : Db
  /-- `campaign.closed_at` -/
  closedAt : Table CampaignId Instant := ∅
  sessions : Table SessionId ConversationSession := ∅
  messages : Table Nat ConversationMessage := ∅
  snapshots : Table Nat WorkingMemorySnapshot := ∅
  analyses : Table AnalysisId StoredAnalysis := ∅
  auditLog : Table Nat AuditRow := ∅
  /-- `processed_event.received_at` -/
  processedEvents : Table Nat Instant := ∅
  retentionRuns : Table Nat RetentionRun := ∅

namespace LifecycleDb

variable (db : LifecycleDb)

/-! ## Holds -/

/-- A hold covers this contact row: its own, or its campaign's. -/
def holdCovers (c : Contact) : Bool :=
  c.legalHold || (db.core.campaign c.campaignId).any (·.legalHold)

/-- `held_contact_ids` -/
def contactHeld (c : ContactId) : Bool := (db.core.contact c).any db.holdCovers

/-- `held_campaign_ids` -/
def campaignHeld (c : CampaignId) : Bool :=
  (db.core.campaign c).any (·.legalHold)

/-- The attempt was made to a held contact. -/
def attemptHeld (a : AttemptId) : Bool :=
  (db.core.attempt a).any fun row => db.contactHeld row.contactId

/-- The session is of such an attempt. -/
def sessionHeld (s : SessionId) : Bool :=
  (AList.lookup s db.sessions).any fun row => db.attemptHeld row.callAttemptId

/-- An audit row about a held contact or campaign. -/
def entityHeld : Option AuditEntity → Bool
  | some (.contact c) => db.contactHeld c
  | some (.campaign c) => db.campaignHeld c
  | _ => false

/-! ## Audit -/

/-- `record_audit_event` -/
def audit (row : AuditRow) : LifecycleDb :=
  { db with auditLog := AList.insert db.auditLog.nextKey row db.auditLog }

end LifecycleDb

/-! ## Content -/

/-- Some extracted content is left in the snapshot. -/
def WorkingMemory.hasContent (m : WorkingMemory) : Bool :=
  !m.capturedEntities.isEmpty || !m.objectionsRaised.isEmpty
    || m.lastAgentUtterance.isSome

def WorkingMemory.cleared (m : WorkingMemory) : WorkingMemory :=
  { m with capturedEntities := [], objectionsRaised := [],
           lastAgentUtterance := none }

def WorkingMemorySnapshot.cleared (s : WorkingMemorySnapshot) :
    WorkingMemorySnapshot := { s with memory := s.memory.cleared }

/-- Some free text or evidence is left in the analysis. -/
def StoredAnalysis.hasContent (a : StoredAnalysis) : Bool :=
  a.row.content.summary.isSome || a.row.content.feedback.isSome
    || a.errorMessage.isSome || !a.row.content.keyFacts.isEmpty
    || !a.row.content.objections.isEmpty
    || !a.row.content.customerNeeds.isEmpty

/-- Scores and provenance stay. -/
def StoredAnalysis.cleared (a : StoredAnalysis) : StoredAnalysis :=
  { a with
    errorMessage := none
    row := { a.row with
      content := { leadScore := a.row.content.leadScore } } }

end CallingAgent
