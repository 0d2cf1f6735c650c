import CallingAgent.Lib.Table
import CallingAgent.Model.Suppressions

/-!
# The database — tables and repositories

`Db` is the committed content of PostgreSQL as the services see it. The
repositories' queries are scans of its tables; their writes go through the
few updates defined here, each with the lemmas that say what it leaves
alone.
-/

namespace CallingAgent

open Lib

/-- Instants are compared as integers. -/
instance (priority := 10000) : Preorder Instant :=
  Int.instLinearOrder.toPreorder

/-- A row of `outbound_control`; a missing row means "not engaged". -/
structure OutboundControls where
  killSwitch : Bool := false
  providerHalt : Bool := false

structure Db where
  campaigns : Table CampaignId Campaign := ∅
  retryPolicies : Table CampaignId RetryPolicy := ∅
  contacts : Table ContactId Contact := ∅
  attempts : Table AttemptId CallAttempt := ∅
  /-- `call_event`, newest insert first. -/
  events : List CallEvent := []
  suppressions : SuppressionTable := .empty
  /-- `processed_event.event_id` -/
  processedEvents : List String := []
  /-- `conversation_session.call_attempt_id` (unique) -/
  sessions : List AttemptId := []
  controls : OutboundControls := {}
  /-- `audit_log.entity_id` of each `dograh.reconciliation_deferred` row. -/
  reconciliationDeferrals : List AttemptId := []
  /-- `erasure_log.fingerprint` -/
  erasureLog : List String := []

namespace Db

/-! ## Reads -/

section Reads

variable (db : Db)

def contact (c : ContactId) : Option Contact := AList.lookup c db.contacts

def campaign (c : CampaignId) : Option Campaign := AList.lookup c db.campaigns

def attempt (a : AttemptId) : Option CallAttempt := AList.lookup a db.attempts

/-- `get_effective_policy` -/
def effectivePolicy (s : Settings) (c : CampaignId) : RetryPolicy :=
  (AList.lookup c db.retryPolicies).getD (buildDefaultPolicy s)

/-- `CallAttemptRepository.get_by_contact_and_number` -/
def attemptByContactAndNumber (c : ContactId) (n : Nat) : Option AttemptId :=
  db.attempts.findKey fun _ a => a.contactId == c && a.attemptNumber == n

/-- `get_by_campaign_and_normalized_phone` -/
def contactByCampaignAndPhone (c : CampaignId) (number : String) :
    Option ContactId :=
  db.contacts.findKey fun _ r =>
    r.campaignId == c && r.normalizedPhoneNumber == number

/-- `get_by_provider_call_id` -/
def attemptByProviderCallId (id : String) : Option AttemptId :=
  db.attempts.findKey fun _ a => a.providerCallId == some id

/-- `_latest_event_type`: the newest event of an attempt by `occurred_at`.
Events of one transaction share it; the later insert stands for the tie. -/
def latestEventType (a : AttemptId) : Option EventType :=
  ((db.events.filter fun e => e.callAttemptId == a).argmax
    (·.occurredAt)).map (·.eventType)

def hasEvent (a : AttemptId) (ty : EventType) : Bool :=
  db.events.any fun e => e.callAttemptId == a && e.eventType == ty

end Reads

/-! ## Writes -/

section Writes

variable (db : Db)

def modifyContact (c : ContactId) (f : Contact → Contact) : Db :=
  { db with contacts := db.contacts.modify c f }

def modifyAttempt (a : AttemptId) (f : CallAttempt → CallAttempt) : Db :=
  { db with attempts := db.attempts.modify a f }

/-- Write a whole row back. -/
def setContact (c : ContactId) (row : Contact) : Db :=
  db.modifyContact c fun _ => row

/-- The row is added under a new id. -/
def insertContact (row : Contact) : Db :=
  { db with contacts := AList.insert db.contacts.nextKey row db.contacts }

/-- The campaign is added under a new id, with its retry policy
(`ensure_policy`). -/
def insertCampaign (row : Campaign) (policy : RetryPolicy) : Db :=
  { db with
    campaigns := AList.insert db.campaigns.nextKey row db.campaigns
    retryPolicies :=
      AList.insert db.campaigns.nextKey policy db.retryPolicies }

def modifyCampaign (c : CampaignId) (f : Campaign → Campaign) : Db :=
  { db with campaigns := db.campaigns.modify c f }

def setAttempt (a : AttemptId) (row : CallAttempt) : Db :=
  db.modifyAttempt a fun _ => row

/-- The row is added under a new id. -/
def insertAttempt (row : CallAttempt) : Db :=
  { db with attempts := AList.insert db.attempts.nextKey row db.attempts }

def logEvent (a : AttemptId) (ty : EventType) (t : Instant) : Db :=
  { db with events := ⟨a, ty, t⟩ :: db.events }

/-- The insert of `claim_event`. -/
def insertProcessedEvent (eventId : String) : Db :=
  { db with processedEvents := eventId :: db.processedEvents }

def insertSession (a : AttemptId) : Db :=
  { db with sessions := a :: db.sessions }

def setSuppressions (t : SuppressionTable) : Db :=
  { db with suppressions := t }

end Writes

/-! ### What each write leaves alone -/

section Frame

variable (db : Db) (c c' : ContactId) (a a' : AttemptId) (ty : EventType)
  (t : Instant) (f : Contact → Contact) (g : CallAttempt → CallAttempt)
  (row : CallAttempt) (r : Contact) (e : String) (u : SuppressionTable)

theorem contact_modifyContact :
    (db.modifyContact c f).contact c'
      = if c' = c then (db.contact c').map f else db.contact c' :=
  Table.lookup_modify _ _ _ _

theorem contact_setContact :
    (db.setContact c r).contact c'
      = if c' = c then (db.contact c').map fun _ => r else db.contact c' :=
  contact_modifyContact ..

theorem contact_insertContact :
    (db.insertContact r).contact c'
      = if c' = db.contacts.nextKey then some r else db.contact c' :=
  Table.lookup_insert' _ _ _ _

theorem attempt_modifyAttempt :
    (db.modifyAttempt a g).attempt a'
      = if a' = a then (db.attempt a').map g else db.attempt a' :=
  Table.lookup_modify _ _ _ _

theorem attempt_setAttempt :
    (db.setAttempt a row).attempt a'
      = if a' = a then (db.attempt a').map fun _ => row else db.attempt a' :=
  attempt_modifyAttempt ..

theorem attempt_insertAttempt :
    (db.insertAttempt row).attempt a'
      = if a' = db.attempts.nextKey then some row else db.attempt a' :=
  Table.lookup_insert' _ _ _ _

@[simp] theorem modifyContact_frame :
    (db.modifyContact c f).attempts = db.attempts ∧
    (∀ k, (db.modifyContact c f).attempt k = db.attempt k) ∧
    (∀ k, (db.modifyContact c f).campaign k = db.campaign k) ∧
    (db.modifyContact c f).events = db.events ∧
    (db.modifyContact c f).suppressions = db.suppressions ∧
    (db.modifyContact c f).processedEvents = db.processedEvents ∧
    (db.modifyContact c f).sessions = db.sessions :=
  ⟨rfl, fun _ => rfl, fun _ => rfl, rfl, rfl, rfl, rfl⟩

@[simp] theorem setContact_frame :
    (db.setContact c r).attempts = db.attempts ∧
    (∀ k, (db.setContact c r).attempt k = db.attempt k) ∧
    (∀ k, (db.setContact c r).campaign k = db.campaign k) ∧
    (db.setContact c r).events = db.events ∧
    (db.setContact c r).suppressions = db.suppressions ∧
    (db.setContact c r).processedEvents = db.processedEvents ∧
    (db.setContact c r).sessions = db.sessions :=
  db.modifyContact_frame c _

@[simp] theorem modifyAttempt_frame :
    (∀ k, (db.modifyAttempt a g).contact k = db.contact k) ∧
    (∀ k, (db.modifyAttempt a g).campaign k = db.campaign k) ∧
    (db.modifyAttempt a g).events = db.events ∧
    (db.modifyAttempt a g).suppressions = db.suppressions ∧
    (db.modifyAttempt a g).processedEvents = db.processedEvents ∧
    (db.modifyAttempt a g).sessions = db.sessions :=
  ⟨fun _ => rfl, fun _ => rfl, rfl, rfl, rfl, rfl⟩

@[simp] theorem setAttempt_frame :
    (∀ k, (db.setAttempt a row).contact k = db.contact k) ∧
    (∀ k, (db.setAttempt a row).campaign k = db.campaign k) ∧
    (db.setAttempt a row).events = db.events ∧
    (db.setAttempt a row).suppressions = db.suppressions ∧
    (db.setAttempt a row).processedEvents = db.processedEvents ∧
    (db.setAttempt a row).sessions = db.sessions :=
  db.modifyAttempt_frame a _

@[simp] theorem insertContact_frame :
    (db.insertContact r).attempts = db.attempts ∧
    (∀ k, (db.insertContact r).attempt k = db.attempt k) ∧
    (∀ k, (db.insertContact r).campaign k = db.campaign k) ∧
    (db.insertContact r).events = db.events :=
  ⟨rfl, fun _ => rfl, fun _ => rfl, rfl⟩

@[simp] theorem insertCampaign_frame (row : Campaign) (p : RetryPolicy) :
    (db.insertCampaign row p).attempts = db.attempts ∧
    (∀ k, (db.insertCampaign row p).attempt k = db.attempt k) ∧
    (∀ k, (db.insertCampaign row p).contact k = db.contact k) ∧
    (db.insertCampaign row p).contacts = db.contacts ∧
    (db.insertCampaign row p).events = db.events :=
  ⟨rfl, fun _ => rfl, fun _ => rfl, rfl, rfl⟩

@[simp] theorem modifyCampaign_frame (k : CampaignId)
    (h : Campaign → Campaign) :
    (db.modifyCampaign k h).attempts = db.attempts ∧
    (∀ i, (db.modifyCampaign k h).attempt i = db.attempt i) ∧
    (∀ i, (db.modifyCampaign k h).contact i = db.contact i) ∧
    (db.modifyCampaign k h).contacts = db.contacts ∧
    (db.modifyCampaign k h).events = db.events :=
  ⟨rfl, fun _ => rfl, fun _ => rfl, rfl, rfl⟩

@[simp] theorem insertAttempt_frame :
    (∀ k, (db.insertAttempt row).contact k = db.contact k) ∧
    (∀ k, (db.insertAttempt row).campaign k = db.campaign k) ∧
    (db.insertAttempt row).events = db.events ∧
    (db.insertAttempt row).suppressions = db.suppressions ∧
    (db.insertAttempt row).processedEvents = db.processedEvents ∧
    (db.insertAttempt row).sessions = db.sessions :=
  ⟨fun _ => rfl, fun _ => rfl, rfl, rfl, rfl, rfl⟩

@[simp] theorem logEvent_frame :
    (∀ k, (db.logEvent a ty t).contact k = db.contact k) ∧
    (∀ k, (db.logEvent a ty t).attempt k = db.attempt k) ∧
    (∀ k, (db.logEvent a ty t).campaign k = db.campaign k) ∧
    (db.logEvent a ty t).attempts = db.attempts ∧
    (db.logEvent a ty t).events = ⟨a, ty, t⟩ :: db.events ∧
    (db.logEvent a ty t).suppressions = db.suppressions ∧
    (db.logEvent a ty t).processedEvents = db.processedEvents ∧
    (db.logEvent a ty t).sessions = db.sessions :=
  ⟨fun _ => rfl, fun _ => rfl, fun _ => rfl, rfl, rfl, rfl, rfl, rfl⟩

@[simp] theorem insertProcessedEvent_frame :
    (∀ k, (db.insertProcessedEvent e).contact k = db.contact k) ∧
    (∀ k, (db.insertProcessedEvent e).attempt k = db.attempt k) ∧
    (∀ k, (db.insertProcessedEvent e).campaign k = db.campaign k) ∧
    (db.insertProcessedEvent e).attempts = db.attempts ∧
    (db.insertProcessedEvent e).events = db.events ∧
    (db.insertProcessedEvent e).suppressions = db.suppressions ∧
    (db.insertProcessedEvent e).processedEvents = e :: db.processedEvents ∧
    (db.insertProcessedEvent e).sessions = db.sessions :=
  ⟨fun _ => rfl, fun _ => rfl, fun _ => rfl, rfl, rfl, rfl, rfl, rfl⟩

@[simp] theorem insertSession_frame :
    (∀ k, (db.insertSession a).contact k = db.contact k) ∧
    (∀ k, (db.insertSession a).attempt k = db.attempt k) ∧
    (∀ k, (db.insertSession a).campaign k = db.campaign k) ∧
    (db.insertSession a).attempts = db.attempts ∧
    (db.insertSession a).events = db.events ∧
    (db.insertSession a).suppressions = db.suppressions ∧
    (db.insertSession a).processedEvents = db.processedEvents ∧
    (db.insertSession a).sessions = a :: db.sessions :=
  ⟨fun _ => rfl, fun _ => rfl, fun _ => rfl, rfl, rfl, rfl, rfl, rfl⟩

@[simp] theorem setSuppressions_frame :
    (∀ k, (db.setSuppressions u).contact k = db.contact k) ∧
    (∀ k, (db.setSuppressions u).attempt k = db.attempt k) ∧
    (∀ k, (db.setSuppressions u).campaign k = db.campaign k) ∧
    (db.setSuppressions u).attempts = db.attempts ∧
    (db.setSuppressions u).events = db.events ∧
    (db.setSuppressions u).suppressions = u ∧
    (db.setSuppressions u).processedEvents = db.processedEvents ∧
    (db.setSuppressions u).sessions = db.sessions :=
  ⟨fun _ => rfl, fun _ => rfl, fun _ => rfl, rfl, rfl, rfl, rfl, rfl⟩

/-- The row the unique constraint on contact and number finds. -/
theorem attemptByContactAndNumber_some {db : Db} {c : ContactId} {n : Nat}
    {a : AttemptId} (h : db.attemptByContactAndNumber c n = some a) :
    ∃ row, db.attempt a = some row ∧ row.contactId = c
      ∧ row.attemptNumber = n := by
  obtain ⟨row, hl, hp⟩ := Table.findKey_some h
  exact ⟨row, hl, by simpa using hp⟩

theorem attemptByContactAndNumber_none {db : Db} {c : ContactId} {n : Nat} :
    db.attemptByContactAndNumber c n = none ↔
      ∀ a row, db.attempt a = some row →
        row.contactId = c → row.attemptNumber ≠ n := by
  unfold attemptByContactAndNumber
  rw [Table.findKey_none]
  simp [attempt]

theorem hasEvent_congr {db db' : Db} (h : db'.events = db.events)
    (k : AttemptId) (ty' : EventType) :
    db'.hasEvent k ty' = db.hasEvent k ty' := by
  simp only [hasEvent, h]

end Frame

end Db

end CallingAgent
