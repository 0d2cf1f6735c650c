import CallingAgent.Services.Campaigns

/-!
# Analysis — admission of a call, and what its worker checks again

A call that was talked is admitted for analysis when it ends. The worker
that takes the analysis later never trusts the stored identifiers: it
reads the attempt, the contact and the session again before it looks at
the transcript.
-/

namespace CallingAgent

open Lib

/-- The identifying columns of a `call_analysis` row. A session is known by
its attempt, of which it is the only one. -/
structure CallAnalysis where
  callAttemptId : AttemptId
  contactId : ContactId
  campaignId : CampaignId
  conversationSessionId : Option AttemptId
  deriving DecidableEq, Repr

/-- `is_eligible` -/
def analysisEligible (attempt : CallAttempt) (contact : Contact) : Bool :=
  (attempt.state == .endedNormally || attempt.state == .droppedMidCall)
    && (contact.status == .completed || contact.status == .completedPartial)

/-- `load_conversation_session` -/
def Db.conversationSession (db : Db) (aid : AttemptId) : Option AttemptId :=
  if db.sessions.contains aid then some aid else none

/-- `enqueue_call_analysis`: the row it would add; an existing one is kept
by the unique constraint. -/
def enqueueCallAnalysis (db : Db) (aid : AttemptId) (attempt : CallAttempt)
    (contact : Contact) : Option CallAnalysis :=
  if analysisEligible attempt contact then
    some ⟨aid, attempt.contactId, contact.campaignId,
      db.conversationSession aid⟩
  else none

/-- The errors an analysis is skipped with before its transcript is read. -/
inductive AnalysisSkip where
  /-- `ERR_BAD_RELATIONSHIP` -/
  | badRelationship
  /-- `ERR_NOT_ELIGIBLE` -/
  | notEligible
  /-- `ERR_NO_SESSION` -/
  | noSession
  deriving DecidableEq, Repr

/-- `_load_input`, up to the transcript of the session it found. -/
def loadInput (db : Db) (a : CallAnalysis) : Except AnalysisSkip AttemptId :=
  match db.attempt a.callAttemptId, db.contact a.contactId with
  | some attempt, some contact =>
      if attempt.contactId ≠ a.contactId
          ∨ contact.campaignId ≠ a.campaignId then .error .badRelationship
      else if !analysisEligible attempt contact then .error .notEligible
      else
        match db.conversationSession a.callAttemptId with
        | none => .error .noSession
        | some session =>
            if a.conversationSessionId.any (· ≠ session) then
              .error .badRelationship
            else .ok session
  | _, _ => .error .badRelationship

section

variable {db : Db} {aid : AttemptId} {attempt : CallAttempt}
  {contact : Contact} {a : CallAnalysis}

/-- What an analysis that is not skipped has found. -/
theorem loadInput_ok {session : AttemptId}
    (h : loadInput db a = .ok session) :
    ∃ attempt contact, db.attempt a.callAttemptId = some attempt ∧
      db.contact a.contactId = some contact ∧
      attempt.contactId = a.contactId ∧ contact.campaignId = a.campaignId ∧
      analysisEligible attempt contact = true := by
  unfold loadInput at h
  split at h
  · next attempt contact hattempt hcontact =>
    split at h
    · cases h
    · next hrel =>
      obtain ⟨hof, hcamp⟩ := not_or.mp hrel
      split at h
      · cases h
      · next helig =>
        exact ⟨attempt, contact, hattempt, hcontact, not_not.mp hof,
          not_not.mp hcamp, by simpa using helig⟩
  · cases h

/-- An analysis is not skipped as long as nothing has changed since its
admission, once its session exists. -/
theorem enqueueCallAnalysis_loads (ha : db.attempt aid = some attempt)
    (hc : db.contact attempt.contactId = some contact)
    (hs : db.sessions.contains aid = true)
    (h : enqueueCallAnalysis db aid attempt contact = some a) :
    loadInput db a = .ok aid := by
  unfold enqueueCallAnalysis at h
  split at h
  · next helig =>
    obtain rfl := Option.some.inj h
    simp only [loadInput, ha, hc, helig, Db.conversationSession, hs]
    simp
  · cases h

end

end CallingAgent
