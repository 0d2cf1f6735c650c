import CallingAgent.Model.Database

/-!
# Reconciliation — provisional failures and their adoption

A trigger whose response was lost is recorded as a failed connect without
a run id. That is provisional: a run can still turn up, and then the
attempt is reopened so that the run's own outcome is not refused.
-/

namespace CallingAgent

/-- `is_unresolved_ambiguous_trigger` -/
def isUnresolvedAmbiguousTrigger (db : Db) (aid : AttemptId)
    (attempt : CallAttempt) : Bool :=
  attempt.state == .failedToConnect && attempt.providerCallId.isNone
    && db.hasEvent aid ambiguousTriggerEvent

/-- `reopen_for_adoption`, the attempt: never connected, the completion
webhook decides what happened. -/
def reopenAttempt (a : CallAttempt) : CallAttempt :=
  { a with state := .initiated, endedAt := none,
           connectionFailureReason := none }

/-- `reopen_for_adoption`, the contact. -/
def reopenContact (c : Contact) : Contact := { c with status := .dialing }

theorem unresolved_iff {db : Db} {aid : AttemptId} {a : CallAttempt} :
    isUnresolvedAmbiguousTrigger db aid a = true ↔
      a.state = .failedToConnect ∧ a.providerCallId = none
        ∧ db.hasEvent aid ambiguousTriggerEvent = true := by
  simp [isUnresolvedAmbiguousTrigger, and_assoc]

end CallingAgent
