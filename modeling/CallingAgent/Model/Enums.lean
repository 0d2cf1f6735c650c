/-!
# Enumerations — the states and reason taxonomies of the call model

One inductive type for each enumeration of the source, with the stored
text of a value where a decision is keyed on that text.
-/

namespace CallingAgent

inductive ContactStatus where
  | pending
  | dialing
  | inConversation
  | disconnected
  | retryScheduled
  | reconnecting
  | completed
  | completedPartial
  | closed
  | needsReview
  deriving DecidableEq, Repr

inductive CampaignStatus where
  | draft
  | active
  | paused
  | completed
  deriving DecidableEq, Repr

/-- The stored value of a campaign status. -/
def CampaignStatus.value : CampaignStatus → String
  | .draft => "draft"
  | .active => "active"
  | .paused => "paused"
  | .completed => "completed"

inductive CallAttemptState where
  | initiated
  | connected
  | failedToConnect
  | droppedMidCall
  | endedNormally
  deriving DecidableEq, Repr

/-- An attempt in one of these has an outcome; no transition leaves it
except the adoption of a run for a provisional failure. -/
def CallAttemptState.isTerminal : CallAttemptState → Bool
  | .endedNormally | .droppedMidCall | .failedToConnect => true
  | .initiated | .connected => false

/-- A call may be in progress. -/
def CallAttemptState.isLive (s : CallAttemptState) : Bool := !s.isTerminal

inductive NeverConnectedFailureReason where
  | noAnswer
  | busy
  | invalidNumber
  | rejected
  | networkError
  | providerError
  deriving DecidableEq, Repr

def NeverConnectedFailureReason.value : NeverConnectedFailureReason → String
  | .noAnswer => "no_answer"
  | .busy => "busy"
  | .invalidNumber => "invalid_number"
  | .rejected => "rejected"
  | .networkError => "network_error"
  | .providerError => "provider_error"

inductive MidCallDisconnectReason where
  | technicalIssue
  | networkProblem
  | providerError
  | aiError
  | unknown
  | customerHangup
  deriving DecidableEq, Repr

def MidCallDisconnectReason.value : MidCallDisconnectReason → String
  | .technicalIssue => "technical_issue"
  | .networkProblem => "network_problem"
  | .providerError => "provider_error"
  | .aiError => "ai_error"
  | .unknown => "unknown"
  | .customerHangup => "customer_hangup"

inductive SuppressionSource where
  | agentInCall
  | manualApi
  deriving DecidableEq, Repr

/-- The per-attempt event log: the types some decision of the code reads
or that stand between two such events. -/
inductive EventType where
  /-- `DOGRAH_TRIGGER_AMBIGUOUS` -/
  | dograhTriggerAmbiguous
  /-- `DOGRAH_TRIGGER_FAILED` -/
  | dograhTriggerFailed
  /-- `DOGRAH_CONFIGURATION_ERROR` -/
  | dograhConfigurationError
  /-- `DOGRAH_CALL_TRIGGERED` -/
  | dograhCallTriggered
  /-- `DOGRAH_TRIGGER_RECONCILED` -/
  | dograhTriggerReconciled
  /-- `DOGRAH_RECONCILE_MULTIPLE` -/
  | dograhReconcileMultiple
  /-- `DOGRAH_PROVIDER_HALT_HELD` -/
  | dograhProviderHaltHeld
  /-- `DOGRAH_PROVIDER_HALT_RESUMED` -/
  | dograhProviderHaltResumed
  /-- `RECOVERY_SCHEDULED` -/
  | recoveryScheduled
  /-- `RECOVERY_TERMINALIZED` -/
  | recoveryTerminalized
  /-- `RECOVERY_SKIPPED` -/
  | recoverySkipped
  /-- `RECONNECT_STARTED` -/
  | reconnectStarted
  /-- `SWEEPER_NEEDS_REVIEW` -/
  | sweeperNeedsReview
  /-- `conversation_ended` -/
  | conversationEnded
  /-- `conversation_disconnected` -/
  | conversationDisconnected
  deriving DecidableEq, Repr

/-- `HELD_EVENT_TYPE` -/
abbrev heldEventType : EventType := .dograhProviderHaltHeld
/-- `RESUMED_EVENT_TYPE` -/
abbrev resumedEventType : EventType := .dograhProviderHaltResumed
/-- `AMBIGUOUS_TRIGGER_EVENT` -/
abbrev ambiguousTriggerEvent : EventType := .dograhTriggerAmbiguous

/-- Which pipeline places calls (`CALLING_ENGINE`). -/
inductive CallingEngine where
  | dograh
  | native
  deriving DecidableEq, Repr

end CallingAgent
