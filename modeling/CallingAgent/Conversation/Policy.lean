import CallingAgent.Lib.Text
import CallingAgent.Model.Settings

/-!
# Policy — the deterministic layer over the model's proposals

The model proposes an intent, a next action and a text; what is decided
here is whether the text may be spoken, which phase follows, and whether
the call ends. An opt-out is detected in the caller's own words as well as
in the model's flag, and comes before every other rule.
-/

namespace CallingAgent

open Lib

/-! ## What a turn is made of -/

inductive ConversationPhase where
  | opening
  | discovery
  | objectionHandling
  | closing
  | wrapUp
  deriving DecidableEq, Repr

inductive Intent where
  | affirmative
  | negative
  | question
  | objection
  | requestCallback
  | requestHuman
  | offTopic
  | endCall
  | unclear
  deriving DecidableEq, Repr

inductive NextAction where
  | continueScript
  | answerQuestion
  | handleObjection
  | confirmAndClose
  | escalateToHumanOffer
  | endCallPolite
  | endCallGoalMet
  deriving DecidableEq, Repr

/-- Why a conversation ended (`end_reason`). -/
inductive EndReason where
  | optOut
  | endCallPolite
  | endCallGoalMet
  | repeatedDecline
  | repeatedUnclear
  | wrapUp
  | silenceTimeout
  | maxTurnsReached
  | maxDurationReached
  | aiFailure
  | disconnected (reason : MidCallDisconnectReason)
  deriving DecidableEq, Repr

/-- `NOT_CAPTURED` -/
def notCaptured : String := "not_captured"

structure Entities where
  interestLevel : String := notCaptured
  objection : Option String := none
  followUpPreference : Option String := none
  decisionMakerStatus : String := notCaptured
  freeTextFeedback : Option String := none
  deriving DecidableEq, Repr

structure StructuredOutput where
  intent : Intent
  entities : Entities := {}
  nextAction : NextAction
  responseText : String
  requiresSuppression : Bool := false
  deriving DecidableEq, Repr

/-! ## Rules -/

/-- `MAX_RESPONSE_CHARS` -/
def maxResponseChars : Nat := 1000
/-- `MAX_CONSECUTIVE_DECLINES` -/
def maxConsecutiveDeclines : Nat := 2
/-- `MAX_CONSECUTIVE_UNCLEAR` -/
def maxConsecutiveUnclear : Nat := 2

/-- `_OPT_OUT_PHRASES` -/
def optOutPhrases : List String :=
  ["stop calling", "don't call", "do not call", "remove me", "no more calls"]

/-- `detect_opt_out` -/
def detectOptOut (env : Env) (utterance : String) : Bool :=
  optOutPhrases.any fun phrase => contains (env.unicode.lower utterance) phrase

/-- `validate_response` -/
def validateResponse (o : StructuredOutput) : Bool :=
  (strip o.responseText).toList ≠ [] && o.responseText.length ≤ maxResponseChars

/-- `_ROUTING` -/
def routing : ConversationPhase → Intent → Option ConversationPhase
  | .opening, .affirmative | .opening, .question => some .discovery
  | .discovery, .objection => some .objectionHandling
  | .closing, .affirmative => some .wrapUp
  | .wrapUp, _ => none
  | _, .negative | _, .endCall | _, .requestHuman | _, .requestCallback =>
      some .wrapUp
  | _, _ => none

/-- `_route`: the table, then what an affirmation leads to, else the same
phase. -/
def route (phase : ConversationPhase) (intent : Intent)
    (hasPendingRequiredFields : Bool) : ConversationPhase :=
  match routing phase intent with
  | some next => next
  | none =>
      if (phase = .discovery ∨ phase = .objectionHandling)
          ∧ intent = .affirmative then
        if hasPendingRequiredFields then .discovery else .closing
      else phase

structure PolicyDecision where
  nextPhase : ConversationPhase
  /-- `should_terminate` with its `termination_reason` -/
  termination : Option EndReason := none
  optOutDetected : Bool := false
  deriving DecidableEq, Repr

/-- `_TERMINAL_NEXT_ACTIONS`, with the reason each gives. -/
def NextAction.terminal : NextAction → Option EndReason
  | .endCallPolite => some .endCallPolite
  | .endCallGoalMet => some .endCallGoalMet
  | _ => none

/-- `PolicyEngine.decide` -/
def decidePolicy (env : Env) (phase : ConversationPhase)
    (o : StructuredOutput) (utterance : String)
    (consecutiveDeclines consecutiveUnclear : Nat)
    (hasPendingRequiredFields : Bool) : PolicyDecision :=
  if o.requiresSuppression || detectOptOut env utterance then
    ⟨.wrapUp, some .optOut, true⟩
  else
    match o.nextAction.terminal with
    | some reason => ⟨.wrapUp, some reason, false⟩
    | none =>
        if o.intent = .negative
            ∧ consecutiveDeclines ≥ maxConsecutiveDeclines then
          ⟨.wrapUp, some .repeatedDecline, false⟩
        else if o.intent = .unclear
            ∧ consecutiveUnclear ≥ maxConsecutiveUnclear then
          ⟨.wrapUp, some .repeatedUnclear, false⟩
        else
          let next := route phase o.intent hasPendingRequiredFields
          ⟨next, if next = .wrapUp then some .wrapUp else none, false⟩

section

variable {env : Env} {phase : ConversationPhase} {o : StructuredOutput}
  {utterance : String} {declines unclear : Nat} {pending : Bool}

/-- **An opt-out comes first**: it is decided exactly when the model flags
it or the caller's words contain a phrase, whatever else holds. -/
theorem decidePolicy_optOut_iff :
    (decidePolicy env phase o utterance declines unclear pending).optOutDetected
        = true ↔
      o.requiresSuppression = true ∨ detectOptOut env utterance = true := by
  unfold decidePolicy
  constructor
  · intro h
    by_contra hn
    rw [if_neg (by simpa using hn)] at h
    cases ho : o.nextAction.terminal <;> simp only [ho] at h
    · split at h
      · cases h
      · split at h <;> cases h
    · cases h
  · intro h
    rw [if_pos (by simpa using h)]

/-- The opt-out reason is given for an opt-out and for nothing else. -/
theorem decidePolicy_termination_iff :
    (decidePolicy env phase o utterance declines unclear pending).termination
        = some .optOut ↔
      (decidePolicy env phase o utterance declines unclear
        pending).optOutDetected = true := by
  have ht : o.nextAction.terminal ≠ some .optOut := by
    cases o.nextAction <;> simp [NextAction.terminal]
  unfold decidePolicy
  grind

end

end CallingAgent
