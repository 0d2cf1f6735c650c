import CallingAgent.Conversation.Policy
import CallingAgent.Services.Recovery
import CallingAgent.Services.Suppression

/-!
# Orchestrator — turns, barge-ins and endings of one conversation

A finalized utterance starts a turn. The turn asks the model for an
output, decides on it, and speaks; while it waits for the model or for
speech synthesis the caller may interrupt, fall silent, speak again or
hang up. So a conversation is a state and a set of turns that wait, and
each answer, utterance or interruption is one step.
-/

namespace CallingAgent

open Lib

/-! ## State -/

/-- `MAX_LLM_RETRIES` -/
def maxLlmRetries : Nat := 1
/-- `MAX_RESPONSE_REGENERATIONS` -/
def maxResponseRegenerations : Nat := 1
/-- `MAX_SILENCE_PROMPTS` -/
def maxSilencePrompts : Nat := 1
/-- `MAX_CONVERSATION_TURNS` -/
def maxConversationTurns : Nat := 40
/-- `MAX_CONVERSATION_DURATION_SECONDS` -/
def maxConversationDuration : Int := 1800 * second

inductive ConversationRole where
  | agent
  | contact
  | system
  deriving DecidableEq, Repr

structure WorkingMemory where
  capturedEntities : List (String × String) := []
  phase : ConversationPhase := .opening
  completedPoints : List String := []
  pendingPoints : List String := []
  objectionsRaised : List String := []
  lastAgentUtterance : Option String := none
  disconnectCount : Nat := 0
  requiresSuppression : Bool := false

/-- What a turn waits for. -/
inductive TurnPhase where
  /-- the model: failures of the current call so far, and how often the
  response was regenerated -/
  | generating (failures regenerations : Nat)
  /-- speech synthesis of a decided output -/
  | speaking (output : StructuredOutput) (decision : PolicyDecision)
  deriving DecidableEq, Repr

structure Turn where
  id : Nat
  utterance : String
  /-- the generation the turn began in -/
  generation : Nat
  phase : TurnPhase := .generating 0 0
  /-- not in the source: an opt-out of this turn was received before the
  conversation ended -/
  owed : Bool := false

/-- One conversation: the orchestrator's fields, its rows, and the turns
that wait. -/
structure Conversation where
  db : Db
  contactId : ContactId
  attemptId : AttemptId
  startedAt : Instant
  memory : WorkingMemory := {}
  messages : List (ConversationRole × String) := []
  generation : Nat := 0
  consecutiveDeclines : Nat := 0
  consecutiveUnclear : Nat := 0
  silencePromptsSent : Nat := 0
  turnCount : Nat := 0
  endReason : Option EndReason := none
  turns : List Turn := []
  /-- what the recovery manager scheduled when the call dropped -/
  retry : Option (RecoveryJob × Instant) := none
  /-- not in the source: a turn that owed an opt-out is over -/
  optOutDue : Bool := false

namespace Conversation

variable (env : Env) (s : Conversation)

/-- `self.ended` -/
def ended : Bool := s.endReason.isSome

def turn (id : Nat) : Option Turn := s.turns.find? fun t => t.id == id

def setTurn (t : Turn) : Conversation :=
  { s with turns := s.turns.map fun u => if u.id = t.id then t else u }

/-- The turn's handler returns. -/
def closeTurn (t : Turn) : Conversation :=
  { s with turns := s.turns.filter fun u => u.id ≠ t.id
           optOutDue := s.optOutDue || t.owed }

/-! ## Endings -/

/-- The status a policy-driven ending gives the contact. -/
def endingStatus (reason : EndReason) (pendingPoints : List String) :
    ContactStatus :=
  if reason = .optOut then .closed
  else if pendingPoints = []
      ∧ (reason = .endCallGoalMet ∨ reason = .wrapUp) then .completed
  else .completedPartial

/-- The rows `_end_conversation` writes. -/
def endingRows (db : Db) (attemptId : AttemptId) (contactId : ContactId)
    (status : ContactStatus) (now : Instant) : Db :=
  ((db.logEvent attemptId .conversationEnded now).modifyAttempt attemptId
      fun a => { a with state := .endedNormally, endedAt := some now })
    |>.modifyContact contactId fun c => { c with status }

/-- `_end_conversation`: once only. -/
def endConversation (reason : EndReason) (now : Instant) : Conversation :=
  if s.ended then s
  else { s with
    endReason := some reason
    db := endingRows s.db s.attemptId s.contactId
      (endingStatus reason s.memory.pendingPoints) now }

/-- The rows `handle_disconnect` writes: the attempt dropped, and the
recovery manager's decision on the contact, which is disconnected by
then. -/
def disconnectRows (db : Db) (attemptId : AttemptId) (contactId : ContactId)
    (reason : MidCallDisconnectReason) (now : Instant) :
    Db × Option (RecoveryJob × Instant) :=
  let dropped := ((db.logEvent attemptId .conversationDisconnected
      now).modifyAttempt attemptId fun a =>
        { a with state := .droppedMidCall, disconnectReason := some reason,
                 endedAt := some now })
    |>.modifyContact contactId fun c => { c with status := .disconnected }
  match dropped.attempt attemptId, dropped.contact contactId with
  | some attempt, some contact =>
      match dropped.campaign contact.campaignId with
      | none => (dropped, none)
      | some campaign =>
          let e := handleDisconnect env dropped contactId contact campaign
            { attemptId, attemptNumber := attempt.attemptNumber,
              neverConnected := false, reasonKey := reason.value } now
          ((dropped.setContact contactId e.contact).logEvent attemptId e.event
            now, e.entry)
  | _, _ => (dropped, none)

/-- `handle_disconnect` -/
def disconnect (reason : MidCallDisconnectReason) (now : Instant) :
    Conversation :=
  if s.ended then s
  else
    let r := disconnectRows env s.db s.attemptId s.contactId reason now
    { s with
      endReason := some (.disconnected reason)
      memory := { s.memory with
        disconnectCount := s.memory.disconnectCount + 1 }
      db := r.1
      retry := r.2 }

/-! ## Applying an output -/

/-- An entity field as `_update_memory` reads it. -/
def captured : Option String → Option String
  | some v => if v.toList = [] ∨ v = notCaptured then none else some v
  | none => none

/-- The fields of `_update_memory`, with their names. -/
def Entities.fields (e : Entities) : List (String × Option String) :=
  [("interest_level", some e.interestLevel), ("objection", e.objection),
   ("follow_up_preference", e.followUpPreference),
   ("decision_maker_status", some e.decisionMakerStatus),
   ("free_text_feedback", e.freeTextFeedback)]

/-- One captured field: stored, and its point of the script is done. -/
def captureField (m : WorkingMemory) (field : String × Option String) :
    WorkingMemory :=
  match captured field.2 with
  | none => m
  | some v =>
      let m := { m with capturedEntities :=
        (field.1, v) :: m.capturedEntities.filter fun x => x.1 ≠ field.1 }
      if field.1 ∈ m.pendingPoints then
        { m with pendingPoints := m.pendingPoints.erase field.1
                 completedPoints := m.completedPoints ++ [field.1] }
      else m

/-- `_update_memory` -/
def updateMemory (m : WorkingMemory) (o : StructuredOutput) : WorkingMemory :=
  let m := (Entities.fields o.entities).foldl captureField m
  let m := match o.entities.objection with
    | some obj => if obj.toList = [] then m
        else { m with objectionsRaised := m.objectionsRaised ++ [obj] }
    | none => m
  { m with requiresSuppression := m.requiresSuppression || o.requiresSuppression }

/-- `_apply_suppression`, on the rows. -/
def suppress : Db :=
  match s.db.contact s.contactId with
  | none => s.db
  | some contact => applySuppression env s.db s.contactId contact

/-- `_apply_output` up to its speech: memory, counters, the decision, and
the suppression of an opt-out. Nothing here asks whether the conversation
has ended. -/
def applyOutput (t : Turn) (o : StructuredOutput) : Conversation :=
  let memory := updateMemory s.memory o
  let declines := if o.intent = .negative then s.consecutiveDeclines + 1 else 0
  let unclear := if o.intent = .unclear then s.consecutiveUnclear + 1 else 0
  let decision := decidePolicy env memory.phase o t.utterance declines unclear
    (memory.pendingPoints ≠ [])
  { s with
    memory := { memory with phase := decision.nextPhase }
    consecutiveDeclines := declines
    consecutiveUnclear := unclear
    db := if decision.optOutDetected then s.suppress env else s.db }
  |>.setTurn { t with phase := .speaking o decision }

/-- The memory after `_speak`. With the end of the conversation the audio
session is stopped: `send_outbound_audio` raises then, and the utterance is
not noted any more. -/
def noteUtterance (t : Turn) (o : StructuredOutput) (synthesized : Bool) :
    WorkingMemory :=
  if synthesized ∧ t.generation = s.generation ∧ s.ended then s.memory
  else { s.memory with lastAgentUtterance := some o.responseText }

/-- The rest of `_apply_output`: what is spoken is kept unless it went
stale, and a terminating decision ends the conversation, which it does once
only. -/
def finishOutput (t : Turn) (o : StructuredOutput) (decision : PolicyDecision)
    (synthesized : Bool) (now : Instant) : Conversation :=
  let spoken := { s with
    messages := if synthesized ∧ t.generation = s.generation then
        s.messages ++ [(ConversationRole.agent, o.responseText)] else s.messages
    memory := s.noteUtterance t o synthesized }
  let closed := spoken.closeTurn t
  match decision.termination with
  | some reason => closed.endConversation reason now
  | none => closed

/-! ## The model's answers -/

/-- What one call of the model gave. -/
inductive LlmAnswer where
  | output (o : StructuredOutput)
  /-- `LLMTimeoutError` or `LLMProviderError` -/
  | failed
  deriving DecidableEq, Repr

/-- `_FALLBACK_RESPONSE` -/
def fallbackResponse : String :=
  "I'm sorry, I'm having trouble understanding. I'll follow up another time."

/-- `_fallback_output` -/
def fallbackOutput : StructuredOutput where
  intent := .unclear
  nextAction := .endCallPolite
  responseText := fallbackResponse

/-- Where an answer leaves `_generate_validated_response`. -/
inductive Generation where
  /-- the model is called again -/
  | again (failures regenerations : Nat)
  | done (o : StructuredOutput)
  deriving DecidableEq, Repr

/-- `_generate_validated_response` with `_call_llm_with_retries`, by one
answer: bounded retries of a failed call, bounded regenerations of a
rejected response, then the fallback. It always gives an output. -/
def generate (failures regenerations : Nat) : LlmAnswer → Generation
  | .failed =>
      if failures < maxLlmRetries then .again (failures + 1) regenerations
      else .done fallbackOutput
  | .output o =>
      if validateResponse o then .done o
      else if regenerations < maxResponseRegenerations then
        .again 0 (regenerations + 1)
      else .done fallbackOutput

/-! ## Steps -/

/-- The utterance is over one of the conversation's limits. -/
def overLimit (now : Instant) : Bool :=
  s.turnCount + 1 > maxConversationTurns
    || now - s.startedAt > maxConversationDuration

/-- `handle_final_utterance`, up to the first call of the model. -/
def handleFinalUtterance (text : String) (now : Instant) : Conversation :=
  if s.ended then s
  else
    let s' := { s with turnCount := s.turnCount + 1 }
    let owed := detectOptOut env text
    if s'.turnCount > maxConversationTurns then
      { s'.endConversation .maxTurnsReached now with
        optOutDue := s.optOutDue || owed }
    else if now - s.startedAt > maxConversationDuration then
      { s'.endConversation .maxDurationReached now with
        optOutDue := s.optOutDue || owed }
    else { s' with
      silencePromptsSent := 0
      messages := s.messages ++ [(ConversationRole.contact, text)]
      turns := s.turns ++
        [{ id := s'.turnCount, utterance := text, generation := s.generation,
           owed }] }

/-- The model answers a waiting turn; the rest of `handle_final_utterance`
once there is an output. -/
def answerTurn (t : Turn) (failures regenerations : Nat)
    (answer : LlmAnswer) : Conversation :=
  let flagged := match answer with
    | .output o => o.requiresSuppression && !s.ended
    | .failed => false
  let t := { t with owed := t.owed || flagged }
  match generate failures regenerations answer with
  | .again f r => s.setTurn { t with phase := .generating f r }
  | .done o =>
      -- a barge-in while generating makes the whole turn stale
      if t.generation ≠ s.generation then s.closeTurn t
      else s.applyOutput env t o

/-- `handle_silence` -/
def handleSilence (synthesized : Bool) (now : Instant) : Conversation :=
  if s.ended then s
  else if s.silencePromptsSent < maxSilencePrompts then
    { s with
      silencePromptsSent := s.silencePromptsSent + 1
      messages := if synthesized then
          s.messages ++ [(ConversationRole.agent, "Are you still there?")] else s.messages }
  else s.endConversation .silenceTimeout now

/-- `on_barge_in` -/
def onBargeIn : Conversation := { s with generation := s.generation + 1 }

end Conversation

inductive ConversationAct where
  | utterance (text : String) (now : Instant)
  | llm (turn : Nat) (answer : Conversation.LlmAnswer)
  /-- speech synthesis returns to a turn -/
  | tts (turn : Nat) (synthesized : Bool) (now : Instant)
  | bargeIn
  | silence (synthesized : Bool) (now : Instant)
  | disconnect (reason : MidCallDisconnectReason) (now : Instant)

open Conversation in
/-- One step of a conversation; an answer nobody waits for is no step. -/
def conversationStep (env : Env) (s : Conversation) :
    ConversationAct → Option Conversation
  | .utterance text now => some (s.handleFinalUtterance env text now)
  | .llm id answer =>
      match s.turn id with
      | some t =>
          match t.phase with
          | .generating f r => some (s.answerTurn env t f r answer)
          | .speaking .. => none
      | none => none
  | .tts id synthesized now =>
      match s.turn id with
      | some t =>
          match t.phase with
          | .speaking o decision =>
              some (s.finishOutput t o decision synthesized now)
          | .generating .. => none
      | none => none
  | .bargeIn => some s.onBargeIn
  | .silence synthesized now => some (s.handleSilence synthesized now)
  | .disconnect reason now => some (s.disconnect env reason now)

/-! ## Every turn ends -/

/-- The turn an action answers. -/
def ConversationAct.answers : ConversationAct → Option Nat
  | .llm id _ | .tts id _ _ => some id
  | _ => none

/-- A bound on the answers a turn still waits for. -/
def Turn.rank (t : Turn) : Nat :=
  match t.phase with
  | .generating f r =>
      2 * (maxResponseRegenerations - r) + (maxLlmRetries - f) + 2
  | .speaking .. => 1

namespace Conversation

variable {env : Env} {s s' : Conversation} {t t' : Turn}

theorem turn_id {id : Nat} (h : s.turn id = some t) : t.id = id := by
  simpa using List.find?_some h

theorem turn_setTurn (h : s.turn t'.id = some t) :
    (s.setTurn t').turn t'.id = some t' := by
  show (s.turns.map _).find? _ = _
  have hp : ((fun u : Turn => u.id == t'.id) ∘
      fun u : Turn => if u.id = t'.id then t' else u)
      = fun u => u.id == t'.id := by
    funext u
    by_cases hu : u.id = t'.id <;> simp [hu]
  rw [List.find?_map, hp]
  show Option.map _ (s.turn t'.id) = _
  rw [h, Option.map_some, if_pos (turn_id h)]

theorem turn_closeTurn : (s.closeTurn t).turn t.id = none := by
  show (s.turns.filter _).find? _ = none
  simp [List.find?_eq_none]

@[simp] theorem turns_endConversation (reason : EndReason) (now : Instant) :
    (s.endConversation reason now).turns = s.turns := by
  unfold endConversation
  split <;> rfl

theorem generate_rank {f r f' r' : Nat} {answer : LlmAnswer}
    (h : generate f r answer = .again f' r') :
    2 * (maxResponseRegenerations - r') + (maxLlmRetries - f')
      < 2 * (maxResponseRegenerations - r) + (maxLlmRetries - f) := by
  cases answer with
  | failed =>
      simp only [generate] at h
      split at h
      · cases h; omega
      · cases h
  | output o =>
      simp only [generate] at h
      split at h
      · cases h
      · split at h
        · next hlt =>
          cases h
          simp only [maxResponseRegenerations, maxLlmRetries] at hlt ⊢
          omega
        · cases h

/-- **Every turn ends.** Each answer to a waiting turn closes it or brings
it closer to its end, and an opt-out it owes stays owed. -/
theorem answer_progress {a : ConversationAct} {id : Nat}
    (ha : a.answers = some id) (ht : s.turn id = some t)
    (hst : conversationStep env s a = some s') :
    s'.turn id = none ∨ ∃ t', s'.turn id = some t' ∧ t'.rank < t.rank ∧
      (t.owed = true → t'.owed = true) := by
  have hid := turn_id ht
  subst hid
  cases a with
  | llm id answer =>
      cases ha
      simp only [conversationStep, ht] at hst
      cases hp : t.phase with
      | speaking o d => simp [hp] at hst
      | generating f r =>
          simp only [hp] at hst
          cases hst
          unfold answerTurn
          dsimp only
          cases hg : generate f r answer with
          | again f' r' =>
              refine .inr ⟨_, turn_setTurn ht, ?_, fun h => by simp [h]⟩
              have hr := generate_rank hg
              simp only [Turn.rank, hp]
              omega
          | done o =>
              dsimp only
              split
              · exact .inl turn_closeTurn
              · refine .inr ⟨_, turn_setTurn ht, ?_, fun h => by simp [h]⟩
                simp [Turn.rank, hp]
  | tts id synthesized now =>
      cases ha
      simp only [conversationStep, ht] at hst
      cases hp : t.phase with
      | generating f r => simp [hp] at hst
      | speaking o d =>
          simp only [hp] at hst
          cases hst
          left
          unfold finishOutput
          dsimp only
          split
          · show List.find? _ _ = none
            rw [turns_endConversation]
            exact turn_closeTurn
          · exact turn_closeTurn
  | utterance text now => cases ha
  | bargeIn => cases ha
  | silence synthesized now => cases ha
  | disconnect reason now => cases ha

end Conversation

end CallingAgent
