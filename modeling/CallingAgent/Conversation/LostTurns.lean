import CallingAgent.Conversation.Progress

/-!
# Lost turns — what an answer leaves that comes too late

The orchestrator looks at the generation after each call of the model and
of the synthesizer, and at the ended flag when an event comes in. An
answer that comes after the end is still applied, and the message of its
speech is persisted before the stopped audio session refuses it; and the
memory names an utterance that could not be synthesized. So a turn that lost
its right to act leaves no trace under a condition on each answer: it comes
before the end or is discarded, and what a turn says is heard.
-/

namespace CallingAgent

open Lib

/-- An AGENT message that was persisted; its audio is sent next. -/
structure Said where
  text : String
  byTurn : Bool
  /-- the generation its output was computed under -/
  computed : Nat
  /-- the generation and the ended flag when it was persisted -/
  current : Nat
  ended : Bool
  deriving DecidableEq, Repr

/-- `send_outbound_audio`: with the end of the conversation the audio session
was stopped, and it raises. -/
def sendOutboundAudio (audio : List Said) (x : Said) : List Said :=
  if x.ended then audio else audio ++ [x]

/-- What a conversation leaves behind. -/
structure Remains where
  memory : WorkingMemory
  status : Option ContactStatus
  attempt : Option CallAttempt

/-- The AGENT messages of the session. -/
def Conversation.agentMessages (s : Conversation) : List String :=
  s.messages.filterMap fun m => if m.1 = .agent then some m.2 else none

def Conversation.remains (s : Conversation) : Remains where
  memory := s.memory
  status := (s.db.contact s.contactId).map (·.status)
  attempt := s.db.attempt s.attemptId

/-- A conversation with the speech it still waits for outside its turns,
and a record of what was done. -/
structure LiveCall where
  talk : Conversation
  /-- the generations of the silence prompts under synthesis -/
  prompts : List Nat := []
  /-- not in the source: the AGENT messages that were persisted -/
  said : List Said := []
  /-- not in the source: and those whose audio was sent -/
  audio : List Said := []
  /-- not in the source: how many turns have spoken -/
  completed : Nat := 0
  /-- not in the source: what the conversation had left when it ended, or
  leaves by now -/
  left : Remains

inductive LiveAct where
  /-- a step of the conversation, silence apart -/
  | talk (a : ConversationAct)
  | silence (now : Instant)
  /-- speech synthesis returns to a silence prompt -/
  | prompted (generation : Nat) (synthesized : Bool)

/-- The text `handle_silence` speaks. -/
def silencePrompt : String := "Are you still there?"

open Conversation in
/-- What a step of the conversation persists as said by the agent. -/
def Conversation.utters (s : Conversation) : ConversationAct → List Said
  | .tts id synthesized _ =>
      match s.turn id with
      | some t =>
          match t.phase with
          | .speaking o _ =>
              if synthesized ∧ t.generation = s.generation then
                [{ text := o.responseText, byTurn := true,
                   computed := t.generation, current := s.generation,
                   ended := s.ended }]
              else []
          | .generating .. => []
      | none => []
  | _ => []

namespace LiveCall

/-- The conversation goes on as `t`. -/
def follow (s : LiveCall) (t : Conversation) : LiveCall :=
  { s with talk := t
           left := if s.talk.ended then s.left else t.remains }

/-- Messages are persisted, and then their audio is sent. -/
def speak (s : LiveCall) (messages : List Said) : LiveCall :=
  { s with said := s.said ++ messages
           audio := messages.foldl sendOutboundAudio s.audio }

end LiveCall

open Conversation in
/-- One step of a live call. `handle_silence` speaks in two: the prompt is
sent to synthesis, and later it returns. -/
def liveStep (env : Env) (s : LiveCall) : LiveAct → Option LiveCall
  | .talk (.silence ..) => none
  | .talk a => (conversationStep env s.talk a).map fun t =>
      { (s.follow t).speak (s.talk.utters a) with
        completed := s.completed + if answers s.talk a t then 1 else 0 }
  | .silence now =>
      if s.talk.ended then some s
      else if s.talk.silencePromptsSent < maxSilencePrompts then
        some { s.follow { s.talk with
            silencePromptsSent := s.talk.silencePromptsSent + 1 } with
          prompts := s.prompts ++ [s.talk.generation] }
      else some (s.follow (s.talk.endConversation .silenceTimeout now))
  | .prompted g synthesized =>
      if g ∈ s.prompts then
        let spoken := synthesized ∧ g = s.talk.generation
        some { (s.follow { s.talk with
            messages := if spoken then
              s.talk.messages ++ [(ConversationRole.agent, silencePrompt)]
              else s.talk.messages }).speak (if spoken then
                [{ text := silencePrompt, byTurn := false, computed := g
                   current := s.talk.generation, ended := s.talk.ended }]
              else []) with
          prompts := s.prompts.erase g }
      else none

namespace LiveCall

variable (s : LiveCall)

/-- The last AGENT message a turn persisted. -/
def lastSaid : Option String :=
  (s.said.filterMap fun x => if x.byTurn then some x.text else none).getLast?

/-- A call that has just started, with a new or a restored memory. -/
structure Started : Prop where
  opened : s.talk.Opened
  messages : s.talk.messages = []
  prompts : s.prompts = []
  said : s.said = []
  audio : s.audio = []
  completed : s.completed = 0
  left : s.left = s.talk.remains

/-- **No trace.** -/
structure Traceless : Prop where
  /-- no audio was sent for an older generation or after the end -/
  sent : ∀ x ∈ s.audio, x.computed = x.current ∧ x.ended = false
  /-- nor was an AGENT message persisted -/
  persisted : s.talk.agentMessages = s.said.map (·.text) ∧
    ∀ x ∈ s.said, x.computed = x.current ∧ x.ended = false
  /-- memory, contact status and attempt are as the end left them -/
  left : s.left = s.talk.remains
  /-- after a completed turn the memory names the last message of a turn -/
  lastWord : s.completed ≠ 0 →
    s.talk.memory.lastAgentUtterance = s.lastSaid

/-- The answer has a right to act, or leaves no trace: an output comes
before the end or for a stale turn; what a turn says is heard before the
end, or is what the last turn said; a prompt is heard before the end. -/
def rightful : LiveAct → Bool
  | .talk (.llm id answer) => (s.talk.turn id).all fun t =>
      match t.phase with
      | .generating f r =>
          match Conversation.generate f r answer with
          | .done _ => !s.talk.ended || t.generation ≠ s.talk.generation
          | .again .. => true
      | .speaking .. => true
  | .talk (.tts id synthesized _) => (s.talk.turn id).all fun t =>
      match t.phase with
      | .speaking o _ =>
          if synthesized ∧ t.generation = s.talk.generation then !s.talk.ended
          else s.lastSaid = some o.responseText
      | .generating .. => true
  | .prompted g synthesized =>
      !s.talk.ended || !(synthesized && g = s.talk.generation)
  | _ => true

end LiveCall

/-! ## What a step of the conversation leaves alone -/

namespace Conversation

variable {env : Env} {s s' : Conversation} {t : Turn}

@[simp] theorem messages_endConversation (reason : EndReason)
    (now : Instant) :
    (s.endConversation reason now).messages = s.messages := by
  unfold endConversation
  split <;> rfl

theorem agentMessages_congr (h : s'.messages = s.messages) :
    s'.agentMessages = s.agentMessages := by
  simp only [agentMessages, h]

/-- A captured field is no word of the agent's. -/
theorem lastWord_captureField (m : WorkingMemory)
    (field : String × Option String) :
    (captureField m field).lastAgentUtterance = m.lastAgentUtterance := by
  unfold captureField
  cases captured field.2 with
  | none => rfl
  | some v =>
      dsimp only
      split <;> rfl

theorem lastWord_fold (fields : List (String × Option String))
    (m : WorkingMemory) :
    (fields.foldl captureField m).lastAgentUtterance
      = m.lastAgentUtterance := by
  induction fields generalizing m with
  | nil => rfl
  | cons field fields ih => exact (ih _).trans (lastWord_captureField m field)

theorem lastWord_updateMemory (m : WorkingMemory) (o : StructuredOutput) :
    (updateMemory m o).lastAgentUtterance = m.lastAgentUtterance := by
  rw [← lastWord_fold (Entities.fields o.entities) m]
  unfold updateMemory
  dsimp only
  split
  · split <;> rfl
  · rfl

/-- Nothing is said in a step but by speech that returns. -/
theorem said_step {a : ConversationAct} (hno : answers s a s' = false)
    (hsilent : ∀ synthesized now, a ≠ .silence synthesized now)
    (hst : conversationStep env s a = some s') :
    s'.agentMessages = s.agentMessages ∧
      s'.memory.lastAgentUtterance = s.memory.lastAgentUtterance := by
  cases a with
  | utterance text now =>
      cases hst
      unfold handleFinalUtterance
      dsimp only
      split
      · exact ⟨rfl, rfl⟩
      · split
        · exact ⟨agentMessages_congr (by simp), by simp⟩
        · split
          · exact ⟨agentMessages_congr (by simp), by simp⟩
          · exact ⟨by simp [agentMessages], rfl⟩
  | llm id answer =>
      obtain ⟨t, f, r, -, -, ⟨f', r', rfl⟩ | ⟨-, rfl⟩ | ⟨-, o, -, rfl⟩⟩ :=
        llm_cases hst
      · exact ⟨rfl, rfl⟩
      · exact ⟨rfl, rfl⟩
      · exact ⟨rfl, lastWord_updateMemory s.memory o⟩
  | tts id synthesized now => cases hno
  | bargeIn =>
      cases hst
      exact ⟨rfl, rfl⟩
  | silence synthesized now => exact absurd rfl (hsilent synthesized now)
  | disconnect reason now =>
      cases hst
      unfold disconnect
      split <;> exact ⟨rfl, rfl⟩

section Spoken

variable {o : StructuredOutput} {d : PolicyDecision} {synthesized : Bool}
  {now : Instant}

theorem messages_finishOutput :
    (s.finishOutput t o d synthesized now).messages =
      if synthesized ∧ t.generation = s.generation then
        s.messages ++ [(ConversationRole.agent, o.responseText)]
      else s.messages := by
  rw [finishOutput_eq]
  cases d.termination with
  | none => rfl
  | some reason => exact messages_endConversation _ _

/-- The memory names the output whether or not it was synthesized, unless
the stopped audio session refuses it. -/
theorem lastWord_finishOutput
    (hn : ¬ (synthesized = true ∧ t.generation = s.generation
      ∧ s.ended = true)) :
    (s.finishOutput t o d synthesized now).memory.lastAgentUtterance
      = some o.responseText := by
  have hnoted : (s.noteUtterance t o synthesized).lastAgentUtterance
      = some o.responseText := by
    rw [noteUtterance, if_neg hn]
  rw [finishOutput_eq]
  cases d.termination with
  | none => exact hnoted
  | some reason =>
      show ((s.afterSpeech t o synthesized).endConversation reason
        now).memory.lastAgentUtterance = _
      rw [memory_endConversation]
      exact hnoted

/-- Speech that returns after the end leaves the conversation as it is
where the memory already names it. -/
theorem remains_finishOutput (he : s.ended = true)
    (hword : s.memory.lastAgentUtterance = some o.responseText) :
    (s.finishOutput t o d synthesized now).remains = s.remains := by
  have hnoted : s.noteUtterance t o synthesized = s.memory := by
    unfold noteUtterance
    split
    · rfl
    · rw [← hword]
  have hsame : (s.afterSpeech t o synthesized).remains = s.remains :=
    congrArg (Remains.mk · _ _) hnoted
  rw [finishOutput_eq]
  cases d.termination with
  | none => exact hsame
  | some reason =>
      show ((s.afterSpeech t o synthesized).endConversation reason
        now).remains = _
      rw [endConversation_ended (by exact he)]
      exact hsame

end Spoken

end Conversation

namespace LiveCall

open Conversation

variable {env : Env} {s s' : LiveCall}

/-- Where nothing is said. -/
theorem speak_nil (s : LiveCall) : s.speak [] = s := by
  simp [speak]

/-- **The invariant.** -/
structure Kept (s : LiveCall) : Prop extends s.Traceless where
  /-- a turn that said something is a completed turn -/
  counted : s.completed = 0 → s.lastSaid = none

theorem Kept.of_started (h : s.Started) : s.Kept where
  sent x hx := by rw [h.audio] at hx; cases hx
  persisted := by simp [agentMessages, h.messages, h.said]
  left := h.left
  lastWord hc := absurd h.completed hc
  counted _ := by simp [lastSaid, h.said]

/-- A step in which nothing is said. -/
theorem Kept.quiet (h : s.Kept) {t : Conversation}
    (hmsg : t.agentMessages = s.talk.agentMessages)
    (hword : t.memory.lastAgentUtterance
      = s.talk.memory.lastAgentUtterance)
    (hended : s.talk.ended = true → t.remains = s.talk.remains) :
    (s.follow t).Kept where
  sent := h.sent
  persisted := ⟨hmsg.trans h.persisted.1, h.persisted.2⟩
  left := by
    show (if s.talk.ended then s.left else t.remains) = t.remains
    split
    · next he => exact h.left.trans (hended he).symm
    · rfl
  lastWord hc := hword.trans (h.lastWord hc)
  counted := h.counted

/-- An answer that has a right to act leaves an ended conversation as it
is. -/
theorem remains_step {a : ConversationAct} (hr : s.rightful (.talk a) = true)
    (hno : answers s.talk a s.talk = false)
    (hsilent : ∀ synthesized now, a ≠ .silence synthesized now)
    {t : Conversation} (hst : conversationStep env s.talk a = some t)
    (he : s.talk.ended = true) : t.remains = s.talk.remains := by
  cases a with
  | utterance text now =>
      cases hst
      simp [handleFinalUtterance, he]
  | llm id answer =>
      obtain ⟨u, f, r, hu, hp, ⟨f', r', rfl⟩ | ⟨-, rfl⟩ | ⟨hg, o, hdone, rfl⟩⟩ :=
        llm_cases hst
      · rfl
      · rfl
      · simp [rightful, hu, hp, hdone, he, hg] at hr
  | tts id synthesized now => cases hno
  | bargeIn =>
      cases hst
      rfl
  | silence synthesized now => exact absurd rfl (hsilent synthesized now)
  | disconnect reason now =>
      cases hst
      have hsame : s.talk.disconnect env reason now = s.talk :=
        (endings_once he .wrapUp reason now).2
      rw [hsame]

/-- A step of the conversation, with what it sends. -/
theorem talk_cases {b : ConversationAct}
    (hsilent : ∀ synthesized now, b ≠ .silence synthesized now)
    (hst : liveStep env s (.talk b) = some s') :
    ∃ t, conversationStep env s.talk b = some t ∧
      s' = { (s.follow t).speak (s.talk.utters b) with
        completed := s.completed + if answers s.talk b t then 1 else 0 } := by
  have hmap : liveStep env s (.talk b) =
      (conversationStep env s.talk b).map fun t =>
        { (s.follow t).speak (s.talk.utters b) with
          completed := s.completed + if answers s.talk b t then 1 else 0 } := by
    cases b with
    | silence synthesized now => exact absurd rfl (hsilent synthesized now)
    | _ => rfl
  rw [hmap] at hst
  obtain ⟨t, ht, rfl⟩ := Option.map_eq_some_iff.mp hst
  exact ⟨t, ht, rfl⟩

/-- A step of the conversation in which no speech returns. -/
theorem Kept.unspoken (h : s.Kept) {b : ConversationAct}
    (hno : answers s.talk b s.talk = false)
    (hsilent : ∀ synthesized now, b ≠ .silence synthesized now)
    (hnothing : s.talk.utters b = []) (hr : s.rightful (.talk b) = true)
    (hst : liveStep env s (.talk b) = some s') : s'.Kept := by
  obtain ⟨t, ht, rfl⟩ := talk_cases hsilent hst
  have hno' : answers s.talk b t = false := hno
  obtain ⟨hmsg, hword⟩ := said_step hno' hsilent ht
  rw [hnothing, hno', speak_nil]
  exact h.quiet hmsg hword (remains_step hr hno hsilent ht)

/-- What a turn says is the last thing a turn said. -/
theorem lastSaid_turn {x : Said} (hx : x.byTurn = true)
    (ha : s'.said = s.said ++ [x]) : s'.lastSaid = some x.text := by
  simp [lastSaid, ha, hx]

theorem lastSaid_prompt {x : Said} (hx : x.byTurn = false)
    (ha : s'.said = s.said ++ [x]) : s'.lastSaid = s.lastSaid := by
  simp [lastSaid, ha, hx]

/-- Something is said for the current generation before the end. -/
theorem Kept.uttered (h : s.Kept) {t : Conversation} {x : Said}
    (hx : x.computed = x.current ∧ x.ended = false)
    (hmsg : t.agentMessages = s.talk.agentMessages ++ [x.text]) :
    (∀ y ∈ ((s.follow t).speak [x]).audio,
        y.computed = y.current ∧ y.ended = false) ∧
      t.agentMessages = ((s.follow t).speak [x]).said.map (·.text) ∧
      ∀ y ∈ ((s.follow t).speak [x]).said,
        y.computed = y.current ∧ y.ended = false := by
  have hall : ∀ l : List Said,
      (∀ y ∈ l, y.computed = y.current ∧ y.ended = false) →
      ∀ y ∈ l ++ [x], y.computed = y.current ∧ y.ended = false := by
    intro l hl y hy
    rcases List.mem_append.mp hy with hy | hy
    · exact hl y hy
    · rw [List.mem_singleton.mp hy]
      exact hx
  refine ⟨?_, ?_, hall _ h.persisted.2⟩
  · show ∀ y ∈ sendOutboundAudio s.audio x, _
    rw [sendOutboundAudio, hx.2]
    exact hall _ h.sent
  · show _ = (s.said ++ [x]).map (·.text)
    rw [hmsg, h.persisted.1, List.map_append]
    rfl

/-- Speech returns to a turn that has a right to speak, or says again what
was said last. -/
theorem Kept.spoken (h : s.Kept) {id : Nat} {synthesized : Bool}
    {now : Instant}
    (hr : s.rightful (.talk (.tts id synthesized now)) = true)
    (hst : liveStep env s (.talk (.tts id synthesized now)) = some s') :
    s'.Kept := by
  obtain ⟨t', ht', rfl⟩ := talk_cases (by simp) hst
  obtain ⟨t, o, d, ht, hp, rfl⟩ := tts_cases ht'
  simp only [rightful, ht, hp, Option.all_some] at hr
  simp only [Conversation.utters, ht, hp, answers, if_true]
  by_cases hspoken : synthesized = true ∧ t.generation = s.talk.generation
  · rw [if_pos hspoken] at hr ⊢
    have hopen : s.talk.ended = false := by simpa using hr
    have hmsg : (s.talk.finishOutput t o d synthesized now).agentMessages
        = s.talk.agentMessages ++ [o.responseText] := by
      simp [agentMessages, messages_finishOutput, hspoken]
    obtain ⟨hsent, hpersisted⟩ := h.uttered
      (x := { text := o.responseText, byTurn := true, computed := t.generation
              current := s.talk.generation, ended := s.talk.ended })
      ⟨hspoken.2, hopen⟩ hmsg
    refine ⟨⟨hsent, hpersisted, ?_, ?_⟩, fun hc => by cases hc⟩
    · show (if s.talk.ended then s.left else _) = _
      rw [hopen]
      rfl
    · intro _
      rw [lastSaid_turn (s := s) rfl rfl]
      exact lastWord_finishOutput fun hlate => by
        rw [hopen] at hlate
        cases hlate.2.2
  · rw [if_neg hspoken] at hr ⊢
    have hsaid : s.lastSaid = some o.responseText := by simpa using hr
    have hcount : s.completed ≠ 0 := by
      intro hc
      rw [h.counted hc] at hsaid
      cases hsaid
    have hword := (h.lastWord hcount).trans hsaid
    rw [speak_nil]
    refine ⟨⟨h.sent, ⟨?_, h.persisted.2⟩, ?_, ?_⟩, fun hc => by cases hc⟩
    · refine Eq.trans ?_ h.persisted.1
      apply agentMessages_congr
      show (s.talk.finishOutput t o d synthesized now).messages = _
      rw [messages_finishOutput, if_neg hspoken]
    · show (if s.talk.ended then s.left else _) = _
      split
      · next he => exact h.left.trans (remains_finishOutput he hword).symm
      · rfl
    · intro _
      refine (lastWord_finishOutput fun hlate => ?_).trans hsaid.symm
      exact hspoken ⟨hlate.1, hlate.2.1⟩

/-- A silence prompt is heard before the end or not at all. -/
theorem Kept.prompted (h : s.Kept) {g : Nat} {synthesized : Bool}
    (hr : s.rightful (.prompted g synthesized) = true)
    (hst : liveStep env s (.prompted g synthesized) = some s') : s'.Kept := by
  simp only [liveStep] at hst
  split at hst
  · cases hst
    simp only [rightful] at hr
    by_cases hspoken : synthesized = true ∧ g = s.talk.generation
    · simp only [if_pos hspoken]
      have hopen : s.talk.ended = false := by simpa [hspoken] using hr
      have hmsg : ({ s.talk with messages := s.talk.messages
            ++ [(ConversationRole.agent, silencePrompt)] } :
              Conversation).agentMessages
          = s.talk.agentMessages ++ [silencePrompt] := by
        simp [agentMessages]
      obtain ⟨hsent, hpersisted⟩ := h.uttered
        (x := { text := silencePrompt, byTurn := false, computed := g
                current := s.talk.generation, ended := s.talk.ended })
        ⟨hspoken.2, hopen⟩ hmsg
      refine ⟨⟨hsent, hpersisted, ?_, ?_⟩, ?_⟩
      · show (if s.talk.ended then s.left else _) = _
        rw [hopen]
        rfl
      · intro hc
        rw [lastSaid_prompt (s := s) rfl rfl]
        exact h.lastWord hc
      · intro hc
        rw [lastSaid_prompt (s := s) rfl rfl]
        exact h.counted hc
    · simp only [if_neg hspoken, speak_nil]
      have hq : (s.follow s.talk).Kept := h.quiet rfl rfl fun _ => rfl
      exact ⟨⟨hq.sent, hq.persisted, hq.left, hq.lastWord⟩, hq.counted⟩
  · cases hst

/-- **Every step whose answer has a right to act keeps the invariant.** -/
theorem Kept.step (h : s.Kept) {a : LiveAct} (hr : s.rightful a = true)
    (hst : liveStep env s a = some s') : s'.Kept := by
  cases a with
  | talk b =>
      cases b with
      | tts id synthesized now => exact h.spoken hr hst
      | silence synthesized now => cases hst
      | utterance text now => exact h.unspoken rfl (by simp) rfl hr hst
      | llm id answer => exact h.unspoken rfl (by simp) rfl hr hst
      | bargeIn => exact h.unspoken rfl (by simp) rfl hr hst
      | disconnect reason now => exact h.unspoken rfl (by simp) rfl hr hst
  | silence now =>
      simp only [liveStep] at hst
      split at hst
      · cases hst
        exact h
      · next hopen =>
        split at hst
        · cases hst
          have hq : (s.follow { s.talk with silencePromptsSent :=
              s.talk.silencePromptsSent + 1 }).Kept :=
            h.quiet rfl rfl fun _ => rfl
          exact ⟨⟨hq.sent, hq.persisted, hq.left, hq.lastWord⟩, hq.counted⟩
        · cases hst
          exact h.quiet (agentMessages_congr (by simp)) (by simp)
            fun he => absurd he hopen
  | prompted g synthesized => exact h.prompted hr hst

/-- The silence of a conversation whose prompt returns at once. -/
theorem silence_prompted {synthesized : Bool} {now : Instant}
    (hopen : s.talk.ended = false)
    (hp : s.talk.silencePromptsSent < maxSilencePrompts) :
    ((liveStep env s (.silence now)).bind fun t =>
        liveStep env t (.prompted s.talk.generation synthesized)).map (·.talk)
      = some (s.talk.handleSilence synthesized now) := by
  simp [liveStep, hopen, hp, follow, speak, handleSilence, silencePrompt]

end LiveCall

/-- **A lost turn leaves no trace, under a condition.** In every run in
which each answer comes while it has a right to act, no audio is sent and no AGENT
message is persisted for an older generation or after the end, the end is
final for the memory, the contact's status and the attempt, and the memory
names the last message a turn persisted. -/
theorem lostTurn_traceless {env : Env} {s s' : LiveCall} (hs : s.Started)
    (h : Run (liveStep env) (fun t a => t.rightful a = true) s s') :
    s'.Traceless :=
  (Run.inv (P := LiveCall.Kept) (fun _ _ _ ht hr hst => ht.step hr hst) h
    (.of_started hs)).toTraceless

/-! ### An answer that comes after the hang-up -/

/-- A live call that was just connected. -/
def liveCall : LiveCall where
  talk := connectedCall
  left := connectedCall.remains

theorem liveCall_started : liveCall.Started where
  opened := ⟨rfl, rfl, rfl⟩
  messages := rfl
  prompts := rfl
  said := rfl
  audio := rfl
  completed := rfl
  left := rfl

/-- The caller hangs up while the model answers: the answer is applied to
the memory, and its words are persisted as the agent's although the stopped
audio session refuses them. And where synthesis fails the memory names words
that nobody heard. -/
theorem hungUp_speaks :
    (∃ s, runActs (liveStep (plainEnv {})) liveCall
        [.talk (.utterance "hello" second),
          .talk (.disconnect .networkProblem (2 * second)),
          .talk (.llm 1 (.output interested)),
          .talk (.tts 1 true (3 * second))] = some s ∧
      s.audio = [] ∧ (∃ x ∈ s.said, x.ended = true) ∧
      s.left ≠ s.talk.remains ∧ ¬ s.Traceless) ∧
    ∃ s, runActs (liveStep (plainEnv {})) liveCall
        [.talk (.utterance "hello" second),
          .talk (.llm 1 (.output interested)),
          .talk (.tts 1 false (2 * second))] = some s ∧
      s.talk.endReason = none ∧ ¬ s.Traceless := by
  constructor
  · have hrun : (runActs (liveStep (plainEnv {})) liveCall
        [.talk (.utterance "hello" second),
          .talk (.disconnect .networkProblem (2 * second)),
          .talk (.llm 1 (.output interested)),
          .talk (.tts 1 true (3 * second))]).any (fun s =>
        decide (s.audio = []) && s.said.any (·.ended)
          && decide (s.left.memory.capturedEntities
            ≠ s.talk.memory.capturedEntities)) = true := by
      decide +kernel
    obtain ⟨s, hs, hlate⟩ := (Option.any_eq_true _ _).mp hrun
    simp only [Bool.and_eq_true, decide_eq_true_eq] at hlate
    obtain ⟨⟨hsilent, hsaid⟩, hmemory⟩ := hlate
    obtain ⟨x, hx, hended⟩ := List.any_eq_true.mp hsaid
    have hleft : s.left ≠ s.talk.remains := by
      intro h
      rw [h] at hmemory
      exact hmemory rfl
    exact ⟨s, hs, hsilent, ⟨x, hx, hended⟩, hleft, fun h => hleft h.left⟩
  · have hrun : (runActs (liveStep (plainEnv {})) liveCall
        [.talk (.utterance "hello" second),
          .talk (.llm 1 (.output interested)),
          .talk (.tts 1 false (2 * second))]).any (fun s =>
        decide (s.talk.endReason = none) && decide (s.completed ≠ 0) &&
          decide (s.talk.memory.lastAgentUtterance ≠ s.lastSaid)) = true := by
      decide +kernel
    obtain ⟨s, hs, hlost⟩ := (Option.any_eq_true _ _).mp hrun
    simp only [Bool.and_eq_true, decide_eq_true_eq] at hlost
    obtain ⟨⟨hopen, hcount⟩, hword⟩ := hlost
    exact ⟨s, hs, hopen, fun h => hword (h.lastWord hcount)⟩

/-- A turn that was interrupted while the model answered, a turn that is
heard, and an answer to the caller's last words after the hang-up, by when
the caller had spoken over it. -/
theorem liveCall_traceless :
    ∃ s, runActs (liveStep (plainEnv {})) liveCall
        [.talk (.utterance "hello" second), .talk .bargeIn,
          .talk (.utterance "who is this" (2 * second)),
          .talk (.llm 1 (.output goodbye)),
          .talk (.llm 2 (.output interested)),
          .talk (.tts 2 true (3 * second)), .silence (4 * second),
          .talk (.utterance "well" (5 * second)), .talk .bargeIn,
          .talk (.disconnect .networkProblem (6 * second)),
          .talk (.llm 3 (.output goodbye)), .prompted 1 true] = some s ∧
      s.Traceless := by
  obtain ⟨s, hs, hrun⟩ := Run.of_holdsAlong (liveStep (plainEnv {}))
    (fun s a => s.rightful a) liveCall
    [.talk (.utterance "hello" second), .talk .bargeIn,
      .talk (.utterance "who is this" (2 * second)),
      .talk (.llm 1 (.output goodbye)),
      .talk (.llm 2 (.output interested)),
      .talk (.tts 2 true (3 * second)), .silence (4 * second),
      .talk (.utterance "well" (5 * second)), .talk .bargeIn,
      .talk (.disconnect .networkProblem (6 * second)),
      .talk (.llm 3 (.output goodbye)), .prompted 1 true]
    (by decide +kernel)
  exact ⟨s, hs, lostTurn_traceless liveCall_started hrun⟩

end CallingAgent
