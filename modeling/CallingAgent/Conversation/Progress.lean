import CallingAgent.Conversation.OptOutEnforced

/-!
# Progress — turns, phase, ending and talking points of a conversation

The phase, the ended flag, the turn counter and the talking points are
written by different handlers. Where the events are processed one at a
time there is one turn in hand at most, and what the counters, the phase
and the ending do over a whole conversation follows from one step.
-/

namespace CallingAgent

open Lib

namespace Conversation

/-- The talking points, done or not. -/
def points (m : WorkingMemory) : List String :=
  m.pendingPoints ++ m.completedPoints

/-- A conversation that was just opened, with a new or a restored memory. -/
structure Opened (s : Conversation) : Prop where
  open' : s.endReason = none
  turns : s.turns = []
  turnCount : s.turnCount = 0

/-- Events are processed one at a time: while a turn is in hand there are
its own answers, and interruptions. -/
def oneAtATime (s : Conversation) : ConversationAct → Bool
  | .utterance .. | .silence .. | .disconnect .. => s.turns.isEmpty
  | .llm .. | .tts .. | .bargeIn => true

/-- The utterance of a turn is answered: its output has been spoken. -/
def answers (_ : Conversation) (a : ConversationAct) (_ : Conversation) :
    Bool :=
  match a with
  | .tts .. => true
  | _ => false

/-- A call of `_end_conversation` or `handle_disconnect` takes effect. -/
def endsNow (s : Conversation) (_ : ConversationAct) (s' : Conversation) :
    Bool := s'.endReason ≠ s.endReason

/-- A turn that waited for the model is decided by the step. -/
def Decides (s s' : Conversation) (d : PolicyDecision) : Prop :=
  ∃ t ∈ s'.turns, ∃ o, t.phase = .speaking o d ∧
    ∀ u ∈ s.turns, u.id = t.id → u.awaitsModel = true

/-- What a step does to the phase and to the ending. -/
structure Progresses (s : Conversation) (a : ConversationAct)
    (s' : Conversation) : Prop where
  /-- a decision wraps up exactly when it terminates -/
  decided : ∀ d, Decides s s' d →
    (s'.memory.phase = .wrapUp ↔ d.termination.isSome = true)
  /-- and nothing but a decision moves the phase -/
  undecided : (∀ d, ¬ Decides s s' d) → s'.memory.phase = s.memory.phase
  /-- a terminating decision ends the conversation in its own turn -/
  ends : ∀ t ∈ s.turns, ∀ o d r, t.phase = .speaking o d →
    d.termination = some r →
    (a = .bargeIn ∧ t ∈ s'.turns) ∨ s'.endReason = some r
  /-- an ended conversation is left as it is -/
  ended : s.ended = true → s' = { s with generation := s'.generation }

/-- **The invariant of one event at a time.** One turn is in hand at most,
none after the end, and the phase of a decided turn is its decision's. -/
structure InHand (s : Conversation) : Prop where
  single : s.turns.length ≤ 1
  finished : s.ended = true → s.turns = []
  wraps : ∀ t ∈ s.turns, ∀ o d, t.phase = .speaking o d →
    (s.memory.phase = .wrapUp ↔ d.termination.isSome = true)

/-- A bound on the utterances still to be answered. -/
def room (s : Conversation) : Nat :=
  maxConversationTurns - s.turnCount + s.turns.length

variable {env : Env} {s s' : Conversation} {t : Turn}

/-- **A decision wraps up exactly when it terminates.** -/
theorem decidePolicy_wrapUp_iff {phase : ConversationPhase}
    {o : StructuredOutput} {utterance : String} {declines unclear : Nat}
    {pending : Bool} :
    (decidePolicy env phase o utterance declines unclear pending).nextPhase
        = .wrapUp ↔
      (decidePolicy env phase o utterance declines unclear
        pending).termination.isSome = true := by
  unfold decidePolicy
  split
  · simp
  · cases o.nextAction.terminal with
    | some reason => simp
    | none =>
        dsimp only
        split
        · simp
        · split <;> simp

/-! ## Endings -/

/-- An ending happens once: a call on an ended conversation changes
nothing. -/
theorem endings_once (h : s.ended = true) (reason : EndReason)
    (dropped : MidCallDisconnectReason) (now : Instant) :
    s.endConversation reason now = s ∧ s.disconnect env dropped now = s := by
  constructor
  · exact endConversation_ended h
  · simp [disconnect, h]

/-- After a call the conversation has ended. -/
theorem ended_endConversation (reason : EndReason) (now : Instant) :
    (s.endConversation reason now).ended = true := by
  by_cases h : s.ended = true
  · rw [endConversation_ended h]
    exact h
  · rw [endConversation_open (open_of_not_ended h)]
    rfl

@[simp] theorem memory_endConversation (reason : EndReason) (now : Instant) :
    (s.endConversation reason now).memory = s.memory := by
  unfold endConversation
  split <;> rfl

@[simp] theorem turnCount_endConversation (reason : EndReason)
    (now : Instant) :
    (s.endConversation reason now).turnCount = s.turnCount := by
  unfold endConversation
  split <;> rfl

/-- An ending keeps the reason of an earlier one. -/
theorem endReason_endConversation (h : s.ended = true) (reason : EndReason)
    (now : Instant) :
    (s.endConversation reason now).endReason = s.endReason := by
  rw [endConversation_ended h]

/-! ## What one answer does -/

/-- The ways an answer of the model leaves a turn. -/
theorem llm_cases {id : Nat} {answer : LlmAnswer}
    (hst : conversationStep env s (.llm id answer) = some s') :
    ∃ t f r, s.turn id = some t ∧ t.phase = .generating f r ∧
      ((∃ f' r', s' = s.setTurn
          { Turn.marked t (answer.flags && !s.ended) with
            phase := .generating f' r' }) ∨
        (t.generation ≠ s.generation ∧
          s' = s.closeTurn (Turn.marked t (answer.flags && !s.ended))) ∨
        (t.generation = s.generation ∧ ∃ o, generate f r answer = .done o ∧
          s' = s.applyOutput env
            (Turn.marked t (answer.flags && !s.ended)) o)) := by
  simp only [conversationStep] at hst
  cases ht : s.turn id with
  | none => rw [ht] at hst; cases hst
  | some t =>
      rw [ht] at hst
      cases hp : t.phase with
      | speaking o d => simp [hp] at hst
      | generating f r =>
          simp only [hp] at hst
          cases hst
          refine ⟨t, f, r, rfl, hp, ?_⟩
          rw [answerTurn_eq]
          cases hg : generate f r answer with
          | again f' r' => exact .inl ⟨f', r', rfl⟩
          | done o =>
              dsimp only
              by_cases hstale : t.generation ≠ s.generation
              · rw [if_pos hstale]
                exact .inr (.inl ⟨hstale, rfl⟩)
              · rw [if_neg hstale]
                exact .inr (.inr ⟨not_not.mp hstale, o, rfl, rfl⟩)

theorem tts_cases {id : Nat} {synthesized : Bool} {now : Instant}
    (hst : conversationStep env s (.tts id synthesized now) = some s') :
    ∃ t o d, s.turn id = some t ∧ t.phase = .speaking o d ∧
      s' = s.finishOutput t o d synthesized now := by
  simp only [conversationStep] at hst
  cases ht : s.turn id with
  | none => rw [ht] at hst; cases hst
  | some t =>
      rw [ht] at hst
      cases hp : t.phase with
      | generating f r => simp [hp] at hst
      | speaking o d =>
          simp only [hp] at hst
          cases hst
          exact ⟨t, o, d, rfl, hp, rfl⟩

/-- What is left of a turn's handler once it has spoken. -/
def afterSpeech (s : Conversation) (t : Turn) (o : StructuredOutput)
    (synthesized : Bool) : Conversation :=
  { s with
    messages := if synthesized ∧ t.generation = s.generation then
        s.messages ++ [(ConversationRole.agent, o.responseText)] else s.messages
    memory := s.noteUtterance t o synthesized }
  |>.closeTurn t

theorem finishOutput_eq {o : StructuredOutput} {d : PolicyDecision}
    {synthesized : Bool} {now : Instant} :
    s.finishOutput t o d synthesized now =
      match d.termination with
      | some reason =>
          (s.afterSpeech t o synthesized).endConversation reason now
      | none => s.afterSpeech t o synthesized := rfl

/-- Only the last utterance is noted. -/
theorem noteUtterance_eq (o : StructuredOutput) (synthesized : Bool) :
    ∃ said, s.noteUtterance t o synthesized
      = { s.memory with lastAgentUtterance := said } := by
  unfold noteUtterance
  split
  · exact ⟨s.memory.lastAgentUtterance, rfl⟩
  · exact ⟨some o.responseText, rfl⟩

/-! ## Talking points -/

/-- A captured field moves its own point, if it is pending. -/
theorem points_captureField (m : WorkingMemory)
    (field : String × Option String) :
    (points (captureField m field)).Perm (points m) := by
  unfold captureField
  cases captured field.2 with
  | none => exact .refl _
  | some v =>
      dsimp only
      split
      · next hmem =>
        have hmoved : (m.pendingPoints.erase field.1
            ++ (m.completedPoints ++ [field.1])).Perm
            (field.1 :: m.pendingPoints.erase field.1 ++ m.completedPoints) := by
          rw [← List.append_assoc]
          exact List.perm_append_comm
        exact hmoved.trans ((List.perm_cons_erase hmem).symm.append_right _)
      · exact .refl _

theorem points_fold (fields : List (String × Option String))
    (m : WorkingMemory) :
    (points (fields.foldl captureField m)).Perm (points m) := by
  induction fields generalizing m with
  | nil => exact .refl _
  | cons field fields ih =>
      exact (ih _).trans (points_captureField m field)

theorem points_updateMemory (m : WorkingMemory) (o : StructuredOutput) :
    (points (updateMemory m o)).Perm (points m) := by
  have hkept : points (updateMemory m o)
      = points ((Entities.fields o.entities).foldl captureField m) := by
    unfold updateMemory
    dsimp only
    split
    · split <;> rfl
    · rfl
  rw [hkept]
  exact points_fold _ m

/-- **Conservation.** No step loses a talking point or makes one up. -/
theorem points_step {a : ConversationAct}
    (hst : conversationStep env s a = some s') :
    (points s'.memory).Perm (points s.memory) := by
  cases a with
  | utterance text now =>
      cases hst
      unfold handleFinalUtterance
      dsimp only
      split
      · exact .refl _
      · split
        · simp
        · split
          · simp
          · exact .refl _
  | llm id answer =>
      obtain ⟨t, f, r, -, -, ⟨f', r', rfl⟩ | ⟨-, rfl⟩ | ⟨-, o, -, rfl⟩⟩ :=
        llm_cases hst
      · exact .refl _
      · exact .refl _
      · exact points_updateMemory s.memory o
  | tts id synthesized now =>
      obtain ⟨t, o, d, -, -, rfl⟩ := tts_cases hst
      have hsaid : (points (s.noteUtterance t o synthesized)).Perm
          (points s.memory) := by
        obtain ⟨said, heq⟩ := noteUtterance_eq (s := s) (t := t) o synthesized
        rw [heq]
        exact .refl _
      rw [finishOutput_eq]
      cases d.termination with
      | none => exact hsaid
      | some reason =>
          dsimp only
          rw [memory_endConversation]
          exact hsaid
  | bargeIn =>
      cases hst
      exact .refl _
  | silence synthesized now =>
      cases hst
      unfold handleSilence
      split
      · exact .refl _
      · split
        · exact .refl _
        · simp
  | disconnect reason now =>
      cases hst
      unfold disconnect
      split <;> exact .refl _

/-! ## One ending -/

/-- **The first ending stays.** No step takes an ended conversation to
another reason. -/
theorem endReason_step {a : ConversationAct} (h : s.ended = true)
    (hst : conversationStep env s a = some s') :
    s'.endReason = s.endReason := by
  cases a with
  | utterance text now =>
      cases hst
      simp [handleFinalUtterance, h]
  | llm id answer =>
      obtain ⟨t, f, r, -, -, ⟨f', r', rfl⟩ | ⟨-, rfl⟩ | ⟨-, o, -, rfl⟩⟩ :=
        llm_cases hst <;> rfl
  | tts id synthesized now =>
      obtain ⟨t, o, d, -, -, rfl⟩ := tts_cases hst
      rw [finishOutput_eq]
      cases d.termination with
      | none => rfl
      | some reason => exact endReason_endConversation (by exact h) _ _
  | bargeIn =>
      cases hst
      rfl
  | silence synthesized now =>
      cases hst
      simp [handleSilence, h]
  | disconnect reason now =>
      cases hst
      have hsame : s.disconnect env reason now = s :=
        (endings_once h .wrapUp reason now).2
      rw [hsame]

/-- An ending that is still possible. -/
def endingsLeft (s : Conversation) : Nat := if s.ended then 0 else 1

theorem endingsLeft_step {a : ConversationAct}
    (hst : conversationStep env s a = some s') :
    (if endsNow s a s' then 1 else 0) + s'.endingsLeft ≤ s.endingsLeft := by
  unfold endingsLeft
  by_cases hend : s.ended = true
  · have hkept := endReason_step hend hst
    have hend' : s'.ended = true := by rw [ended, hkept]; exact hend
    simp [endsNow, hkept, hend, hend']
  · rw [if_neg hend]
    by_cases hnow : endsNow s a s' = true
    · have hend' : s'.ended = true := by
        rw [endsNow, open_of_not_ended hend, decide_eq_true_iff] at hnow
        exact Option.isSome_iff_ne_none.mpr hnow
      simp [hnow, hend']
    · rw [if_neg hnow]
      split <;> omega

/-! ## Turns in hand -/

theorem length_closeTurn (h : t ∈ s.turns) :
    (s.closeTurn t).turns.length + 1 ≤ s.turns.length := by
  have hfewer : (s.closeTurn t).turns.length < s.turns.length :=
    List.length_filter_lt_length_iff_exists.mpr ⟨t, h, by simp⟩
  omega

@[simp] theorem length_setTurn (t : Turn) :
    (s.setTurn t).turns.length = s.turns.length := List.length_map _

/-- Every answered utterance was one of those the limit allows. -/
theorem room_step {a : ConversationAct}
    (hst : conversationStep env s a = some s') :
    (if answers s a s' then 1 else 0) + s'.room ≤ s.room := by
  unfold room
  cases a with
  | utterance text now =>
      cases hst
      simp only [answers, Bool.false_eq_true, if_false, Nat.zero_add]
      unfold handleFinalUtterance
      dsimp only
      split
      · exact Nat.le_refl _
      · split
        · rw [turnCount_endConversation, turns_endConversation]
          dsimp only
          omega
        · split
          · rw [turnCount_endConversation, turns_endConversation]
            dsimp only
            omega
          · simp only [List.length_append, List.length_singleton]
            omega
  | llm id answer =>
      simp only [answers, Bool.false_eq_true, if_false, Nat.zero_add]
      obtain ⟨t, f, r, ht, -, ⟨f', r', rfl⟩ | ⟨-, rfl⟩ | ⟨-, o, -, rfl⟩⟩ :=
        llm_cases hst
      · rw [length_setTurn]
        exact Nat.le_refl _
      · have hclosed : (s.closeTurn
            (Turn.marked t (answer.flags && !s.ended))).turns.length + 1
            ≤ s.turns.length := length_closeTurn (t := t) (turn_mem ht)
        show maxConversationTurns - s.turnCount + _ ≤ _
        omega
      · show maxConversationTurns - s.turnCount
            + ((s.turns.map _).length) ≤ _
        rw [List.length_map]
  | tts id synthesized now =>
      obtain ⟨t, o, d, ht, -, rfl⟩ := tts_cases hst
      have hclosed : (s.afterSpeech t o synthesized).turns.length + 1
          ≤ s.turns.length := length_closeTurn (turn_mem ht)
      have hcount : (s.afterSpeech t o synthesized).turnCount
          = s.turnCount := rfl
      rw [finishOutput_eq]
      simp only [answers, if_true]
      cases d.termination with
      | none =>
          dsimp only
          omega
      | some reason =>
          dsimp only
          rw [turnCount_endConversation, turns_endConversation]
          omega
  | bargeIn =>
      cases hst
      simp [answers, onBargeIn]
  | silence synthesized now =>
      cases hst
      simp only [answers, Bool.false_eq_true, if_false, Nat.zero_add]
      unfold handleSilence
      split
      · exact Nat.le_refl _
      · split
        · exact Nat.le_refl _
        · rw [turnCount_endConversation, turns_endConversation]
  | disconnect reason now =>
      cases hst
      simp only [answers, Bool.false_eq_true, if_false, Nat.zero_add]
      unfold disconnect
      split <;> exact Nat.le_refl _

/-- The only turn there can be. -/
theorem InHand.only (h : s.InHand) {id : Nat} (ht : s.turn id = some t) :
    s.turns = [t] := by
  have hmem := turn_mem ht
  obtain ⟨u, hu⟩ := List.length_eq_one_iff.mp
    (Nat.le_antisymm h.single (List.length_pos_of_mem hmem))
  rw [hu, List.mem_singleton] at hmem
  rw [hu, hmem]

theorem InHand.idle (h : s.turns = []) : s.InHand where
  single := by simp [h]
  finished _ := h
  wraps t ht := by rw [h] at ht; cases ht

/-- A turn that is already speaking is not decided again. -/
theorem not_decides (h : ∀ t ∈ s'.turns, t ∈ s.turns ∨ t.awaitsModel = true)
    (d : PolicyDecision) : ¬ Decides s s' d := by
  rintro ⟨t, ht, o, hp, hwaits⟩
  have hspeaks : t.awaitsModel = false := by simp [Turn.awaitsModel, hp]
  rcases h t ht with hold | hnew
  · rw [hwaits t hold rfl] at hspeaks
    cases hspeaks
  · rw [hnew] at hspeaks
    cases hspeaks

/-- A step that decides nothing and leaves the phase alone, in a
conversation with no turn in hand. -/
theorem Progresses.idle {a : ConversationAct} (h : s.turns = [])
    (hnew : ∀ t ∈ s'.turns, t.awaitsModel = true)
    (hphase : s'.memory.phase = s.memory.phase)
    (hended : s.ended = true → s' = { s with generation := s'.generation }) :
    s.Progresses a s' where
  decided d hd := absurd hd (not_decides (fun t ht => .inr (hnew t ht)) d)
  undecided _ := hphase
  ends t ht := by rw [h] at ht; cases ht
  ended := hended

/-- A conversation with a turn in hand has not ended. -/
theorem InHand.open' (h : s.InHand) (ht : t ∈ s.turns) :
    ¬ s.ended = true := by
  intro he
  rw [h.finished he] at ht
  cases ht

/-- The model answers the turn in hand. -/
theorem InHand.answered (h : s.InHand) {id : Nat} {answer : LlmAnswer}
    (hst : conversationStep env s (.llm id answer) = some s') :
    s'.InHand ∧ s.Progresses (.llm id answer) s' := by
  obtain ⟨t, f, r, ht, hp, hcases⟩ := llm_cases hst
  generalize hm : Turn.marked t (answer.flags && !s.ended) = m at hcases
  have hid : m.id = t.id := by rw [← hm]; rfl
  have honly := h.only ht
  have hopen := h.open' (turn_mem ht)
  have hwaits : t.awaitsModel = true := by rw [Turn.awaitsModel, hp]
  have hends : ∀ u ∈ s.turns, ∀ o d r, u.phase = .speaking o d →
      d.termination = some r →
      (ConversationAct.llm id answer = .bargeIn ∧ u ∈ s'.turns) ∨
        s'.endReason = some r := by
    intro u hu o d r hsp
    rw [honly, List.mem_singleton] at hu
    rw [hu, hp] at hsp
    cases hsp
  rcases hcases with ⟨f', r', rfl⟩ | ⟨-, rfl⟩ | ⟨-, o, -, rfl⟩
  · -- the model is called again
    have hgen : ∀ u ∈ (s.setTurn { m with
        phase := .generating f' r' }).turns, u.awaitsModel = true := by
      intro u hu
      rcases mem_setTurn hu with rfl | hu
      · rfl
      · rw [honly, List.mem_singleton] at hu
        rw [hu]
        exact hwaits
    have hnone := not_decides (s := s) fun u hu => .inr (hgen u hu)
    refine ⟨⟨?_, fun he => absurd he hopen, ?_⟩,
      ⟨fun d hd => absurd hd (hnone d), fun _ => rfl, hends,
        fun he => absurd he hopen⟩⟩
    · rw [length_setTurn]
      exact h.single
    · intro u hu o d hsp
      have hwaits := hgen u hu
      rw [Turn.awaitsModel, hsp] at hwaits
      cases hwaits
  · -- a stale turn is discarded
    have hnone : (s.closeTurn m).turns = [] := by
      show s.turns.filter _ = []
      simp [honly, hid]
    exact ⟨.idle hnone,
      ⟨fun d hd => absurd hd (not_decides (by simp [hnone]) d),
        fun _ => rfl, hends, fun he => absurd he hopen⟩⟩
  · -- the output is decided
    have hturns : (s.applyOutput env m o).turns
        = [{ m with phase := .speaking o (decisionOn env s m o) }] := by
      show s.turns.map _ = _
      simp only [honly, List.map_cons, List.map_nil, hid, if_true]
      rfl
    have hwraps : (s.applyOutput env m o).memory.phase = .wrapUp ↔
        (decisionOn env s m o).termination.isSome = true :=
      decidePolicy_wrapUp_iff
    have hturn : ∀ u ∈ (s.applyOutput env m o).turns, ∀ o' d,
        u.phase = .speaking o' d → d = decisionOn env s m o := by
      intro u hu o' d hsp
      rw [hturns, List.mem_singleton] at hu
      rw [hu] at hsp
      cases hsp
      rfl
    refine ⟨⟨by simp [hturns], fun he => absurd he hopen, ?_⟩,
      ⟨?_, ?_, hends, fun he => absurd he hopen⟩⟩
    · intro u hu o' d hsp
      rw [hturn u hu o' d hsp]
      exact hwraps
    · rintro d ⟨u, hu, o', hsp, -⟩
      rw [hturn u hu o' d hsp]
      exact hwraps
    · intro hnone
      refine absurd ⟨{ m with phase := .speaking o (decisionOn env s m o) },
        ?_, o, rfl, ?_⟩ (hnone (decisionOn env s m o))
      · rw [hturns]
        exact List.mem_singleton_self _
      · intro u hu _
        rw [honly, List.mem_singleton] at hu
        rw [hu]
        exact hwaits

/-- The turn in hand is over: it has spoken, and a terminating decision
has ended the conversation. -/
theorem InHand.spoken (h : s.InHand) {id : Nat} {synthesized : Bool}
    {now : Instant}
    (hst : conversationStep env s (.tts id synthesized now) = some s') :
    s'.InHand ∧ s.Progresses (.tts id synthesized now) s' := by
  obtain ⟨t, o, d, ht, hp, rfl⟩ := tts_cases hst
  have honly := h.only ht
  have hopen := h.open' (turn_mem ht)
  have hnone : (s.finishOutput t o d synthesized now).turns = [] := by
    rw [finishOutput_eq]
    cases d.termination <;> simp [afterSpeech, closeTurn, honly]
  refine ⟨.idle hnone,
    ⟨fun d' hd => absurd hd (not_decides (by simp [hnone]) d'), ?_, ?_,
      fun he => absurd he hopen⟩⟩
  · intro _
    obtain ⟨said, heq⟩ := noteUtterance_eq (s := s) (t := t) o synthesized
    rw [finishOutput_eq]
    cases d.termination <;> simp [afterSpeech, closeTurn, heq]
  · intro u hu o' d' r hsp hr
    rw [honly, List.mem_singleton] at hu
    rw [hu, hp] at hsp
    cases hsp
    right
    rw [finishOutput_eq, hr]
    show ((s.afterSpeech t o synthesized).endConversation r now).endReason = _
    rw [endConversation_open (by exact open_of_not_ended hopen)]

/-- **One event at a time.** -/
theorem InHand.step (h : s.InHand) {a : ConversationAct}
    (hone : s.oneAtATime a = true)
    (hst : conversationStep env s a = some s') :
    s'.InHand ∧ s.Progresses a s' := by
  cases a with
  | llm id answer => exact h.answered hst
  | tts id synthesized now => exact h.spoken hst
  | bargeIn =>
      cases hst
      refine ⟨⟨h.single, h.finished, h.wraps⟩,
        ⟨fun d hd => absurd hd (not_decides (fun t ht => .inl ht) d),
          fun _ => rfl, ?_, fun _ => rfl⟩⟩
      intro t ht o d r _ _
      exact .inl ⟨rfl, ht⟩
  | utterance text now =>
      cases hst
      have hidle : s.turns = [] := List.isEmpty_iff.mp hone
      unfold handleFinalUtterance
      dsimp only
      split
      · exact ⟨h, .idle hidle (by simp [hidle]) rfl fun _ => rfl⟩
      · next hopen =>
        split
        · exact ⟨.idle (by simp [hidle]),
            .idle hidle (by simp [hidle]) (by simp) fun he => absurd he hopen⟩
        · split
          · exact ⟨.idle (by simp [hidle]),
              .idle hidle (by simp [hidle]) (by simp)
                fun he => absurd he hopen⟩
          · have hwaits : ∀ t ∈ s.turns ++
                [{ id := s.turnCount + 1, utterance := text,
                   generation := s.generation,
                   owed := detectOptOut env text }],
                t.awaitsModel = true := by
              intro t ht
              rw [hidle, List.nil_append, List.mem_singleton] at ht
              rw [ht]
              rfl
            refine ⟨⟨by simp [hidle], fun he => absurd he hopen, ?_⟩,
              .idle hidle hwaits rfl fun he => absurd he hopen⟩
            intro t ht o d hp
            have hw := hwaits t ht
            rw [Turn.awaitsModel, hp] at hw
            cases hw
  | silence synthesized now =>
      cases hst
      have hidle : s.turns = [] := List.isEmpty_iff.mp hone
      unfold handleSilence
      split
      · exact ⟨h, .idle hidle (by simp [hidle]) rfl fun _ => rfl⟩
      · next hopen =>
        split
        · exact ⟨.idle hidle,
            .idle hidle (by simp [hidle]) rfl fun he => absurd he hopen⟩
        · exact ⟨.idle (by simp [hidle]),
            .idle hidle (by simp [hidle]) (by simp)
              fun he => absurd he hopen⟩
  | disconnect reason now =>
      cases hst
      have hidle : s.turns = [] := List.isEmpty_iff.mp hone
      unfold disconnect
      split
      · exact ⟨h, .idle hidle (by simp [hidle]) rfl fun _ => rfl⟩
      · next hopen =>
        exact ⟨.idle hidle,
          .idle hidle (by simp [hidle]) rfl fun he => absurd he hopen⟩

end Conversation

open Conversation in
/-- **How a conversation progresses.** In a conversation whose events are
processed one at a time: as many utterances are answered as the turn limit
allows, at most; it ends once; its talking points are the initial ones;
and in every state it reaches, a decision wraps up exactly when it
terminates, the turn of that decision ends the conversation, and after the
end nothing changes. -/
theorem conversation_progress {env : Env} {s s' : Conversation}
    {acts : List ConversationAct} (hs : s.Opened)
    (hone : holdsAlong (conversationStep env)
      (fun t a => t.oneAtATime a) s acts = true)
    (hrun : runActs (conversationStep env) s acts = some s') :
    countAlong (conversationStep env) answers s acts ≤ maxConversationTurns ∧
    countAlong (conversationStep env) endsNow s acts ≤ 1 ∧
    (points s'.memory).Perm (points s.memory) ∧
    (∀ a s'', s'.oneAtATime a = true →
      conversationStep env s' a = some s'' → s'.Progresses a s'') ∧
    ∀ reason dropped now, (s'.endConversation reason now).ended = true ∧
      (s'.ended = true → s'.endConversation reason now = s' ∧
        s'.disconnect env dropped now = s') := by
  obtain ⟨t, ht, hreach⟩ := Run.of_holdsAlong _ _ s acts hone
  have hsame : t = s' := Option.some.inj (ht.symm.trans hrun)
  subst hsame
  have hin : t.InHand := Run.inv (P := InHand)
    (fun t a t' h hc hst => (h.step hc hst).1) hreach (.idle hs.turns)
  have hpoints : (points t.memory).Perm (points s.memory) :=
    Run.inv (P := fun t => (points t.memory).Perm (points s.memory))
      (fun t a t' h _ hst => (points_step hst).trans h) hreach (.refl _)
  refine ⟨?_, ?_, hpoints, fun a s'' hc hst => (hin.step hc hst).2, ?_⟩
  · have hroom : countAlong (conversationStep env) answers s acts ≤ s.room :=
      countAlong_le (p := answers) (φ := room)
        (fun _ _ _ hst => room_step hst) s acts
    rw [room, hs.turns, hs.turnCount] at hroom
    exact hroom
  · have hleft : countAlong (conversationStep env) endsNow s acts
        ≤ s.endingsLeft :=
      countAlong_le (p := endsNow) (φ := endingsLeft)
        (fun _ _ _ hst => endingsLeft_step hst) s acts
    rw [endingsLeft, ended, hs.open'] at hleft
    exact hleft
  · intro reason dropped now
    exact ⟨ended_endConversation reason now,
      fun he => endings_once he reason dropped now⟩

/-- A call with two points to cover: the caller answers one of them, and
then the model takes its leave. -/
def scriptedCall : Conversation :=
  { connectedCall with
    memory := { pendingPoints := ["interest_level", "objection"] } }

/-- A caller who is interested. -/
def interested : StructuredOutput where
  intent := .affirmative
  entities := { interestLevel := "high" }
  nextAction := .continueScript
  responseText := "Good to hear."

open Conversation in
/-- A whole call: one answer, a second one that takes its leave, and a
hang-up that comes after the end. -/
theorem scriptedCall_progress :
    ∃ s, runActs (conversationStep (plainEnv {})) scriptedCall
        [.utterance "yes" second, .llm 1 (.output interested),
          .tts 1 true second, .utterance "no more questions" (2 * second),
          .llm 2 (.output goodbye), .tts 2 true (2 * second),
          .disconnect .customerHangup (3 * second)] = some s ∧
      countAlong (conversationStep (plainEnv {})) endsNow scriptedCall
        [.utterance "yes" second, .llm 1 (.output interested),
          .tts 1 true second, .utterance "no more questions" (2 * second),
          .llm 2 (.output goodbye), .tts 2 true (2 * second),
          .disconnect .customerHangup (3 * second)] ≤ 1 ∧
      (points s.memory).Perm ["interest_level", "objection"] := by
  obtain ⟨s, hs, -⟩ := Run.of_holdsAlong
    (conversationStep (plainEnv {})) (fun s a => s.oneAtATime a) scriptedCall
    [.utterance "yes" second, .llm 1 (.output interested),
      .tts 1 true second, .utterance "no more questions" (2 * second),
      .llm 2 (.output goodbye), .tts 2 true (2 * second),
      .disconnect .customerHangup (3 * second)]
    (by decide +kernel)
  have h := conversation_progress ⟨rfl, rfl, rfl⟩ (by decide +kernel) hs
  exact ⟨s, hs, h.2.1, h.2.2.1⟩

end CallingAgent
