import CallingAgent.Conversation.Orchestrator
import CallingAgent.Lib.Run

/-!
# In-call opt-out — received, owed, enforced

An opt-out is received with an utterance that contains a phrase, or with a
model output that flags one. From then on its turn owes it: the
conversation has to end with the opt-out reason and the caller's number
has to be suppressed. Several exits of the orchestrator come before the
policy is asked, so this holds under a condition on each step: nothing
ends the conversation or discards the turn while an opt-out is owed, and
the insert can record the number.
-/

namespace CallingAgent

open Lib

def Turn.awaitsModel (t : Turn) : Bool :=
  match t.phase with
  | .generating .. => true
  | .speaking .. => false

/-- What holds of a turn that owes an opt-out, while the conversation has
not ended for it. -/
def Turn.Pledged (env : Env) (generation : Nat) (t : Turn) : Prop :=
  match t.phase with
  | .generating .. =>
      t.generation = generation ∧ detectOptOut env t.utterance = true
  | .speaking _ d => d.termination = some .optOut

namespace Conversation

variable (env : Env) (s : Conversation)

/-- An opt-out is owed by a turn that still waits. -/
def owing : Bool := s.turns.any (·.owed)

def callerNumber : Option String :=
  (s.db.contact s.contactId).map (·.normalizedPhoneNumber)

/-- The suppression check on the caller's number. -/
def callerSuppressed : Bool :=
  s.callerNumber.any fun n => s.db.suppressions.isSuppressed env n

/-- An insert would record the caller's number: it is there already, or
the contact has no row of its own. -/
def recordable : Bool :=
  s.callerNumber.any fun n => s.db.suppressions.isSuppressed env n
    || !s.db.suppressions.hasContact s.contactId

def LlmAnswer.flags : LlmAnswer → Bool
  | .output o => o.requiresSuppression
  | .failed => false

/-- An answer to a turn leaves an opt-out of the turn in force: a flagged
response is not rejected unless the caller's words say the same, the turn
is not stale, and the number can be recorded. -/
def answerKeeps (t : Turn) (failures regenerations : Nat)
    (answer : LlmAnswer) : Bool :=
  match generate failures regenerations answer with
  | .again _ _ => !answer.flags || detectOptOut env t.utterance
  | .done o =>
      !(answer.flags || t.owed)
        || (t.generation == s.generation
          && (o.requiresSuppression || detectOptOut env t.utterance)
          && s.recordable env)

/-- Nothing in this step gets in the way of an opt-out. -/
def undisturbed : ConversationAct → Bool
  | .utterance text now => s.ended || !s.overLimit now
      || !(s.owing || detectOptOut env text)
  | .bargeIn => s.ended || s.turns.all fun t => !(t.owed && t.awaitsModel)
  | .silence _ _ => s.ended || s.silencePromptsSent < maxSilencePrompts
      || !s.owing
  | .disconnect _ _ => s.ended || !s.owing
  | .llm id answer => s.ended || (s.turn id).all fun t =>
      match t.phase with
      | .generating f r => s.answerKeeps env t f r answer
      | .speaking .. => true
  | .tts id _ _ => s.ended || (s.turn id).all fun t =>
      match t.phase with
      | .speaking _ d => d.termination.all fun reason =>
          reason = .optOut || !s.owing
      | .generating .. => true

/-- A conversation that has just started. -/
structure Fresh : Prop where
  contact : ∃ c, s.db.contact s.contactId = some c
  turns : s.turns = []
  open' : s.endReason = none
  due : s.optOutDue = false

/-- **The invariant.** -/
structure Enforcing : Prop where
  contact : ∃ c, s.db.contact s.contactId = some c
  due : s.optOutDue = true → s.endReason = some .optOut
  suppressed : s.endReason = some .optOut → s.callerSuppressed env = true
  owed : ∀ t ∈ s.turns, t.owed = true → s.endReason ≠ some .optOut →
    s.endReason = none ∧ t.Pledged env s.generation
  spoken : ∀ t ∈ s.turns, ∀ o d, t.phase = .speaking o d →
    d.termination = some .optOut → s.endReason = none →
    s.callerSuppressed env = true
  /-- a turn whose words contain a phrase owes the opt-out -/
  heard : ∀ t ∈ s.turns, detectOptOut env t.utterance = true → t.owed = true

/-! ## Rows -/

section Rows

variable {env : Env} {db : Db} {aid : AttemptId} {cid : ContactId}
  {now : Instant}

theorem endingRows_number (status : ContactStatus) :
    ((endingRows db aid cid status now).contact cid).map
        (·.normalizedPhoneNumber)
      = (db.contact cid).map (·.normalizedPhoneNumber) := by
  simp only [endingRows, Db.contact_modifyContact, if_true,
    Db.modifyAttempt_frame, Db.logEvent_frame, Option.map_map]
  rfl

theorem disconnectRows_number (reason : MidCallDisconnectReason) :
    ((disconnectRows env db aid cid reason now).1.contact cid).map
        (·.normalizedPhoneNumber)
      = (db.contact cid).map (·.normalizedPhoneNumber) := by
  unfold disconnectRows
  dsimp only
  split
  · next attempt contact ha hc =>
    have hdb : (db.contact cid).map (fun c =>
        { c with status := ContactStatus.disconnected }) = some contact := by
      simpa [Db.contact_modifyContact] using hc
    obtain ⟨c, hcid, rfl⟩ := Option.map_eq_some_iff.mp hdb
    split
    · simp [Db.contact_modifyContact, hcid]
    · simp [Db.contact_setContact, Db.contact_modifyContact, hcid,
        handleDisconnect_shape.phone]
  · simp only [Db.contact_modifyContact, if_true, Db.modifyAttempt_frame,
      Db.logEvent_frame, Option.map_map]
    rfl

end Rows

section

variable {env : Env} {s : Conversation}

theorem isSome_number : (∃ c, s.db.contact s.contactId = some c) ↔
    s.callerNumber.isSome = true := by
  simp [callerNumber, Option.isSome_iff_exists]

/-- The suppression check depends on the number and the table only. -/
theorem callerSuppressed_congr {s' : Conversation}
    (hn : s'.callerNumber = s.callerNumber)
    (ht : s'.db.suppressions = s.db.suppressions) :
    s'.callerSuppressed env = s.callerSuppressed env := by
  simp only [callerSuppressed, hn, ht]

/-- The suppression records a recordable number. -/
theorem suppress_records {s' : Conversation} (hr : s.recordable env = true)
    (hdb : s'.db = s.suppress env) (hc : s'.contactId = s.contactId) :
    s'.callerSuppressed env = true := by
  unfold recordable callerNumber at hr
  cases hcon : s.db.contact s.contactId with
  | none => simp [hcon] at hr
  | some c =>
      have hs : (s.db.suppressions.insertIfAbsent env c.normalizedPhoneNumber
          .agentInCall (some "opt-out during AI conversation")
          (some s.contactId)).1.isSuppressed env c.normalizedPhoneNumber
          = true := by
        rw [isSuppressed_insertIfAbsent]
        simpa [hcon, SuppressionTable.hasLink] using hr
      simp [callerSuppressed, callerNumber, hdb, hc, suppress, hcon,
        applySuppression, Db.contact_modifyContact, hs]

theorem suppress_number :
    ((s.suppress env).contact s.contactId).map (·.normalizedPhoneNumber)
      = s.callerNumber := by
  unfold suppress callerNumber
  cases hcon : s.db.contact s.contactId with
  | none => simp [hcon]
  | some c => simp [applySuppression, Db.contact_modifyContact, hcon]

/-- A suppression never takes a number off the list. -/
theorem suppress_mono {s' : Conversation} (hdb : s'.db = s.suppress env)
    (hc : s'.contactId = s.contactId) (h : s.callerSuppressed env = true) :
    s'.callerSuppressed env = true := by
  apply suppress_records _ hdb hc
  unfold callerSuppressed at h
  unfold recordable
  obtain ⟨n, hn, hs⟩ := (Option.any_eq_true _ _).mp h
  exact (Option.any_eq_true _ _).mpr ⟨n, hn, by simp [hs]⟩

/-! ## Turns -/

theorem turn_mem {id : Nat} {t : Turn} (h : s.turn id = some t) :
    t ∈ s.turns := List.mem_of_find?_eq_some h

theorem mem_setTurn {t u : Turn} (h : u ∈ (s.setTurn t).turns) :
    u = t ∨ u ∈ s.turns := by
  obtain ⟨v, hv, rfl⟩ := List.mem_map.mp h
  by_cases hid : v.id = t.id
  · left; rw [if_pos hid]
  · right; rw [if_neg hid]; exact hv

theorem mem_closeTurn {t u : Turn} (h : u ∈ (s.closeTurn t).turns) :
    u ∈ s.turns := (List.mem_filter.mp h).1

theorem not_owing : s.owing = false ↔ ∀ t ∈ s.turns, t.owed = false := by
  simp [owing]

/-! ## Endings -/

theorem open_of_not_ended (h : ¬ s.ended = true) : s.endReason = none := by
  simpa [ended] using h

theorem endConversation_open {reason : EndReason} {now : Instant}
    (h : s.endReason = none) :
    s.endConversation reason now = { s with
      endReason := some reason
      db := endingRows s.db s.attemptId s.contactId
        (endingStatus reason s.memory.pendingPoints) now } := by
  simp [endConversation, ended, h]

theorem endConversation_ended {reason : EndReason} {now : Instant}
    (h : s.ended = true) : s.endConversation reason now = s := by
  simp [endConversation, h]

theorem Enforcing.of_fresh (h : s.Fresh) : s.Enforcing env where
  contact := h.contact
  due hd := by rw [h.due] at hd; cases hd
  suppressed he := by rw [h.open'] at he; cases he
  owed t ht := by rw [h.turns] at ht; cases ht
  spoken t ht := by rw [h.turns] at ht; cases ht
  heard t ht := by rw [h.turns] at ht; cases ht

/-- A conversation in which no opt-out is owed may end for any reason but
an opt-out. -/
theorem Enforcing.endOther (h : s.Enforcing env) (reason : EndReason)
    (hr : reason ≠ .optOut) (ho : s.endReason = none)
    (hown : s.owing = false) {s' : Conversation}
    (hend : s'.endReason = some reason) (hturns : s'.turns = s.turns)
    (hdue : s'.optOutDue = s.optOutDue)
    (hn : s'.callerNumber = s.callerNumber) : s'.Enforcing env where
  contact := isSome_number.mpr (hn ▸ isSome_number.mp h.contact)
  due hd := by
    rw [hdue] at hd
    have := h.due hd
    rw [ho] at this; cases this
  suppressed he := by
    rw [hend] at he
    exact absurd (Option.some.inj he) hr
  owed t ht howed := by
    rw [hturns] at ht
    rw [not_owing.mp hown t ht] at howed
    cases howed
  spoken t ht o d _ _ hopen := by rw [hend] at hopen; cases hopen
  heard t ht := by rw [hturns] at ht; exact h.heard t ht

/-- After its end a conversation may only lose turns. -/
theorem Enforcing.stayEnded (h : s.Enforcing env) {r : EndReason}
    (hend : s.endReason = some r) {s' : Conversation}
    (hsame : s'.endReason = s.endReason)
    (hn : s'.callerNumber = s.callerNumber)
    (hsup : s.callerSuppressed env = true → s'.callerSuppressed env = true)
    (hturns : ∀ t ∈ s'.turns, ∃ u ∈ s.turns, u.owed = t.owed ∧
      u.utterance = t.utterance)
    (hdue : s'.optOutDue = true → s.optOutDue = true ∨ s.owing = true) :
    s'.Enforcing env where
  contact := isSome_number.mpr (hn ▸ isSome_number.mp h.contact)
  due hd := by
    rw [hsame]
    rcases hdue hd with hd | hown
    · exact h.due hd
    · by_contra hne
      obtain ⟨t, ht, howed⟩ := List.any_eq_true.mp hown
      have := (h.owed t ht howed hne).1
      rw [hend] at this; cases this
  suppressed he := hsup (h.suppressed (hsame ▸ he))
  owed t ht howed hne := by
    obtain ⟨u, hu, hou, -⟩ := hturns t ht
    have := (h.owed u hu (hou.trans howed) (hsame ▸ hne)).1
    rw [hend] at this; cases this
  spoken t ht o d _ _ hopen := by rw [hsame, hend] at hopen; cases hopen
  heard t ht hdet := by
    obtain ⟨u, hu, hou, huu⟩ := hturns t ht
    rw [← hou]
    exact h.heard u hu (by rw [huu]; exact hdet)

/-! ## One step at a time -/

variable {t : Turn} {now : Instant}

theorem Enforcing.utterance (h : s.Enforcing env) {text : String}
    (hc : s.undisturbed env (.utterance text now) = true) :
    (s.handleFinalUtterance env text now).Enforcing env := by
  unfold handleFinalUtterance
  by_cases hend : s.ended = true
  · rw [if_pos hend]
    exact h
  · have ho := open_of_not_ended hend
    rw [if_neg hend]
    dsimp only
    -- over a limit: nothing is owed and the words contain no phrase
    have hover : s.overLimit now = true →
        s.owing = false ∧ detectOptOut env text = false := by
      intro hlim
      simpa [undisturbed, ended, ho, hlim] using hc
    split
    · next hmax =>
      obtain ⟨hown, hdet⟩ := hover (by simp [overLimit, hmax])
      rw [endConversation_open (by exact ho)]
      refine h.endOther .maxTurnsReached (by simp) ho hown rfl rfl
        (by simp [hdet]) ?_
      exact endingRows_number _
    · split
      · next hmax =>
        obtain ⟨hown, hdet⟩ := hover (by simp [overLimit, hmax])
        rw [endConversation_open (by exact ho)]
        refine h.endOther .maxDurationReached (by simp) ho hown
          rfl rfl (by simp [hdet]) ?_
        exact endingRows_number _
      · exact
          { contact := h.contact
            due := h.due
            suppressed := h.suppressed
            owed := by
              intro t ht howed hne
              rcases List.mem_append.mp ht with ht | ht
              · exact h.owed t ht howed hne
              · rw [List.mem_singleton] at ht
                subst ht
                exact ⟨ho, rfl, howed⟩
            spoken := by
              intro t ht o d hp
              rcases List.mem_append.mp ht with ht | ht
              · exact h.spoken t ht o d hp
              · rw [List.mem_singleton] at ht
                subst ht
                cases hp
            heard := by
              intro t ht hdet
              rcases List.mem_append.mp ht with ht | ht
              · exact h.heard t ht hdet
              · rw [List.mem_singleton] at ht
                subst ht
                exact hdet }

theorem Enforcing.bargeIn (h : s.Enforcing env)
    (hc : s.undisturbed env .bargeIn = true) : s.onBargeIn.Enforcing env where
  contact := h.contact
  due := h.due
  suppressed := h.suppressed
  owed t ht howed hne := by
    obtain ⟨hopen, hp⟩ := h.owed t ht howed hne
    refine ⟨hopen, ?_⟩
    have hw : t.awaitsModel = false := by
      have := hc
      simp only [undisturbed, ended, hopen, Option.isSome_none, Bool.false_or,
        List.all_eq_true] at this
      simpa [howed] using this t ht
    unfold Turn.Pledged at hp ⊢
    unfold Turn.awaitsModel at hw
    cases hphase : t.phase with
    | generating f r => rw [hphase] at hw; cases hw
    | speaking o d => rw [hphase] at hp; exact hp
  spoken := h.spoken
  heard := h.heard

theorem Enforcing.silence (h : s.Enforcing env) {synthesized : Bool}
    (hc : s.undisturbed env (.silence synthesized now) = true) :
    (s.handleSilence synthesized now).Enforcing env := by
  unfold handleSilence
  by_cases hend : s.ended = true
  · rw [if_pos hend]
    exact h
  · have ho := open_of_not_ended hend
    rw [if_neg hend]
    by_cases hp : s.silencePromptsSent < maxSilencePrompts
    · rw [if_pos hp]
      exact ⟨h.contact, h.due, h.suppressed, h.owed, h.spoken, h.heard⟩
    · rw [if_neg hp, endConversation_open ho]
      refine h.endOther .silenceTimeout (by simp) ho ?_ rfl rfl
        rfl (endingRows_number _)
      simpa [undisturbed, ended, ho, hp] using hc

theorem Enforcing.dropped (h : s.Enforcing env)
    {reason : MidCallDisconnectReason}
    (hc : s.undisturbed env (.disconnect reason now) = true) :
    (s.disconnect env reason now).Enforcing env := by
  unfold disconnect
  by_cases hend : s.ended = true
  · rw [if_pos hend]
    exact h
  · have ho := open_of_not_ended hend
    rw [if_neg hend]
    refine h.endOther (.disconnected reason) (by simp) ho ?_ rfl rfl
      rfl (disconnectRows_number _)
    simpa [undisturbed, ended, ho] using hc

/-- An output that flags an opt-out is the answer's own. -/
theorem flags_of_done {f r : Nat} {answer : LlmAnswer} {o : StructuredOutput}
    (h : generate f r answer = .done o) (ho : o.requiresSuppression = true) :
    answer.flags = true := by
  cases answer with
  | failed =>
      simp only [generate] at h
      split at h
      · cases h
      · cases h; cases ho
  | output o' =>
      simp only [generate] at h
      split at h
      · cases h; exact ho
      · split at h
        · cases h
        · cases h; cases ho

/-- The turn as an answer marks it. -/
def Turn.marked (t : Turn) (flagged : Bool) : Turn :=
  { t with owed := t.owed || flagged }

/-- A call of the model that is repeated keeps the pledge. -/
theorem Enforcing.again (h : s.Enforcing env) (ht : t ∈ s.turns)
    (ho : s.endReason = none) {flagged : Bool} {f r f' r' : Nat}
    (hphase : t.phase = .generating f r)
    (hk : flagged = false ∨ detectOptOut env t.utterance = true) :
    (s.setTurn { Turn.marked t flagged with
      phase := .generating f' r' }).Enforcing env where
  contact := h.contact
  due := h.due
  suppressed := h.suppressed
  owed u hu howed hne := by
    rcases mem_setTurn hu with rfl | hu
    · refine ⟨ho, ?_⟩
      have hto : t.owed = true := by
        rcases hk with hk | hk
        · simpa [Turn.marked, hk] using howed
        · exact h.heard t ht hk
      have := (h.owed t ht hto hne).2
      rw [Turn.Pledged, hphase] at this
      exact this
    · exact h.owed u hu howed hne
  spoken u hu o d hp := by
    rcases mem_setTurn hu with rfl | hu
    · cases hp
    · exact h.spoken u hu o d hp
  heard u hu hdet := by
    rcases mem_setTurn hu with rfl | hu
    · simp [Turn.marked, h.heard t ht hdet]
    · exact h.heard u hu hdet

/-- A stale turn that owes nothing may be discarded. -/
theorem Enforcing.close (h : s.Enforcing env) (howed : t.owed = false) :
    (s.closeTurn t).Enforcing env where
  contact := h.contact
  due hd := h.due (by simpa [closeTurn, howed] using hd)
  suppressed := h.suppressed
  owed u hu := h.owed u (mem_closeTurn hu)
  spoken u hu := h.spoken u (mem_closeTurn hu)
  heard u hu := h.heard u (mem_closeTurn hu)

section Apply

variable {o : StructuredOutput}

/-- The decision `applyOutput` takes. -/
def decisionOn (env : Env) (s : Conversation) (t : Turn)
    (o : StructuredOutput) : PolicyDecision :=
  decidePolicy env (updateMemory s.memory o).phase o t.utterance
    (if o.intent = .negative then s.consecutiveDeclines + 1 else 0)
    (if o.intent = .unclear then s.consecutiveUnclear + 1 else 0)
    (decide ((updateMemory s.memory o).pendingPoints ≠ []))

theorem applyOutput_db : (s.applyOutput env t o).db
    = if (decisionOn env s t o).optOutDetected then s.suppress env
      else s.db := rfl

theorem applyOutput_turns {u : Turn} (h : u ∈ (s.applyOutput env t o).turns) :
    u = { t with phase := .speaking o (decisionOn env s t o) } ∨
      u ∈ s.turns := mem_setTurn h

theorem applyOutput_number (env : Env) (s : Conversation) :
    (s.applyOutput env t o).callerNumber = s.callerNumber := by
  show ((s.applyOutput env t o).db.contact s.contactId).map _ = _
  rw [applyOutput_db]
  split
  · exact suppress_number
  · rfl

theorem applyOutput_mono (h : s.callerSuppressed env = true) :
    (s.applyOutput env t o).callerSuppressed env = true := by
  by_cases hd : (decisionOn env s t o).optOutDetected = true
  · exact suppress_mono (s := s) (by rw [applyOutput_db, if_pos hd]) rfl h
  · rw [callerSuppressed_congr (applyOutput_number _ _)
      (by rw [applyOutput_db, if_neg hd])]
    exact h

/-- An output is applied: an opt-out of the turn is decided, and the
number recorded. -/
theorem Enforcing.apply (h : s.Enforcing env) (ho : s.endReason = none)
    (howed : t.owed = true →
      (decisionOn env s t o).optOutDetected = true)
    (hrec : (decisionOn env s t o).optOutDetected = true →
      s.recordable env = true)
    (hheard : detectOptOut env t.utterance = true → t.owed = true) :
    (s.applyOutput env t o).Enforcing env where
  contact := isSome_number.mpr
    (applyOutput_number env s ▸ isSome_number.mp h.contact)
  due := h.due
  suppressed he := applyOutput_mono (h.suppressed he)
  owed u hu hou hne := by
    rcases applyOutput_turns hu with rfl | hu
    · exact ⟨ho, decidePolicy_termination_iff.mpr (howed hou)⟩
    · exact h.owed u hu hou hne
  spoken u hu o' d hp hd hopen := by
    rcases applyOutput_turns hu with rfl | hu
    · cases hp
      have hdet : (decisionOn env s t o).optOutDetected = true :=
        decidePolicy_termination_iff.mp hd
      exact suppress_records (hrec hdet)
        (by rw [applyOutput_db, if_pos hdet]) rfl
    · exact applyOutput_mono (h.spoken u hu o' d hp hd hopen)
  heard u hu hdet := by
    rcases applyOutput_turns hu with rfl | hu
    · exact hheard hdet
    · exact h.heard u hu hdet

end Apply

theorem answerTurn_eq {f r : Nat} {answer : LlmAnswer} :
    s.answerTurn env t f r answer =
      match generate f r answer with
      | .again f' r' => s.setTurn
          { Turn.marked t (answer.flags && !s.ended) with
            phase := .generating f' r' }
      | .done o =>
          if t.generation ≠ s.generation then
            s.closeTurn (Turn.marked t (answer.flags && !s.ended))
          else s.applyOutput env (Turn.marked t (answer.flags && !s.ended)) o := by
  unfold answerTurn Turn.marked
  cases answer <;> rfl

/-- An answer of the model to a conversation that has not ended. -/
theorem Enforcing.answerOpen (h : s.Enforcing env) (ht : t ∈ s.turns)
    {f r : Nat} (hphase : t.phase = .generating f r) {answer : LlmAnswer}
    (ho : s.endReason = none)
    (hc : s.answerKeeps env t f r answer = true) :
    (s.answerTurn env t f r answer).Enforcing env := by
  have hopen : s.ended = false := by simp [ended, ho]
  rw [answerTurn_eq, hopen, Bool.not_false, Bool.and_true]
  unfold answerKeeps at hc
  cases hg : generate f r answer with
  | again f' r' =>
      rw [hg] at hc
      exact h.again ht ho hphase (by simpa using hc)
  | done o =>
      rw [hg] at hc
      dsimp only at hc ⊢
      have hmarked : (Turn.marked t answer.flags).owed
          = (t.owed || answer.flags) := rfl
      by_cases hstale : t.generation ≠ s.generation
      · rw [if_pos hstale]
        apply h.close
        rw [hmarked]
        have hfresh : (t.generation == s.generation) = false := by simpa
        simp only [hfresh, Bool.false_and, Bool.or_false] at hc
        simpa [and_comm] using hc
      · rw [if_neg hstale]
        have hiff : (decisionOn env s (Turn.marked t answer.flags)
            o).optOutDetected = true ↔ o.requiresSuppression = true ∨
              detectOptOut env t.utterance = true := decidePolicy_optOut_iff
        have howes : (decisionOn env s (Turn.marked t answer.flags)
            o).optOutDetected = true → (answer.flags || t.owed) = true := by
          intro hd
          rcases hiff.mp hd with hr | hdet
          · simp [flags_of_done hg hr]
          · simp [h.heard t ht hdet]
        refine h.apply ho ?_ ?_ ?_
        · intro howed
          rw [hmarked, Bool.or_comm] at howed
          simp only [howed, Bool.not_true, Bool.false_or,
            Bool.and_eq_true] at hc
          exact hiff.mpr (by simpa using hc.1.2)
        · intro hd
          simp only [howes hd, Bool.not_true, Bool.false_or,
            Bool.and_eq_true] at hc
          exact hc.2
        · intro hdet
          have hto := h.heard t ht hdet
          rw [hmarked, hto, Bool.true_or]

/-- An answer after the end changes nothing that counts. -/
theorem Enforcing.answerEnded (h : s.Enforcing env) (ht : t ∈ s.turns)
    {f r : Nat} {answer : LlmAnswer} {reason : EndReason}
    (hend : s.endReason = some reason) :
    (s.answerTurn env t f r answer).Enforcing env := by
  have hended : s.ended = true := by simp [ended, hend]
  rw [answerTurn_eq, hended, Bool.not_true, Bool.and_false]
  have hmark : (Turn.marked t false).owed = t.owed := by simp [Turn.marked]
  cases hg : generate f r answer with
  | again f' r' =>
      refine h.stayEnded hend rfl rfl id ?_ .inl
      intro u hu
      rcases mem_setTurn hu with rfl | hu
      · exact ⟨t, ht, hmark.symm, rfl⟩
      · exact ⟨u, hu, rfl, rfl⟩
  | done o =>
      dsimp only
      split
      · refine h.stayEnded hend rfl rfl id ?_ ?_
        · intro u hu
          exact ⟨u, mem_closeTurn hu, rfl, rfl⟩
        · intro hd
          rcases Bool.or_eq_true_iff.mp hd with hd | hd
          · exact .inl hd
          · exact .inr (List.any_eq_true.mpr ⟨t, ht, hmark ▸ hd⟩)
      · refine h.stayEnded hend rfl (applyOutput_number _ _)
          applyOutput_mono ?_ .inl
        intro u hu
        rcases applyOutput_turns hu with rfl | hu
        · exact ⟨t, ht, hmark.symm, rfl⟩
        · exact ⟨u, hu, rfl, rfl⟩

/-- Speech synthesis returns to a turn. -/
theorem Enforcing.spokenTurn (h : s.Enforcing env) (ht : t ∈ s.turns)
    {o : StructuredOutput} {d : PolicyDecision}
    (hphase : t.phase = .speaking o d) {synthesized : Bool}
    (hc : s.ended = true ∨ ∀ r, d.termination = some r →
      r = .optOut ∨ s.owing = false) :
    (s.finishOutput t o d synthesized now).Enforcing env := by
  unfold finishOutput
  dsimp only
  generalize hs' : ({ s with
    messages := if synthesized ∧ t.generation = s.generation then
        s.messages ++ [(ConversationRole.agent, o.responseText)] else s.messages
    memory := s.noteUtterance t o synthesized } : Conversation) = s'
  have hsp : s'.Enforcing env := by
    subst hs'
    exact ⟨h.contact, h.due, h.suppressed, h.owed, h.spoken, h.heard⟩
  have hends : s'.endReason = s.endReason := by subst hs'; rfl
  have hown : s'.owing = s.owing := by subst hs'; rfl
  have ht' : t ∈ s'.turns := by subst hs'; exact ht
  by_cases hend : s'.ended = true
  · obtain ⟨reason, hreason⟩ := Option.isSome_iff_exists.mp hend
    have hclosed : (s'.closeTurn t).Enforcing env := by
      refine hsp.stayEnded hreason rfl rfl id ?_ ?_
      · intro u hu
        exact ⟨u, mem_closeTurn hu, rfl, rfl⟩
      · intro hd
        rcases Bool.or_eq_true_iff.mp hd with hd | hd
        · exact .inl hd
        · exact .inr (List.any_eq_true.mpr ⟨t, ht', hd⟩)
    cases d.termination with
    | none => exact hclosed
    | some r =>
        show ((s'.closeTurn t).endConversation r now).Enforcing env
        rw [endConversation_ended (by exact hend)]
        exact hclosed
  · have ho := open_of_not_ended hend
    have hpledge : t.owed = true → d.termination = some .optOut := by
      intro howed
      have := (hsp.owed t ht' howed (by simp [ho])).2
      rw [Turn.Pledged, hphase] at this
      exact this
    cases hd : d.termination with
    | none =>
        apply hsp.close
        by_contra howed
        have := hpledge (by simpa using howed)
        rw [hd] at this; cases this
    | some r =>
        show ((s'.closeTurn t).endConversation r now).Enforcing env
        rw [endConversation_open (by exact ho)]
        by_cases hr : r = .optOut
        · subst hr
          have hsup := hsp.spoken t ht' o d hphase hd ho
          have hn : ∀ status, ((endingRows s'.db s'.attemptId s'.contactId
              status now).contact s'.contactId).map (·.normalizedPhoneNumber)
              = s'.callerNumber := fun status => endingRows_number status
          refine
            { contact := isSome_number.mpr ?_
              due := fun _ => rfl
              suppressed := fun _ => ?_
              owed := fun _ _ _ hne => absurd rfl hne
              spoken := fun u hu o' d' hp hd' hopen => by cases hopen
              heard := fun u hu => hsp.heard u (mem_closeTurn hu) }
          · show (Option.map _ _).isSome = true
            exact (hn _).symm ▸ isSome_number.mp hsp.contact
          · rw [← hsup]
            exact callerSuppressed_congr (hn _) (by simp [endingRows, closeTurn])
        · have hown' : s'.owing = false := by
            rcases hc with hc | hc
            · rw [ended, hends.symm, ho] at hc; cases hc
            · rcases hc r hd with h' | h'
              · exact absurd h' hr
              · rw [hown]; exact h'
          have howed := not_owing.mp hown' t ht'
          refine (hsp.close howed).endOther _ hr ho ?_ rfl rfl rfl
            (endingRows_number _)
          exact not_owing.mpr fun u hu => not_owing.mp hown' u (mem_closeTurn hu)

/-- **Every undisturbed step keeps the invariant.** -/
theorem Enforcing.step (h : s.Enforcing env) {a : ConversationAct}
    {s' : Conversation} (hc : s.undisturbed env a = true)
    (hst : conversationStep env s a = some s') : s'.Enforcing env := by
  cases a with
  | utterance text now => cases hst; exact h.utterance hc
  | bargeIn => cases hst; exact h.bargeIn hc
  | silence synthesized now => cases hst; exact h.silence hc
  | disconnect reason now => cases hst; exact h.dropped hc
  | llm id answer =>
      simp only [conversationStep] at hst
      cases ht : s.turn id with
      | none => rw [ht] at hst; cases hst
      | some t =>
          rw [ht] at hst
          cases hp : t.phase with
          | speaking o d => simp [hp] at hst
          | generating f r =>
              simp only [hp] at hst
              cases hst
              cases ho : s.endReason with
              | some reason => exact h.answerEnded (turn_mem ht) ho
              | none =>
                  refine h.answerOpen (turn_mem ht) hp ho ?_
                  simpa [undisturbed, ended, ho, ht, hp] using hc
  | tts id synthesized now =>
      simp only [conversationStep] at hst
      cases ht : s.turn id with
      | none => rw [ht] at hst; cases hst
      | some t =>
          rw [ht] at hst
          cases hp : t.phase with
          | generating f r => simp [hp] at hst
          | speaking o d =>
              simp only [hp] at hst
              cases hst
              refine h.spokenTurn (turn_mem ht) hp ?_
              by_cases hend : s.ended = true
              · exact .inl hend
              · right
                intro r hr
                simpa [undisturbed, hend, ht, hp, hr] using hc

end

end Conversation

open Conversation in
/-- **In-call opt-out is enforced, under a condition.** In every run in
which nothing gets in the way of an opt-out, once a turn that owes one is
over, the conversation has ended with the opt-out reason and the caller's
number is suppressed; and a turn that owes one is over after finitely many
answers, each of which brings it closer to its end. -/
theorem optOut_enforced {env : Env} {s s' : Conversation} (hs : s.Fresh)
    (h : Run (conversationStep env) (fun t a => t.undisturbed env a = true)
      s s') :
    (s'.optOutDue = true →
      s'.endReason = some .optOut ∧ s'.callerSuppressed env = true) ∧
    ∀ id t a s'', s'.turn id = some t → a.answers = some id →
      conversationStep env s' a = some s'' →
      s''.turn id = none ∨ ∃ t', s''.turn id = some t' ∧ t'.rank < t.rank ∧
        (t.owed = true → t'.owed = true) := by
  have hinv : s'.Enforcing env := Run.inv (P := fun t => t.Enforcing env)
    (fun t a t' ht hc hst => ht.step hc hst) h (.of_fresh hs)
  constructor
  · intro hdue
    exact ⟨hinv.due hdue, hinv.suppressed (hinv.due hdue)⟩
  · intro id t a s'' ht ha hst
    exact answer_progress ha ht hst

/-! ### A barge-in while the model answers -/

/-- A call that was just connected. -/
def connectedCall : Conversation where
  db :=
    { campaigns := AList.insert 1 { status := .active } ∅
      contacts := AList.insert 1
        { campaignId := 1
          normalizedPhoneNumber := "+919876543210"
          status := .inConversation
          attemptCount := 1 } ∅
      attempts := AList.insert 1
        { contactId := 1, attemptNumber := 1, state := .connected,
          startedAt := 0 } ∅ }
  contactId := 1
  attemptId := 1
  startedAt := 0

theorem connectedCall_fresh : connectedCall.Fresh where
  contact := ⟨_, rfl⟩
  turns := rfl
  open' := rfl
  due := rfl

/-- What the model says to a caller who wants no more calls. -/
def goodbye : StructuredOutput where
  intent := .endCall
  nextAction := .endCallPolite
  responseText := "Understood, goodbye."

/-- The caller opts out and speaks again before the model has answered:
the turn is discarded as stale, the conversation goes on, and the number
is not suppressed. -/
theorem bargeIn_discards_optOut :
    (runActs (conversationStep (plainEnv {})) connectedCall
      [.utterance "please stop calling me" second, .bargeIn,
        .llm 1 (.output goodbye)]).map
      (fun s => (s.optOutDue, s.endReason, s.callerSuppressed (plainEnv {})))
      = some (true, none, false) := by
  decide +kernel

/-- Without the interruption the opt-out is enforced, also when the model
fails throughout. -/
theorem uninterrupted_optOut :
    ∃ s, runActs (conversationStep (plainEnv {})) connectedCall
        [.utterance "please stop calling me" second, .llm 1 .failed,
          .llm 1 .failed, .tts 1 true (2 * second)] = some s ∧
      s.endReason = some .optOut ∧
      s.callerSuppressed (plainEnv {}) = true := by
  obtain ⟨s, hs, hrun⟩ := Run.of_holdsAlong
    (conversationStep (plainEnv {}))
    (fun s a => s.undisturbed (plainEnv {}) a) connectedCall
    [.utterance "please stop calling me" second, .llm 1 .failed,
      .llm 1 .failed, .tts 1 true (2 * second)]
    (by decide +kernel)
  have hdue : (runActs (conversationStep (plainEnv {})) connectedCall
      [.utterance "please stop calling me" second, .llm 1 .failed,
        .llm 1 .failed, .tts 1 true (2 * second)]).map (·.optOutDue)
      = some true := by
    decide +kernel
  rw [hs] at hdue
  exact ⟨s, hs, (optOut_enforced connectedCall_fresh hrun).1
    (Option.some.inj hdue)⟩

end CallingAgent
