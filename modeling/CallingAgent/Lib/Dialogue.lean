import CallingAgent.Lib.Run

/-!
# Dialogues — programs that receive and send

A program is given by what it asks for next: a message, the sending of one,
nothing visible, or to end. Whoever runs it answers, and either answer may
be an exception. The run of a program is its dialogue with the other side,
event by event; a program around a program is again one.
-/

namespace CallingAgent.Lib

/-- What a program in a state asks for. -/
inductive Ask (ε ι ω σ : Type) where
  | receive (k : Except ε ι → σ)
  | send (o : ω) (k : Except ε Unit → σ)
  | silent (s : σ)
  | finish
  | fail (e : ε)

/-- What the other side sees and answers. -/
inductive Event (ε ι ω : Type) where
  | received (x : Except ε ι)
  | sent (o : ω) (r : Except ε Unit)

/-- A run as far as it has come. -/
structure Dialogue (ε ι ω σ : Type) where
  state : σ
  log : List (Event ε ι ω) := []

/-- What the other side, or the clock, does. -/
inductive Answer (ε ι : Type) where
  | message (x : Except ε ι)
  | written (r : Except ε Unit)
  | idle

section Dialogue

variable {ε ι ω σ : Type}

/-- One exchange; an answer to another question is no step. -/
def dialogueStep (next : σ → Ask ε ι ω σ) (d : Dialogue ε ι ω σ) :
    Answer ε ι → Option (Dialogue ε ι ω σ)
  | .message x =>
      match next d.state with
      | .receive k => some ⟨k x, d.log ++ [.received x]⟩
      | _ => none
  | .written r =>
      match next d.state with
      | .send o k => some ⟨k r, d.log ++ [.sent o r]⟩
      | _ => none
  | .idle =>
      match next d.state with
      | .silent s => some { d with state := s }
      | _ => none

/-- The messages that were given out to be sent. -/
def sentIn : List (Event ε ι ω) → List ω
  | [] => []
  | .received _ :: log => sentIn log
  | .sent o _ :: log => o :: sentIn log

/-- How much the messages of a dialogue weigh that arrived. -/
def weightIn (weight : ι → Nat) : List (Event ε ι ω) → Nat
  | [] => 0
  | .received (.ok m) :: log => weight m + weightIn weight log
  | .received (.error _) :: log => weightIn weight log
  | .sent .. :: log => weightIn weight log

@[simp] theorem sentIn_append (a b : List (Event ε ι ω)) :
    sentIn (a ++ b) = sentIn a ++ sentIn b := by
  induction a with
  | nil => rfl
  | cons e a ih =>
      cases e with
      | received x => exact ih
      | sent o r => exact congrArg (o :: ·) ih

@[simp] theorem weightIn_append (weight : ι → Nat)
    (a b : List (Event ε ι ω)) :
    weightIn weight (a ++ b) = weightIn weight a + weightIn weight b := by
  induction a with
  | nil => exact (Nat.zero_add _).symm
  | cons e a ih =>
      cases e with
      | sent o r => exact ih
      | received x =>
          cases x with
          | error e => exact ih
          | ok m =>
              show weight m + weightIn weight (a ++ b) = weight m + _ + _
              rw [ih, Nat.add_assoc]

variable {next : σ → Ask ε ι ω σ} {d d' : Dialogue ε ι ω σ}

/-- Every step of a dialogue answers what was asked. -/
theorem dialogueStep_cases {a : Answer ε ι}
    (h : dialogueStep next d a = some d') :
    (∃ k x, a = .message x ∧ next d.state = .receive k ∧
      d' = ⟨k x, d.log ++ [.received x]⟩) ∨
    (∃ o k r, a = .written r ∧ next d.state = .send o k ∧
      d' = ⟨k r, d.log ++ [.sent o r]⟩) ∨
    (∃ s, a = .idle ∧ next d.state = .silent s ∧
      d' = { d with state := s }) := by
  cases a with
  | message x =>
      simp only [dialogueStep] at h
      split at h
      · next k hk =>
        cases h
        exact .inl ⟨k, x, rfl, hk, rfl⟩
      · cases h
  | written r =>
      simp only [dialogueStep] at h
      split at h
      · next o k hk =>
        cases h
        exact .inr (.inl ⟨o, k, r, rfl, hk, rfl⟩)
      · cases h
  | idle =>
      simp only [dialogueStep] at h
      split at h
      · next s hs =>
        cases h
        exact .inr (.inr ⟨s, rfl, hs, rfl⟩)
      · cases h

theorem dialogueStep_message {k : Except ε ι → σ} {x : Except ε ι}
    (h : next d.state = .receive k) :
    dialogueStep next d (.message x) = some ⟨k x, d.log ++ [.received x]⟩ := by
  simp only [dialogueStep, h]

theorem dialogueStep_written {o : ω} {k : Except ε Unit → σ}
    {r : Except ε Unit} (h : next d.state = .send o k) :
    dialogueStep next d (.written r) = some ⟨k r, d.log ++ [.sent o r]⟩ := by
  simp only [dialogueStep, h]

theorem dialogueStep_idle {s : σ} (h : next d.state = .silent s) :
    dialogueStep next d .idle = some { d with state := s } := by
  simp only [dialogueStep, h]

end Dialogue

end CallingAgent.Lib
