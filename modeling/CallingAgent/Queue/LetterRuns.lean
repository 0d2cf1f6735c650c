import CallingAgent.Model.Phone
import CallingAgent.Queue.DeadLetters

/-!
# Every move is handled once

A worker that moves a message keeps its letter until it drains them. As long
as no worker dies with letters in its memory, each move of the dead-letter
stream has been handled once or is waiting in one memory; what becomes of it
there depends on its payload alone.
-/

namespace CallingAgent

open Lib

/-! ## The system -/

/-- The queue, and the letters the workers have drained. -/
structure LetterSystem where
  queue : StreamSystem
  handled : List DeadLetter := []

inductive LetterAct where
  | queue (a : StreamAct)
  /-- `handle_dead_letters` drains the queue object of this worker -/
  | handle (c : ConsumerName)

def StreamSystem.letters (s : StreamSystem) (c : ConsumerName) :
    List DeadLetter := (s.worker c).deadLetters

/-- `drain_dead_letters` -/
def StreamSystem.drain (s : StreamSystem) (c : ConsumerName) : StreamSystem :=
  s.setWorker c { s.worker c with deadLetters := [] }

def letterStep (settings : Settings) (json : JsonModule) (s : LetterSystem) :
    LetterAct → Option LetterSystem
  | .queue a =>
      (streamStep settings json s.queue a).map fun q => { s with queue := q }
  | .handle c =>
      some { queue := s.queue.drain c, handled := s.handled ++ s.queue.letters c }

def LetterSystem.fresh (now : Nat) : LetterSystem := { queue := .fresh now }

/-- The worker process keeps running: it does not die with letters that wait
to be recorded. -/
def LetterSystem.keepsRunning (s : LetterSystem) : LetterAct → Bool
  | .queue (.crash c) => (s.queue.letters c).isEmpty
  | _ => true

/-! ## Counting -/

/-- The letters about a message. -/
def countLetters (m : MessageId) (ls : List DeadLetter) : Nat :=
  ls.countP fun l => Nat.beq l.messageId m

namespace StreamSystem

variable (s : StreamSystem)

/-- The moves of a message to the dead-letter stream. -/
def moves (m : MessageId) : Nat :=
  s.redis.dlq.countP fun d => Nat.beq d.originalId m

/-- The letters about it in the memories of the workers. -/
def waiting (m : MessageId) : Nat :=
  s.workers.total fun w => countLetters m w.deadLetters

end StreamSystem

/-- From `s` to `s'` every move leaves a letter, and no letter is lost. -/
structure StreamSystem.Accounts (s s' : StreamSystem) : Prop where
  moves : ∀ m, s'.moves m + s.waiting m = s.moves m + s'.waiting m

section Accounts

variable {s s' t : StreamSystem}

theorem StreamSystem.Accounts.trans (h : s.Accounts t) (h' : t.Accounts s') :
    s.Accounts s' where
  moves m := by
    have h := h.moves m
    have h' := h'.moves m
    omega

/-- Neither the stream of dead letters nor a worker changes. -/
theorem StreamSystem.Accounts.of_same (hd : s'.redis.dlq = s.redis.dlq)
    (hw : s'.workers = s.workers) : s.Accounts s' where
  moves m := by
    unfold StreamSystem.moves StreamSystem.waiting
    rw [hd, hw]

/-- One worker is rewritten. -/
theorem waiting_setWorker (c : ConsumerName) (w : StreamWorker) (m : MessageId) :
    (s.setWorker c w).waiting m + countLetters m (s.letters c)
      = s.waiting m + countLetters m w.deadLetters := by
  have htotal := Table.total_insert s.workers c w
    fun w => countLetters m w.deadLetters
  have hold : ((AList.lookup c s.workers).map
      fun w => countLetters m w.deadLetters).getD 0
      = countLetters m (s.letters c) := by
    unfold StreamSystem.letters StreamSystem.worker
    cases AList.lookup c s.workers with
    | none => rfl
    | some w => rfl
  rw [hold] at htotal
  exact htotal

/-- A worker that keeps its letters. -/
theorem StreamSystem.Accounts.setWorker {c : ConsumerName} {w : StreamWorker}
    (h : w.deadLetters = s.letters c) : s.Accounts (s.setWorker c w) where
  moves m := by
    have hw := waiting_setWorker (s := s) c w m
    rw [h] at hw
    have hm : (s.setWorker c w).moves m = s.moves m := rfl
    omega

theorem accounts_setDoing (c : ConsumerName) (d : Doing) :
    s.Accounts (s.setDoing c d) := .setWorker rfl

theorem accounts_answer (c : ConsumerName)
    (messages : List (MessageId × UntypedJob)) :
    s.Accounts (s.answer c messages) :=
  (accounts_setDoing c .idle).trans (.of_same rfl rfl)

theorem accounts_proceed (c : ConsumerName) (batch : List (MessageId × String))
    (ready : List (MessageId × UntypedJob)) :
    s.Accounts (s.proceed c batch ready) := by
  unfold StreamSystem.proceed
  split
  · exact accounts_setDoing ..
  · exact accounts_answer ..

/-- The move and its letter. -/
theorem accounts_deadLetter (c : ConsumerName) (l : DeadLetter) :
    s.Accounts (s.deadLetter c l) where
  moves m := by
    have hw : (s.deadLetter c l).waiting m + countLetters m (s.letters c)
        = s.waiting m + countLetters m (s.letters c ++ [l]) :=
      waiting_setWorker (s := { s with redis := s.redis.deadLetter l }) c _ m
    have hletters : countLetters m (s.letters c ++ [l])
        = countLetters m (s.letters c) + countLetters m [l] :=
      List.countP_append
    have hmoves : (s.deadLetter c l).moves m
        = s.moves m + countLetters m [l] := List.countP_append
    omega

theorem accounts_received (json : JsonModule) (c : ConsumerName)
    (entry : Option (MessageId × String)) :
    s.Accounts (s.received json c entry) := by
  unfold StreamSystem.received
  split
  · exact accounts_answer ..
  · split
    · exact accounts_setDoing ..
    · exact accounts_setDoing ..
    · exact accounts_answer ..

theorem accounts_examine (settings : Settings) (json : JsonModule)
    (c : ConsumerName) (m : MessageId) (raw : String)
    (batch : List (MessageId × String)) (ready : List (MessageId × UntypedJob)) :
    s.Accounts (s.examine settings json c m raw batch ready) := by
  unfold StreamSystem.examine
  dsimp only
  split
  · exact accounts_setDoing ..
  · exact accounts_setDoing ..
  · split
    · exact accounts_setDoing ..
    · exact accounts_proceed ..

theorem accounts_begin {c : ConsumerName} {d : Doing}
    (h : s.begin c d = some s') : s.Accounts s' := by
  unfold StreamSystem.begin at h
  split at h
  · cases h
    exact .setWorker rfl
  · cases h

theorem accounts_command {settings : Settings} {json : JsonModule}
    {c : ConsumerName} (h : s.command settings json c = some s') :
    s.Accounts s' := by
  have hstream : ∀ stream, s.Accounts (s.setStream stream) :=
    fun stream => .of_same rfl rfl
  unfold StreamSystem.command at h
  split at h
  · cases h
  · cases h
    exact (hstream _).trans (accounts_received ..)
  · cases h
    exact (accounts_deadLetter ..).trans (accounts_setDoing ..)
  · cases h
    exact (hstream _).trans (accounts_proceed ..)
  · cases h
    exact accounts_answer ..
  · cases h
    exact accounts_examine ..
  · cases h
    exact (accounts_deadLetter ..).trans (accounts_proceed ..)

theorem accounts_enqueueOnce (settings : Settings) (payload : String)
    (k : GuardKey) (ttl : Int) :
    s.Accounts (s.enqueueOnce settings payload k ttl) := by
  have hdlq := s.redis.enqueueOnce_dlq settings payload k ttl
  unfold StreamSystem.enqueueOnce
  dsimp only
  split
  · exact .of_same hdlq rfl
  · exact .of_same hdlq rfl

/-- **One command.** -/
theorem accounts_streamStep {settings : Settings} {json : JsonModule}
    {a : StreamAct} (hcrash : ∀ c, a = .crash c → s.letters c = [])
    (h : streamStep settings json s a = some s') : s.Accounts s' := by
  cases a with
  | enqueue payload =>
      cases h
      exact .of_same rfl rfl
  | enqueueOnce payload k ttl =>
      cases h
      exact accounts_enqueueOnce ..
  | deleteGuard k =>
      cases h
      exact .of_same rfl rfl
  | ack m =>
      cases h
      exact .of_same rfl rfl
  | resetDeliveries m =>
      cases h
      exact .of_same rfl rfl
  | readOne c => exact accounts_begin h
  | reclaimStale c idleMs count => exact accounts_begin h
  | command c => exact accounts_command h
  | crash c =>
      cases h
      exact .setWorker (hcrash c rfl).symm
  | tick d =>
      cases h
      exact .of_same rfl rfl

end Accounts

/-! ## The letters come from their payloads -/

/-- The job of a parsed payload. -/
def Parsed.job? : Parsed → Option UntypedJob
  | .job j => some j
  | .unreadable | .raised => none

/-- The letter says what its payload says. -/
def DeadLetter.Faithful (json : JsonModule) (l : DeadLetter) : Prop :=
  l.job = (parse json l.raw).job?

/-- The letter a call is about to move a message with. -/
def Doing.letter : Doing → Option DeadLetter
  | .discarding l | .condemning l _ _ => some l
  | _ => none

/-- The letters of a worker are about moves, with the payloads moved. -/
structure StreamWorker.Letters (json : JsonModule) (dlq : List DeadEntry)
    (w : StreamWorker) : Prop where
  next : ∀ l, w.doing.letter = some l → l.Faithful json
  moved : ∀ l ∈ w.deadLetters, l.Faithful json ∧
    ∃ d ∈ dlq, d.originalId = l.messageId ∧ d.job = l.raw

/-- The letters of every worker are. -/
structure StreamSystem.Letters (json : JsonModule) (s : StreamSystem) :
    Prop where
  worker : ∀ c, (s.worker c).Letters json s.redis.dlq

section Letters

variable {json : JsonModule} {s s' : StreamSystem}

namespace StreamSystem.Letters

/-- No worker changes, and no entry is taken from the dead-letter stream. -/
theorem of_same (h : s.Letters json) (hw : s'.workers = s.workers)
    (hd : ∀ d ∈ s.redis.dlq, d ∈ s'.redis.dlq) : s'.Letters json where
  worker c := by
    have hc : s'.worker c = s.worker c := by
      unfold StreamSystem.worker
      rw [hw]
    rw [hc]
    refine ⟨(h.worker c).next, fun l hl => ?_⟩
    obtain ⟨hf, d, hmem, hid⟩ := (h.worker c).moved l hl
    exact ⟨hf, d, hd d hmem, hid⟩

theorem setWorker (h : s.Letters json) {c : ConsumerName} {w : StreamWorker}
    (hw : w.Letters json s.redis.dlq) : (s.setWorker c w).Letters json where
  worker c' := by
    rw [StreamSystem.worker_setWorker]
    split
    · exact hw
    · exact h.worker c'

theorem setDoing (h : s.Letters json) {c : ConsumerName} {d : Doing}
    (hd : ∀ l, d.letter = some l → l.Faithful json) :
    (s.setDoing c d).Letters json :=
  h.setWorker ⟨hd, (h.worker c).moved⟩

theorem answer (h : s.Letters json) (c : ConsumerName)
    (messages : List (MessageId × UntypedJob)) :
    (s.answer c messages).Letters json :=
  (h.setDoing (c := c) (d := .idle) nofun).of_same rfl fun _ hd => hd

theorem proceed (h : s.Letters json) (c : ConsumerName)
    (batch : List (MessageId × String))
    (ready : List (MessageId × UntypedJob)) :
    (s.proceed c batch ready).Letters json := by
  unfold StreamSystem.proceed
  cases batch with
  | nil => exact h.answer c ready
  | cons x batch => exact h.setDoing nofun

protected theorem deadLetter (h : s.Letters json) {c : ConsumerName}
    {l : DeadLetter} (hl : l.Faithful json) :
    (s.deadLetter c l).Letters json := by
  have hmoved : ({ s with redis := s.redis.deadLetter l } :
      StreamSystem).Letters json :=
    h.of_same rfl fun d hd => List.mem_append_left _ hd
  refine hmoved.setWorker ⟨(hmoved.worker c).next, fun l' hl' => ?_⟩
  rcases List.mem_append.mp hl' with hl' | hl'
  · exact (hmoved.worker c).moved l' hl'
  · rw [List.mem_singleton.mp hl']
    exact ⟨hl, _, List.mem_append_right _ List.mem_cons_self, rfl, rfl⟩

protected theorem begin (h : s.Letters json) {c : ConsumerName} {d : Doing}
    (hd : d.letter = none) (hs : s.begin c d = some s') : s'.Letters json := by
  unfold StreamSystem.begin at hs
  split at hs
  · cases hs
    refine h.setWorker ⟨fun l hl => ?_, (h.worker c).moved⟩
    rw [hd] at hl
    cases hl
  · cases hs

protected theorem received (h : s.Letters json) (c : ConsumerName)
    (entry : Option (MessageId × String)) :
    (s.received json c entry).Letters json := by
  unfold StreamSystem.received
  split
  · exact h.answer c []
  · next m raw =>
    split
    · exact h.setDoing nofun
    · next hparse =>
      refine h.setDoing fun l hl => ?_
      cases hl
      simp only [DeadLetter.Faithful, hparse, Parsed.job?]
    · exact h.answer c _

protected theorem examine (h : s.Letters json) (settings : Settings)
    (c : ConsumerName) (m : MessageId) (raw : String)
    (batch : List (MessageId × String))
    (ready : List (MessageId × UntypedJob)) :
    (s.examine settings json c m raw batch ready).Letters json := by
  unfold StreamSystem.examine
  dsimp only
  split
  · exact h.setDoing nofun
  · next hparse =>
    refine h.setDoing fun l hl => ?_
    cases hl
    simp only [DeadLetter.Faithful, hparse, Parsed.job?]
  · next job hparse =>
    split
    · refine h.setDoing fun l hl => ?_
      cases hl
      simp only [DeadLetter.Faithful, hparse, Parsed.job?]
    · exact h.proceed c batch _

protected theorem command (h : s.Letters json) {settings : Settings}
    {c : ConsumerName} (hs : s.command settings json c = some s') :
    s'.Letters json := by
  have hstream : ∀ stream, (s.setStream stream).Letters json :=
    fun stream => h.of_same rfl fun _ hd => hd
  have hnext := (h.worker c).next
  unfold StreamSystem.command at hs
  split at hs
  · cases hs
  · cases hs
    exact (hstream _).received c _
  · next l hdoing =>
    cases hs
    rw [hdoing] at hnext
    exact (h.deadLetter (hnext l rfl)).setDoing nofun
  · cases hs
    exact (hstream _).proceed c _ []
  · next ready _ =>
    cases hs
    exact h.answer c ready
  · cases hs
    exact h.examine ..
  · next l batch ready hdoing =>
    cases hs
    rw [hdoing] at hnext
    exact (h.deadLetter (hnext l rfl)).proceed c batch ready

theorem step (h : s.Letters json) {settings : Settings} {a : StreamAct}
    (hs : streamStep settings json s a = some s') : s'.Letters json := by
  cases a with
  | enqueue payload =>
      cases hs
      exact h.of_same rfl fun _ hd => hd
  | enqueueOnce payload k ttl =>
      cases hs
      refine h.of_same ?_ fun d hd => ?_
      · unfold StreamSystem.enqueueOnce
        dsimp only
        split <;> rfl
      · have hdlq := s.redis.enqueueOnce_dlq settings payload k ttl
        unfold StreamSystem.enqueueOnce
        dsimp only
        split
        · exact hdlq ▸ hd
        · exact hdlq ▸ hd
  | deleteGuard k =>
      cases hs
      exact h.of_same rfl fun _ hd => hd
  | ack m =>
      cases hs
      exact h.of_same rfl fun _ hd => hd
  | resetDeliveries m =>
      cases hs
      exact h.of_same rfl fun _ hd => hd
  | readOne c => exact h.begin rfl hs
  | reclaimStale c idleMs count => exact h.begin rfl hs
  | command c => exact h.command hs
  | crash c =>
      cases hs
      exact h.setWorker ⟨nofun, nofun⟩
  | tick d =>
      cases hs
      exact h.of_same rfl fun _ hd => hd

end StreamSystem.Letters

end Letters

/-! ## The result -/

/-- What every step keeps. -/
structure LetterInv (json : JsonModule) (s : LetterSystem) : Prop where
  counted : ∀ m, s.queue.moves m
    = countLetters m s.handled + s.queue.waiting m
  letters : s.queue.Letters json

theorem LetterInv.fresh (json : JsonModule) (now : Nat) :
    LetterInv json (.fresh now) where
  counted _ := rfl
  letters := ⟨fun _ => ⟨nofun, nofun⟩⟩

theorem LetterInv.step {settings : Settings} {json : JsonModule}
    {s s' : LetterSystem} {a : LetterAct} (h : LetterInv json s)
    (hc : s.keepsRunning a = true) (hs : letterStep settings json s a = some s') :
    LetterInv json s' := by
  cases a with
  | queue a =>
      obtain ⟨q, hq, rfl⟩ := Option.map_eq_some_iff.mp hs
      have hacc := accounts_streamStep (fun c hcrash => by
        subst hcrash
        exact List.isEmpty_iff.mp hc) hq
      refine ⟨fun m => ?_, h.letters.step hq⟩
      have hm := hacc.moves m
      have hcount := h.counted m
      dsimp only
      omega
  | handle c =>
      cases hs
      refine ⟨fun m => ?_, h.letters.setWorker ⟨(h.letters.worker c).next, nofun⟩⟩
      have hw : (s.queue.drain c).waiting m + countLetters m (s.queue.letters c)
          = s.queue.waiting m + countLetters m [] := waiting_setWorker c _ m
      have hhandled : countLetters m (s.handled ++ s.queue.letters c)
          = countLetters m s.handled + countLetters m (s.queue.letters c) :=
        List.countP_append
      have hnone : countLetters m [] = 0 := rfl
      have hcount := h.counted m
      show s.queue.moves m = countLetters m (s.handled ++ s.queue.letters c)
        + (s.queue.drain c).waiting m
      omega

/-- **Dead letters.** Every move is handled once while its worker runs, and
it is recorded exactly when its payload is no job or one that can be
recorded. -/
theorem dead_letter_recorded_iff (settings : Settings) (json : JsonModule)
    (env : LetterEnv) (now : Nat) (s : LetterSystem)
    (h : Run (letterStep settings json) (fun s a => s.keepsRunning a = true)
      (.fresh now) s) :
    -- every move was handled once, or its letter waits for that
    (∀ m, s.queue.moves m = countLetters m s.handled + s.queue.waiting m) ∧
    -- a letter says what was moved
    (∀ c, ∀ l ∈ s.queue.letters c, l.job = (parse json l.raw).job? ∧
      ∃ d ∈ s.queue.redis.dlq, d.originalId = l.messageId ∧ d.job = l.raw) ∧
    -- whatever the database and the letters before it
    (∀ c store before l after, s.queue.letters c = before ++ l :: after →
      (Recorded env (handleDeadLetters env store before) l
          (handleDeadLetters env store (before ++ [l]))
        ↔ recordablePayload env json l.raw = true)) := by
  have hi := h.inv (fun _ _ _ hi hc hs => LetterInv.step hi hc hs) (.fresh json now)
  have hmoved := fun c => (hi.letters.worker c).moved
  refine ⟨hi.counted, hmoved, fun c store before l after hsplit => ?_⟩
  have hfaithful : l.job = (parse json l.raw).job? := by
    refine (hmoved c l ?_).1
    show l ∈ s.queue.letters c
    rw [hsplit]
    exact List.mem_append_right _ List.mem_cons_self
  have hpayload : l.job.all (·.recordable env)
      = recordablePayload env json l.raw := by
    unfold recordablePayload
    rw [hfaithful]
    cases parse json l.raw <;> rfl
  rw [handleDeadLetters_append, recorded_iff, hpayload]

/-! ## A contact id that is none -/

/-- A second delivery is one too many. -/
def oneDelivery : Settings := { queueMaxDeliveries := 1 }

def demoLetterEnv : LetterEnv where
  uuid := canonicalUuid
  storable _ := true
  queueStreamKey := "calls:outbound"

/-- The job is read by a worker that crashes on it, and moved by the one
that reclaims it. -/
def poisoned : List LetterAct :=
  [.queue (.enqueue demoJobText), .queue (.readOne "a"), .queue (.command "a"),
    .queue (.crash "a"), .queue (.tick 60000),
    .queue (.reclaimStale "b" 60000 10), .queue (.command "b"),
    .queue (.command "b"), .queue (.command "b")]

/-- The message is moved, and handling it leaves no trace in the
database. -/
theorem unusable_contact_id_is_not_recorded :
    ∃ s, runActs (letterStep oneDelivery demoJson) (.fresh 0) poisoned = some s ∧
      s.queue.moves 1 = 1 ∧
      (s.queue.letters "b").map (·.raw) = [demoJobText] ∧
      (handleDeadLetters demoLetterEnv ⟨{}, []⟩
        (s.queue.letters "b")).audits.length = 0 := by
  have hany : (runActs (letterStep oneDelivery demoJson) (.fresh 0)
      poisoned).any (fun s => decide (s.queue.moves 1 = 1 ∧
        (s.queue.letters "b").map (·.raw) = [demoJobText] ∧
        (handleDeadLetters demoLetterEnv ⟨{}, []⟩
          (s.queue.letters "b")).audits.length = 0)) = true := by
    decide +kernel
  obtain ⟨s, hs, hdec⟩ := (Option.any_eq_true _ _).mp hany
  exact ⟨s, hs, of_decide_eq_true hdec⟩

/-- An unreadable text, discarded by the worker that reads it. -/
def discarded : List LetterAct :=
  [.queue (.enqueue ""), .queue (.readOne "a"), .queue (.command "a"),
    .queue (.command "a")]

theorem dead_letter_recorded_iff_discarded :
    ∃ s, runActs (letterStep {} demoJson) (.fresh 0) discarded = some s ∧
      ∃ l, s.queue.letters "a" = [l] ∧ l.raw = "" ∧
        ∀ store, Recorded demoLetterEnv store l
          (handleDeadLetters demoLetterEnv store [l]) := by
  have halong : holdsAlong (letterStep {} demoJson)
      (fun s a => s.keepsRunning a) (.fresh 0) discarded = true := by
    decide +kernel
  obtain ⟨s, hs, hrun⟩ := Run.of_holdsAlong _ _ _ _ halong
  have hany : (runActs (letterStep {} demoJson) (.fresh 0) discarded).any
      (fun s => decide ((s.queue.letters "a").map (·.raw) = [""])) = true := by
    decide +kernel
  rw [hs, Option.any_some, decide_eq_true_eq] at hany
  obtain ⟨l, hl, hraw⟩ := List.map_eq_singleton_iff.mp hany
  have hpayload : recordablePayload demoLetterEnv demoJson l.raw = true := by
    rw [hraw]
    decide
  obtain ⟨-, -, hrec⟩ :=
    dead_letter_recorded_iff {} demoJson demoLetterEnv 0 s hrun
  exact ⟨s, hs, l, hl, hraw, fun store => (hrec "a" store [] l [] hl).mpr hpayload⟩

end CallingAgent
