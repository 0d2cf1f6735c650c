import CallingAgent.Model.Phone
import CallingAgent.Queue.Stream

/-!
# The analysis stream — what a malformed job does to the others

The analysis queue has a stream and a consumer group of its own. A worker
claims one new message, or a batch of stale ones, and parses what it has
claimed before any of it is processed. Nothing takes a message that cannot
be parsed off the pending list.
-/

namespace CallingAgent

open Lib

/-! ## Messages -/

/-- The field map of a stream entry. -/
abbrev StreamFields := List (String × String)

/-- `AnalysisJob` as `from_json` makes it: no value is checked for its
type. -/
structure UntypedAnalysisJob where
  jobId : Json
  analysisId : Json
  callAttemptId : Json
  contactId : Json
  campaignId : Json
  conversationSessionId : Json
  enqueuedAt : Json
  traceId : Json

namespace UntypedAnalysisJob

def fieldNames : List String :=
  ["job_id", "analysis_id", "call_attempt_id", "contact_id", "campaign_id",
   "conversation_session_id", "enqueued_at", "trace_id"]

/-- `cls(**fields)`; `none` is the `TypeError` of an unexpected or missing
argument. -/
def ofFields (fields : List (String × Json)) : Option UntypedAnalysisJob :=
  if fields.all fun f => fieldNames.contains f.1 then do
    return {
      jobId := ← fields.lookup "job_id"
      analysisId := ← fields.lookup "analysis_id"
      callAttemptId := ← fields.lookup "call_attempt_id"
      contactId := ← fields.lookup "contact_id"
      campaignId := ← fields.lookup "campaign_id"
      conversationSessionId := ← fields.lookup "conversation_session_id"
      enqueuedAt := ← fields.lookup "enqueued_at"
      traceId := ← fields.lookup "trace_id" }
  else none

end UntypedAnalysisJob

section

variable (uuid : UuidModule) (json : JsonModule)

/-- `AnalysisJob.from_json(fields["job"])`; `none` where anything raises. -/
def readAnalysisJob (fields : StreamFields) : Option UntypedAnalysisJob :=
  match fields.lookup "job" with
  | none => none
  | some raw =>
      match json.loads raw with
      | .ok (.object members) => UntypedAnalysisJob.ofFields members
      | _ => none

/-- `uuid.UUID(job.analysis_id)`; `none` where it raises. -/
def analysisIdOf (job : UntypedAnalysisJob) : Option Nat :=
  match job.analysisId with
  | .string text => uuid.parse text
  | _ => none

/-- The message has a job, and the job the id of an analysis. -/
def wellFormedJob (fields : StreamFields) : Bool :=
  (readAnalysisJob json fields).any fun job => (analysisIdOf uuid job).isSome

end

/-! ## Workers -/

/-- How `process_claimed_job` ends for a job it can identify: it has
acknowledged the message and returns, or something else fails. -/
inductive JobEnd where
  | returned
  | raised (acknowledged : Bool)

/-- A message and what it holds. -/
abbrev ClaimedMessage := MessageId × StreamFields

structure AnalysisQueueState where
  now : Nat := 0
  stream : GroupStream ConsumerName StreamFields := {}
  /-- what each worker has claimed and parsed, and not yet processed -/
  todo : ConsumerName → List ClaimedMessage := fun _ => []
  /-- everything that was added, with its id -/
  published : List ClaimedMessage := []
  /-- everything that was claimed, by any call -/
  claims : List ClaimedMessage := []
  /-- what `process_claimed_job` was called for and could identify -/
  handled : List MessageId := []
  /-- well-formed messages that were claimed and given up because of a
  malformed one -/
  withheld : List MessageId := []
  /-- and those given up because the worker stopped or something else
  failed -/
  interrupted : List MessageId := []

inductive AnalysisQueueAct where
  /-- somebody's `XADD` -/
  | publish (fields : StreamFields)
  /-- `MAXLEN` drops an entry -/
  | trim (m : MessageId)
  | tick (ms : Nat)
  /-- `read_one` -/
  | readOne (c : ConsumerName)
  /-- `reclaim_stale` -/
  | reclaim (c : ConsumerName) (idleMs count : Nat)
  /-- `process_claimed_job` on the next message the worker has -/
  | process (c : ConsumerName) (e : JobEnd)
  /-- the worker is gone -/
  | stop (c : ConsumerName)

namespace AnalysisQueueState

section

variable (uuid : UuidModule) (json : JsonModule) (s : AnalysisQueueState)

def setTodo (c : ConsumerName) (todo : List ClaimedMessage) :
    AnalysisQueueState :=
  { s with todo := fun c' => if c' = c then todo else s.todo c' }

/-- The well-formed messages among some. -/
def wellFormedMessages (messages : List ClaimedMessage) : List MessageId :=
  (messages.filter fun e => wellFormedJob uuid json e.2).map Prod.fst

/-- A call has claimed these messages: it returns them parsed, or raises at
the first that cannot be. -/
def receive (c : ConsumerName) (stream : GroupStream ConsumerName StreamFields)
    (batch : List ClaimedMessage) : AnalysisQueueState :=
  let s := { s with stream, claims := s.claims ++ batch }
  if batch.all fun e => (readAnalysisJob json e.2).isSome then s.setTodo c batch
  else { s with withheld := s.withheld ++ wellFormedMessages uuid json batch }

/-- One turn of the loop over what was claimed. -/
def processNext (c : ConsumerName) (e : JobEnd) (m : MessageId)
    (fields : StreamFields) (rest : List ClaimedMessage) :
    AnalysisQueueState :=
  if wellFormedJob uuid json fields then
    let s := { s with handled := s.handled ++ [m] }
    match e with
    | .returned => { s with stream := s.stream.acknowledge m }.setTodo c rest
    | .raised acknowledged =>
        { s with
          stream := if acknowledged then s.stream.acknowledge m else s.stream
          interrupted := s.interrupted ++ rest.map Prod.fst }.setTodo c []
  else
    -- `uuid.UUID` raises, and the rest of the batch with it
    { s with
      withheld := s.withheld ++ wellFormedMessages uuid json rest }.setTodo c []

/-- One step of the workers and of everybody who adds to the stream. -/
def step : AnalysisQueueAct → Option AnalysisQueueState
  | .publish fields => some { s with
      stream := s.stream.add fields
      published := s.published ++ [(s.stream.lastId + 1, fields)] }
  | .trim m => some { s with stream := s.stream.delete m }
  | .tick ms => some { s with now := s.now + ms }
  | .readOne c =>
      match s.todo c with
      | _ :: _ => none
      | [] =>
          let r := s.stream.readNew c s.now
          some (s.receive uuid json c r.1 r.2.toList)
  | .reclaim c idleMs count =>
      match s.todo c with
      | _ :: _ => none
      | [] =>
          let r := s.stream.autoclaim c s.now idleMs count
          some (s.receive uuid json c r.1 r.2)
  | .process c e =>
      match s.todo c with
      | [] => none
      | (m, fields) :: rest =>
          some (s.processNext uuid json c e m fields rest)
  | .stop c =>
      some <| { s with
        interrupted := s.interrupted ++ (s.todo c).map Prod.fst }.setTodo c []

/-- **Nothing is withheld or stuck**: no well-formed message was claimed and
given up because of a malformed one, and no malformed message is pending,
to be claimed with others again. -/
structure Fair : Prop where
  withheld : s.withheld = []
  unstuck : ∀ m fields, (AList.lookup m s.stream.pending).isSome →
    AList.lookup m s.stream.entries = some fields →
    wellFormedJob uuid json fields = true

end

end AnalysisQueueState

namespace AnalysisQueueState

section

variable {uuid : UuidModule} {json : JsonModule} {s s' : AnalysisQueueState}
  {c : ConsumerName}

@[simp] theorem setTodo_stream (c : ConsumerName) (todo : List ClaimedMessage) :
    (s.setTodo c todo).stream = s.stream := rfl

@[simp] theorem setTodo_claims (c : ConsumerName) (todo : List ClaimedMessage) :
    (s.setTodo c todo).claims = s.claims := rfl

@[simp] theorem setTodo_withheld (c : ConsumerName)
    (todo : List ClaimedMessage) :
    (s.setTodo c todo).withheld = s.withheld := rfl

theorem mem_setTodo {c c' : ConsumerName} {todo : List ClaimedMessage}
    {e : ClaimedMessage} (h : e ∈ (s.setTodo c todo).todo c') :
    e ∈ todo ∨ e ∈ s.todo c' := by
  unfold setTodo at h
  dsimp only at h
  split at h
  · exact .inl h
  · exact .inr h

/-! ## What one step can do -/

/-- **What one step can do** to the stream, the claims, what is to do and
what is withheld. -/
inductive Effect (uuid : UuidModule) (json : JsonModule) (a : AnalysisQueueAct)
    (s s' : AnalysisQueueState) : Prop
  /-- nobody claims or gives up anything -/
  | world :
      s'.claims = s.claims → s'.withheld = s.withheld → s'.todo = s.todo →
      ((∃ fields, s'.stream = s.stream.add fields) ∨
        (∃ m, a = .trim m ∧ s'.stream = s.stream.delete m) ∨
        s'.stream = s.stream) →
      Effect uuid json a s s'
  /-- a call claims a batch -/
  | claims (c : ConsumerName) (batch : List ClaimedMessage) :
      s'.stream.entries = s.stream.entries →
      s'.stream.lastId = s.stream.lastId →
      (∀ e ∈ batch, AList.lookup e.1 s.stream.entries = some e.2 ∧
        (AList.lookup e.1 s'.stream.pending).isSome) →
      (∀ m, (AList.lookup m s'.stream.pending).isSome →
        (AList.lookup m s.stream.pending).isSome ∨
          ∃ fields, (m, fields) ∈ batch) →
      (∀ m, (AList.lookup m s.stream.entries).isSome →
        (AList.lookup m s.stream.pending).isSome →
        (AList.lookup m s'.stream.pending).isSome) →
      s'.claims = s.claims ++ batch →
      (∀ c' e, e ∈ s'.todo c' → e ∈ batch ∨ e ∈ s.todo c') →
      (s'.withheld = s.withheld ∨
        ∃ e ∈ batch, wellFormedJob uuid json e.2 = false) →
      Effect uuid json a s s'
  /-- a worker goes on or gives up -/
  | works (c : ConsumerName) :
      s'.claims = s.claims →
      (∀ c' e, e ∈ s'.todo c' → e ∈ s.todo c') →
      ((∃ m, s'.stream = s.stream.acknowledge m ∧
          ∃ fields, (m, fields) ∈ s.todo c ∧
            wellFormedJob uuid json fields = true) ∨
        s'.stream = s.stream) →
      (s'.withheld = s.withheld ∨
        ∃ e ∈ s.todo c, wellFormedJob uuid json e.2 = false) →
      Effect uuid json a s s'

theorem mem_wellFormedMessages {messages : List ClaimedMessage}
    (h : ∃ e ∈ messages, readAnalysisJob json e.2 = none) :
    ∃ e ∈ messages, wellFormedJob uuid json e.2 = false := by
  obtain ⟨e, he, hnone⟩ := h
  exact ⟨e, he, by rw [wellFormedJob, hnone]; rfl⟩

/-- A call that has claimed a batch. -/
theorem receive_effect {a : AnalysisQueueAct}
    {stream : GroupStream ConsumerName StreamFields}
    {batch : List ClaimedMessage}
    (hentries : stream.entries = s.stream.entries)
    (hlast : stream.lastId = s.stream.lastId)
    (hbatch : ∀ e ∈ batch, AList.lookup e.1 s.stream.entries = some e.2 ∧
      (AList.lookup e.1 stream.pending).isSome)
    (hpending : ∀ m, (AList.lookup m stream.pending).isSome →
      (AList.lookup m s.stream.pending).isSome ∨ ∃ fields, (m, fields) ∈ batch)
    (hkept : ∀ m, (AList.lookup m s.stream.entries).isSome →
      (AList.lookup m s.stream.pending).isSome →
      (AList.lookup m stream.pending).isSome) :
    Effect uuid json a s (s.receive uuid json c stream batch) := by
  unfold receive
  dsimp only
  split
  · refine .claims c batch hentries hlast hbatch hpending hkept rfl ?_ (.inl rfl)
    intro c' e he
    exact mem_setTodo he
  · next hall =>
    refine .claims c batch hentries hlast hbatch hpending hkept rfl
      (fun _ _ he => .inr he) (.inr (mem_wellFormedMessages ?_))
    simpa using hall

theorem processNext_effect {a : AnalysisQueueAct} {e : JobEnd} {m : MessageId} {fields : StreamFields}
    {rest : List ClaimedMessage} (htodo : s.todo c = (m, fields) :: rest) :
    Effect uuid json a s (s.processNext uuid json c e m fields rest) := by
  have hhead : (m, fields) ∈ s.todo c := by
    rw [htodo]
    exact List.mem_cons_self
  have hrest : ∀ x ∈ rest, x ∈ s.todo c := by
    intro x hx
    rw [htodo]
    exact List.mem_cons_of_mem _ hx
  have hless : ∀ (t : AnalysisQueueState) (todo : List ClaimedMessage),
      t.todo = s.todo → (∀ x ∈ todo, x ∈ rest) →
      ∀ c' x, x ∈ (t.setTodo c todo).todo c' → x ∈ s.todo c' := by
    intro t todo ht hsub c' x hx
    unfold setTodo at hx
    dsimp only at hx
    split at hx
    · next hc =>
      subst hc
      exact hrest x (hsub x hx)
    · rwa [ht] at hx
  unfold processNext
  split
  · next hwell =>
    cases e with
    | returned =>
        exact .works c rfl (hless _ _ rfl fun _ h => h)
          (.inl ⟨m, rfl, fields, hhead, hwell⟩) (.inl rfl)
    | raised acknowledged =>
        refine .works c rfl (hless _ _ rfl fun _ h => (by cases h)) ?_ (.inl rfl)
        cases acknowledged with
        | true => exact .inl ⟨m, rfl, fields, hhead, hwell⟩
        | false => exact .inr rfl
  · next hmal =>
    exact .works c rfl (hless _ _ rfl fun _ h => (by cases h)) (.inr rfl)
      (.inr ⟨_, hhead, by simpa using hmal⟩)

/-- **Every step has one of these effects.** -/
theorem step_effect {a : AnalysisQueueAct}
    (h : step uuid json s a = some s') : Effect uuid json a s s' := by
  cases a with
  | publish fields =>
      cases h
      exact .world rfl rfl rfl (.inl ⟨fields, rfl⟩)
  | trim m =>
      cases h
      exact .world rfl rfl rfl (.inr (.inl ⟨m, rfl, rfl⟩))
  | tick ms =>
      cases h
      exact .world rfl rfl rfl (.inr (.inr rfl))
  | readOne c =>
      simp only [step] at h
      split at h
      · cases h
      cases h
      refine receive_effect (GroupStream.readNew_entries c s.now).1
        (GroupStream.readNew_entries c s.now).2 (fun e he => ?_)
        (fun m hm => ?_) fun m _ hm =>
          (GroupStream.readNew_pending c s.now m).mpr (.inl hm)
      · have hread := Option.mem_toList.mp he
        exact ⟨(GroupStream.readNew_some hread).1,
          (GroupStream.readNew_pending c s.now e.1).mpr (.inr ⟨e.2, hread⟩)⟩
      · rcases (GroupStream.readNew_pending c s.now m).mp hm with hm | ⟨f, hf⟩
        · exact .inl hm
        · exact .inr ⟨f, Option.mem_toList.mpr hf⟩
  | reclaim c idleMs count =>
      simp only [step] at h
      split at h
      · cases h
      cases h
      refine receive_effect (GroupStream.autoclaim_entries ..).1
        (GroupStream.autoclaim_entries ..).2 (fun e he => ?_) (fun m hm => ?_)
        fun m hin hm => GroupStream.autoclaim_pending.2 hin hm
      · exact ⟨GroupStream.mem_autoclaim he, (GroupStream.autoclaim_claimed he).2⟩
      · exact .inl (GroupStream.autoclaim_pending.1 hm)
  | process c e =>
      simp only [step] at h
      split at h
      · cases h
      · next m fields rest htodo =>
        cases h
        exact processNext_effect htodo
  | stop c =>
      cases h
      refine .works c rfl (fun c' e he => ?_) (.inr rfl) (.inl rfl)
      exact (mem_setTodo he).resolve_left fun h => (by cases h)

/-! ## Over a whole run -/

/-- What holds of every state of the queue. -/
structure Inv (uuid : UuidModule) (json : JsonModule)
    (s : AnalysisQueueState) : Prop where
  issued : ∀ m fields, AList.lookup m s.stream.entries = some fields →
    m ≤ s.stream.lastId
  handedOut : ∀ m, (AList.lookup m s.stream.pending).isSome →
    m ≤ s.stream.lastId
  claimsIssued : ∀ e ∈ s.claims, e.1 ≤ s.stream.lastId
  /-- what was claimed is what the stream holds -/
  content : ∀ e ∈ s.claims, ∀ fields,
    AList.lookup e.1 s.stream.entries = some fields → fields = e.2
  pendingClaimed : ∀ m, (AList.lookup m s.stream.pending).isSome →
    ∃ fields, (m, fields) ∈ s.claims
  todoClaimed : ∀ c e, e ∈ s.todo c → e ∈ s.claims
  /-- a malformed message is the cause -/
  cause : s.withheld ≠ [] → ∃ e ∈ s.claims, wellFormedJob uuid json e.2 = false

theorem Inv.start (uuid : UuidModule) (json : JsonModule) :
    Inv uuid json {} where
  issued m fields h := by simp at h
  handedOut m h := by simp at h
  claimsIssued e h := by cases h
  content e h := by cases h
  pendingClaimed m h := by simp at h
  todoClaimed c e h := by cases h
  cause h := absurd rfl h

theorem Inv.effect {a : AnalysisQueueAct} (hs : Inv uuid json s)
    (h : Effect uuid json a s s') :
    Inv uuid json s' := by
  cases h with
  | world hclaims hwithheld htodo hstream =>
      -- a new entry has an id nobody has seen
      obtain ⟨hpend, hlast, hissued, hentry⟩ :
          s'.stream.pending = s.stream.pending ∧
          s.stream.lastId ≤ s'.stream.lastId ∧
          (∀ m f, AList.lookup m s'.stream.entries = some f →
            m ≤ s'.stream.lastId) ∧
          ∀ m f, m ≤ s.stream.lastId →
            AList.lookup m s'.stream.entries = some f →
            AList.lookup m s.stream.entries = some f := by
        rcases hstream with ⟨fields, hst⟩ | ⟨k, -, hst⟩ | hst
        · rw [hst]
          refine ⟨rfl, Nat.le_succ _, fun m f hf => ?_, fun m f hm hf => ?_⟩
          · rw [GroupStream.lookup_add] at hf
            by_cases hm : m = s.stream.lastId + 1
            · exact Nat.le_of_eq hm
            · rw [if_neg hm] at hf
              exact Nat.le_succ_of_le (hs.issued m f hf)
          · rwa [GroupStream.lookup_add,
              if_neg (Nat.ne_of_lt (Nat.lt_succ_of_le hm))] at hf
        · have hdel : ∀ m f, AList.lookup m (s.stream.delete k).entries = some f →
              AList.lookup m s.stream.entries = some f := by
            intro m f hf
            rw [GroupStream.lookup_delete] at hf
            split at hf
            · cases hf
            · exact hf
          rw [hst]
          exact ⟨rfl, Nat.le_refl _, fun m f hf => hs.issued m f (hdel m f hf),
            fun m f _ hf => hdel m f hf⟩
        · rw [hst]
          exact ⟨rfl, Nat.le_refl _, hs.issued, fun _ _ _ hf => hf⟩
      constructor
      case issued => exact hissued
      case handedOut =>
        intro m hm
        rw [hpend] at hm
        exact Nat.le_trans (hs.handedOut m hm) hlast
      case claimsIssued =>
        intro e he
        rw [hclaims] at he
        exact Nat.le_trans (hs.claimsIssued e he) hlast
      case content =>
        intro e he f hf
        rw [hclaims] at he
        exact hs.content e he f (hentry e.1 f (hs.claimsIssued e he) hf)
      case pendingClaimed => rw [hpend, hclaims]; exact hs.pendingClaimed
      case todoClaimed => rw [htodo, hclaims]; exact hs.todoClaimed
      case cause => rw [hwithheld, hclaims]; exact hs.cause
  | claims c batch hentries hlast hbatch hpending _ hclaims htodo hwithheld =>
      have hold : ∀ e ∈ s.claims, e ∈ s'.claims := by
        intro e he
        rw [hclaims]
        exact List.mem_append_left _ he
      have hnew : ∀ e ∈ batch, e ∈ s'.claims := by
        intro e he
        rw [hclaims]
        exact List.mem_append_right _ he
      constructor
      case issued => rw [hentries, hlast]; exact hs.issued
      case handedOut =>
        intro m hm
        rw [hlast]
        rcases hpending m hm with hm | ⟨f, hf⟩
        · exact hs.handedOut m hm
        · exact hs.issued m f (hbatch _ hf).1
      case claimsIssued =>
        intro e he
        rw [hlast]
        rw [hclaims] at he
        rcases List.mem_append.mp he with he | he
        · exact hs.claimsIssued e he
        · exact hs.issued e.1 e.2 (hbatch e he).1
      case content =>
        intro e he f hf
        rw [hentries] at hf
        rw [hclaims] at he
        rcases List.mem_append.mp he with he | he
        · exact hs.content e he f hf
        · exact Option.some.inj (hf.symm.trans (hbatch e he).1)
      case pendingClaimed =>
        intro m hm
        rcases hpending m hm with hm | ⟨f, hf⟩
        · obtain ⟨f, hf⟩ := hs.pendingClaimed m hm
          exact ⟨f, hold _ hf⟩
        · exact ⟨f, hnew _ hf⟩
      case todoClaimed =>
        intro c' e he
        rcases htodo c' e he with he | he
        · exact hnew e he
        · exact hold e (hs.todoClaimed c' e he)
      case cause =>
        intro hne
        rcases hwithheld with hsame | ⟨e, he, hmal⟩
        · rw [hsame] at hne
          obtain ⟨e, he, hmal⟩ := hs.cause hne
          exact ⟨e, hold e he, hmal⟩
        · exact ⟨e, hnew e he, hmal⟩
  | works c hclaims htodo hstream hwithheld =>
      have hst : s'.stream.entries = s.stream.entries ∧
          s'.stream.lastId = s.stream.lastId ∧
          ∀ m, (AList.lookup m s'.stream.pending).isSome →
            (AList.lookup m s.stream.pending).isSome := by
        rcases hstream with ⟨k, hst, -⟩ | hst
        · rw [hst]
          refine ⟨rfl, rfl, fun m hm => ?_⟩
          rw [GroupStream.pending_acknowledge] at hm
          split at hm
          · cases hm
          · exact hm
        · rw [hst]
          exact ⟨rfl, rfl, fun _ h => h⟩
      obtain ⟨hentries, hlast, hpending⟩ := hst
      constructor
      case issued => rw [hentries, hlast]; exact hs.issued
      case handedOut =>
        intro m hm
        rw [hlast]
        exact hs.handedOut m (hpending m hm)
      case claimsIssued => rw [hclaims, hlast]; exact hs.claimsIssued
      case content => rw [hclaims, hentries]; exact hs.content
      case pendingClaimed =>
        intro m hm
        rw [hclaims]
        exact hs.pendingClaimed m (hpending m hm)
      case todoClaimed =>
        intro c' e he
        rw [hclaims]
        exact hs.todoClaimed c' e (htodo c' e he)
      case cause =>
        intro hne
        rw [hclaims]
        rcases hwithheld with hsame | ⟨e, he, hmal⟩
        · rw [hsame] at hne
          exact hs.cause hne
        · exact ⟨e, hs.todoClaimed c e he, hmal⟩

theorem Inv.step {a : AnalysisQueueAct} (hs : Inv uuid json s)
    (h : step uuid json s a = some s') : Inv uuid json s' :=
  hs.effect (step_effect h)

/-- Claims are not forgotten. -/
theorem claims_mono {a : AnalysisQueueAct}
    (h : step uuid json s a = some s') : ∀ e ∈ s.claims, e ∈ s'.claims := by
  intro e he
  cases step_effect h with
  | world hclaims => rwa [hclaims]
  | claims _ _ _ _ _ _ _ hclaims =>
      rw [hclaims]
      exact List.mem_append_left _ he
  | works _ hclaims => rwa [hclaims]

/-- Where every claim is well formed, nothing is withheld or stuck. -/
theorem Inv.fair (hs : Inv uuid json s)
    (h : ∀ e ∈ s.claims, wellFormedJob uuid json e.2 = true) :
    s.Fair uuid json := by
  constructor
  case withheld =>
    by_contra hne
    obtain ⟨e, he, hmal⟩ := hs.cause hne
    rw [h e he] at hmal
    cases hmal
  case unstuck =>
    intro m fields hm hf
    obtain ⟨f, hclaimed⟩ := hs.pendingClaimed m hm
    obtain rfl := hs.content _ hclaimed _ hf
    exact h _ hclaimed

/-- A step after which nothing is stuck has claimed well-formed messages
only. -/
theorem Fair.claims {a : AnalysisQueueAct} (hfair : s'.Fair uuid json)
    (h : step uuid json s a = some s')
    (hs : ∀ e ∈ s.claims, wellFormedJob uuid json e.2 = true) :
    ∀ e ∈ s'.claims, wellFormedJob uuid json e.2 = true := by
  intro e he
  cases step_effect h with
  | world hclaims => exact hs e (hclaims ▸ he)
  | claims c batch hentries _ hbatch _ _ hclaims =>
      rw [hclaims] at he
      rcases List.mem_append.mp he with he | he
      · exact hs e he
      · obtain ⟨hentry, hpend⟩ := hbatch e he
        rw [← hentries] at hentry
        exact hfair.unstuck e.1 e.2 hpend hentry
  | works _ hclaims => exact hs e (hclaims ▸ he)

theorem Inv.run {acts : List AnalysisQueueAct} (hs : Inv uuid json s)
    (h : runActs (AnalysisQueueState.step uuid json) s acts = some s') :
    Inv uuid json s' ∧ ∀ e ∈ s.claims, e ∈ s'.claims := by
  induction acts generalizing s with
  | nil =>
      obtain rfl := Option.some.inj h
      exact ⟨hs, fun _ he => he⟩
  | cons a acts ih =>
      obtain ⟨t, ht, hrest⟩ := Option.bind_eq_some_iff.mp h
      obtain ⟨hinv, hclaims⟩ := ih (hs.step ht) hrest
      exact ⟨hinv, fun e he => hclaims e (claims_mono ht e he)⟩

/-! ## A malformed message stays -/

/-- **A malformed message that was claimed stays pending** in every run in
which its entry is not dropped, so every later claim of it raises again. -/
theorem malformed_stays {m : MessageId} {fields : StreamFields}
    (hs : Inv uuid json s) (hpend : (AList.lookup m s.stream.pending).isSome)
    (hentry : AList.lookup m s.stream.entries = some fields)
    (hmal : wellFormedJob uuid json fields = false)
    (h : Run (AnalysisQueueState.step uuid json) (fun _ a => a ≠ .trim m) s s') :
    (AList.lookup m s'.stream.pending).isSome ∧
      AList.lookup m s'.stream.entries = some fields := by
  suffices hall : Inv uuid json s' ∧
      (AList.lookup m s'.stream.pending).isSome ∧
      AList.lookup m s'.stream.entries = some fields from hall.2
  induction h with
  | refl => exact ⟨hs, hpend, hentry⟩
  | step _ hne hstep ih =>
      obtain ⟨hinv, hp, he⟩ := ih
      refine ⟨hinv.step hstep, ?_⟩
      cases step_effect hstep with
      | world _ _ _ hstream =>
          rcases hstream with ⟨f, hst⟩ | ⟨k, rfl, hst⟩ | hst
          · rw [hst, GroupStream.lookup_add, if_neg (Nat.ne_of_lt
              (Nat.lt_succ_of_le (hinv.issued m fields he)))]
            exact ⟨hp, he⟩
          · have hk : m ≠ k := fun h => hne (h ▸ rfl)
            rw [hst, GroupStream.lookup_delete, if_neg hk]
            exact ⟨hp, he⟩
          · rw [hst]
            exact ⟨hp, he⟩
      | claims _ _ hentries _ _ _ hkept =>
          exact ⟨hkept m (by rw [he]; rfl) hp, hentries.symm ▸ he⟩
      | works c _ _ hstream =>
          rcases hstream with ⟨k, hst, f, hf, hwell⟩ | hst
          · have hk : m ≠ k := by
              rintro rfl
              have hsame : fields = f :=
                hinv.content _ (hinv.todoClaimed c _ hf) fields he
              rw [← hsame, hmal] at hwell
              cases hwell
            rw [hst, GroupStream.pending_acknowledge, if_neg hk]
            exact ⟨hp, he⟩
          · rw [hst]
            exact ⟨hp, he⟩

/-- The claim of a batch with a message that cannot be parsed gives up
every well-formed message in it. -/
theorem receive_malformed {stream : GroupStream ConsumerName StreamFields}
    {batch : List ClaimedMessage}
    (h : ∃ e ∈ batch, readAnalysisJob json e.2 = none) :
    (s.receive uuid json c stream batch).withheld
      = s.withheld ++ wellFormedMessages uuid json batch := by
  obtain ⟨e, he, hnone⟩ := h
  unfold receive
  dsimp only
  rw [if_neg]
  intro hall
  have hsome := List.all_eq_true.mp hall e he
  rw [hnone] at hsome
  cases hsome

/-! ## When the queue is fair -/

/-- A run all states of which are fair claims well-formed messages only. -/
theorem claims_of_fair {acts : List AnalysisQueueAct}
    (h : runActs (AnalysisQueueState.step uuid json) s acts = some s')
    (hfair : ∀ front back t, acts = front ++ back →
      runActs (AnalysisQueueState.step uuid json) s front = some t →
      t.Fair uuid json)
    (hs : ∀ e ∈ s.claims, wellFormedJob uuid json e.2 = true) :
    ∀ e ∈ s'.claims, wellFormedJob uuid json e.2 = true := by
  induction acts generalizing s with
  | nil =>
      obtain rfl := Option.some.inj h
      exact hs
  | cons a acts ih =>
      obtain ⟨t, ht, hrest⟩ := Option.bind_eq_some_iff.mp h
      have hone : runActs (AnalysisQueueState.step uuid json) s [a] = some t := by
        rw [runActs, ht]
        rfl
      refine ih hrest (fun front back u hacts hu => ?_)
        ((hfair [a] acts t rfl hone).claims ht hs)
      refine hfair (a :: front) back u (by rw [hacts]; rfl) ?_
      rw [runActs, ht]
      exact hu

/-- **The queue is fair as long as it claims no malformed message**, and no
longer: in a run, nothing is withheld or stuck in any state that is reached
if and only if every message that some call claims is well formed. -/
theorem fair_iff_claims_wellFormed (uuid : UuidModule) (json : JsonModule)
    (acts : List AnalysisQueueAct) (s : AnalysisQueueState)
    (h : runActs (AnalysisQueueState.step uuid json) {} acts = some s) :
    (∀ front back t, acts = front ++ back →
        runActs (AnalysisQueueState.step uuid json) {} front = some t →
        t.Fair uuid json) ↔
      ∀ e ∈ s.claims, wellFormedJob uuid json e.2 = true := by
  constructor
  · intro hfair
    exact claims_of_fair h hfair fun e he => (by cases he)
  · rintro hclaims front back t rfl ht
    obtain ⟨hinv, -⟩ := (Inv.start uuid json).run ht
    rw [runActs_append, ht] at h
    have hmono := (hinv.run h).2
    exact hinv.fair fun e he => hclaims e (hmono e he)

end

/-! ### A malformed and a well-formed message -/

/-- A job every field of which is the text of identifier 7. -/
def analysisJobText : String :=
  let id := "\"00000000-0000-0000-0000-000000000007\""
  "\x7b\"job_id\": " ++ id ++ ", \"analysis_id\": " ++ id
    ++ ", \"call_attempt_id\": " ++ id ++ ", \"contact_id\": " ++ id
    ++ ", \"campaign_id\": " ++ id ++ ", \"conversation_session_id\": " ++ id
    ++ ", \"enqueued_at\": " ++ id ++ ", \"trace_id\": " ++ id ++ "\x7d"

/-- `json.loads` of that text; every other one is taken for no JSON. -/
def analysisJson : JsonModule where
  loads raw :=
    if raw = analysisJobText then
      .ok (.object (UntypedAnalysisJob.fieldNames.map fun f =>
        (f, .string "00000000-0000-0000-0000-000000000007")))
    else .error .value

/-- A message without a job is read and raises; a well-formed one is read by
a worker that stops; both are stale, and are claimed twice. -/
def malformedRun : List AnalysisQueueAct :=
  ([.publish [("task", "x")], .publish [("job", analysisJobText)], .readOne "a",
    .readOne "a", .stop "a", .tick 60000, .reclaim "b" 60000 10, .tick 60000,
    .reclaim "b" 60000 10] : List AnalysisQueueAct)

/-- The well-formed message is withheld each time. -/
theorem malformedRun_withholds :
    (runActs (AnalysisQueueState.step canonicalUuid analysisJson) {}
        malformedRun).map (fun s => (s.withheld, s.handled)) = some ([2, 2], []) ∧
      ¬ ∀ s, runActs (AnalysisQueueState.step canonicalUuid analysisJson) {}
        malformedRun = some s → s.Fair canonicalUuid analysisJson := by
  have hrun : (runActs (AnalysisQueueState.step canonicalUuid analysisJson) {}
      malformedRun).map (fun s => (s.withheld, s.handled))
      = some ([2, 2], []) := by
    decide +kernel
  refine ⟨hrun, fun hall => ?_⟩
  obtain ⟨s, hs, hpair⟩ := Option.map_eq_some_iff.mp hrun
  have hnone := (hall s hs).withheld
  rw [(Prod.mk.inj hpair).1] at hnone
  cases hnone

/-- Three well-formed messages are read by workers that stop before they are
done; when they are stale, one call claims them together. -/
def orderlyRun : List AnalysisQueueAct :=
  ([.publish [("job", analysisJobText)], .publish [("job", analysisJobText)],
    .publish [("job", analysisJobText)], .readOne "a", .stop "a", .readOne "b",
    .stop "b", .readOne "c", .stop "c", .tick 60000, .reclaim "d" 60000 10,
    .process "d" .returned, .process "d" (.raised true), .tick 60000,
    .reclaim "e" 60000 10, .process "e" .returned] : List AnalysisQueueAct)

theorem orderlyRun_fair :
    ∃ s, runActs (AnalysisQueueState.step canonicalUuid analysisJson) {}
        orderlyRun = some s ∧ s.handled = [1, 2, 3] ∧
      ∀ front back t, orderlyRun = front ++ back →
        runActs (AnalysisQueueState.step canonicalUuid analysisJson) {} front
          = some t → t.Fair canonicalUuid analysisJson := by
  have hrun : (runActs (AnalysisQueueState.step canonicalUuid analysisJson) {}
      orderlyRun).map (fun s => (s.handled, s.claims.all fun e =>
        wellFormedJob canonicalUuid analysisJson e.2)) = some ([1, 2, 3], true) := by
    decide +kernel
  obtain ⟨s, hs, hpair⟩ := Option.map_eq_some_iff.mp hrun
  obtain ⟨hhandled, hclaims⟩ := Prod.mk.inj hpair
  exact ⟨s, hs, hhandled, (fair_iff_claims_wellFormed canonicalUuid analysisJson
    orderlyRun s hs).mpr (List.all_eq_true.mp hclaims)⟩

end AnalysisQueueState

end CallingAgent
