import CallingAgent.Queue.JobText

/-!
# Stream content — a stream that only the producers write to

The only producers of the dial stream write the text of a job. Whoever reads
the stream, takes messages over or moves them aside, in whatever order and
with whatever crashes: nothing on it is ever unreadable, and every job that
is handed to a caller is one that was enqueued, field for field.
-/

namespace CallingAgent

open Lib

/-- The message was added with the text of a job, and this is the job. -/
def Carried (added : List (MessageId × String)) (m : MessageId)
    (job : UntypedJob) : Prop :=
  ∃ (j : Wire.DialJob) (text : String),
    j.toJson = some text ∧ (m, text) ∈ added ∧ job = j.untyped

/-- What is added is the text of a job. -/
def StreamAct.AddsJobs : StreamAct → Prop
  | .enqueue payload | .enqueueOnce payload _ _ =>
      ∃ j : Wire.DialJob, j.toJson = some payload
  | _ => True

/-- The letter was moved for its deliveries, with the text and the job it was
added with. -/
structure DeadLetter.Poison (added : List (MessageId × String))
    (l : DeadLetter) : Prop where
  reason : l.reason = .maxDeliveriesExceeded
  raw : (l.messageId, l.raw) ∈ added
  job : ∃ job, l.job = some job ∧ Carried added l.messageId job

/-- What a worker is doing with jobs only. -/
def Doing.Reads (added : List (MessageId × String)) : Doing → Prop
  | .discarding _ => False
  | .examining _ ready => ∀ x ∈ ready, Carried added x.1 x.2
  | .condemning l _ ready =>
      l.Poison added ∧ ∀ x ∈ ready, Carried added x.1 x.2
  | _ => True

/-- Nothing unreadable was added, found, moved or returned. -/
structure StreamSystem.JobsOnly (s : StreamSystem) : Prop where
  added : ∀ m p, (m, p) ∈ s.added → ∃ j : Wire.DialJob, j.toJson = some p
  dlq : ∀ d ∈ s.redis.dlq, d.reason = .maxDeliveriesExceeded ∧
    (d.originalId, d.job) ∈ s.added
  doing : ∀ c, (s.worker c).doing.Reads s.added
  letters : ∀ c, ∀ l ∈ (s.worker c).deadLetters, l.Poison s.added
  returned : ∀ a ∈ s.returned, ∀ x ∈ a.messages, Carried s.added x.1 x.2

section

variable {added added' : List (MessageId × String)}

theorem Carried.mono {m : MessageId} {job : UntypedJob}
    (h : Carried added m job) (ha : ∀ x ∈ added, x ∈ added') :
    Carried added' m job := by
  obtain ⟨j, text, hj, hm, rfl⟩ := h
  exact ⟨j, text, hj, ha _ hm, rfl⟩

theorem DeadLetter.Poison.mono {l : DeadLetter} (h : l.Poison added)
    (ha : ∀ x ∈ added, x ∈ added') : l.Poison added' := by
  obtain ⟨hreason, hraw, job, hjob, hcarried⟩ := h
  exact ⟨hreason, ha _ hraw, job, hjob, hcarried.mono ha⟩

theorem Doing.Reads.mono {d : Doing} (h : d.Reads added)
    (ha : ∀ x ∈ added, x ∈ added') : d.Reads added' := by
  cases d with
  | idle => trivial
  | reading => trivial
  | discarding l => exact h
  | claiming idleMs count => trivial
  | examining batch ready => exact fun x hx => (h x hx).mono ha
  | condemning l batch ready =>
      exact ⟨h.1.mono ha, fun x hx => (h.2 x hx).mono ha⟩

/-- What was added is parsed as the job it carries. -/
theorem parse_added {limit : Nat} (hlimit : 0 < limit)
    (hj : ∀ m p, (m, p) ∈ added → ∃ j : Wire.DialJob, j.toJson = some p)
    {m : MessageId} {raw : String} (hm : (m, raw) ∈ added) :
    ∃ job, parse (jsonModule limit) raw = .job job ∧ Carried added m job := by
  obtain ⟨j, hj⟩ := hj m raw hm
  exact ⟨j.untyped, Wire.DialJob.parse_toJson hlimit hj, j, raw, hj, hm, rfl⟩

end

namespace StreamSystem.JobsOnly

variable {s s' : StreamSystem} {settings : Settings} {limit : Nat}
  {c : ConsumerName}

theorem fresh (now : Nat) : (StreamSystem.fresh now).JobsOnly where
  added _ _ h := nomatch h
  dlq _ h := nomatch h
  doing _ := trivial
  letters _ _ h := nomatch h
  returned _ h := nomatch h

/-- One worker changes, and goes on with jobs only. -/
theorem setWorker (h : s.JobsOnly) {w : StreamWorker}
    (hd : w.doing.Reads s.added) (hl : ∀ l ∈ w.deadLetters, l.Poison s.added) :
    (s.setWorker c w).JobsOnly where
  added := h.added
  dlq := h.dlq
  doing c' := by
    rw [StreamSystem.worker_setWorker]
    split
    · exact hd
    · exact h.doing c'
  letters c' := by
    rw [StreamSystem.worker_setWorker]
    split
    · exact hl
    · exact h.letters c'
  returned := h.returned

theorem setDoing (h : s.JobsOnly) {d : Doing} (hd : d.Reads s.added) :
    (s.setDoing c d).JobsOnly :=
  h.setWorker hd (h.letters c)

theorem answer (h : s.JobsOnly) {messages : List (MessageId × UntypedJob)}
    (hm : ∀ x ∈ messages, Carried s.added x.1 x.2) :
    (s.answer c messages).JobsOnly :=
  have hidle : (s.setDoing c .idle).JobsOnly := h.setDoing trivial
  { hidle with
    returned := fun a ha => by
      rcases List.mem_cons.mp ha with rfl | ha
      · exact hm
      · exact h.returned a ha }

theorem setStream (h : s.JobsOnly) {stream : GroupStream ConsumerName String} :
    (s.setStream stream).JobsOnly :=
  ⟨h.added, h.dlq, h.doing, h.letters, h.returned⟩

/-- A job is added; the guards may grow with it. -/
theorem add (h : s.JobsOnly) {payload : String} {r : StreamRedis}
    {once : List (GuardKey × MessageId × String)}
    (hj : ∃ j : Wire.DialJob, j.toJson = some payload)
    (hdlq : r.dlq = s.redis.dlq) :
    JobsOnly { s.logAdded payload with redis := r, addedOnce := once } where
  added m p hm := by
    rcases List.mem_cons.mp hm with heq | hm
    · cases heq
      exact hj
    · exact h.added m p hm
  dlq d hd :=
    have hold := h.dlq d (hdlq ▸ hd)
    ⟨hold.1, List.mem_cons_of_mem _ hold.2⟩
  doing c := (h.doing c).mono fun _ hx => List.mem_cons_of_mem _ hx
  letters c l hl := (h.letters c l hl).mono fun _ hx => List.mem_cons_of_mem _ hx
  returned a ha x hx :=
    (h.returned a ha x hx).mono fun _ hx => List.mem_cons_of_mem _ hx

theorem deadLetter (h : s.JobsOnly) {l : DeadLetter} (hl : l.Poison s.added) :
    (s.deadLetter c l).JobsOnly := by
  have hmoved : JobsOnly { s with redis := s.redis.deadLetter l } :=
    { added := h.added
      dlq := fun d hd => by
        rcases List.mem_append.mp hd with hd | hd
        · exact h.dlq d hd
        · rw [List.mem_singleton.mp hd]
          exact ⟨hl.reason, hl.raw⟩
      doing := h.doing
      letters := h.letters
      returned := h.returned }
  refine hmoved.setWorker (h.doing c) fun l' hl' => ?_
  rcases List.mem_append.mp hl' with hl' | hl'
  · exact h.letters c l' hl'
  · rw [List.mem_singleton.mp hl']
    exact hl

theorem proceed (h : s.JobsOnly) {batch : List (MessageId × String)}
    {ready : List (MessageId × UntypedJob)}
    (hr : ∀ x ∈ ready, Carried s.added x.1 x.2) :
    (s.proceed c batch ready).JobsOnly := by
  unfold StreamSystem.proceed
  cases batch with
  | nil => exact h.answer hr
  | cons x batch => exact h.setDoing hr

theorem received (h : s.JobsOnly) (hlimit : 0 < limit)
    {entry : Option (MessageId × String)} (he : ∀ x ∈ entry, x ∈ s.added) :
    (s.received (jsonModule limit) c entry).JobsOnly := by
  cases entry with
  | none => exact h.answer nofun
  | some x =>
      obtain ⟨m, raw⟩ := x
      obtain ⟨job, hparse, hcarried⟩ := parse_added hlimit h.added (he (m, raw) rfl)
      simp only [StreamSystem.received, hparse]
      refine h.answer fun x hx => ?_
      rw [List.mem_singleton.mp hx]
      exact hcarried

theorem examine (h : s.JobsOnly) (hlimit : 0 < limit) {m : MessageId}
    {raw : String} {batch : List (MessageId × String)}
    {ready : List (MessageId × UntypedJob)} (hm : (m, raw) ∈ s.added)
    (hr : ∀ x ∈ ready, Carried s.added x.1 x.2) :
    (s.examine settings (jsonModule limit) c m raw batch ready).JobsOnly := by
  obtain ⟨job, hparse, hcarried⟩ := parse_added hlimit h.added hm
  simp only [StreamSystem.examine, hparse]
  split
  · exact h.setDoing ⟨⟨rfl, hm, job, rfl, hcarried⟩, hr⟩
  · refine h.proceed fun x hx => ?_
    rcases List.mem_append.mp hx with hx | hx
    · exact hr x hx
    · rw [List.mem_singleton.mp hx]
      exact hcarried

/-- The next command of a worker. -/
theorem command (h : s.JobsOnly) (hi : StreamInv s) (hlimit : 0 < limit)
    (hs : s.command settings (jsonModule limit) c = some s') : s'.JobsOnly := by
  have hclaimed := (hi.workers c).claimed
  have hdoing := h.doing c
  unfold StreamSystem.command at hs
  split at hs
  · cases hs
  · cases hs
    refine h.setStream.received hlimit fun x hx => ?_
    exact (hi.claimable c (GroupStream.readNew_some hx).1).1
  · next l hd =>
    rw [hd] at hdoing
    exact absurd hdoing id
  · cases hs
    exact h.setStream.proceed nofun
  · next ready hd =>
    cases hs
    rw [hd] at hdoing
    exact h.answer hdoing
  · next m raw batch ready hd =>
    cases hs
    rw [hd] at hdoing hclaimed
    exact h.examine hlimit (hclaimed _ List.mem_cons_self).1 hdoing
  · next l batch ready hd =>
    cases hs
    rw [hd] at hdoing
    exact (h.deadLetter hdoing.1).proceed hdoing.2

theorem enqueueOnce (h : s.JobsOnly) {payload : String} {k : GuardKey}
    {ttl : Int} (hj : ∃ j : Wire.DialJob, j.toJson = some payload) :
    (s.enqueueOnce settings payload k ttl).JobsOnly := by
  have hdlq := s.redis.enqueueOnce_dlq settings payload k ttl
  unfold StreamSystem.enqueueOnce
  dsimp only
  split
  · exact h.add hj hdlq
  · exact ⟨h.added, fun d hd => h.dlq d (hdlq ▸ hd), h.doing, h.letters,
      h.returned⟩

theorem begin (h : s.JobsOnly) {d : Doing} (hd : d.Reads s.added)
    (hs : s.begin c d = some s') : s'.JobsOnly := by
  unfold StreamSystem.begin at hs
  split at hs
  · cases hs
    exact h.setWorker hd (h.letters c)
  · cases hs

/-- **One step.** -/
theorem step (h : s.JobsOnly) (hi : StreamInv s) (hlimit : 0 < limit)
    {a : StreamAct} (ha : a.AddsJobs)
    (hs : streamStep settings (jsonModule limit) s a = some s') :
    s'.JobsOnly := by
  cases a with
  | enqueue payload =>
      cases hs
      exact h.add ha rfl
  | enqueueOnce payload k ttl =>
      cases hs
      exact h.enqueueOnce ha
  | deleteGuard k =>
      cases hs
      exact ⟨h.added, h.dlq, h.doing, h.letters, h.returned⟩
  | ack m =>
      cases hs
      exact ⟨h.added, h.dlq, h.doing, h.letters, h.returned⟩
  | resetDeliveries m =>
      cases hs
      exact ⟨h.added, h.dlq, h.doing, h.letters, h.returned⟩
  | readOne c => exact h.begin (d := .reading) trivial hs
  | reclaimStale c idleMs count =>
      exact h.begin (d := .claiming idleMs count) trivial hs
  | command c => exact h.command hi hlimit hs
  | crash c =>
      cases hs
      exact h.setWorker trivial nofun
  | tick d =>
      cases hs
      exact ⟨h.added, h.dlq, h.doing, h.letters, h.returned⟩

end StreamSystem.JobsOnly

/-- **Every job arrives as it was enqueued.** In every run in which only the
texts of jobs are added, by any number of consumers that crash anywhere: what
is on the stream was added and is parsed as the job it was added with, every
job a call returns is that of its message, no message is ever moved aside as
unreadable, and every entry of the dead-letter stream and every letter still
to be recorded has the job its message was added with. -/
theorem stream_carries_jobs (settings : Settings) (limit : Nat) (now : Nat)
    (s : StreamSystem) (hlimit : 0 < limit)
    (h : Run (streamStep settings (jsonModule limit))
      (fun _ a => a.AddsJobs) (.fresh now) s) :
    (∀ m raw, AList.lookup m s.redis.stream.entries = some raw →
      (m, raw) ∈ s.added) ∧
    (∀ m raw, (m, raw) ∈ s.added → ∃ job,
      parse (jsonModule limit) raw = .job job ∧ Carried s.added m job) ∧
    (∀ a ∈ s.returned, ∀ x ∈ a.messages, Carried s.added x.1 x.2) ∧
    (∀ d ∈ s.redis.dlq, d.reason = .maxDeliveriesExceeded ∧ ∃ job,
      parse (jsonModule limit) d.job = .job job ∧
        Carried s.added d.originalId job) ∧
    ∀ c, ∀ l ∈ (s.worker c).deadLetters,
      ∃ job, l.job = some job ∧ Carried s.added l.messageId job := by
  have hinv : StreamInv s :=
    h.inv (fun _ _ _ hi _ hs => hi.step hs) (.fresh now)
  have hjobs : s.JobsOnly :=
    h.inv_of (fun _ _ _ hi _ hs => hi.step hs)
      (fun _ _ _ hi hp hc hs => hp.step hi hlimit hc hs)
      (StreamInv.fresh now) (.fresh now)
  have hparse : ∀ m raw, (m, raw) ∈ s.added → ∃ job,
      parse (jsonModule limit) raw = .job job ∧ Carried s.added m job :=
    fun _ _ hm => parse_added hlimit hjobs.added hm
  exact ⟨fun _ _ hm => hinv.stored hm, hparse, hjobs.returned,
    fun d hd => ⟨(hjobs.dlq d hd).1, hparse _ _ (hjobs.dlq d hd).2⟩,
    fun c l hl => (hjobs.letters c l hl).job⟩

/-- A first attempt, as the enqueue service makes it. -/
def queuedJob : Wire.DialJob where
  jobId := "11111111-1111-4111-8111-111111111111"
  campaignId := "22222222-2222-4222-8222-222222222222"
  contactId := "33333333-3333-4333-8333-333333333333"
  attemptNumber := 1
  idempotencyKey := "22222222-2222-4222-8222-222222222222:"
    ++ "33333333-3333-4333-8333-333333333333:1"
  enqueuedAt := "2026-01-05T09:00:00.000000+00:00"
  traceId := "44444444-4444-4444-8444-444444444444"

/-- It is written, and the text is parsed as the job. -/
theorem queuedJob_toJson : ∃ text, queuedJob.toJson = some text ∧
    parse (jsonModule 100) text = .job queuedJob.untyped := by
  obtain ⟨text, htext⟩ := JobFields.exists_dumps
    (show queuedJob.asdict.all (·.2.printable) = true by decide)
  exact ⟨text, htext, Wire.DialJob.parse_toJson (by decide) htext⟩

/-- The job is enqueued, and a worker reads it. -/
theorem stream_carries_queuedJob :
    ∃ s, Run (streamStep {} (jsonModule 100)) (fun _ a => a.AddsJobs)
        (.fresh 0) s ∧
      s.returned.map (·.messages) = [[(1, queuedJob.untyped)]] ∧
      ∀ a ∈ s.returned, ∀ x ∈ a.messages, Carried s.added x.1 x.2 := by
  obtain ⟨text, htext, hparse⟩ := queuedJob_toJson
  have hacts : ∃ s : StreamSystem, runActs (streamStep {} (jsonModule 100))
      (.fresh 0) [.enqueueOnce text "k" 3600, .readOne "a", .command "a"]
        = some (s.received (jsonModule 100) "a" (some (1, text))) ∧
      s.returned = [] := ⟨_, rfl, rfl⟩
  obtain ⟨s, hs, hreturned⟩ := hacts
  have hrun : Run (streamStep {} (jsonModule 100)) (fun _ a => a.AddsJobs)
      (.fresh 0) (s.received (jsonModule 100) "a" (some (1, text))) := by
    refine .of_acts (fun a ha u => ?_) hs
    simp only [List.mem_cons, List.not_mem_nil, or_false] at ha
    obtain rfl | rfl | rfl := ha
    · exact ⟨queuedJob, htext⟩
    all_goals trivial
  refine ⟨_, hrun, ?_, (stream_carries_jobs {} 100 0 _ (by decide) hrun).2.2.1⟩
  simp only [StreamSystem.received, hparse, StreamSystem.answer, hreturned,
    List.map_cons, List.map_nil]

/-! ## The analysis stream -/

/-- What is published is the text of a job about an analysis. -/
def AnalysisQueueAct.AddsJobs (uuid : UuidModule) : AnalysisQueueAct → Prop
  | .publish fields => ∃ (j : Wire.AnalysisJob) (text : String),
      j.toJson = some text ∧ fields = [("job", text)] ∧
        (uuid.parse j.analysisId).isSome
  | _ => True

/-- The message was published with the text of a job about an analysis, and
it reads as this job. -/
structure CarriesAnalysis (uuid : UuidModule) (limit : Nat)
    (published : List ClaimedMessage) (e : ClaimedMessage) : Prop where
  published : e ∈ published
  job : ∃ (j : Wire.AnalysisJob) (text : String), j.toJson = some text ∧
    e.2 = [("job", text)] ∧ (uuid.parse j.analysisId).isSome ∧
    readAnalysisJob (jsonModule limit) e.2 = some j.untyped

namespace CarriesAnalysis

variable {uuid : UuidModule} {limit : Nat} {published : List ClaimedMessage}
  {e : ClaimedMessage}

theorem mono (h : CarriesAnalysis uuid limit published e)
    (more : List ClaimedMessage) :
    CarriesAnalysis uuid limit (published ++ more) e :=
  ⟨List.mem_append_left _ h.published, h.job⟩

theorem wellFormed (h : CarriesAnalysis uuid limit published e) :
    wellFormedJob uuid (jsonModule limit) e.2 = true := by
  obtain ⟨j, text, -, -, hid, hread⟩ := h.job
  rw [wellFormedJob, hread]
  exact hid

end CarriesAnalysis

namespace AnalysisQueueState

variable {uuid : UuidModule} {limit : Nat} {s s' : AnalysisQueueState}

/-- What is on the stream, what was claimed and what a worker still has to
do was published, and reads as the job it was published for. -/
structure JobsOnly (uuid : UuidModule) (limit : Nat)
    (s : AnalysisQueueState) : Prop where
  entries : ∀ m fields, AList.lookup m s.stream.entries = some fields →
    CarriesAnalysis uuid limit s.published (m, fields)
  claims : ∀ e ∈ s.claims, CarriesAnalysis uuid limit s.published e
  todo : ∀ c, ∀ e ∈ s.todo c, CarriesAnalysis uuid limit s.published e
  handled : ∀ m ∈ s.handled, ∃ fields,
    CarriesAnalysis uuid limit s.published (m, fields)

/-- A call claims messages of the stream. -/
theorem JobsOnly.receive (h : s.JobsOnly uuid limit) {c : ConsumerName}
    {stream : GroupStream ConsumerName StreamFields}
    {batch : List ClaimedMessage} (hentries : stream.entries = s.stream.entries)
    (hbatch : ∀ e ∈ batch, AList.lookup e.1 s.stream.entries = some e.2) :
    (s.receive uuid (jsonModule limit) c stream batch).JobsOnly uuid limit := by
  have hnew : ∀ e ∈ batch, CarriesAnalysis uuid limit s.published e :=
    fun e he => h.entries e.1 e.2 (hbatch e he)
  have hclaims : ∀ e ∈ s.claims ++ batch,
      CarriesAnalysis uuid limit s.published e := fun e he =>
    (List.mem_append.mp he).elim (h.claims e) (hnew e)
  have hstored : ∀ m fields, AList.lookup m stream.entries = some fields →
      CarriesAnalysis uuid limit s.published (m, fields) := by
    rw [hentries]
    exact h.entries
  unfold AnalysisQueueState.receive
  dsimp only
  split
  · exact {
      entries := hstored
      claims := hclaims
      todo := fun c' e he => (mem_setTodo he).elim (hnew e) (h.todo c' e)
      handled := h.handled }
  · exact ⟨hstored, hclaims, h.todo, h.handled⟩

/-- A worker goes on with the next message it has. -/
theorem JobsOnly.processNext (h : s.JobsOnly uuid limit) {c : ConsumerName}
    (e : JobEnd) {m : MessageId} {fields : StreamFields}
    {rest : List ClaimedMessage} (htodo : s.todo c = (m, fields) :: rest) :
    (s.processNext uuid (jsonModule limit) c e m fields rest).JobsOnly uuid
      limit := by
  have hhead : CarriesAnalysis uuid limit s.published (m, fields) :=
    h.todo c _ (htodo ▸ List.mem_cons_self)
  have hrest : ∀ x ∈ rest, CarriesAnalysis uuid limit s.published x :=
    fun x hx => h.todo c x (htodo ▸ List.mem_cons_of_mem _ hx)
  have hhandled : ∀ m' ∈ s.handled ++ [m], ∃ fields,
      CarriesAnalysis uuid limit s.published (m', fields) := fun m' hm' =>
    (List.mem_append.mp hm').elim (h.handled m') fun hm' =>
      ⟨fields, List.mem_singleton.mp hm' ▸ hhead⟩
  unfold AnalysisQueueState.processNext
  rw [if_pos hhead.wellFormed]
  cases e with
  | returned =>
      exact {
        entries := h.entries
        claims := h.claims
        todo := fun c' x hx => (mem_setTodo hx).elim (hrest x) (h.todo c' x)
        handled := hhandled }
  | raised acknowledged =>
      refine {
        entries := fun m' f hm' => h.entries m' f ?_
        claims := h.claims
        todo := fun c' x hx =>
          (mem_setTodo hx).resolve_left List.not_mem_nil |> h.todo c' x
        handled := hhandled }
      cases acknowledged <;> exact hm'

theorem JobsOnly.step (h : s.JobsOnly uuid limit) (hlimit : 0 < limit)
    {a : AnalysisQueueAct} (ha : a.AddsJobs uuid)
    (hs : step uuid (jsonModule limit) s a = some s') :
    s'.JobsOnly uuid limit := by
  cases a with
  | publish fields =>
      cases hs
      obtain ⟨j, text, hj, rfl, hid⟩ := ha
      exact {
        entries := fun m f hm => by
          rw [GroupStream.lookup_add] at hm
          split at hm
          · next hnew =>
            cases hm
            refine ⟨List.mem_append_right _ ?_, j, text, hj, rfl, hid,
              Wire.AnalysisJob.read_toJson hlimit hj⟩
            rw [hnew]
            exact List.mem_singleton_self _
          · exact (h.entries m f hm).mono _
        claims := fun e he => (h.claims e he).mono _
        todo := fun c e he => (h.todo c e he).mono _
        handled := fun m hm => (h.handled m hm).imp fun _ hf => hf.mono _ }
  | trim k =>
      cases hs
      exact {
        entries := fun m f hm => by
          rw [GroupStream.lookup_delete] at hm
          split at hm
          · cases hm
          · exact h.entries m f hm
        claims := h.claims
        todo := h.todo
        handled := h.handled }
  | tick ms =>
      cases hs
      exact ⟨h.entries, h.claims, h.todo, h.handled⟩
  | readOne c =>
      simp only [AnalysisQueueState.step] at hs
      split at hs
      · cases hs
      cases hs
      exact h.receive (GroupStream.readNew_entries c s.now).1
        fun x hx => (GroupStream.readNew_some (Option.mem_toList.mp hx)).1
  | reclaim c idleMs count =>
      simp only [AnalysisQueueState.step] at hs
      split at hs
      · cases hs
      cases hs
      exact h.receive (GroupStream.autoclaim_entries c s.now idleMs count).1
        fun x hx => GroupStream.mem_autoclaim hx
  | process c e =>
      simp only [AnalysisQueueState.step] at hs
      split at hs
      · cases hs
      · next m fields rest htodo =>
        cases hs
        exact h.processNext e htodo
  | stop c =>
      cases hs
      exact {
        entries := h.entries
        claims := h.claims
        todo := fun c' e he =>
          (mem_setTodo he).resolve_left List.not_mem_nil |> h.todo c' e
        handled := h.handled }

/-- An analysis job, as the webhook makes it. -/
def publishedJob : Wire.AnalysisJob where
  jobId := "11111111-1111-4111-8111-111111111111"
  analysisId := "00000000-0000-0000-0000-000000000007"
  callAttemptId := "22222222-2222-4222-8222-222222222222"
  contactId := "33333333-3333-4333-8333-333333333333"
  campaignId := "44444444-4444-4444-8444-444444444444"
  conversationSessionId := none
  enqueuedAt := "2026-01-05T09:00:00.000000+00:00"
  traceId := "55555555-5555-4555-8555-555555555555"

end AnalysisQueueState

end CallingAgent
