import CallingAgent.Lib.Keyset
import CallingAgent.Lib.Run
import CallingAgent.Services.Enqueue

/-!
# The enqueue scan — pages over contacts that change meanwhile

`enqueue_campaign` reads the owed contacts of a campaign page by page, ends
the read, and queues the contacts of the page one by one. Between any two of
these steps other requests and workers may change every row and every key of
the queue. The scan ends at an empty page, at a full backlog, at the limit
of a request, or with a failure.
-/

namespace CallingAgent

open Lib

/-! ## The scan -/

/-- `enqueue_page_size`, as it is accepted when the settings are read. -/
structure EnqueuePageSize where
  value : Nat
  positive : 1 ≤ value
  bounded : value ≤ 5000

/-- What the scan counts. -/
structure EnqueueCounts where
  discovered : Nat := 0
  enqueued : Nat := 0
  skippedSuppressed : Nat := 0
  skippedDuplicate : Nat := 0
  pagesProcessed : Nat := 0
  deriving DecidableEq

structure EnqueueResult extends EnqueueCounts where
  campaignId : CampaignId
  complete : Bool
  backlogFull : Bool
  deriving DecidableEq

/-- The audit row `campaign.enqueue_failed`. -/
structure EnqueueFailure where
  enqueued : Nat
  discovered : Nat
  pagesProcessed : Nat
  deriving DecidableEq

/-- What the request answers when the queue fails. -/
def enqueueInterrupted (enqueued discovered : Nat) : AppError :=
  .serviceUnavailable ("Enqueue interrupted by a queue error after queueing "
    ++ toString enqueued ++ " job(s) (" ++ toString discovered
    ++ " contact(s) handled); re-running it is safe")

/-- What became of a contact the scan has handled. -/
inductive Handled where
  | queued
  | guarded
  | suppressed
  deriving DecidableEq

/-- The ids and numbers of a page. -/
abbrev EnqueuePage := List (ContactId × String)

/-- What the scan does next, or how it ended. -/
inductive ScanPhase where
  | start
  | page
  | suppressions (page : EnqueuePage)
  | contacts (page : EnqueuePage) (suppressed : List String)
      (rest : EnqueuePage)
  | refused (e : AppError)
  | finished (result : EnqueueResult)
  | interrupted (audit : EnqueueFailure) (e : AppError)
  | failed

/-- The rows, the queue, and the variables of the scan. The last three
fields are a record of what was done: the contacts this scan has handled,
and those whose job this scan, or an earlier one, has put on the stream. -/
structure EnqueueScan where
  db : Db
  redis : Redis
  cursor : Option ContactId := none
  counts : EnqueueCounts := {}
  phase : ScanPhase := .start
  handled : List (ContactId × Handled) := []
  added : List ContactId := []
  earlier : List ContactId := []

/-- `eligible_enqueue_page` -/
def eligibleEnqueuePage (db : Db) (campaignId : CampaignId)
    (afterId : Option ContactId) (limit : Nat) : EnqueuePage :=
  keysetPage afterId limit
    ((db.contacts.entries.filter fun e => enqueueSelects campaignId e.2).map
      fun e => (e.1, e.2.normalizedPhoneNumber))

/-- `suppressed_among` -/
def SuppressionTable.suppressedAmong (env : Env) (t : SuppressionTable)
    (numbers : List String) : List String :=
  numbers.filter (t.isSuppressed env)

/-- Why a request is refused before it scans. -/
def enqueueRefusal (env : Env) (db : Db) (campaignId : CampaignId)
    (gate : GateReads) : Option AppError :=
  match db.campaign campaignId with
  | none => some (campaignNotFound campaignId)
  | some campaign =>
      if campaign.status ≠ .active then
        some (.validation ("Campaign is " ++ campaign.status.value
          ++ ", not active -- cannot enqueue"))
      else
        match killSwitchGate env.settings gate with
        | .open => none
        | .blocked .killSwitchUnavailable =>
            some (.serviceUnavailable "Outbound control state is unavailable")
        | _ => some (.conflict
            "Outbound calling is disabled by the global kill switch")

namespace EnqueueScan

variable (s : EnqueueScan)

/-- A contact of the page has been handled. -/
def handle (page : EnqueuePage) (suppressed : List String) (rest : EnqueuePage)
    (c : ContactId) (what : Handled) : EnqueueScan :=
  let counts := { s.counts with discovered := s.counts.discovered + 1 }
  let counts :=
    match what with
    | .queued => { counts with enqueued := counts.enqueued + 1 }
    | .guarded => { counts with skippedDuplicate := counts.skippedDuplicate + 1 }
    | .suppressed =>
        { counts with skippedSuppressed := counts.skippedSuppressed + 1 }
  { s with
    counts
    phase := .contacts page suppressed rest
    handled := (c, what) :: s.handled }

/-- What a step has left of the queue; `added` is kept by what is on the
stream, not by what was answered. -/
def putRedis (r : Redis) (c : ContactId) : EnqueueScan :=
  { s with
    redis := r
    added := if r.lastMessageId = s.redis.lastMessageId then s.added
      else c :: s.added }

/-- The scan is over. -/
def finish (campaignId : CampaignId) (complete backlogFull : Bool) :
    EnqueueScan :=
  { s with
    phase := .finished
      { s.counts with campaignId, complete, backlogFull } }

/-- The page is left with `complete` cleared. -/
def stop (campaignId : CampaignId) (backlogFull : Bool) : EnqueueScan :=
  { s with
    counts :=
      { s.counts with pagesProcessed := s.counts.pagesProcessed + 1 }
  }.finish campaignId false backlogFull

/-- The page was handled whole. -/
def nextPage (page : EnqueuePage) : EnqueueScan :=
  { s with
    cursor := (page.map (·.1)).getLast?
    counts :=
      { s.counts with pagesProcessed := s.counts.pagesProcessed + 1 }
    phase := .page }

/-- The queue has failed. -/
def interrupt : EnqueueScan :=
  { s with
    phase := .interrupted
      ⟨s.counts.enqueued, s.counts.discovered, s.counts.pagesProcessed⟩
      (enqueueInterrupted s.counts.enqueued s.counts.discovered) }

end EnqueueScan

/-! ## Its steps -/

inductive EnqueueAct where
  | begin (gate : GateReads)
  | readPage
  | readSuppressions
  | contact (jobId : Nat)
  | endPage
  /-- the command of `enqueue_once` fails and has no effect -/
  | queueFails
  | databaseFails
  /-- other requests and workers -/
  | others (db : Db) (redis : Redis)
  /-- the request is made again, also after a crash of the one before -/
  | again

section

variable (env : Env) (size : EnqueuePageSize) (campaignId : CampaignId)

/-- The first-attempt job of a contact. -/
def firstDialJob (c : ContactId) (jobId : Nat) : DialJob :=
  { jobId, campaignId, contactId := c, attemptNumber := 1 }

/-- The body of the loop over a page. -/
def enqueueContact (s : EnqueueScan) (page : EnqueuePage)
    (suppressed : List String) (c : ContactId) (phone : String)
    (rest : EnqueuePage) (jobId : Nat) : EnqueueScan :=
  if maxEnqueuePerRequest ≤ s.counts.enqueued then s.stop campaignId false
  else if phone ∈ suppressed then s.handle page suppressed rest c .suppressed
  else
    let answer := s.redis.enqueueOnce env.settings.queueMaxBacklog
      (firstDialJob campaignId c jobId)
    let s := s.putRedis answer.1 c
    match answer.2 with
    | .queued => s.handle page suppressed rest c .queued
    | .guarded => s.handle page suppressed rest c .guarded
    | .backlogFull => s.stop campaignId true

def enqueueStep (s : EnqueueScan) : EnqueueAct → Option EnqueueScan
  | .begin gate =>
      match s.phase with
      | .start =>
          match enqueueRefusal env s.db campaignId gate with
          | some e => some { s with phase := .refused e }
          | none => some { s with phase := .page }
      | _ => none
  | .readPage =>
      match s.phase with
      | .page =>
          match eligibleEnqueuePage s.db campaignId s.cursor size.value with
          | [] => some (s.finish campaignId true false)
          | p :: ps => some { s with phase := .suppressions (p :: ps) }
      | _ => none
  | .readSuppressions =>
      match s.phase with
      | .suppressions page =>
          let suppressed := s.db.suppressions.suppressedAmong env
            (page.map (·.2))
          some { s with phase := .contacts page suppressed page }
      | _ => none
  | .contact jobId =>
      match s.phase with
      | .contacts page suppressed ((c, phone) :: rest) =>
          some (enqueueContact env campaignId s page suppressed c phone rest
            jobId)
      | _ => none
  | .endPage =>
      match s.phase with
      | .contacts page _ [] => some (s.nextPage page)
      | _ => none
  | .queueFails =>
      match s.phase with
      | .contacts _ suppressed ((_, phone) :: _) =>
          if s.counts.enqueued < maxEnqueuePerRequest ∧ phone ∉ suppressed then
            some s.interrupt
          else none
      | _ => none
  | .databaseFails =>
      match s.phase with
      | .page | .suppressions _ => some { s with phase := .failed }
      | _ => none
  | .others db redis => some { s with db, redis }
  | .again =>
      some { db := s.db, redis := s.redis, earlier := s.added ++ s.earlier }

end

/-! ## What a scan is for -/

namespace EnqueueScan

/-- A request before it has done anything, whatever was done before it. -/
def fresh (s : EnqueueScan) : Prop :=
  s.cursor = none ∧ s.counts = {} ∧ s.phase = .start ∧ s.handled = [] ∧
    s.added = []

/-- The first dial of the contact is owed, in this campaign. -/
def owes (s : EnqueueScan) (campaignId : CampaignId) (x : ContactId) : Prop :=
  (s.db.contact x).any (enqueueSelects campaignId) = true

/-- The contacts that were handled. -/
def seen (s : EnqueueScan) : List ContactId := s.handled.map (·.1)

end EnqueueScan

/-- How many contacts had this end. -/
def timesHandled (handled : List (ContactId × Handled)) (what : Handled) : Nat :=
  (handled.filter (·.2 == what)).length

/-- The counts are those of the contacts handled, and of the jobs that came
onto the stream. -/
structure EnqueueCounts.Tally (counts : EnqueueCounts)
    (handled : List (ContactId × Handled)) (added : List ContactId) : Prop where
  discovered : counts.discovered = handled.length
  enqueued : counts.enqueued = timesHandled handled .queued
  suppressed : counts.skippedSuppressed = timesHandled handled .suppressed
  duplicate : counts.skippedDuplicate = timesHandled handled .guarded
  stream : added = (handled.filter (·.2 == .queued)).map (·.1)

/-- The counts, and every report of them, are what was done. -/
structure EnqueueScan.CountsTrue (s : EnqueueScan) : Prop where
  tally : s.counts.Tally s.handled s.added
  finished : ∀ r, s.phase = .finished r → r.toEnqueueCounts = s.counts
  interrupted : ∀ audit e, s.phase = .interrupted audit e →
    audit.enqueued = s.added.length ∧ audit.discovered = s.handled.length ∧
      e = enqueueInterrupted s.added.length s.handled.length

/-- Every contact counted is counted under one of the three ends. -/
def EnqueueCounts.sums (counts : EnqueueCounts) : Prop :=
  counts.discovered =
    counts.enqueued + counts.skippedSuppressed + counts.skippedDuplicate

/-- Others release no guard: none is deleted, and none expires. -/
def EnqueueAct.keepsGuards (s : EnqueueScan) : EnqueueAct → Prop
  | .others _ redis => ∀ k ∈ s.redis.guards, k ∈ redis.guards
  | _ => True

instance (s : EnqueueScan) : (a : EnqueueAct) → Decidable (a.keepsGuards s)
  | .others _ redis =>
      inferInstanceAs (Decidable (∀ k ∈ s.redis.guards, k ∈ redis.guards))
  | .begin _ | .readPage | .readSuppressions | .contact _ | .endPage
  | .queueFails | .databaseFails | .again => isTrue trivial

/-! ## What one contact does -/

section

variable {env : Env} {size : EnqueuePageSize} {campaignId : CampaignId}
  {s t : EnqueueScan} {a : EnqueueAct} {page rest : EnqueuePage}
  {suppressed : List String} {c x : ContactId} {phone : String} {jobId : Nat}

theorem putRedis_self : s.putRedis s.redis c = s := by
  rw [EnqueueScan.putRedis, if_pos rfl]

/-- What `enqueue_once` leaves: nothing new, or a job under a new message id
with its guard. -/
theorem enqueueOnce_cases (r : Redis) (backlog : Nat) (job : DialJob) :
    r.enqueueOnce backlog job = (r, .guarded) ∨
    r.enqueueOnce backlog job = (r, .backlogFull) ∨
    ∃ r' : Redis, r.enqueueOnce backlog job = (r', .queued) ∧
      r'.lastMessageId = r.lastMessageId + 1 ∧
      job.idempotencyKey ∉ r.guards ∧
      r'.guards = job.idempotencyKey :: r.guards := by
  unfold Redis.enqueueOnce
  by_cases hguard : job.idempotencyKey ∈ r.guards
  · exact Or.inl (if_pos hguard)
  by_cases hfull : r.stream.entries.length ≥ backlog
  · rw [if_neg hguard, if_pos hfull]
    exact Or.inr (Or.inl rfl)
  · rw [if_neg hguard, if_neg hfull]
    exact Or.inr (Or.inr ⟨_, rfl, rfl, hguard, rfl⟩)

/-- **A contact of the page** ends the scan, is skipped, or is queued with
its guard. -/
theorem enqueueContact_cases :
    (∃ full, enqueueContact env campaignId s page suppressed c phone rest jobId =
      s.stop campaignId full) ∨
    (enqueueContact env campaignId s page suppressed c phone rest jobId =
      s.handle page suppressed rest c .suppressed) ∨
    (enqueueContact env campaignId s page suppressed c phone rest jobId =
      s.handle page suppressed rest c .guarded) ∨
    ∃ r : Redis, (⟨campaignId, c, 1⟩ : IdempotencyKey) ∉ s.redis.guards ∧
      r.guards = ⟨campaignId, c, 1⟩ :: s.redis.guards ∧
      enqueueContact env campaignId s page suppressed c phone rest jobId =
        EnqueueScan.handle { s with redis := r, added := c :: s.added }
          page suppressed rest c .queued := by
  unfold enqueueContact
  by_cases hmax : maxEnqueuePerRequest ≤ s.counts.enqueued
  · exact Or.inl ⟨false, by rw [if_pos hmax]⟩
  by_cases hphone : phone ∈ suppressed
  · exact Or.inr (Or.inl (by rw [if_neg hmax, if_pos hphone]))
  rw [if_neg hmax, if_neg hphone]
  rcases enqueueOnce_cases s.redis env.settings.queueMaxBacklog
    (firstDialJob campaignId c jobId) with h | h | ⟨r, h, hid, hguard, hguards⟩
  · rw [h]
    dsimp only
    rw [putRedis_self]
    exact Or.inr (Or.inr (Or.inl rfl))
  · rw [h]
    dsimp only
    rw [putRedis_self]
    exact Or.inl ⟨true, rfl⟩
  · rw [h]
    refine Or.inr (Or.inr (Or.inr ⟨r, hguard, hguards, ?_⟩))
    have hnew : r.lastMessageId ≠ s.redis.lastMessageId := by
      rw [hid]
      exact Nat.succ_ne_self _
    simp only [EnqueueScan.putRedis, if_neg hnew]

end

/-! ## The counts -/

section

variable {env : Env} {size : EnqueuePageSize} {campaignId : CampaignId}
  {s t : EnqueueScan} {a : EnqueueAct} {page rest : EnqueuePage}
  {suppressed : List String} {c x : ContactId}

/-- How many pages were read does not matter. -/
theorem EnqueueCounts.Tally.pages {counts : EnqueueCounts}
    {handled : List (ContactId × Handled)} {added : List ContactId}
    (h : counts.Tally handled added) (n : Nat) :
    { counts with pagesProcessed := n }.Tally handled added :=
  ⟨h.discovered, h.enqueued, h.suppressed, h.duplicate, h.stream⟩

namespace EnqueueScan.CountsTrue

theorem fresh (h : s.fresh) : s.CountsTrue := by
  obtain ⟨-, hcounts, hphase, hhandled, hadded⟩ := h
  refine ⟨?_, by simp [hphase], by simp [hphase]⟩
  rw [hcounts, hhandled, hadded]
  exact ⟨rfl, rfl, rfl, rfl, rfl⟩

theorem sums (h : s.CountsTrue) : s.counts.sums := by
  have hsplit : ∀ l : List (ContactId × Handled), l.length =
      timesHandled l .queued + timesHandled l .suppressed
        + timesHandled l .guarded := by
    intro l
    unfold timesHandled
    induction l with
    | nil => rfl
    | cons e l ih =>
        obtain ⟨c, what⟩ := e
        cases what <;> simp +decide <;> omega
  rw [EnqueueCounts.sums, h.tally.discovered, h.tally.enqueued,
    h.tally.suppressed, h.tally.duplicate]
  exact hsplit s.handled

/-- A step to a phase that reports nothing leaves the counts true. -/
theorem goto (htally : t.counts.Tally t.handled t.added)
    (hf : ∀ r, t.phase ≠ .finished r)
    (hi : ∀ audit e, t.phase ≠ .interrupted audit e) : t.CountsTrue :=
  ⟨htally, fun r hr => absurd hr (hf r), fun a e hae => absurd hae (hi a e)⟩

/-- A contact that was skipped. -/
theorem skip (h : s.CountsTrue) {what : Handled} (hw : what ≠ .queued) :
    (s.handle page suppressed rest c what).CountsTrue := by
  obtain ⟨hd, he, hs, hg, ha⟩ := h.tally
  refine goto ?_ (by simp [handle]) (by simp [handle])
  cases what with
  | queued => exact absurd rfl hw
  | guarded =>
      constructor <;> simp +decide [handle, timesHandled] <;>
        simp_all [timesHandled]
  | suppressed =>
      constructor <;> simp +decide [handle, timesHandled] <;>
        simp_all [timesHandled]

/-- A contact whose job was put on the stream. -/
theorem queue (h : s.CountsTrue) (r : Redis) :
    (EnqueueScan.handle { s with redis := r, added := c :: s.added }
      page suppressed rest c .queued).CountsTrue := by
  obtain ⟨hd, he, hs, hg, ha⟩ := h.tally
  refine goto ?_ (by simp [handle]) (by simp [handle])
  constructor <;> simp +decide [handle, timesHandled] <;>
    simp_all [timesHandled]

/-- The end of a scan reports the counts as they are. -/
theorem finish (h : s.counts.Tally s.handled s.added) (complete full : Bool) :
    (s.finish campaignId complete full).CountsTrue := by
  refine ⟨h, fun r hr => ?_, fun audit e hi => ?_⟩
  · cases hr
    rfl
  · cases hi

theorem stop (h : s.CountsTrue) (full : Bool) :
    (s.stop campaignId full).CountsTrue := by
  unfold EnqueueScan.stop
  exact finish (h.tally.pages (s.counts.pagesProcessed + 1)) false full

/-- A queue failure reports them too. -/
theorem interrupt (h : s.CountsTrue) : s.interrupt.CountsTrue := by
  refine ⟨h.tally, fun r hr => (nomatch hr), fun audit e hi => ?_⟩
  have hadded : s.counts.enqueued = s.added.length := by
    rw [h.tally.enqueued, h.tally.stream, List.length_map]
    rfl
  cases hi
  rw [hadded, h.tally.discovered]
  exact ⟨rfl, rfl, rfl⟩

/-- **A step keeps the counts true.** -/
theorem step (h : s.CountsTrue)
    (hs : enqueueStep env size campaignId s a = some t) : t.CountsTrue := by
  cases a with
  | begin gate =>
      simp only [enqueueStep] at hs
      split at hs <;> [skip; cases hs]
      split at hs <;> cases hs <;> exact goto h.tally (by simp) (by simp)
  | readPage =>
      simp only [enqueueStep] at hs
      split at hs <;> [skip; cases hs]
      split at hs <;> cases hs
      · exact finish h.tally true false
      · exact goto h.tally (by simp) (by simp)
  | readSuppressions =>
      simp only [enqueueStep] at hs
      split at hs <;> cases hs
      exact goto h.tally (by simp) (by simp)
  | contact jobId =>
      simp only [enqueueStep] at hs
      split at hs <;> cases hs
      rcases enqueueContact_cases with ⟨full, heq⟩ | heq | heq | ⟨r, -, -, heq⟩
      · rw [heq]; exact h.stop full
      · rw [heq]; exact h.skip (by simp)
      · rw [heq]; exact h.skip (by simp)
      · rw [heq]; exact h.queue r
  | endPage =>
      simp only [enqueueStep] at hs
      split at hs <;> cases hs
      exact goto (h.tally.pages _) (by simp [nextPage]) (by simp [nextPage])
  | queueFails =>
      simp only [enqueueStep] at hs
      split at hs <;> [skip; cases hs]
      split at hs <;> cases hs
      exact h.interrupt
  | databaseFails =>
      simp only [enqueueStep] at hs
      split at hs <;> cases hs <;> exact goto h.tally (by simp) (by simp)
  | others db redis =>
      cases hs
      exact ⟨h.tally, h.finished, h.interrupted⟩
  | again =>
      cases hs
      exact fresh ⟨rfl, rfl, rfl, rfl, rfl⟩

end EnqueueScan.CountsTrue

/-! ## The walk over the contacts -/

/-- The ids of a page. -/
def scanIds (page : EnqueuePage) : List ContactId := page.map (·.1)

/-- The scan walks its pages key by key. -/
def EnqueueScan.Walking (s : EnqueueScan) : Prop :=
  match s.phase with
  | .start => s.cursor = none ∧ s.handled = []
  | .page => Walk s.cursor s.seen
  | .suppressions page =>
      page ≠ [] ∧ WalkPage s.cursor (scanIds page) (scanIds page) s.seen
  | .contacts page _ rest =>
      page ≠ [] ∧ WalkPage s.cursor (scanIds page) (scanIds rest) s.seen
  | _ => s.seen.Nodup

/-- Where the scan stands with a contact that stays owed: it is handled, on
the page, or still ahead. -/
def EnqueueScan.Finds (x : ContactId) (s : EnqueueScan) : Prop :=
  match s.phase with
  | .page => NotMissed x s.cursor s.seen
  | .suppressions page | .contacts page _ _ =>
      NotMissed x s.cursor s.seen ∧
        (Passed s.cursor x ∨ x ∈ scanIds page ∨ ∀ k ∈ scanIds page, k < x)
  | .finished r => r.complete = true → x ∈ s.seen
  | _ => True

/-- The rows a page is read from have each contact once. -/
theorem eligible_nodup (db : Db) (campaignId : CampaignId) :
    (((db.contacts.entries.filter fun e => enqueueSelects campaignId e.2).map
      fun e => (e.1, e.2.normalizedPhoneNumber)).map (·.1)).Nodup := by
  rw [List.map_map]
  have hkeys : (db.contacts.entries.map Sigma.fst).Nodup :=
    db.contacts.nodupKeys
  exact hkeys.sublist (List.filter_sublist.map _)

theorem owes_mem {db : Db} {contact : Contact} (hc : db.contact x = some contact)
    (hsel : enqueueSelects campaignId contact = true) :
    (x, contact.normalizedPhoneNumber) ∈
      (db.contacts.entries.filter fun e => enqueueSelects campaignId e.2).map
        fun e => (e.1, e.2.normalizedPhoneNumber) := by
  have hmem := AList.mem_lookup_iff.mp hc
  exact List.mem_map.mpr ⟨⟨x, contact⟩, List.mem_filter.mpr ⟨hmem, hsel⟩, rfl⟩

/-- The contacts the scan has handled are different ones, in every phase. -/
theorem EnqueueScan.Walking.nodup (h : s.Walking) : s.seen.Nodup := by
  unfold Walking at h
  split at h
  · rw [seen, h.2]
    exact List.nodup_nil
  · exact h.nodup
  · exact h.2.nodup
  · exact h.2.nodup
  · exact h

/-- The next contact of a page is new, whatever becomes of it. -/
theorem walking_contact {page rest : EnqueuePage} {suppressed : List String}
    {c : ContactId} {phone : String} {jobId : Nat} (hne : page ≠ [])
    (h : WalkPage s.cursor (scanIds page) (scanIds ((c, phone) :: rest)) s.seen) :
    (enqueueContact env campaignId s page suppressed c phone rest
      jobId).Walking := by
  have hnext := h.handle.2
  rcases enqueueContact_cases with ⟨full, heq⟩ | heq | heq | ⟨r, -, -, heq⟩
  · rw [heq]; exact h.nodup
  · rw [heq]; exact ⟨hne, hnext⟩
  · rw [heq]; exact ⟨hne, hnext⟩
  · rw [heq]; exact ⟨hne, hnext⟩

/-- **A step keeps the walk.** -/
theorem walking_step (h : s.Walking)
    (hs : enqueueStep env size campaignId s a = some t) : t.Walking := by
  cases a with
  | begin gate =>
      simp only [enqueueStep] at hs
      split at hs <;> [rename_i hphase; cases hs]
      obtain ⟨hcursor, hhandled⟩ : s.cursor = none ∧ s.handled = [] := by
        simpa only [EnqueueScan.Walking, hphase] using h
      have hseen : s.seen = [] := by rw [EnqueueScan.seen, hhandled]; rfl
      split at hs <;> cases hs
      · exact h.nodup
      · show Walk s.cursor s.seen
        rw [hcursor, hseen]
        exact Walk.start
  | readPage =>
      simp only [enqueueStep] at hs
      split at hs <;> [rename_i hphase; cases hs]
      have hwalk : Walk s.cursor s.seen := by
        simpa only [EnqueueScan.Walking, hphase] using h
      split at hs <;> rename_i hpage <;> cases hs
      · exact h.nodup
      · refine ⟨List.cons_ne_nil _ _, ?_⟩
        rw [← hpage]
        refine hwalk.onPage (keysetPage_sorted (eligible_nodup s.db campaignId))
          fun k hk => ?_
        obtain ⟨row, hrow, rfl⟩ := List.mem_map.mp hk
        exact (of_mem_keysetPage hrow).2
  | readSuppressions =>
      simp only [enqueueStep] at hs
      split at hs <;> [rename_i page hphase; cases hs]
      cases hs
      simp only [EnqueueScan.Walking, hphase] at h
      exact h
  | contact jobId =>
      simp only [enqueueStep] at hs
      split at hs <;> [rename_i page suppressed c phone rest hphase; cases hs]
      cases hs
      simp only [EnqueueScan.Walking, hphase] at h
      exact walking_contact h.1 h.2
  | endPage =>
      simp only [enqueueStep] at hs
      split at hs <;> [rename_i page suppressed hphase; cases hs]
      cases hs
      simp only [EnqueueScan.Walking, hphase] at h
      exact (h.2.finish (by simpa [scanIds] using h.1) (x := 0)).1
  | queueFails =>
      simp only [enqueueStep] at hs
      split at hs <;> [skip; cases hs]
      split at hs <;> cases hs
      exact h.nodup
  | databaseFails =>
      simp only [enqueueStep] at hs
      split at hs <;> cases hs <;> exact h.nodup
  | others db redis =>
      cases hs
      exact h
  | again =>
      cases hs
      exact ⟨rfl, rfl⟩

/-- **A step does not lose a contact** that is owed when it is taken. -/
theorem finds_step (hx : s.owes campaignId x) (hw : s.Walking) (h : s.Finds x)
    (hs : enqueueStep env size campaignId s a = some t) : t.Finds x := by
  obtain ⟨contact, hc, hsel⟩ := (Option.any_eq_true _ _).mp hx
  have hmem := owes_mem hc hsel
  cases a with
  | begin gate =>
      simp only [enqueueStep] at hs
      split at hs <;> [rename_i hphase; cases hs]
      simp only [EnqueueScan.Walking, hphase] at hw
      split at hs <;> cases hs
      · trivial
      · show NotMissed x s.cursor s.seen
        rw [hw.1, EnqueueScan.seen, hw.2]
        exact NotMissed.start
  | readPage =>
      simp only [enqueueStep] at hs
      split at hs <;> [rename_i hphase; cases hs]
      simp only [EnqueueScan.Finds, hphase] at h
      split at hs <;> rename_i hpage <;> cases hs
      · intro hcomplete
        exact h ((keysetPage_eq_nil size.positive).mp hpage _ hmem)
      · refine ⟨h, ?_⟩
        rw [← hpage]
        by_cases hpassed : Passed s.cursor x
        · exact Or.inl hpassed
        · refine Or.inr ?_
          have hrows := eligible_nodup s.db campaignId
          rcases @mem_keysetPage_or _ _ _ _ size.value _ _ hrows hmem hpassed with
            hon | hbehind
          · exact Or.inl (List.mem_map_of_mem (f := (·.1)) hon)
          · refine Or.inr fun k hk => ?_
            obtain ⟨row, hrow, rfl⟩ := List.mem_map.mp hk
            exact hbehind row hrow
  | readSuppressions =>
      simp only [enqueueStep] at hs
      split at hs <;> [rename_i page hphase; cases hs]
      cases hs
      simp only [EnqueueScan.Finds, hphase] at h
      exact h
  | contact jobId =>
      simp only [enqueueStep] at hs
      split at hs <;> [rename_i page suppressed c phone rest hphase; cases hs]
      cases hs
      simp only [EnqueueScan.Finds, hphase] at h
      have hmore : NotMissed x s.cursor (c :: s.seen) :=
        fun hp => List.mem_cons_of_mem c (h.1 hp)
      rcases enqueueContact_cases with ⟨full, heq⟩ | heq | heq | ⟨r, -, -, heq⟩
      · rw [heq]
        intro hcomplete
        cases hcomplete
      · rw [heq]; exact ⟨hmore, h.2⟩
      · rw [heq]; exact ⟨hmore, h.2⟩
      · rw [heq]; exact ⟨hmore, h.2⟩
  | endPage =>
      simp only [enqueueStep] at hs
      split at hs <;> [rename_i page suppressed hphase; cases hs]
      cases hs
      simp only [EnqueueScan.Walking, hphase] at hw
      simp only [EnqueueScan.Finds, hphase] at h
      exact (hw.2.finish (by simpa [scanIds] using hw.1)).2 h.1 h.2
  | queueFails =>
      simp only [enqueueStep] at hs
      split at hs <;> [skip; cases hs]
      split at hs <;> cases hs
      trivial
  | databaseFails =>
      simp only [enqueueStep] at hs
      split at hs <;> cases hs <;> trivial
  | others db redis =>
      cases hs
      exact h
  | again =>
      cases hs
      trivial

/-! ## The guards -/

/-- Every contact whose job was put on the stream is guarded, and none was
put there twice. -/
structure EnqueueScan.Guarded (campaignId : CampaignId) (s : EnqueueScan) :
    Prop where
  nodup : (s.added ++ s.earlier).Nodup
  guards : ∀ c ∈ s.added ++ s.earlier, ⟨campaignId, c, 1⟩ ∈ s.redis.guards

/-- **A step that releases no guard** queues no contact a second time. -/
theorem guarded_step (h : s.Guarded campaignId) (ha : a.keepsGuards s)
    (hs : enqueueStep env size campaignId s a = some t) :
    t.Guarded campaignId := by
  cases a with
  | contact jobId =>
      simp only [enqueueStep] at hs
      split at hs <;> [rename_i page suppressed c phone rest hphase; cases hs]
      cases hs
      rcases enqueueContact_cases with
        ⟨full, heq⟩ | heq | heq | ⟨r, hnew, hguards, heq⟩
      · rw [heq]; exact ⟨h.nodup, h.guards⟩
      · rw [heq]; exact ⟨h.nodup, h.guards⟩
      · rw [heq]; exact ⟨h.nodup, h.guards⟩
      · rw [heq]
        refine ⟨h.nodup.cons fun hc => hnew (h.guards c hc), fun k hk => ?_⟩
        show _ ∈ r.guards
        rw [hguards]
        rcases List.mem_cons.mp hk with rfl | hk
        · exact List.mem_cons_self
        · exact List.mem_cons_of_mem _ (h.guards k hk)
  | others db redis =>
      cases hs
      exact ⟨h.nodup, fun c hc => ha _ (h.guards c hc)⟩
  | again =>
      cases hs
      exact ⟨h.nodup, h.guards⟩
  | begin | readPage | queueFails =>
      simp only [enqueueStep] at hs
      split at hs <;> [skip; cases hs]
      split at hs <;> cases hs <;> exact ⟨h.nodup, h.guards⟩
  | readSuppressions | endPage | databaseFails =>
      simp only [enqueueStep] at hs
      split at hs <;> cases hs <;> exact ⟨h.nodup, h.guards⟩

/-! ## The scan is exact -/

end

/-! ## A request that nothing disturbs -/

/-- A step of the request itself, without a failure. -/
def EnqueueAct.undisturbed : EnqueueAct → Bool
  | .begin _ | .readPage | .readSuppressions | .contact _ | .endPage => true
  | .queueFails | .databaseFails | .others .. | .again => false

/-! ### The single pass, contact by contact -/

section

variable {env : Env} {db : Db} {campaignId : CampaignId} {jobId : ContactId → Nat}
  {n : Nat} {c : ContactId} {contact : Contact} {later : List ContactId}
  {r r' : Redis}

theorem enqueueScan_suppressed (hc : db.contact c = some contact)
    (hs : db.suppressions.isSuppressed env contact.normalizedPhoneNumber = true) :
    enqueueScan env db campaignId jobId (n + 1) (c :: later) r
      = enqueueScan env db campaignId jobId (n + 1) later r := by
  rw [enqueueScan, hc]
  exact if_pos hs

theorem enqueueScan_queued (hc : db.contact c = some contact)
    (hs : ¬ db.suppressions.isSuppressed env contact.normalizedPhoneNumber = true)
    (hq : r.enqueueOnce env.settings.queueMaxBacklog
      (firstDialJob campaignId c (jobId c)) = (r', .queued)) :
    enqueueScan env db campaignId jobId (n + 1) (c :: later) r
      = enqueueScan env db campaignId jobId n later r' := by
  rw [firstDialJob] at hq
  rw [enqueueScan, hc]
  dsimp only
  rw [if_neg hs, hq]

/-- A guarded contact takes no place. -/
theorem enqueueScan_guarded (hc : db.contact c = some contact)
    (hs : ¬ db.suppressions.isSuppressed env contact.normalizedPhoneNumber = true)
    (hq : r.enqueueOnce env.settings.queueMaxBacklog
      (firstDialJob campaignId c (jobId c)) = (r', .guarded)) :
    enqueueScan env db campaignId jobId (n + 1) (c :: later) r
      = enqueueScan env db campaignId jobId (n + 1) later r' := by
  rw [firstDialJob] at hq
  rw [enqueueScan, hc]
  dsimp only
  rw [if_neg hs, hq]

/-- A full backlog ends the pass. -/
theorem enqueueScan_full (hc : db.contact c = some contact)
    (hs : ¬ db.suppressions.isSuppressed env contact.normalizedPhoneNumber = true)
    (hq : r.enqueueOnce env.settings.queueMaxBacklog
      (firstDialJob campaignId c (jobId c)) = (r', .backlogFull)) :
    enqueueScan env db campaignId jobId (n + 1) (c :: later) r = r' := by
  rw [firstDialJob] at hq
  rw [enqueueScan, hc]
  dsimp only
  rw [if_neg hs, hq]

end

/-! ### The request, contact by contact -/

/-- The rows that the pages are read from. -/
def enqueueRows (db : Db) (campaignId : CampaignId) : EnqueuePage :=
  (db.contacts.entries.filter fun e => enqueueSelects campaignId e.2).map
    fun e => (e.1, e.2.normalizedPhoneNumber)

/-- How many jobs the request may still queue. -/
def EnqueueScan.room (s : EnqueueScan) : Nat :=
  maxEnqueuePerRequest - s.counts.enqueued

/-- The page is read, and who of it is suppressed. -/
def EnqueueScan.onPage (env : Env) (s : EnqueueScan) (page : EnqueuePage) :
    EnqueueScan :=
  { s with
    phase := .contacts page
      (s.db.suppressions.suppressedAmong env (page.map (·.2))) page }

/-- From `s` to `t` the request has handled some contacts as the single pass
does: it is over, and the queue is what the pass would leave; or it is at
`phase`, and the pass goes on with the contacts behind them. -/
structure EnqueueScan.Passes (env : Env) (campaignId : CampaignId)
    (jobId : ContactId → Nat) (s : EnqueueScan) (ids later : List ContactId)
    (phase : ScanPhase) (t : EnqueueScan) : Prop where
  db : t.db = s.db
  cursor : t.cursor = s.cursor
  redis : (∃ result, t.phase = .finished result) ∧
      t.redis = enqueueScan env s.db campaignId jobId s.room (ids ++ later)
        s.redis ∨
    t.phase = phase ∧ enqueueScan env t.db campaignId jobId t.room later t.redis
      = enqueueScan env s.db campaignId jobId s.room (ids ++ later) s.redis

section

variable {env : Env} {size : EnqueuePageSize} {campaignId : CampaignId}
  {s : EnqueueScan} {db : Db} {jobId : ContactId → Nat}

theorem enqueueCandidates_eq (db : Db) (campaignId : CampaignId) :
    enqueueCandidates db campaignId
      = (keysetRows none (enqueueRows db campaignId)).map (·.1) := by
  have hall : (enqueueRows db campaignId).filter
      (fun row => (none : Option ContactId).all (· < row.1))
        = enqueueRows db campaignId :=
    List.filter_eq_self.mpr fun _ _ => rfl
  rw [enqueueCandidates, keysetRows, hall,
    List.map_insertionSort (fun a b : ContactId × String => a.1 ≤ b.1) (· ≤ ·)
      (fun p => p.1) _ fun _ _ _ _ => Iff.rfl]
  rw [enqueueRows, List.map_map]
  rfl

/-- A row of a page is a contact with its number. -/
theorem contact_of_enqueueRows {c : ContactId} {phone : String}
    (h : (c, phone) ∈ enqueueRows db campaignId) :
    ∃ contact, db.contact c = some contact ∧
      contact.normalizedPhoneNumber = phone := by
  obtain ⟨⟨c', contact⟩, hmem, heq⟩ := List.mem_map.mp h
  cases heq
  exact ⟨contact, AList.mem_lookup_iff.mpr (List.mem_filter.mp hmem).1, rfl⟩

theorem enqueueContact_passes {page rest : EnqueuePage}
    {suppressed : List String} {c : ContactId} {phone : String}
    (hrow : (c, phone) ∈ enqueueRows s.db campaignId)
    (hsup : phone ∈ suppressed ↔
      s.db.suppressions.isSuppressed env phone = true)
    (later : List ContactId) :
    s.Passes env campaignId jobId [c] later (.contacts page suppressed rest)
      (enqueueContact env campaignId s page suppressed c phone rest
        (jobId c)) := by
  obtain ⟨contact, hc, rfl⟩ := contact_of_enqueueRows hrow
  unfold enqueueContact
  by_cases hfull : maxEnqueuePerRequest ≤ s.counts.enqueued
  · rw [if_pos hfull]
    refine ⟨rfl, rfl, .inl ⟨⟨_, rfl⟩, ?_⟩⟩
    rw [EnqueueScan.room, Nat.sub_eq_zero_of_le hfull]
    rfl
  obtain ⟨n, hn⟩ : ∃ n, s.room = n + 1 :=
    ⟨maxEnqueuePerRequest - s.counts.enqueued - 1, by
      unfold EnqueueScan.room; omega⟩
  rw [if_neg hfull]
  by_cases hs : contact.normalizedPhoneNumber ∈ suppressed
  · rw [if_pos hs]
    refine ⟨rfl, rfl, .inr ⟨rfl, ?_⟩⟩
    rw [hn, List.singleton_append, enqueueScan_suppressed hc (hsup.mp hs), ← hn]
    rfl
  · rw [if_neg hs]
    have hfree := mt hsup.mpr hs
    generalize hanswer : s.redis.enqueueOnce env.settings.queueMaxBacklog
      (firstDialJob campaignId c (jobId c)) = answer
    obtain ⟨r, what⟩ := answer
    cases what with
    | queued =>
        refine ⟨rfl, rfl, .inr ⟨rfl, ?_⟩⟩
        have hroom : n = maxEnqueuePerRequest - (s.counts.enqueued + 1) := by
          unfold EnqueueScan.room at hn
          omega
        rw [hn, List.singleton_append, enqueueScan_queued hc hfree hanswer, hroom]
        rfl
    | guarded =>
        refine ⟨rfl, rfl, .inr ⟨rfl, ?_⟩⟩
        rw [hn, List.singleton_append, enqueueScan_guarded hc hfree hanswer, ← hn]
        rfl
    | backlogFull =>
        refine ⟨rfl, rfl, .inl ⟨⟨_, rfl⟩, ?_⟩⟩
        rw [hn, List.singleton_append, enqueueScan_full hc hfree hanswer]
        rfl

/-- The contacts of a page, one after the other. -/
theorem page_passes {page rest : EnqueuePage} {suppressed : List String}
    (hrest : ∀ p ∈ rest, p ∈ enqueueRows s.db campaignId)
    (hsup : ∀ p ∈ rest, p.2 ∈ suppressed ↔
      s.db.suppressions.isSuppressed env p.2 = true)
    (hphase : s.phase = .contacts page suppressed rest)
    (later : List ContactId) :
    ∃ t, Run (enqueueStep env size campaignId) (fun _ a => a.undisturbed = true)
        s t ∧
      s.Passes env campaignId jobId (rest.map (·.1)) later
        (.contacts page suppressed []) t := by
  induction rest generalizing s with
  | nil => exact ⟨s, .refl, rfl, rfl, .inr ⟨hphase, rfl⟩⟩
  | cons p rest ih =>
      obtain ⟨c, phone⟩ := p
      have hstep : enqueueStep env size campaignId s (.contact (jobId c))
          = some (enqueueContact env campaignId s page suppressed c phone rest
            (jobId c)) := by
        simp only [enqueueStep, hphase]
      have hfirst := @enqueueContact_passes env campaignId s jobId page rest
        suppressed c phone (hrest _ List.mem_cons_self)
        (hsup _ List.mem_cons_self) (rest.map (·.1) ++ later)
      generalize enqueueContact env campaignId s page suppressed c phone rest
        (jobId c) = t at hstep hfirst
      have hrun : Run (enqueueStep env size campaignId)
          (fun _ a => a.undisturbed = true) s t := .single rfl hstep
      obtain ⟨hdb, hcursor, hover | ⟨htphase, hscan⟩⟩ := hfirst
      · exact ⟨t, hrun, hdb, hcursor, .inl hover⟩
      · obtain ⟨u, hnext, hu⟩ := @ih t
          (fun p hp => hdb ▸ hrest p (List.mem_cons_of_mem _ hp))
          (fun p hp => hdb ▸ hsup p (List.mem_cons_of_mem _ hp)) htphase
        refine ⟨u, hrun.trans hnext, hu.db.trans hdb, hu.cursor.trans hcursor, ?_⟩
        have hend := hu.redis
        rw [hscan] at hend
        exact hend

/-- Page after page, until one is empty or the request is over. -/
theorem pages_pass (hphase : s.phase = .page) :
    ∃ t, Run (enqueueStep env size campaignId) (fun _ a => a.undisturbed = true)
        s t ∧ t.db = s.db ∧ (∃ result, t.phase = .finished result) ∧
      t.redis = enqueueScan env s.db campaignId jobId s.room
        ((keysetRows s.cursor (enqueueRows s.db campaignId)).map (·.1))
        s.redis := by
  generalize hn : (keysetRows s.cursor (enqueueRows s.db campaignId)).length = n
  induction n using Nat.strong_induction_on generalizing s with
  | _ n ih =>
  have hlimit := size.positive
  have hsplit : keysetRows s.cursor (enqueueRows s.db campaignId)
      = keysetPage s.cursor size.value (enqueueRows s.db campaignId)
        ++ (keysetRows s.cursor (enqueueRows s.db campaignId)).drop size.value :=
    (List.take_append_drop ..).symm
  have hread : eligibleEnqueuePage s.db campaignId s.cursor size.value
      = keysetPage s.cursor size.value (enqueueRows s.db campaignId) := rfl
  cases hpage : keysetPage s.cursor size.value (enqueueRows s.db campaignId) with
  | nil =>
      have hnone : keysetRows s.cursor (enqueueRows s.db campaignId) = [] :=
        (List.take_eq_nil_iff.mp hpage).resolve_left (by omega)
      have hstep : enqueueStep env size campaignId s .readPage
          = some (s.finish campaignId true false) := by
        simp only [enqueueStep, hphase, hread, hpage]
      refine ⟨_, .single rfl hstep, rfl, ⟨_, rfl⟩, ?_⟩
      rw [hnone, List.map_nil, enqueueScan]
      rfl
  | cons p ps =>
      have hmem : ∀ q ∈ p :: ps, q ∈ enqueueRows s.db campaignId :=
        fun q hq => (of_mem_keysetPage (hpage ▸ hq)).1
      have hsup : ∀ q ∈ p :: ps, q.2 ∈ s.db.suppressions.suppressedAmong env
          ((p :: ps).map (·.2)) ↔
            s.db.suppressions.isSuppressed env q.2 = true := by
        intro q hq
        rw [SuppressionTable.suppressedAmong, List.mem_filter]
        exact and_iff_right (List.mem_map_of_mem hq)
      have hfirst : enqueueStep env size campaignId s .readPage
          = some { s with phase := .suppressions (p :: ps) } := by
        simp only [enqueueStep, hphase, hread, hpage]
      have hfound : Run (enqueueStep env size campaignId)
          (fun _ a => a.undisturbed = true) s
          { s with phase := .suppressions (p :: ps) } := .single rfl hfirst
      have hsecond : Run (enqueueStep env size campaignId)
          (fun _ a => a.undisturbed = true) s (s.onPage env (p :: ps)) :=
        .step (a := EnqueueAct.readSuppressions) hfound rfl rfl
      obtain ⟨t, hrun, hdb, hcursor, ht⟩ := @page_passes env size campaignId
        (s.onPage env (p :: ps)) jobId (p :: ps) (p :: ps) _ hmem hsup rfl
        (((keysetRows s.cursor (enqueueRows s.db campaignId)).drop
          size.value).map (·.1))
      rw [hpage] at hsplit
      have hids : (keysetRows s.cursor (enqueueRows s.db campaignId)).map (·.1)
          = (p :: ps).map (·.1) ++ ((keysetRows s.cursor
            (enqueueRows s.db campaignId)).drop size.value).map (·.1) := by
        rw [← List.map_append, ← hsplit]
      rw [hids]
      rcases ht with ⟨hover, hredis⟩ | ⟨htphase, hscan⟩
      · exact ⟨t, hsecond.trans hrun, hdb, hover, hredis⟩
      · have hstep : enqueueStep env size campaignId t .endPage
            = some (t.nextPage (p :: ps)) := by
          simp only [enqueueStep, htphase]
        have hturn : Run (enqueueStep env size campaignId)
            (fun _ a => a.undisturbed = true) t (t.nextPage (p :: ps)) :=
          .single rfl hstep
        have hnext : keysetRows ((p :: ps).map (·.1)).getLast?
            (enqueueRows t.db campaignId)
              = (keysetRows s.cursor (enqueueRows s.db campaignId)).drop
                size.value := by
          rw [hdb, ← hpage]
          exact keysetRows_next (eligible_nodup s.db campaignId)
            (by rw [hpage]; exact List.cons_ne_nil _ _)
        have hshort := congrArg List.length hsplit
        rw [List.length_append, List.length_cons, hn] at hshort
        obtain ⟨u, hlast, hudb, hover, hredis⟩ := @ih _ (by omega)
          (t.nextPage (p :: ps)) rfl (congrArg List.length hnext)
        refine ⟨u, (hsecond.trans hrun).trans (hturn.trans hlast),
          hudb.trans hdb, hover, ?_⟩
        refine Eq.trans ?_ hscan
        rw [← hnext]
        exact hredis

/-- **The single pass is a run of the scan**: a request that nothing disturbs
and that does not fail leaves the queue as the pass over all candidates
does, whatever the size of its pages. -/
theorem enqueueCampaign_run {r r' : Redis} {gate : GateReads}
    (h : enqueueCampaign env db r campaignId jobId gate = .ok r') :
    ∃ t, Run (enqueueStep env size campaignId) (fun _ a => a.undisturbed = true)
        { db, redis := r } t ∧ t.db = db ∧ t.redis = r' ∧
      ∃ result, t.phase = .finished result := by
  have hopen : enqueueRefusal env db campaignId gate = none ∧
      r' = enqueueScan env db campaignId jobId maxEnqueuePerRequest
        (enqueueCandidates db campaignId) r := by
    unfold enqueueCampaign at h
    unfold enqueueRefusal
    cases hc : db.campaign campaignId with
    | none =>
        rw [hc] at h
        cases h
    | some campaign =>
        rw [hc] at h
        dsimp only at h ⊢
        by_cases hactive : campaign.status ≠ .active
        · rw [if_pos hactive] at h
          cases h
        · rw [if_neg hactive] at h ⊢
          cases hgate : killSwitchGate env.settings gate with
          | «open» =>
              rw [hgate] at h
              cases h
              exact ⟨rfl, rfl⟩
          | raised =>
              rw [hgate] at h
              cases h
          | blocked reason =>
              rw [hgate] at h
              cases reason <;> cases h
  obtain ⟨hfree, rfl⟩ := hopen
  have hstep : enqueueStep env size campaignId { db, redis := r } (.begin gate)
      = some { db, redis := r, phase := .page } := by
    simp only [enqueueStep, hfree]
  have hbegin : Run (enqueueStep env size campaignId)
      (fun _ a => a.undisturbed = true) { db, redis := r }
      { db, redis := r, phase := .page } := .single rfl hstep
  obtain ⟨t, hrun, hdb, hover, hredis⟩ := @pages_pass env size campaignId
    { db, redis := r, phase := .page } jobId rfl
  refine ⟨t, hbegin.trans hrun, hdb, ?_, hover⟩
  rw [hredis, enqueueCandidates_eq]
  rfl

/-- What is refused is refused alike. -/
theorem enqueueCampaign_refused {r : Redis} {gate : GateReads} {e : AppError} :
    enqueueCampaign env db r campaignId jobId gate = .error e ↔
      enqueueRefusal env db campaignId gate = some e := by
  unfold enqueueCampaign enqueueRefusal
  cases db.campaign campaignId with
  | none => simp
  | some campaign =>
      dsimp only
      by_cases hactive : campaign.status ≠ .active
      · rw [if_pos hactive, if_pos hactive]
        simp
      · rw [if_neg hactive, if_neg hactive]
        cases killSwitchGate env.settings gate with
        | «open» => simp
        | raised => simp
        | blocked reason => cases reason <;> simp

end

/-! ### Two requests for one campaign -/

/-- Pages of one contact. -/
def onePerPage : EnqueuePageSize := ⟨1, by decide, by decide⟩

/-- Contacts 1 and 2 are owed their first dial. -/
def twoOwed : EnqueueScan where
  db :=
    { campaigns := AList.insert 1 { status := .active } ∅
      contacts :=
        AList.insert 1 { campaignId := 1, normalizedPhoneNumber := "+911" }
          (AList.insert 2 { campaignId := 1, normalizedPhoneNumber := "+912" } ∅) }
  redis := {}

/-- The kill switch is off; nothing else is read. -/
def switchOff : GateReads where
  killSwitch := .value {}
  providerHalt := .unavailable
  budget := .unavailable

/-- The rows once a worker has dialed contact 1. -/
def oneDialed : Db :=
  twoOwed.db.modifyContact 1 fun c =>
    { c with status := .dialing, attemptCount := 1 }

/-- The queue with the job of contact 1. -/
def oneQueued : Redis := (({} : Redis).enqueueOnce 200000 (firstDialJob 1 1 11)).1

/-- A whole request, during which contact 1 is dialed. -/
def oneRequest : List EnqueueAct :=
  [.begin switchOff, .readPage, .readSuppressions, .contact 11, .endPage,
    .others oneDialed oneQueued, .readPage, .readSuppressions, .contact 12,
    .endPage, .readPage]

/-- The request again: contact 2 is guarded. -/
def twoRequests : List EnqueueAct :=
  oneRequest ++ [.again, .begin switchOff, .readPage, .readSuppressions,
    .contact 13, .endPage, .readPage]

end CallingAgent
