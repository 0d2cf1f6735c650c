import CallingAgent.Conversation.Orchestrator
import CallingAgent.Services.TranscriptFetch

/-!
# The transcript store — what a fetch leaves on the session

The lines of a transcript become messages of the session; a failed fetch is
recorded with its reason, and the URL is kept if a later try may help. The
step runs inside the webhook's transaction, so what it raises, or stores
that the database refuses, takes the outcome of the call with it.
-/

namespace CallingAgent

/-- What became of the transcript. -/
inductive TranscriptStatus where
  | ok
  | empty
  | unavailable
  deriving DecidableEq

structure TranscriptMessage where
  sequence : Nat
  role : ConversationRole
  content : CodePoints

/-- The transcript fields of a session, and its messages. -/
structure SessionTranscript where
  status : Option TranscriptStatus := none
  reason : Option TranscriptReason := none
  url : Option CodePoints := none
  messages : List TranscriptMessage := []

section

variable (w : FetchWorld) (st : FetchSettings)

/-- `role_for` -/
def roleFor (rawRole : CodePoints) : ConversationRole :=
  let text := w.lower rawRole
  if ["user", "customer", "caller", "human"].any
      (text.contains <| codePoints ·) then .contact
  else if ["assistant", "agent", "bot", "ai"].any
      (text.contains <| codePoints ·) then .agent
  else .system

/-- `str(value)` -/
def strOf : Decoded → Option CodePoints
  | .string s => some s
  | v => w.str v

/-- `line.get(a) or line.get(b) or … or ""` -/
def Decoded.firstOf (line : Decoded) (names : List String) : Decoded :=
  ((names.filterMap line.field).find? Decoded.truthy).getD
    (.string (codePoints ""))

def Decoded.role (line : Decoded) : Decoded := line.firstOf ["role", "speaker"]

def Decoded.content (line : Decoded) : Decoded :=
  line.firstOf ["content", "text", "message"]

/-- The loop over the lines, from number `i` on; `none` is the
`RecursionError` of `str`. -/
def lineMessages : (i : Nat) → List Decoded → Option (List TranscriptMessage)
  | _, [] => some []
  | i, line :: lines =>
      match strOf w line.role, strOf w line.content with
      | some role, some content =>
          (lineMessages (i + 1) lines).map fun messages =>
            if content.strip = codePoints "" then messages
            else ⟨i, roleFor w role, content.strip⟩ :: messages
      | _, _ => none

/-- `apply_transcript_result`, with the flush of the messages. -/
def applyTranscriptResult (result : TranscriptResult) (url : CodePoints) :
    Except TranscriptEscape SessionTranscript :=
  match result with
  | .unavailable reason =>
      .ok { status := some .unavailable
            reason := some reason
            url := if reason.retryable then some url else none }
  | .empty => .ok { status := some .empty }
  | .ok lines =>
      match lineMessages w 1 lines with
      | none => .error .recursion
      | some messages =>
          if messages.all (·.content.storable) then
            .ok { status := some .ok, messages }
          else .error .database

/-- `_populate_transcript`: the requests it sends, and what it leaves. -/
def populateTranscript (url : Option CodePoints) :
    List (FetchTarget w.Address) × Except TranscriptEscape SessionTranscript :=
  match url with
  | none => ([], .ok {})
  | some url =>
      if url = codePoints "" then ([], .ok {})
      else
        let r := fetchTranscript w st url
        (r.1, match r.2 with
          | .error e => .error e
          | .ok result => applyTranscriptResult w result url)

/-- The webhook's transaction commits with what the step has left: the URL
is flushed after it. -/
def SessionTranscript.commits (s : SessionTranscript) : Bool :=
  s.url.all CodePoints.storable

/-! ## What the step is for -/

/-- The transcript could be read: these are the items of its list. -/
def Readable (url : CodePoints) (items : List Decoded) : Prop :=
  ∃ t body, Targets w st url t ∧ RunGives w st (w.client t) body ∧
    w.loads body = some (.array items)

/-- The address is one the check allows for its host. -/
def FetchWorld.Allowed (t : FetchTarget w.Address) : Prop :=
  ∃ hosts, w.trustedHosts = some hosts ∧
    w.allowedIp t.ip (hosts.contains t.host) = true

/-- **The step fails no webhook.** It returns and what it leaves commits;
a transcript that could not be read is recorded as unavailable, and one
without lines as empty; and only allowed addresses are asked. -/
structure TranscriptHarmless (url : Option CodePoints) : Prop where
  commits : ∃ s, (populateTranscript w st url).2 = .ok s ∧ s.commits = true
  recorded : ∀ u s, url = some u → u ≠ codePoints "" →
    (populateTranscript w st url).2 = .ok s →
    (s.status = some .unavailable ↔ ¬ ∃ items, Readable w st u items) ∧
      (s.status = some .empty →
        ∃ items, Readable w st u items ∧ ∀ item ∈ items, ¬ item.isObject)
  requests : ∀ t ∈ (populateTranscript w st url).1, w.Allowed t

/-! ## What breaks it -/

/-- A line that cannot be stored. -/
inductive LineBreaks (line : Decoded) : Prop
  | role : strOf w line.role = none → LineBreaks line
  | content : strOf w line.content = none → LineBreaks line
  | text (content : CodePoints) :
      strOf w line.content = some content →
      content.strip.storable = false → LineBreaks line

/-- The kinds of failures that are exceptions, or break the transaction. -/
inductive TranscriptBreaks (url : CodePoints) : Prop
  /-- the configured URL cannot be split -/
  | hosts : (checkParts w st url).isSome → w.trustedHosts = none →
      TranscriptBreaks url
  /-- the resolver raises a `UnicodeError` -/
  | resolver (q : HostQuery) :
      checkUrl w st url = .ok (some q) →
      w.getaddrinfo q.host q.port = .error .unicode → TranscriptBreaks url
  | client (t : FetchTarget w.Address) :
      Targets w st url t → RunEscapes w st (w.client t) → TranscriptBreaks url
  | line (items : List Decoded) (line : Decoded) :
      Readable w st url items →
      line ∈ (items.filter Decoded.isObject).take st.maxLines →
      LineBreaks w line → TranscriptBreaks url
  /-- the URL of a failure that may pass is kept and cannot be stored -/
  | url (t : FetchTarget w.Address) :
      Targets w st url t → RunLost w st (w.client t) →
      url.storable = false → TranscriptBreaks url

end

/-! ## The lines -/

section

variable {w : FetchWorld} {st : FetchSettings} {url : CodePoints}
  {t : FetchTarget w.Address} {s : SessionTranscript}

theorem lineMessages_storable_iff (i : Nat) (lines : List Decoded) :
    (∃ messages, lineMessages w i lines = some messages ∧
        messages.all (·.content.storable) = true) ↔
      ∀ line ∈ lines, ¬ LineBreaks w line := by
  induction lines generalizing i with
  | nil =>
      refine iff_of_true ⟨[], rfl, rfl⟩ fun line h => ?_
      cases h
  | cons line lines ih =>
      rw [List.forall_mem_cons, ← ih (i + 1)]
      cases hrole : strOf w line.role with
      | none =>
          refine iff_of_false ?_ fun h => h.1 (.role hrole)
          rintro ⟨messages, h, -⟩
          simp only [lineMessages, hrole] at h
          cases h
      | some role =>
          cases hcontent : strOf w line.content with
          | none =>
              refine iff_of_false ?_ fun h => h.1 (.content hcontent)
              rintro ⟨messages, h, -⟩
              simp only [lineMessages, hrole, hcontent] at h
              cases h
          | some content =>
              have hline : ¬ LineBreaks w line ↔ content.strip.storable = true := by
                constructor
                · intro h
                  by_contra hbad
                  exact h (.text content hcontent (by simpa using hbad))
                · rintro hgood (h | h | ⟨c, hc, hbad⟩)
                  · rw [hrole] at h; cases h
                  · rw [hcontent] at h; cases h
                  · obtain rfl := Option.some.inj (hcontent.symm.trans hc)
                    rw [hgood] at hbad
                    cases hbad
              rw [hline]
              simp only [lineMessages, hrole, hcontent, Option.map_eq_some_iff]
              constructor
              · rintro ⟨_, ⟨messages, hrest, rfl⟩, hall⟩
                split at hall
                · next hempty =>
                  exact ⟨by rw [hempty]; rfl, messages, hrest, hall⟩
                · rw [List.all_cons, Bool.and_eq_true] at hall
                  exact ⟨hall.1, messages, hrest, hall.2⟩
              · rintro ⟨hgood, messages, hrest, hall⟩
                refine ⟨_, ⟨messages, hrest, rfl⟩, ?_⟩
                split
                · exact hall
                · rw [List.all_cons, Bool.and_eq_true]
                  exact ⟨hgood, hall⟩

/-- Lines are stored exactly when none of them breaks. -/
theorem applyTranscriptResult_ok_iff (lines : List Decoded) :
    (∃ s, applyTranscriptResult w (.ok lines) url = .ok s ∧
        s.commits = true) ↔
      ∀ line ∈ lines, ¬ LineBreaks w line := by
  rw [← lineMessages_storable_iff 1 lines]
  simp only [applyTranscriptResult]
  cases hm : lineMessages w 1 lines with
  | none => simp
  | some messages =>
      cases hall : messages.all (·.content.storable) with
      | true => simp only [hall, if_true, Except.ok.injEq, exists_eq_left',
          SessionTranscript.commits, Option.all_none, Option.some.injEq]
      | false =>
          refine iff_of_false ?_ ?_
          · rintro ⟨s, hs, -⟩
            simp only [hall] at hs
            cases hs
          · rintro ⟨_, hs, hgood⟩
            obtain rfl := Option.some.inj hs
            rw [hall] at hgood
            cases hgood

theorem applyTranscriptResult_status {result : TranscriptResult}
    (h : applyTranscriptResult w result url = .ok s) :
    s.status = some (match result with
      | .ok _ => .ok
      | .empty => .empty
      | .unavailable _ => .unavailable) := by
  cases result with
  | ok lines =>
      simp only [applyTranscriptResult] at h
      split at h
      · cases h
      · split at h
        · cases h; rfl
        · cases h
  | empty => cases h; rfl
  | unavailable reason => cases h; rfl

/-! ## The step -/

/-- What a result says of the transcripts that can be read. -/
def TranscriptResult.Tells (st : FetchSettings) (read : List Decoded → Prop) :
    TranscriptResult → Prop
  | .ok lines => ∃ items, read items ∧
      lines = (items.filter Decoded.isObject).take st.maxLines
  | .empty => ∃ items, read items ∧ ∀ item ∈ items, ¬ item.isObject
  | .unavailable _ => ¬ ∃ items, read items

theorem Targets.unique {t' : FetchTarget w.Address} (h : Targets w st url t)
    (h' : Targets w st url t') : t = t' := by
  have heq := (resolveTarget_some_iff.mpr h).symm.trans
    (resolveTarget_some_iff.mpr h')
  exact Option.some.inj (Except.ok.inj heq)

/-- Only an allowed address is asked. -/
theorem Targets.allowed (h : Targets w st url t) : w.Allowed t := by
  obtain ⟨q, ip, ips, hq, -, hall, rfl⟩ := h
  unfold checkUrl at hq
  split at hq
  · cases hq
  split at hq
  · cases hq
  next hosts hhosts =>
  obtain ⟨port, -, rfl⟩ := Option.map_eq_some_iff.mp (Except.ok.inj hq)
  exact ⟨hosts, hhosts, hall ip List.mem_cons_self⟩

/-- A transcript is readable where its body is read as a list. -/
theorem readable_iff {items : List Decoded} (h : Targets w st url t) :
    Readable w st url items ↔
      ∃ body, fetchBody w st t = .ok body ∧ w.loads body = some (.array items) := by
  constructor
  · rintro ⟨t', body, ht', hgives, hloads⟩
    obtain rfl := h.unique ht'
    exact ⟨body, fetchBody_ok_iff.mpr hgives, hloads⟩
  · rintro ⟨body, hbody, hloads⟩
    exact ⟨t, body, h, fetchBody_ok_iff.mp hbody, hloads⟩

/-- What a body is taken for. -/
theorem readTranscript_tells (body : List UInt8) :
    (readTranscript w st body).Tells st
      fun items => w.loads body = some (.array items) := by
  unfold readTranscript
  cases hloads : w.loads body with
  | none => simp [TranscriptResult.Tells]
  | some v =>
      cases v with
      | array items =>
          dsimp only
          cases hlines : (items.filter Decoded.isObject).take st.maxLines with
          | nil =>
              refine ⟨items, rfl, fun item hmem hobject => ?_⟩
              have hfilter : item ∈ items.filter Decoded.isObject :=
                List.mem_filter.mpr ⟨hmem, hobject⟩
              rcases List.take_eq_nil_iff.mp hlines with hzero | hnone
              · exact absurd hzero (Nat.ne_of_gt st.maxLines_pos)
              · rw [hnone] at hfilter
                cases hfilter
          | cons line lines => exact ⟨items, rfl, hlines.symm⟩
      | _ => simp [TranscriptResult.Tells]

/-- **What a fetch answers, and which transcripts it means.** -/
theorem fetchTranscript_tells {result : TranscriptResult}
    (h : (fetchTranscript w st url).2 = .ok result) :
    result.Tells st (Readable w st url) := by
  unfold fetchTranscript at h
  split at h
  · cases h
  · next hnone =>
    cases h
    rintro ⟨items, t, body, ht, -⟩
    rw [resolveTarget_some_iff.mpr ht] at hnone
    cases hnone
  next t ht =>
  have htarget := resolveTarget_some_iff.mp ht
  have hnot : ∀ e, fetchBody w st t = .error e →
      ¬ ∃ items, Readable w st url items := by
    rintro e he ⟨items, hitems⟩
    obtain ⟨body, hbody, -⟩ := (readable_iff htarget).mp hitems
    rw [he] at hbody
    cases hbody
  dsimp only at h
  split at h
  · next he => cases h; exact hnot _ he
  · next he => cases h; exact hnot _ he
  · cases h
  · cases h
  next body hbody =>
  obtain rfl := Except.ok.inj h
  have hread : Readable w st url = fun items =>
      w.loads body = some (.array items) := by
    funext items
    refine propext ((readable_iff htarget).trans ⟨?_, fun h => ⟨body, hbody, h⟩⟩)
    rintro ⟨body', hbody', hloads⟩
    obtain rfl := Except.ok.inj (hbody.symm.trans hbody')
    exact hloads
  rw [hread]
  exact readTranscript_tells body

/-- The requests of a fetch are those of its target. -/
theorem fetchTranscript_requests :
    ∀ t ∈ (fetchTranscript w st url).1, Targets w st url t := by
  intro t ht
  unfold fetchTranscript at ht
  split at ht
  · cases ht
  · cases ht
  · next t' ht' =>
    obtain rfl := List.mem_singleton.mp ht
    exact resolveTarget_some_iff.mp ht'

/-- A fetch raises in three ways. -/
theorem fetchTranscript_error_iff :
    (∃ e, (fetchTranscript w st url).2 = .error e) ↔
      ((checkParts w st url).isSome ∧ w.trustedHosts = none) ∨
        (∃ q, checkUrl w st url = .ok (some q) ∧
          w.getaddrinfo q.host q.port = .error .unicode) ∨
        ∃ t, Targets w st url t ∧ RunEscapes w st (w.client t) := by
  rw [← or_assoc, ← resolveTarget_error_iff]
  unfold fetchTranscript
  cases ht : resolveTarget w st url with
  | error e => simp
  | ok target =>
      cases target with
      | none =>
          refine iff_of_false (by simp) ?_
          rintro (⟨e, he⟩ | ⟨t, htarget, -⟩)
          · cases he
          · rw [resolveTarget_some_iff.mpr htarget] at ht
            cases ht
      | some t =>
          have htarget := resolveTarget_some_iff.mp ht
          have hrun : (∃ t', Targets w st url t' ∧ RunEscapes w st (w.client t'))
              ↔ RunEscapes w st (w.client t) :=
            ⟨fun ⟨t', ht', h⟩ => htarget.unique ht' ▸ h, fun h => ⟨t, htarget, h⟩⟩
          rw [hrun, ← fetchBody_escapes_iff]
          dsimp only
          cases fetchBody w st t with
          | ok body => simp
          | error e =>
              cases e with
              | rejected reason => simp
              | client e => cases e <;> simp
              | value => simp

/-- The URL is kept for requests that fail in a way that may pass. -/
theorem fetchTranscript_lost_iff :
    (∃ reason, (fetchTranscript w st url).2 = .ok (.unavailable reason) ∧
        reason.retryable = true) ↔
      ∃ t, Targets w st url t ∧ RunLost w st (w.client t) := by
  unfold fetchTranscript
  cases ht : resolveTarget w st url with
  | error e =>
      refine iff_of_false (by simp) ?_
      rintro ⟨t, htarget, -⟩
      rw [resolveTarget_some_iff.mpr htarget] at ht
      cases ht
  | ok target =>
      cases target with
      | none =>
          refine iff_of_false ?_ ?_
          · rintro ⟨reason, h, hretry⟩
            cases h
            cases hretry
          · rintro ⟨t, htarget, -⟩
            rw [resolveTarget_some_iff.mpr htarget] at ht
            cases ht
      | some t =>
          have htarget := resolveTarget_some_iff.mp ht
          have hrun : (∃ t', Targets w st url t' ∧ RunLost w st (w.client t'))
              ↔ RunLost w st (w.client t) :=
            ⟨fun ⟨t', ht', h⟩ => htarget.unique ht' ▸ h, fun h => ⟨t, htarget, h⟩⟩
          rw [hrun, ← fetchBody_lost_iff]
          dsimp only
          cases fetchBody w st t with
          | ok body =>
              -- no reason a body is given for may pass
              have hread : ∀ reason, readTranscript w st body
                  = .unavailable reason → reason.retryable = false := by
                intro reason h
                unfold readTranscript at h
                split at h
                · cases h; rfl
                · split at h <;> cases h
                · cases h; rfl
              refine iff_of_false ?_ (by simp)
              rintro ⟨reason, h, hretry⟩
              rw [hread reason (Except.ok.inj h)] at hretry
              cases hretry
          | error e =>
              cases e with
              | rejected reason => simp
              | client e => cases e <;> simp [TranscriptReason.retryable]
              | value => simp

theorem Readable.unique {items items' : List Decoded}
    (h : Readable w st url items) (h' : Readable w st url items') :
    items = items' := by
  obtain ⟨t, body, ht, hgives, hloads⟩ := h
  obtain ⟨t', body', ht', hgives', hloads'⟩ := h'
  obtain rfl := ht.unique ht'
  obtain rfl := Except.ok.inj
    ((fetchBody_ok_iff.mpr hgives).symm.trans (fetchBody_ok_iff.mpr hgives'))
  exact Decoded.array.inj (Option.some.inj (hloads.symm.trans hloads'))

/-- What a result leaves commits unless a line breaks, or the URL that is
kept does. -/
theorem applyTranscriptResult_commits {result : TranscriptResult}
    (h : (fetchTranscript w st url).2 = .ok result) :
    (∃ s, applyTranscriptResult w result url = .ok s ∧ s.commits = true) ↔
      ¬ TranscriptBreaks w st url := by
  have hraise : ¬ ∃ e, (fetchTranscript w st url).2 = .error e := by
    rintro ⟨e, he⟩
    rw [h] at he
    cases he
  rw [fetchTranscript_error_iff] at hraise
  have htells := fetchTranscript_tells h
  -- what is left are the lines and the URL
  have hbreaks : TranscriptBreaks w st url ↔
      (∃ items line, Readable w st url items ∧
        line ∈ (items.filter Decoded.isObject).take st.maxLines ∧
        LineBreaks w line) ∨
      (∃ reason, result = .unavailable reason ∧ reason.retryable = true) ∧
        url.storable = false := by
    have hlost : (∃ reason, result = .unavailable reason ∧
        reason.retryable = true) ↔
        ∃ t, Targets w st url t ∧ RunLost w st (w.client t) := by
      rw [← fetchTranscript_lost_iff, h]
      simp
    rw [hlost]
    constructor
    · intro hb
      cases hb with
      | hosts hparts hhosts => exact absurd (.inl ⟨hparts, hhosts⟩) hraise
      | resolver q hq hres => exact absurd (.inr (.inl ⟨q, hq, hres⟩)) hraise
      | client t ht hrun => exact absurd (.inr (.inr ⟨t, ht, hrun⟩)) hraise
      | line items line hitems hmem hline =>
          exact .inl ⟨items, line, hitems, hmem, hline⟩
      | url t ht hrun hstore => exact .inr ⟨⟨t, ht, hrun⟩, hstore⟩
    · rintro (⟨items, line, hitems, hmem, hline⟩ | ⟨⟨t, ht, hrun⟩, hstore⟩)
      · exact .line items line hitems hmem hline
      · exact .url t ht hrun hstore
  rw [hbreaks]
  cases result with
  | ok lines =>
      obtain ⟨items, hitems, rfl⟩ := htells
      rw [applyTranscriptResult_ok_iff]
      constructor
      · rintro hall (⟨items', line, hitems', hmem, hline⟩ | ⟨⟨_, hr, -⟩, -⟩)
        · obtain rfl := hitems.unique hitems'
          exact hall line hmem hline
        · cases hr
      · intro hnot line hmem hline
        exact hnot (.inl ⟨items, line, hitems, hmem, hline⟩)
  | empty =>
      obtain ⟨items, hitems, hnone⟩ := htells
      refine iff_of_true ⟨_, rfl, rfl⟩ ?_
      rintro (⟨items', line, hitems', hmem, -⟩ | ⟨⟨_, hr, -⟩, -⟩)
      · obtain rfl := hitems.unique hitems'
        obtain ⟨hmem, hobject⟩ := List.mem_filter.mp (List.mem_of_mem_take hmem)
        exact hnone line hmem hobject
      · cases hr
  | unavailable reason =>
      have hno : ¬ ∃ items line, Readable w st url items ∧
          line ∈ (items.filter Decoded.isObject).take st.maxLines ∧
          LineBreaks w line := by
        rintro ⟨items, _, hitems, -⟩
        exact htells ⟨items, hitems⟩
      simp only [hno, false_or, TranscriptResult.unavailable.injEq,
        exists_eq_left', applyTranscriptResult, Except.ok.injEq,
        SessionTranscript.commits]
      cases reason.retryable <;> simp

end

/-! ## When the step is harmless -/

/-- **The transcript step fails no webhook**, unless the fetch or the store
meets one of the failures that are not caught: what it records is right and
only allowed addresses are asked in any case. -/
theorem transcript_harmless_iff (w : FetchWorld) (st : FetchSettings)
    (url : Option CodePoints) :
    TranscriptHarmless w st url ↔
      ∀ u, url = some u → u ≠ codePoints "" → ¬ TranscriptBreaks w st u := by
  cases url with
  | none =>
      refine iff_of_true ⟨⟨_, rfl, rfl⟩, ?_, ?_⟩ ?_
      · rintro u s h
        cases h
      · intro t ht
        cases ht
      · intro u h
        cases h
  | some u =>
      by_cases hu : u = codePoints ""
      · have hpop : populateTranscript w st (some u) = ([], .ok {}) := by
          simp only [populateTranscript, if_pos hu]
        refine iff_of_true ⟨⟨{}, by rw [hpop], rfl⟩, ?_, ?_⟩ ?_
        · rintro u' s h hne
          obtain rfl := Option.some.inj h
          exact absurd hu hne
        · intro t ht
          rw [hpop] at ht
          cases ht
        · intro u' h hne
          obtain rfl := Option.some.inj h
          exact absurd hu hne
      · have hpop : populateTranscript w st (some u)
            = ((fetchTranscript w st u).1,
              match (fetchTranscript w st u).2 with
              | .error e => .error e
              | .ok result => applyTranscriptResult w result u) := by
          simp only [populateTranscript, if_neg hu]
        have hcommits : (∃ s, (populateTranscript w st (some u)).2 = .ok s ∧
            s.commits = true) ↔ ¬ TranscriptBreaks w st u := by
          rw [hpop]
          cases hfetch : (fetchTranscript w st u).2 with
          | ok result => exact applyTranscriptResult_commits hfetch
          | error e =>
              refine iff_of_false ?_ (not_not.mpr ?_)
              · rintro ⟨s, h, -⟩
                cases h
              · rcases fetchTranscript_error_iff.mp ⟨e, hfetch⟩ with
                  ⟨hparts, hhosts⟩ | ⟨q, hq, hres⟩ | ⟨t, ht, hrun⟩
                · exact .hosts hparts hhosts
                · exact .resolver q hq hres
                · exact .client t ht hrun
        constructor
        · intro h u' hu' _
          obtain rfl := Option.some.inj hu'
          exact hcommits.mp h.commits
        · intro h
          refine ⟨hcommits.mpr (h u rfl hu), ?_, ?_⟩
          · intro u' s hu' _ hs
            obtain rfl := Option.some.inj hu'
            rw [hpop] at hs
            dsimp only at hs
            split at hs
            · cases hs
            next result hresult =>
            have htells := fetchTranscript_tells hresult
            rw [applyTranscriptResult_status hs]
            cases result with
            | ok lines =>
                obtain ⟨items, hitems, -⟩ := htells
                refine ⟨iff_of_false (by simp) ?_, fun h => (by cases h)⟩
                exact not_not.mpr ⟨items, hitems⟩
            | empty =>
                obtain ⟨items, hitems, hnone⟩ := htells
                refine ⟨iff_of_false (by simp) ?_, fun _ => ⟨items, hitems, hnone⟩⟩
                exact not_not.mpr ⟨items, hitems⟩
            | unavailable reason =>
                exact ⟨iff_of_true rfl htells, fun h => (by cases h)⟩
          · intro t ht
            rw [hpop] at ht
            exact (fetchTranscript_requests t ht).allowed

/-! ### A host with an empty label -/

/-- `https://a..b/t` -/
def dottedUrl : CodePoints := codePoints "https://a..b/t"

/-- The resolver on that host: the `idna` codec refuses an empty label. -/
def dottedWorld : FetchWorld where
  urlsplit url :=
    if url = dottedUrl then
      some { scheme := .https, host := some (codePoints "a..b"), port := none,
             credentials := false, path := codePoints "/t",
             query := codePoints "" }
    else none
  trustedHosts := some [codePoints "localhost"]
  Address := Nat
  ipv4Mapped _ := none
  isLoopback ip := ip / 16777216 == 127
  isLinkLocal ip := ip / 65536 == 43518
  isUnspecified ip := ip == 0
  isMulticast ip := ip / 268435456 == 14
  isReserved ip := ip / 268435456 == 15
  isGlobal ip := !(ip / 16777216 == 10)
  getaddrinfo host _ :=
    if host = codePoints "a..b" then .error .unicode else .error .os
  client _ := .raises .expected
  lower s := s
  isDigit _ := false
  intOfText _ := none
  str _ := none
  loads _ := none

/-- The `UnicodeError` leaves the step, and the outcome of the call is not
committed. -/
theorem dottedHost_escapes :
    (populateTranscript dottedWorld {} (some dottedUrl)).2 = .error .unicode ∧
      ¬ TranscriptHarmless dottedWorld {} (some dottedUrl) := by
  have hraised : (populateTranscript dottedWorld {} (some dottedUrl)).2
      = .error .unicode := by
    rfl
  refine ⟨hraised, fun h => ?_⟩
  obtain ⟨s, hs, -⟩ := h.commits
  rw [hraised] at hs
  cases hs

end CallingAgent
