import CallingAgent.Analysis.Worker
import CallingAgent.Conversation.Orchestrator
import CallingAgent.Lib.Excerpt
import CallingAgent.Lib.Words
import Mathlib.Data.List.Sort

/-!
# The prepared transcript — what the model reads of a call

The messages of the session become lines in the order of their sequence
numbers. Each message is bounded, then the number of lines, then their
characters; of a long call the opening and the ending are kept.
-/

namespace CallingAgent

open Lib

/-! ## The settings -/

structure TranscriptSettings where
  analysisMaxMessageChars : Int := 2000
  analysisMaxTranscriptMessages : Int := 200
  analysisMaxTranscriptChars : Int := 60000

/-- The bounds that are checked when the settings are read. -/
def TranscriptSettings.problems (s : TranscriptSettings) : List String :=
  [("ANALYSIS_MAX_MESSAGE_CHARS", s.analysisMaxMessageChars),
    ("ANALYSIS_MAX_TRANSCRIPT_CHARS", s.analysisMaxTranscriptChars)].filterMap
    fun (name, value) =>
      if value ≤ 0 then some (name ++ " must be > 0") else none

def TranscriptSettings.accepted (s : TranscriptSettings) : Prop :=
  s.problems = []

theorem TranscriptSettings.accepted_iff {s : TranscriptSettings} :
    s.accepted ↔
      0 < s.analysisMaxMessageChars ∧ 0 < s.analysisMaxTranscriptChars := by
  have hnone : ∀ (value : Int) (text : String),
      (if value ≤ 0 then some text else none) = none ↔ 0 < value := by
    intro value text
    by_cases h : value ≤ 0
    · simp only [h, if_true, reduceCtorEq, false_iff, not_lt]
    · simp only [h, if_false, true_iff]
      omega
  simp only [accepted, problems, List.filterMap_eq_nil_iff, List.forall_mem_cons,
    hnone]
  simp

/-! ## Preparing -/

def ConversationRole.value : ConversationRole → String
  | .agent => "agent"
  | .contact => "contact"
  | .system => "system"

/-- A row of `conversation_message` as the preparation reads it. -/
structure MessageRow where
  sessionId : Nat
  sequence : Int
  role : ConversationRole
  content : String

/-- A row of `conversation_session` as the preparation reads it. -/
structure SessionRow where
  id : Nat
  startedAt : Instant
  endedAt : Option Instant := none

structure PreparedTranscript where
  lines : List String
  messageCount : Nat
  /-- In microseconds. -/
  durationSeconds : Option Int
  truncated : Bool

/-- The messages of the session, in the order of their sequence numbers. -/
def sessionMessages (db : List MessageRow) (session : SessionRow) :
    List MessageRow :=
  (db.filter (·.sessionId == session.id)).insertionSort
    fun a b => a.sequence ≤ b.sequence

/-- `" ".join(content.split())` -/
def collapsed (content : String) : String :=
  String.ofList ([' '].intercalate (words isSpace content.toList))

/-- The body of the loop over the messages. -/
def appendMessage (maxMessageChars : Int) (acc : List String × Bool)
    (row : MessageRow) : List String × Bool :=
  let content := collapsed row.content
  if content = "" then acc
  else
    let long := decide (maxMessageChars < content.length)
    let content :=
      if long then String.ofList (sliceTo content.toList maxMessageChars)
      else content
    (acc.1 ++ [row.role.value ++ ": " ++ content], acc.2 || long)

/-- The bound on the number of lines. -/
def boundMessages (maxMessages : Int) (acc : List String × Bool) :
    List String × Bool :=
  if maxMessages < acc.1.length then
    let head := maxMessages / 3
    let tail := maxMessages - head
    (sliceTo acc.1 head ++ sliceFrom acc.1 (-tail), true)
  else acc

/-- `_fit_chars` -/
def fitChars (lines : List String) (budget : Int) : List String :=
  let headBudget := budget / 3
  fittingEnds String.length headBudget (budget - headBudget) lines

/-- The bound on the number of characters. -/
def boundChars (maxChars : Int) (acc : List String × Bool) :
    List String × Bool :=
  if maxChars < totalSize String.length acc.1 then
    (fitChars acc.1 maxChars, true)
  else acc

def prepareTranscript (s : TranscriptSettings) (db : List MessageRow)
    (session : SessionRow) : PreparedTranscript :=
  let rows := sessionMessages db session
  let acc := rows.foldl (appendMessage s.analysisMaxMessageChars) ([], false)
  let acc := boundMessages s.analysisMaxTranscriptMessages acc
  let acc := boundChars s.analysisMaxTranscriptChars acc
  { lines := acc.1
    messageCount := rows.length
    durationSeconds := session.endedAt.map (· - session.startedAt)
    truncated := acc.2 }

/-- `_load_input` settles the analysis as one of an empty conversation. -/
def PreparedTranscript.skippedEmpty (t : PreparedTranscript) : Bool :=
  t.lines.isEmpty

/-! ## What a prepared transcript is for -/

/-- Something was said, or at least transcribed. -/
def MessageRow.spoken (row : MessageRow) : Bool :=
  row.content.toList.any fun c => !isSpace c

/-- The message is longer than a message may be. -/
def MessageRow.cut (maxMessageChars : Int) (row : MessageRow) : Bool :=
  decide (maxMessageChars < (collapsed row.content).length)

/-- The line of a message, cleaned and bounded. -/
def MessageRow.line (maxMessageChars : Int) (row : MessageRow) : String :=
  row.role.value ++ ": " ++
    String.ofList ((collapsed row.content).toList.take maxMessageChars.toNat)

/-- One line for each message that is not blank. -/
def messageLines (maxMessageChars : Int) (rows : List MessageRow) :
    List String :=
  (rows.filter MessageRow.spoken).map (MessageRow.line maxMessageChars)

/-- The transcript is an excerpt of the lines within both bounds, says
whether anything is missing, and is not empty if anything was said. -/
structure PreparedTranscript.FaithfulTo (t : PreparedTranscript)
    (s : TranscriptSettings) (rows : List MessageRow) : Prop where
  selection : t.lines.Sublist (messageLines s.analysisMaxMessageChars rows)
  fewLines : t.lines.length ≤ s.analysisMaxTranscriptMessages
  fewChars : totalSize String.length t.lines ≤ s.analysisMaxTranscriptChars
  flagged : t.truncated = true ↔
    t.lines ≠ messageLines s.analysisMaxMessageChars rows ∨
      ∃ row ∈ rows, row.cut s.analysisMaxMessageChars = true
  kept : (∃ row ∈ rows, row.spoken = true) → t.skippedEmpty = false

/-- The first line that the bound on their number leaves: below three, no
line is taken from the opening. -/
def openingLine (maxMessages : Int) (lines : List String) : Option String :=
  if maxMessages < 3 then
    (lines.drop (lines.length - maxMessages.toNat)).head?
  else lines.head?

/-- There is room for a line: the last one fits two thirds of the budget,
the opening one a third, or there is one line only and it fits. -/
def RoomForALine (maxMessages maxChars : Int) (lines : List String) : Prop :=
  (∃ l ∈ lines.getLast?, l.length ≤ maxChars - maxChars / 3) ∨
    (∃ l ∈ openingLine maxMessages lines, l.length ≤ maxChars / 3) ∨
    ((maxMessages = 1 ∨ lines.length = 1) ∧
      ∃ l ∈ lines.getLast?, (l.length : Int) ≤ maxChars)

/-! ## The loop over the messages -/

section

variable {m : Int} {rows : List MessageRow} {acc : List String × Bool}

theorem collapsed_eq_empty {content : String} :
    collapsed content = "" ↔ (content.toList.any fun c => !isSpace c) = false := by
  have hempty : collapsed content = "" ↔ words isSpace content.toList = [] := by
    rw [collapsed, String.ofList_eq_empty_iff]
    cases hw : words isSpace content.toList with
    | nil => simp
    | cons w ws =>
        have hne := (of_mem_words (hw ▸ List.mem_cons_self)).1
        cases ws <;> simp [List.intercalate, hne]
  rw [hempty, words_eq_nil_iff]
  simp

theorem appendMessage_eq (h : 0 < m) (row : MessageRow) :
    appendMessage m acc row =
      (acc.1 ++ messageLines m [row], acc.2 || row.cut m) := by
  cases hs : row.spoken with
  | false =>
      have hblank := collapsed_eq_empty.mpr hs
      have hcut : row.cut m = false := by
        rw [MessageRow.cut, hblank]
        exact decide_eq_false (by simp; omega)
      simp [appendMessage, hblank, messageLines, hs, hcut]
  | true =>
      have hne : collapsed row.content ≠ "" := by
        intro hblank
        have hno := collapsed_eq_empty.mp hblank
        rw [← MessageRow.spoken, hs] at hno
        cases hno
      have hlines : messageLines m [row] = [row.line m] := by
        simp [messageLines, hs]
      rw [appendMessage, if_neg hne, hlines, MessageRow.cut, MessageRow.line]
      by_cases hlong : m < (collapsed row.content).length
      · simp [hlong, sliceTo, h.le]
      · have hall : (collapsed row.content).toList.take m.toNat =
            (collapsed row.content).toList :=
          List.take_of_length_le (by rw [String.length_toList]; omega)
        simp [hlong, hall]

theorem messageLines_eq_nil :
    messageLines m rows = [] ↔ ¬∃ row ∈ rows, row.spoken = true := by
  simp [messageLines, List.filter_eq_nil_iff]

/-- **The loop** leaves one line for each message that is not blank. -/
theorem foldl_appendMessage (h : 0 < m) :
    rows.foldl (appendMessage m) acc =
      (acc.1 ++ messageLines m rows, acc.2 || rows.any (MessageRow.cut m)) := by
  induction rows generalizing acc with
  | nil => simp [messageLines]
  | cons row rows ih =>
      have hcons : messageLines m (row :: rows) =
          messageLines m [row] ++ messageLines m rows := by
        simp only [messageLines, ← List.map_append, ← List.filter_append]
        rfl
      rw [List.foldl_cons, ih, appendMessage_eq h, hcons, List.any_cons,
        List.append_assoc, Bool.or_assoc]

end

/-! ## The bound on the number of lines -/

section

variable {m : Int} {lines : List String} {cut : Bool}

/-- **What the bound on lines keeps**: both ends, as many lines as it
allows. -/
theorem boundMessages_spec (hm : 0 ≤ m) (hne : lines ≠ [] → m ≠ 0) :
    ∃ kept, boundMessages m (lines, cut) =
        (kept, cut || decide (m < lines.length)) ∧
      kept.Sublist lines ∧
      (kept.length : Int) = (if m < lines.length then m else lines.length) ∧
      kept.head? = openingLine m lines ∧ kept.getLast? = lines.getLast? := by
  by_cases hlong : m < lines.length
  · obtain ⟨n, rfl⟩ := Int.eq_ofNat_of_zero_le hm
    have hlen : n < lines.length := by omega
    have hpos := hne (List.ne_nil_of_length_pos (by omega))
    have hhead : (n : Int) / 3 = ((n / 3 : Nat) : Int) := by omega
    have htail : -((n : Int) - ((n / 3 : Nat) : Int)) =
        -((n - n / 3 : Nat) : Int) := by omega
    refine ⟨lines.take (n / 3) ++ lines.drop (lines.length - (n - n / 3)),
      ?_, ?_, ?_, ?_, ?_⟩
    · simp only [boundMessages, if_pos hlong, decide_eq_true hlong,
        Bool.or_true]
      rw [hhead, sliceTo_nat, htail, sliceFrom_neg (by omega)]
    · exact take_append_drop_sublist (by omega) lines
    · rw [if_pos hlong, List.length_append, List.length_take, List.length_drop]
      omega
    · rw [openingLine, List.head?_append, List.head?_take]
      by_cases hthree : (n : Int) < 3
      · have hzero : n / 3 = 0 := by omega
        simp [hthree, hzero]
      · have hthird : n / 3 ≠ 0 := by omega
        obtain ⟨l, ls, rfl⟩ : ∃ l ls, lines = l :: ls :=
          List.exists_cons_of_length_pos (by omega)
        simp [hthree, hthird]
    · rw [List.getLast?_append, List.getLast?_drop, if_neg (by omega),
        List.getLast?_eq_some_getLast (List.ne_nil_of_length_pos (by omega))]
      rfl
  · refine ⟨lines, ?_, List.Sublist.refl _, ?_, ?_, rfl⟩
    · simp [boundMessages, hlong]
    · rw [if_neg hlong]
    · have hzero : lines.length - m.toNat = 0 := by omega
      simp [openingLine, hzero]

end

/-! ## The bound on the number of characters -/

section

variable {b m : Int} {lines kept : List String} {cut : Bool}

/-- **What the bound on characters keeps**: what fits at either end, which
is nothing only if neither end fits. -/
theorem boundChars_spec (h : 0 < b) :
    ∃ kept, boundChars b (lines, cut) =
        (kept, cut || decide (b < totalSize String.length lines)) ∧
      kept.Sublist lines ∧ totalSize String.length kept ≤ b ∧
      (¬b < totalSize String.length lines → kept = lines) ∧
      (kept = [] ↔ lines = [] ∨ b < totalSize String.length lines ∧
        (∀ l ∈ lines.head?, b / 3 < l.length) ∧
        ∀ l ∈ lines.getLast?, b - b / 3 < l.length) := by
  by_cases hlong : b < totalSize String.length lines
  · have hne : lines ≠ [] := by
      rintro rfl
      rw [totalSize] at hlong
      omega
    refine ⟨fitChars lines b, by simp [boundChars, hlong], fittingEnds_sublist,
      ?_, fun h => absurd hlong h, ?_⟩
    · have htotal := @fittingEnds_total _ String.length lines (b / 3) (b - b / 3)
        (by omega) (by omega)
      show (totalSize String.length (fittingEnds _ _ _ _) : Int) ≤ b
      omega
    · simp only [hne, hlong, false_or, true_and]
      exact fittingEnds_eq_nil
  · refine ⟨lines, by simp [boundChars, hlong], List.Sublist.refl _, by omega,
      fun _ => rfl, ?_⟩
    simp [hlong]

/-- Two lines that do not fit their shares do not fit the budget. -/
theorem totalSize_ends {f l : String} (hf : lines.head? = some f)
    (hl : lines.getLast? = some l) (hlen : lines.length ≠ 1) :
    f.length + l.length ≤ totalSize String.length lines := by
  obtain ⟨f', rest, rfl⟩ := List.exists_cons_of_ne_nil
    (show lines ≠ [] by rintro rfl; cases hf)
  cases Option.some.inj hf
  have hrest : rest ≠ [] := by
    rintro rfl
    exact hlen rfl
  have hend : rest.getLast? = some l := by
    rwa [List.getLast?_cons_of_ne_nil hrest] at hl
  obtain ⟨ini, rfl⟩ := List.getLast?_eq_some_iff.mp hend
  rw [totalSize, totalSize_append]
  simp only [totalSize]
  omega

/-- **Something is kept** exactly if there is room for a line. -/
theorem kept_iff_room (hne : lines ≠ [])
    (hlen : (kept.length : Int) = if m < lines.length then m else lines.length)
    (hpos : 0 < m) (hhead : kept.head? = openingLine m lines)
    (hlast : kept.getLast? = lines.getLast?) :
    ¬(kept = [] ∨ b < totalSize String.length kept ∧
        (∀ l ∈ kept.head?, b / 3 < l.length) ∧
        ∀ l ∈ kept.getLast?, b - b / 3 < l.length) ↔
      RoomForALine m b lines := by
  have hsome := List.length_pos_of_ne_nil hne
  have hkept : kept ≠ [] := by
    rintro rfl
    rw [List.length_nil] at hlen
    split at hlen <;> omega
  obtain ⟨f, rest, hcons⟩ := List.exists_cons_of_ne_nil hkept
  have hf : kept.head? = some f := by rw [hcons]; rfl
  have hl := List.getLast?_eq_some_getLast hkept
  -- the shares add up to the budget, so only a single line is a case of its own
  have hone : kept.length = 1 ↔ m = 1 ∨ lines.length = 1 := by
    refine ⟨fun h => ?_, fun h => ?_⟩ <;> split at hlen <;> omega
  rw [or_iff_right hkept, RoomForALine, ← hhead, ← hlast, ← hone, hf, hl]
  simp only [Option.mem_some_iff, forall_eq', exists_eq_left']
  by_cases hsingle : kept.length = 1
  · obtain ⟨l, rfl⟩ := List.length_eq_one_iff.mp hsingle
    cases Option.some.inj hf
    simp only [totalSize, List.getLast_singleton, List.length_singleton,
      true_and]
    omega
  · have hends := totalSize_ends hf hl hsingle
    simp only [hsingle, false_and, or_false]
    omega

end

/-! ## The prepared transcript -/

section

variable {s : TranscriptSettings} {db : List MessageRow} {session : SessionRow}

/-- An excerpt of an excerpt is the whole only if both are. -/
theorem sublist_ne_iff {r kept lines : List String} (hr : r.Sublist kept)
    (hk : kept.Sublist lines) : r ≠ lines ↔ kept ≠ lines ∨ r ≠ kept := by
  rw [← not_and_or, not_iff_not]
  refine ⟨fun h => ?_, fun h => h.2.trans h.1⟩
  subst h
  have heq := hk.antisymm hr
  exact ⟨heq, heq.symm⟩

/-- With room for as many lines as are asked for, only their characters can
make the transcript unfaithful. -/
theorem prepareTranscript_faithful {rows : List MessageRow}
    {lines : List String} (hs : s.accepted)
    (hrows : sessionMessages db session = rows)
    (hlines : messageLines s.analysisMaxMessageChars rows = lines)
    (hm : 0 ≤ s.analysisMaxTranscriptMessages)
    (hpos : lines ≠ [] → s.analysisMaxTranscriptMessages ≠ 0) :
    (prepareTranscript s db session).FaithfulTo s rows ↔
      (lines ≠ [] → RoomForALine s.analysisMaxTranscriptMessages
        s.analysisMaxTranscriptChars lines) := by
  obtain ⟨hmessage, hchars⟩ := TranscriptSettings.accepted_iff.mp hs
  have hspoken : (∃ row ∈ rows, row.spoken = true) ↔ lines ≠ [] := by
    rw [← hlines, ne_eq, messageLines_eq_nil, not_not]
  obtain ⟨kept, hkept, hsub, hlen, hhead, hlast⟩ :=
    @boundMessages_spec _ _
      (rows.any (MessageRow.cut s.analysisMaxMessageChars)) hm hpos
  obtain ⟨r, hr, hrsub, hrtotal, hrall, hrnil⟩ :=
    @boundChars_spec _ kept
      (rows.any (MessageRow.cut s.analysisMaxMessageChars)
        || decide (s.analysisMaxTranscriptMessages < lines.length)) hchars
  have hacc : boundChars s.analysisMaxTranscriptChars
      (boundMessages s.analysisMaxTranscriptMessages
        (rows.foldl (appendMessage s.analysisMaxMessageChars) ([], false))) =
      (r, rows.any (MessageRow.cut s.analysisMaxMessageChars) ||
        decide (s.analysisMaxTranscriptMessages < lines.length) ||
        decide (s.analysisMaxTranscriptChars <
          totalSize String.length kept)) := by
    rw [foldl_appendMessage hmessage, hlines, List.nil_append, Bool.false_or,
      hkept, hr]
  have htext : (prepareTranscript s db session).lines = r := by
    rw [prepareTranscript, hrows, hacc]
  have hmore : s.analysisMaxTranscriptMessages < lines.length ↔
      kept ≠ lines := by
    refine ⟨fun h heq => ?_, fun h => ?_⟩
    · rw [if_pos h, heq] at hlen
      omega
    · by_contra hnot
      rw [if_neg hnot] at hlen
      exact h (hsub.eq_of_length (by omega))
  have hover : s.analysisMaxTranscriptChars < totalSize String.length kept ↔
      r ≠ kept := by
    refine ⟨fun h heq => ?_, fun h => ?_⟩
    · rw [heq] at hrtotal
      omega
    · by_contra hnot
      exact h (hrall hnot)
  have hfew : (r.length : Int) ≤ s.analysisMaxTranscriptMessages := by
    have hle := hrsub.length_le
    split at hlen <;> omega
  have hflag : (prepareTranscript s db session).truncated = true ↔
      r ≠ lines ∨ ∃ row ∈ rows, row.cut s.analysisMaxMessageChars = true := by
    rw [prepareTranscript, hrows, hacc, sublist_ne_iff hrsub hsub]
    simp only [Bool.or_eq_true, decide_eq_true_eq, List.any_eq_true, hmore,
      hover]
    rw [or_assoc, or_comm]
  have hroom : ∀ hne : lines ≠ [], r ≠ [] ↔
      RoomForALine s.analysisMaxTranscriptMessages
        s.analysisMaxTranscriptChars lines := by
    intro hne
    have hpos := hpos hne
    rw [ne_eq, hrnil, kept_iff_room hne hlen (by omega) hhead hlast]
  have hskip : (prepareTranscript s db session).skippedEmpty = false ↔
      r ≠ [] := by
    rw [PreparedTranscript.skippedEmpty, htext, List.isEmpty_eq_false_iff]
  refine ⟨fun h hne => ?_, fun h => ⟨?_, ?_, ?_, ?_, ?_⟩⟩
  · exact (hroom hne).mp (hskip.mp (h.kept (hspoken.mpr hne)))
  · rw [htext, hlines]; exact hrsub.trans hsub
  · rw [htext]; exact hfew
  · rw [htext]; exact hrtotal
  · rw [htext, hlines]; exact hflag
  · intro hsome
    have hne := hspoken.mp hsome
    exact hskip.mpr ((hroom hne).mpr (h hne))

/-- **The prepared transcript is faithful** exactly if it may have a line, or
none is asked for, and there is room for one. -/
theorem prepareTranscript_faithful_iff (hs : s.accepted) :
    (prepareTranscript s db session).FaithfulTo s (sessionMessages db session) ↔
      0 ≤ s.analysisMaxTranscriptMessages ∧
        ((∃ row ∈ sessionMessages db session, row.spoken = true) →
          s.analysisMaxTranscriptMessages ≠ 0 ∧
          RoomForALine s.analysisMaxTranscriptMessages
            s.analysisMaxTranscriptChars
            (messageLines s.analysisMaxMessageChars
              (sessionMessages db session))) := by
  have hspoken : (∃ row ∈ sessionMessages db session, row.spoken = true) ↔
      messageLines s.analysisMaxMessageChars (sessionMessages db session)
        ≠ [] := by
    rw [ne_eq, messageLines_eq_nil, not_not]
  refine ⟨fun h => ?_, fun ⟨hm, hroom⟩ => ?_⟩
  · have hm : 0 ≤ s.analysisMaxTranscriptMessages := by
      have hfew := h.fewLines
      omega
    have hpos : messageLines s.analysisMaxMessageChars
        (sessionMessages db session) ≠ [] →
          s.analysisMaxTranscriptMessages ≠ 0 := by
      intro hne hzero
      have hfew := h.fewLines
      have hempty := h.kept (hspoken.mpr hne)
      have hnone : (prepareTranscript s db session).lines = [] :=
        List.eq_nil_of_length_eq_zero (by omega)
      rw [PreparedTranscript.skippedEmpty, hnone] at hempty
      cases hempty
    have hroom := (prepareTranscript_faithful hs rfl rfl hm hpos).mp h
    exact ⟨hm, fun hsome =>
      ⟨hpos (hspoken.mp hsome), hroom (hspoken.mp hsome)⟩⟩
  · rw [hspoken] at hroom
    exact (prepareTranscript_faithful hs rfl rfl hm fun h => (hroom h).1).mpr
      fun h => (hroom h).2

end

/-! ## A talk that is cut -/

/-- A talk with a blank message, one of another session among its rows. -/
def shortTalk : List MessageRow :=
  [⟨0, 2, .contact, " yes, speaking"⟩, ⟨0, 1, .agent, " hello\n there "⟩,
    ⟨1, 1, .agent, "hello"⟩, ⟨0, 3, .contact, " \n"⟩,
    ⟨0, 4, .agent, "one moment"⟩, ⟨0, 5, .contact, "sure"⟩,
    ⟨0, 6, .agent, "goodbye"⟩]

def narrowBounds : TranscriptSettings := ⟨12, 4, 54⟩

/-- The second message is cut, and its line is not among the first and the
last three; of these, the next one does not fit. -/
theorem shortTalk_faithful :
    (prepareTranscript narrowBounds shortTalk ⟨0, 0, none⟩).lines =
        ["agent: hello there", "contact: sure", "agent: goodbye"] ∧
      (prepareTranscript narrowBounds shortTalk ⟨0, 0, none⟩).FaithfulTo
        narrowBounds (sessionMessages shortTalk ⟨0, 0, none⟩) := by
  refine ⟨by decide +kernel, (prepareTranscript_faithful_iff
    (TranscriptSettings.accepted_iff.mpr ⟨by decide, by decide⟩)).mpr
    ⟨by decide, fun _ => ⟨by decide, .inl ⟨"agent: goodbye", ?_, ?_⟩⟩⟩⟩
  · decide +kernel
  · decide

/-! ## A line count of zero, and a budget below the lines -/

def helloRow : MessageRow := ⟨0, 1, .agent, " hello\n there "⟩

def noLines : TranscriptSettings := { analysisMaxTranscriptMessages := 0 }

def tightBudget : TranscriptSettings := { analysisMaxTranscriptChars := 10 }

/-- Both settings are accepted. With no line allowed, the last zero lines are
all of them, and the transcript is flagged though nothing is missing; with
a budget below the only line, the call is taken for an empty one. -/
theorem accepted_unfaithful :
    (noLines.accepted ∧
      (prepareTranscript noLines [helloRow] ⟨0, 0, none⟩).lines =
        ["agent: hello there"] ∧
      (prepareTranscript noLines [helloRow] ⟨0, 0, none⟩).truncated = true ∧
      ¬(prepareTranscript noLines [helloRow] ⟨0, 0, none⟩).FaithfulTo noLines
        (sessionMessages [helloRow] ⟨0, 0, none⟩)) ∧
    tightBudget.accepted ∧
      (prepareTranscript tightBudget [helloRow] ⟨0, 0, none⟩).skippedEmpty = true ∧
      ¬(prepareTranscript tightBudget [helloRow] ⟨0, 0, none⟩).FaithfulTo tightBudget
        (sessionMessages [helloRow] ⟨0, 0, none⟩) := by
  have hlines : (prepareTranscript noLines [helloRow] ⟨0, 0, none⟩).lines =
      ["agent: hello there"] := by decide +kernel
  have hskipped : (prepareTranscript tightBudget [helloRow]
      ⟨0, 0, none⟩).skippedEmpty = true := by decide +kernel
  refine ⟨⟨TranscriptSettings.accepted_iff.mpr ⟨by decide, by decide⟩, hlines,
    by decide +kernel, fun h => ?_⟩,
    TranscriptSettings.accepted_iff.mpr ⟨by decide, by decide⟩, hskipped,
    fun h => ?_⟩
  · have hfew := h.fewLines
    rw [hlines] at hfew
    exact absurd hfew (by decide)
  · have hkept := h.kept ⟨helloRow, List.mem_cons_self, by decide +kernel⟩
    rw [hskipped] at hkept
    cases hkept

end CallingAgent
