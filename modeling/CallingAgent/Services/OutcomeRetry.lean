import CallingAgent.Lib.LetterCase
import CallingAgent.Services.RetryPolicy
import CallingAgent.Services.WebhookContact
import CallingAgent.Services.WebhookFinality

/-!
# Outcome and retry — which results of a call are dialed again

A delivery carries two free texts, the status and the disposition. Each is
reduced to a token, looked up in the vocabulary, combined with the other and
handed to the recovery manager, which retries what the campaign's rules
name. No rule can name what the vocabulary does not recognise.
-/

namespace CallingAgent

open Lib

/-! ## Recognised failures -/

/-- The vocabulary knows the token, and it says that the call has failed. -/
def RecognisedFailure (t : String) : Prop :=
  ∃ o, vocabulary.lookup t = some o ∧ o.nonFinal = false ∧
    o.state ≠ .endedNormally

/-- Both tokens are known and final, and only one says that the call ended
normally. -/
def Conflicting (status disposition : String) : Prop :=
  ∃ s d, vocabulary.lookup status = some s ∧
    vocabulary.lookup disposition = some d ∧
    s.nonFinal = false ∧ d.nonFinal = false ∧
    ¬ (s.state = .endedNormally ↔ d.state = .endedNormally)

/-- The two tokens tell of a failure. -/
def TellFailure (status disposition : String) : Prop :=
  RecognisedFailure status ∧ ¬ Conflicting status disposition ∨
    vocabulary.lookup status = none ∧ RecognisedFailure disposition

/-- A delivery leads to a scheduled retry: an entry for the schedule cache,
or a contact that has come to wait for one. -/
def WebhookStep.SchedulesRetry (db : Db) (step : WebhookStep) : Prop :=
  step.entry ≠ none ∨
    ∃ k c, step.db.contact k = some c ∧ c.status = .retryScheduled ∧
      db.contact k ≠ some c

section

variable {env : Env} {db : Db} {p : DograhWebhookPayload}
  {w : AcceptedWebhook} {now : Instant} {step : WebhookStep}
  {status disposition : String}

/-- What is final, not a success and not unrecognized was told by a
recognised failure. -/
theorem combineOutcomes_tellFailure
    (hfinal : (combineOutcomes (vocabulary.lookup status)
      (vocabulary.lookup disposition)).nonFinal = false)
    (hstate : (combineOutcomes (vocabulary.lookup status)
      (vocabulary.lookup disposition)).state ≠ .endedNormally)
    (hkey : (combineOutcomes (vocabulary.lookup status)
      (vocabulary.lookup disposition)).reasonKey
        ≠ some "unrecognized_status") :
    TellFailure status disposition := by
  cases hs : vocabulary.lookup status with
  | none =>
      refine .inr ⟨hs, ?_⟩
      rw [hs] at hkey
      cases hd : vocabulary.lookup disposition with
      | none => rw [hd] at hkey; exact absurd rfl hkey
      | some d =>
          rw [hd] at hkey
          simp only [combineOutcomes] at hkey
          split at hkey
          · next h =>
            simp only [Bool.and_eq_true, Bool.not_eq_true',
              decide_eq_true_eq] at h
            exact ⟨d, hd, h.1, h.2⟩
          · exact absurd rfl hkey
  | some s =>
      refine .inl ?_
      rw [hs] at hfinal hstate hkey
      cases hd : vocabulary.lookup disposition with
      | none =>
          rw [hd] at hfinal hstate
          refine ⟨⟨s, hs, hfinal, hstate⟩, ?_⟩
          rintro ⟨_, d, -, hsome, -⟩
          rw [hd] at hsome
          cases hsome
      | some d =>
          rw [hd] at hfinal hstate hkey
          simp only [combineOutcomes] at hfinal hstate hkey
          split at hkey
          · next hnf =>
            rw [if_pos hnf] at hfinal hstate
            refine ⟨⟨s, hs, hfinal, hstate⟩, ?_⟩
            rintro ⟨s', d', hs', hd', hsf, hdf, -⟩
            obtain rfl := Option.some.inj (hs.symm.trans hs')
            obtain rfl := Option.some.inj (hd.symm.trans hd')
            simp [hsf, hdf] at hnf
          · next hnf =>
            rw [if_neg hnf] at hfinal hstate
            split at hkey
            · next hagree =>
              rw [if_pos hagree] at hfinal hstate
              refine ⟨⟨s, hs, hfinal, hstate⟩, ?_⟩
              rintro ⟨s', d', hs', hd', -, -, hdiffer⟩
              obtain rfl := Option.some.inj (hs.symm.trans hs')
              obtain rfl := Option.some.inj (hd.symm.trans hd')
              exact hdiffer hagree
            · exact absurd rfl hkey

/-! ## What the manager needs of the rules -/

/-- A retry is one the rules name. -/
theorem decideRecovery_rule {policy : RetryPolicy} {contactId : ContactId}
    {d : Disconnect}
    (h : (decideRecovery env db policy contactId d).shouldRetry = true) :
    ruleFor (if d.neverConnected then policy.neverConnectedRules
      else policy.midCallRules) (ruleAlias d.reasonKey) = true := by
  unfold decideRecovery at h
  by_contra hrule
  rw [if_pos (by simpa using hrule)] at h
  cases h

theorem ruleFor_mem {rules : List (String × Bool)} {key : String}
    (h : ruleFor rules key = true) : ∃ r ∈ rules, r.1 = key := by
  unfold ruleFor at h
  cases hl : rules.lookup key with
  | none => rw [hl] at h; cases h
  | some b =>
      obtain ⟨front, back, rfl, -⟩ := List.lookup_eq_some_iff.mp hl
      exact ⟨(key, b), by simp, rfl⟩

/-- No rule names what is not recognised. -/
theorem RetryPolicy.KnownRules.unrecognized {policy : RetryPolicy}
    (hp : policy.KnownRules) (never : Bool) :
    ruleFor (if never then policy.neverConnectedRules
      else policy.midCallRules) (ruleAlias "unrecognized_status") = false := by
  by_contra h
  obtain ⟨r, hr, hkey⟩ := ruleFor_mem (by simpa using h)
  cases never with
  | true =>
      have hknown := hp.neverConnected r hr
      rw [hkey] at hknown
      exact absurd hknown (by decide)
  | false =>
      have hknown := hp.midCall r hr
      rw [hkey] at hknown
      exact absurd hknown (by decide)

/-! ## What a delivery needs to schedule a retry -/

theorem openOutcome_policies (optedOut : Bool) :
    (openOutcome env db p w optedOut).1.retryPolicies = db.retryPolicies := by
  cases optedOut <;> rfl

theorem outcomeDb_policies :
    (outcomeDb env db p w now).retryPolicies = db.retryPolicies := by
  have hopen := @openOutcome_policies env db p w (p.optsOut env)
  unfold outcomeDb
  dsimp only
  split <;> exact hopen

/-- The manager's decision is the only way to a retry. -/
theorem schedulesRetry_recovery
    (h : processDograhWebhook env db p now = .ok step)
    (hr : step.SchedulesRetry db) :
    ∃ w : AcceptedWebhook, w.Found env db p ∧
      w.outcome.state ≠ .endedNormally ∧
      (w.recovery env db p now).entry ≠ none := by
  unfold processDograhWebhook at h
  cases ha : admitWebhook env db p with
  | rejected e => rw [ha] at h; cases h
  | answered o =>
      rw [ha] at h
      obtain rfl := Except.ok.inj h
      rcases hr with hr | ⟨k, c, hc, -, hne⟩
      · exact absurd rfl hr
      · exact absurd hc hne
  | accepted w =>
      rw [ha] at h
      have hf := admitWebhook_accepted ha
      have hspec := applyWebhook_spec hf h
      have hcontact := applyWebhook_contact hf h
      -- a contact that waits as it was found has not been scheduled
      have hfound : ∀ c : Contact, c.status = .retryScheduled →
          c = w.handedContact (p.optsOut env) →
          db.contact w.attempt.contactId = some c := by
        rintro c hc rfl
        rw [handedContact_waiting _ hc]
        exact hf.contact
      by_cases hstate : w.outcome.state = .endedNormally
      · rw [if_pos hstate] at hcontact
        obtain ⟨hentry, hleft⟩ := hcontact
        rcases hr with hr | ⟨k, c, hc, hwait, hne⟩
        · exact absurd hentry hr
        · by_cases hk : k = w.attempt.contactId
          · subst hk
            have heq := Option.some.inj (hc.symm.trans hleft)
            exact absurd (hfound c hwait heq) hne
          · exact absurd ((hspec.contact_ne k hk).symm.trans hc) hne
      · rw [if_neg hstate] at hcontact
        obtain ⟨hentry, hleft⟩ := hcontact
        refine ⟨w, hf, hstate, fun hnone => ?_⟩
        rcases hr with hr | ⟨k, c, hc, hwait, hne⟩
        · exact hr (hentry.trans hnone)
        · by_cases hk : k = w.attempt.contactId
          · subst hk
            have heq := Option.some.inj (hc.symm.trans hleft)
            have hshape : (w.recovery env db p now).Shape w.attempt.contactId
                (w.handedContact (p.optsOut env)) w.disconnect :=
              handleDisconnect_shape
            rcases hshape.outcome with ⟨hsame, -⟩ | ⟨hdone, -⟩ | ⟨_, -, hsome⟩
            · exact hne (hfound c hwait (heq.trans hsame))
            · rw [heq, hdone] at hwait
              cases hwait
            · rw [hnone] at hsome
              cases hsome
          · exact hne ((hspec.contact_ne k hk).symm.trans hc)

/-- **A retry has been told of by a recognised failure.** -/
theorem schedulesRetry_tellFailure (hdb : db.KnownRules)
    (h : processDograhWebhook env db p now = .ok step)
    (hr : step.SchedulesRetry db) :
    TellFailure (token env p.callStatus) (token env p.callDisposition) := by
  obtain ⟨w, hf, hstate, hentry⟩ := schedulesRetry_recovery h hr
  have hfinal := hf.final
  have hknown : (outcomeDb env db p w now).KnownRules := by
    intro c policy hp
    rw [outcomeDb_policies] at hp
    exact hdb c policy hp
  have hrule := decideRecovery_rule (handleDisconnect_entry hentry).1
  rw [hf.outcome] at hfinal hstate
  refine combineOutcomes_tellFailure hfinal hstate fun hkey => ?_
  have hreason : w.disconnect.reasonKey = "unrecognized_status" := by
    have hkey' : w.outcome.reasonKey = some "unrecognized_status" := by
      rw [hf.outcome]
      exact hkey
    simp only [AcceptedWebhook.disconnect, hkey', Option.getD_some]
  rw [hreason, (hknown.effectivePolicy _ _).unrecognized] at hrule
  cases hrule

end

/-! ## Spellings -/

/-- Two spellings of one text: the case of ASCII letters, and which runs of
separators stand between the words and at the ends. -/
inductive Respelled : List Char → List Char → Prop
  | letters {cs ds : List Char} :
      List.Forall₂ CaseTables.SameLetter cs ds → Respelled cs ds
  | between (as bs : List Char) {r r' : List Char} :
      r ≠ [] → r' ≠ [] → (∀ c ∈ r, isTokenSeparator c = true) →
      (∀ c ∈ r', isTokenSeparator c = true) →
      Respelled (as ++ (r ++ bs)) (as ++ (r' ++ bs))
  | front (cs : List Char) {r : List Char} :
      (∀ c ∈ r, isTokenSeparator c = true) → Respelled (r ++ cs) cs
  | back (cs : List Char) {r : List Char} :
      (∀ c ∈ r, isTokenSeparator c = true) → Respelled (cs ++ r) cs
  | symm {cs ds : List Char} : Respelled cs ds → Respelled ds cs
  | trans {cs ds es : List Char} :
      Respelled cs ds → Respelled ds es → Respelled cs es

section

variable {env : Env} {T : CaseTables} {cs ds : List Char}

/-- The words of a text in lower case. -/
def loweredWords (T : CaseTables) (cs : List Char) : List (List Char) :=
  (words isTokenSeparator cs).map (T.lowerFrom [])

theorem isTokenSeparator_space {c : Char} (h : isSpace c = true) :
    isTokenSeparator c = true := by
  simp [isTokenSeparator, h]

/-- **A token is the words in lower case**, joined by underscores. -/
theorem token_eq (hlower : env.unicode.lower = T.lower)
    (hT : T.Separates isTokenSeparator) (v : Option String) :
    token env v
      = String.ofList (joinWords (loweredWords T (v.getD "").toList)) := by
  simp only [token, hlower, CaseTables.lower, strip, String.toList_ofList]
  rw [strip_collapse (by decide), hT.words_lowerFrom,
    words_strip fun c hc => isTokenSeparator_space hc]
  rfl

/-- Every spelling has the same words. -/
theorem Respelled.loweredWords (hT : T.Separates isTokenSeparator)
    (hA : T.Ascii) (h : Respelled cs ds) :
    loweredWords T cs = loweredWords T ds := by
  unfold CallingAgent.loweredWords
  induction h with
  | letters h =>
      rw [← hT.words_lowerFrom, ← hT.words_lowerFrom, hA.lowerFrom .nil h]
  | between as bs hr hr' hsep hsep' =>
      rw [words_between hr hsep, words_between hr' hsep']
  | front cs hr => rw [words_seps_append hr]
  | back cs hr => rw [words_append_seps hr]
  | symm _ ih => exact ih.symm
  | trans _ _ ih ih' => exact ih.trans ih'

/-- **Every spelling has the same token.** -/
theorem Respelled.token {s t : String} (hlower : env.unicode.lower = T.lower)
    (hT : T.Separates isTokenSeparator) (hA : T.Ascii)
    (h : Respelled s.toList t.toList) :
    token env (some s) = token env (some t) := by
  rw [token_eq hlower hT, token_eq hlower hT]
  exact congrArg (fun ws => String.ofList (joinWords ws)) (h.loweredWords hT hA)

end

/-! ## The two texts of a delivery -/

/-- The delivery with other texts. -/
def DograhWebhookPayload.withTexts (p : DograhWebhookPayload)
    (status disposition : String) : DograhWebhookPayload :=
  { p with callStatus := some status, callDisposition := some disposition }

section

variable {env : Env} {db : Db} {p : DograhWebhookPayload} {now : Instant}
  {s t d e : String}

theorem optsOut_withTexts (htoken : token env (some d) = token env (some e))
    (hempty : d = "" ↔ e = "") :
    (p.withTexts s d).optsOut env = (p.withTexts t e).optsOut env := by
  have hne : decide (d.toList ≠ []) = decide (e.toList ≠ []) := by
    simp [hempty]
  simp only [DograhWebhookPayload.optsOut, isOptOut,
    DograhWebhookPayload.withTexts, List.any_cons, htoken, hne]

/-- A delivery is processed on what its texts say, not on the texts. -/
theorem process_withTexts
    (hclass : classifyCallOutcome env (some s) (some d)
      = classifyCallOutcome env (some t) (some e))
    (hopt : (p.withTexts s d).optsOut env = (p.withTexts t e).optsOut env) :
    processDograhWebhook env db (p.withTexts s d) now
      = processDograhWebhook env db (p.withTexts t e) now := by
  have hadmit : admitWebhook env db (p.withTexts s d)
      = admitWebhook env db (p.withTexts t e) := by
    simp only [admitWebhook, DograhWebhookPayload.withTexts, hclass]
    rfl
  have happly : ∀ w, applyWebhook env db (p.withTexts s d) w now
      = applyWebhook env db (p.withTexts t e) w now := by
    intro w
    simp only [DograhWebhookPayload.optsOut] at hopt
    simp only [applyWebhook, hopt]
    rfl
  simp only [processDograhWebhook, hadmit, happly]

/-- **Only recognised failures are retried.** A delivery leads to a scheduled
retry only if its status is a recognised failure that its disposition does
not contradict, or the status is unknown and the disposition is one; and
neither the classification nor, as far as an empty disposition stays empty,
anything the delivery does depends on how the two texts are spelled. -/
theorem webhook_retries_recognised_failures (T : CaseTables)
    (hlower : env.unicode.lower = T.lower)
    (hT : T.Separates isTokenSeparator) (hA : T.Ascii) (hdb : db.KnownRules)
    (p : DograhWebhookPayload) (now : Instant) :
    (∀ step, processDograhWebhook env db p now = .ok step →
      step.SchedulesRetry db →
      TellFailure (token env p.callStatus) (token env p.callDisposition)) ∧
    (∀ s t d e : String, Respelled s.toList t.toList →
      Respelled d.toList e.toList →
      classifyCallOutcome env (some s) (some d)
        = classifyCallOutcome env (some t) (some e) ∧
      ((d = "" ↔ e = "") →
        processDograhWebhook env db (p.withTexts s d) now
          = processDograhWebhook env db (p.withTexts t e) now)) := by
  refine ⟨fun step h hr => schedulesRetry_tellFailure hdb h hr, ?_⟩
  intro s t d e hst hde
  have hstatus := hst.token hlower hT hA
  have hdisp := hde.token hlower hT hA
  have hclass : classifyCallOutcome env (some s) (some d)
      = classifyCallOutcome env (some t) (some e) := by
    rw [classifyCallOutcome, classifyCallOutcome, hstatus, hdisp]
  exact ⟨hclass, fun hempty =>
    process_withTexts hclass (optsOut_withTexts hdisp hempty)⟩

end

/-! ### A delivery, twice spelled -/

/-- The tables of the ASCII range. -/
def asciiTables : CaseTables where
  toLower c := [c.toLower]
  cased := Char.isAlpha
  ignorable _ := false

theorem isAlpha_bounds {c : Char} (h : c.isAlpha = true) :
    65 ≤ c.toNat ∧ c.toNat ≤ 90 ∨ 97 ≤ c.toNat ∧ c.toNat ≤ 122 := by
  rcases Bool.or_eq_true_iff.mp h with h | h
  · have h : 'A'.val ≤ c.val ∧ c.val ≤ 'Z'.val := of_decide_eq_true h
    exact .inl ⟨UInt32.le_iff_toNat_le.mp h.1, UInt32.le_iff_toNat_le.mp h.2⟩
  · obtain ⟨h1, h2⟩ := Bool.and_eq_true_iff.mp h
    have h1 : 'a'.val ≤ c.val := of_decide_eq_true h1
    have h2 : c.val ≤ 'z'.val := of_decide_eq_true h2
    exact .inr ⟨UInt32.le_iff_toNat_le.mp h1, UInt32.le_iff_toNat_le.mp h2⟩

theorem toLower_cases (c : Char) :
    c.toLower = c ∨ c.isAlpha = true ∧ c.toLower.isAlpha = true := by
  unfold Char.toLower
  split
  · next h =>
    have hupper : c.isUpper = true := decide_eq_true h
    have hlow : 65 ≤ c.val.toNat := UInt32.le_iff_toNat_le.mp h.1
    have hhigh : c.val.toNat ≤ 90 := UInt32.le_iff_toNat_le.mp h.2
    have hval : (c.val + ('a'.val - 'A'.val)).toNat = c.val.toNat + 32 := by
      show (c.val + 32).toNat = c.val.toNat + 32
      rw [UInt32.toNat_add, Nat.mod_eq_of_lt]
      · rfl
      · show c.val.toNat + 32 < 4294967296
        omega
    have hlower : ∀ d : Char, d.val.toNat = c.val.toNat + 32 →
        d.isLower = true := by
      intro d hd
      have h1 : 'a'.val ≤ d.val := UInt32.le_iff_toNat_le.mpr
        (show 97 ≤ d.val.toNat by omega)
      have h2 : d.val ≤ 'z'.val := UInt32.le_iff_toNat_le.mpr
        (show d.val.toNat ≤ 122 by omega)
      exact Bool.and_eq_true_iff.mpr ⟨decide_eq_true h1, decide_eq_true h2⟩
    exact .inr ⟨Bool.or_eq_true_iff.mpr (.inl hupper),
      Bool.or_eq_true_iff.mpr (.inr (hlower _ hval))⟩
  · exact .inl rfl

theorem isAlpha_not_separator {c : Char} (h : c.isAlpha = true) :
    isTokenSeparator c = false := by
  have hb := isAlpha_bounds h
  have hne : ∀ d : Char, d.toNat = 45 ∨ d.toNat = 95 → c ≠ d := by
    rintro d hd rfl
    omega
  simp only [isTokenSeparator, isSpace, Bool.or_eq_false_iff,
    Bool.and_eq_false_iff, decide_eq_false_iff_not, beq_eq_false_iff_ne]
  refine ⟨⟨?_, hne _ (.inl rfl)⟩, hne _ (.inr rfl)⟩
  omega

theorem asciiTables_ascii : asciiTables.Ascii :=
  ⟨fun _ _ => rfl, fun _ h => h, fun _ _ => rfl⟩

theorem asciiTables_separates : asciiTables.Separates isTokenSeparator where
  fixed c hc := by
    rcases toLower_cases c with h | ⟨h, -⟩
    · exact congrArg (· :: []) h
    · rw [isAlpha_not_separator h] at hc
      cases hc
  uncased c hc := by
    by_contra h
    rw [isAlpha_not_separator (Bool.not_eq_false _ ▸ h)] at hc
    cases hc
  kept _ _ := rfl
  some_ _ _ := List.cons_ne_nil _ _
  none_ c hc d hd := by
    obtain rfl := List.mem_singleton.mp hd
    rcases toLower_cases c with h | ⟨-, h⟩
    · rwa [h]
    · exact isAlpha_not_separator h
  sigmas := by simp [isTokenSeparator, isSpace]

/-- The libraries on ASCII text, with the rule for a final sigma. -/
def spelledEnv : Env :=
  { plainEnv {} with unicode := ⟨asciiTables.lower, asciiUpper, id⟩ }

def attempt7Report : DograhWebhookPayload where
  callAttemptId := attempt7Text

theorem ambiguousDb_knownRules : ambiguousDb.KnownRules := by
  intro c policy h
  cases h

theorem noAnswer_respelled :
    Respelled " No-Answer".toList "no_answer".toList := by
  have hspace : Respelled " No-Answer".toList "No-Answer".toList :=
    .front (r := [' ']) _ (by simp [isTokenSeparator, isSpace])
  have hdash : Respelled "No-Answer".toList "No_Answer".toList :=
    @Respelled.between ['N', 'o'] ['A', 'n', 's', 'w', 'e', 'r'] ['-'] ['_']
      (by decide) (by decide) (by simp [isTokenSeparator])
      (by simp [isTokenSeparator])
  have hcase : Respelled "No_Answer".toList "no_answer".toList := by
    refine .letters (.cons (.inr (by decide)) (.cons (.inl rfl)
      (.cons (.inl rfl) (.cons (.inr (by decide)) ?_))))
    exact List.forall₂_same.mpr fun _ _ => .inl rfl
  exact hspace.trans (hdash.trans hcase)

/-- A call that was not answered is retried, and so it is in another
spelling. -/
theorem retries_noAnswer :
    (processDograhWebhook spelledEnv ambiguousDb
        (attempt7Report.withTexts " No-Answer" "") second
      = processDograhWebhook spelledEnv ambiguousDb
        (attempt7Report.withTexts "no_answer" "") second) ∧
    ∃ step, processDograhWebhook spelledEnv ambiguousDb
        (attempt7Report.withTexts "no_answer" "") second = .ok step ∧
      step.SchedulesRetry ambiguousDb ∧
      TellFailure (token spelledEnv (some "no_answer"))
        (token spelledEnv (some "")) := by
  have h := fun p => @webhook_retries_recognised_failures spelledEnv
    ambiguousDb asciiTables rfl asciiTables_separates asciiTables_ascii
    ambiguousDb_knownRules p second
  refine ⟨((h attempt7Report).2 _ _ _ _ noAnswer_respelled
    (.letters .nil)).2 Iff.rfl, ?_⟩
  have hentry : (processDograhWebhook spelledEnv ambiguousDb
      (attempt7Report.withTexts "no_answer" "") second).toOption.any
        (·.entry.isSome) = true := by
    decide +kernel
  cases hstep : processDograhWebhook spelledEnv ambiguousDb
      (attempt7Report.withTexts "no_answer" "") second with
  | error e => rw [hstep] at hentry; cases hentry
  | ok step =>
      rw [hstep] at hentry
      have hr : step.SchedulesRetry ambiguousDb :=
        .inl (Option.isSome_iff_ne_none.mp hentry)
      exact ⟨step, rfl, hr,
        (h (attempt7Report.withTexts "no_answer" "")).1 step hstep hr⟩

end CallingAgent
