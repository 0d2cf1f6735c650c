import CallingAgent.Analysis.QaContract
import Mathlib.Data.List.Forall2

/-!
# QaAccepts — what the QA check accepts

The contract, said of the decoded answer without the code that checks it, and
what a result must say of an answer that meets it. Each step of the check is
taken for what it accepts, and the steps together accept the contract.
-/

namespace CallingAgent

open Lib

/-! ## The contract -/

/-- `t` is `s` with single spaces between its words. -/
def Collapsed (s t : CodePoints) : Prop :=
  Spaced isSpacePoint 32 t ∧ pieces isSpacePoint t = pieces isSpacePoint s

/-- The value is a text that is collapsed to `t`, which is not empty and not
too long. -/
def TextOf (limit : Nat) (v : Decoded) (t : CodePoints) : Prop :=
  ∃ s, v = .string s ∧ Collapsed s t ∧ t ≠ [] ∧ List.length t ≤ limit

/-- No text, or a text that may be blank: it is reported like none. -/
def OptionalTextOf (limit : Nat) (v : Decoded) (o : Option CodePoints) : Prop :=
  (v = .null ∧ o = none) ∨
    ∃ s t, v = .string s ∧ Collapsed s t ∧ List.length t ≤ limit ∧
      o = if List.isEmpty t then none else some t

/-- No list, or a list of a few texts. -/
def ItemsOf (v : Decoded) (ts : List CodePoints) : Prop :=
  (v = .null ∧ ts = []) ∨
    ∃ items, v = .array items ∧ items.length ≤ maxItems ∧
      List.Forall₂ (TextOf maxItem) items ts

/-- The value of a member. -/
def IsMember {ε : Type} [StrEnum ε] (v : Decoded) (e : ε) : Prop :=
  v = .string (codePoints (StrEnum.value e))

/-- A signal is given as true. -/
def Raises (signals : Decoded) (name : BoolSignal) : Prop :=
  signals.field name.value = some (.bool true)

/-- What `signals` must be. -/
structure SignalsContract (signals : Decoded) : Prop where
  object : ∃ fields, signals = .object fields
  allowed : ∀ key ∈ signals.keys, ∃ name ∈ allowedSignals, key = codePoints name
  flags : ∀ name : BoolSignal, ∃ b,
    signals.fieldOr name.value (.bool false) = .bool b
  count : ∃ n, signals.fieldOr "objection_count" (.int 0) = .int n ∧ 0 ≤ n ∧
    n ≤ maxObjectionsCount

/-- **The contract** of an answer. -/
structure QaContract (floatRepr : PyFloat → List Char) (payload : Decoded)
    (maxBytes : Int) : Prop where
  object : ∃ fields, payload = .object fields
  size : ∃ size : Nat, dumpedSize floatRepr payload = some size ∧ size ≤ maxBytes
  required : ∀ name ∈ requiredFields, (payload.field name).isSome = true
  allowed : ∀ key ∈ payload.keys, ∃ name ∈ allowedFields, key = codePoints name
  version : payload.fieldOr "schema_version" .null
    = .string (codePoints contractVersion)
  summary : ∃ t, TextOf maxSummary (payload.fieldOr "summary" .null) t
  language : ∃ t, TextOf maxLanguage (payload.fieldOr "language" .null) t
  intent : ∃ e : AnalysisIntent, IsMember (payload.fieldOr "intent" .null) e
  interestStatus : ∃ e : InterestStatus,
    IsMember (payload.fieldOr "interest_status" .null) e
  sentiment : ∃ e : AnalysisSentiment,
    IsMember (payload.fieldOr "sentiment" .null) e
  nextAction : ∃ e : AnalysisNextAction,
    IsMember (payload.fieldOr "next_action" .null) e
  feedback : ∃ o, OptionalTextOf maxFeedback (payload.fieldOr "feedback" .null) o
  keyFacts : ∃ ts, ItemsOf (payload.fieldOr "key_facts" .null) ts
  objections : ∃ ts, ItemsOf (payload.fieldOr "objections" .null) ts
  customerNeeds : ∃ ts, ItemsOf (payload.fieldOr "customer_needs" .null) ts
  signals : SignalsContract (payload.fieldOr "signals" .null)
  consistent : Raises (payload.fieldOr "signals" .null) .optedOut ∨
      Raises (payload.fieldOr "signals" .null) .explicitRejection →
    ¬ IsMember (payload.fieldOr "intent" .null) AnalysisIntent.interested ∧
      ¬ IsMember (payload.fieldOr "intent" .null)
        AnalysisIntent.callbackRequested ∧
      ¬ IsMember (payload.fieldOr "interest_status" .null)
        InterestStatus.interested

/-- The signals are those that are given. -/
structure SignalsOf (signals : Decoded) (s : ScoringSignals) : Prop where
  flags : ∀ name, s.flag name = true ↔ Raises signals name
  count : signals.fieldOr "objection_count" (.int 0) = .int s.objectionCount

/-- **What a result must say**: the values of the answer, with white space
collapsed. -/
structure Reports (payload : Decoded) (r : AnalysisResult) : Prop where
  summary : TextOf maxSummary (payload.fieldOr "summary" .null) r.summary
  language : TextOf maxLanguage (payload.fieldOr "language" .null) r.language
  intent : IsMember (payload.fieldOr "intent" .null) r.intent
  interestStatus : IsMember (payload.fieldOr "interest_status" .null)
    r.interestStatus
  sentiment : IsMember (payload.fieldOr "sentiment" .null) r.sentiment
  nextAction : IsMember (payload.fieldOr "next_action" .null) r.nextAction
  feedback : OptionalTextOf maxFeedback (payload.fieldOr "feedback" .null)
    r.feedback
  keyFacts : ItemsOf (payload.fieldOr "key_facts" .null) r.keyFacts
  objections : ItemsOf (payload.fieldOr "objections" .null) r.objections
  customerNeeds : ItemsOf (payload.fieldOr "customer_needs" .null) r.customerNeeds
  signals : SignalsOf (payload.fieldOr "signals" .null) r.scoringSignals

/-! ## Steps that may fail -/

section

variable {α β ε : Type} {x : Except ε α} {f : α → Except ε β} {b : β}

theorem bind_eq_ok : (x >>= f) = .ok b ↔ ∃ a, x = .ok a ∧ f a = .ok b := by
  cases x with
  | error e => exact ⟨fun h => (by cases h), fun ⟨_, h, _⟩ => (by cases h)⟩
  | ok a =>
      refine ⟨fun h => ⟨a, rfl, h⟩, ?_⟩
      rintro ⟨_, h, hf⟩
      cases h
      exact hf

theorem mapM_eq_ok {l : List α} {bs : List β} :
    l.mapM f = .ok bs ↔ List.Forall₂ (fun a b => f a = .ok b) l bs := by
  induction l generalizing bs with
  | nil =>
      rw [List.mapM_nil, List.forall₂_nil_left_iff]
      exact ⟨fun h => (by cases h; rfl), fun h => (by rw [h]; rfl)⟩
  | cons a l ih =>
      rw [List.mapM_cons, List.forall₂_cons_left_iff]
      simp only [bind_eq_ok, ih]
      constructor
      · rintro ⟨b, hb, bs', hbs, heq⟩
        cases heq
        exact ⟨b, bs', hb, hbs, rfl⟩
      · rintro ⟨b, bs', hb, hbs, rfl⟩
        exact ⟨b, hb, bs', hbs, rfl⟩

theorem exists_forall₂ {R : α → β → Prop} {l : List α}
    (h : ∀ a ∈ l, ∃ b, R a b) : ∃ bs, List.Forall₂ R l bs := by
  induction l with
  | nil => exact ⟨[], .nil⟩
  | cons a l ih =>
      obtain ⟨⟨b, hb⟩, hl⟩ := List.forall_mem_cons.mp h
      obtain ⟨bs, hbs⟩ := ih hl
      exact ⟨b :: bs, .cons hb hbs⟩

end

theorem qaFail_ne_ok {α : Type} {reason : String} {a : α} :
    qaFail reason ≠ .ok a := fun h => by cases h

/-! ## What each step accepts -/

section

variable {v payload signals : Decoded} {field reason : String} {limit : Nat}
  {t : CodePoints} {maxBytes : Int} {floatRepr : PyFloat → List Char}

theorem codePoints_inj {a b : String} (h : codePoints a = codePoints b) : a = b :=
  String.ext (List.map_injective_iff.mpr (fun _ _ hc => Char.toNat_inj.mp hc) h)

theorem collapseSpaces_eq_iff {s : CodePoints} :
    collapseSpaces s = t ↔ Collapsed s t :=
  respace_eq_iff (by decide)

theorem collapsed_collapse (s : CodePoints) : Collapsed s (collapseSpaces s) :=
  collapseSpaces_eq_iff.mp rfl

/-- What a text is read as. -/
theorem qaText_string {s : CodePoints} {required : Bool} {o : Option CodePoints} :
    qaText (.string s) field limit required = .ok o ↔
      ∃ t, Collapsed s t ∧ List.length t ≤ limit ∧ (required = true → t ≠ []) ∧
        o = if List.isEmpty t then none else some t := by
  have hread : qaText (.string s) field limit required = .ok o ↔
      List.length (collapseSpaces s) ≤ limit ∧
        (required = true → collapseSpaces s ≠ []) ∧
        o = if List.isEmpty (collapseSpaces s) then none
          else some (collapseSpaces s) := by
    change (if required && List.isEmpty (collapseSpaces s) then qaFail _
      else if limit < List.length (collapseSpaces s) then qaFail _
      else .ok _) = _ ↔ _
    generalize collapseSpaces s = t
    split
    · next hempty =>
        obtain ⟨hreq, ht⟩ := Bool.and_eq_true_iff.mp hempty
        refine iff_of_false qaFail_ne_ok fun h => ?_
        exact h.2.1 hreq (List.isEmpty_iff.mp ht)
    · next hfull =>
        have hne : required = true → t ≠ [] := fun hreq ht =>
          hfull (Bool.and_eq_true_iff.mpr ⟨hreq, List.isEmpty_iff.mpr ht⟩)
        split
        · next hlong =>
            exact iff_of_false qaFail_ne_ok fun h => absurd h.1 (not_le.mpr hlong)
        · next hshort =>
            rw [Except.ok.injEq, eq_comm]
            exact ⟨fun h => ⟨not_lt.mp hshort, hne, h⟩, fun h => h.2.2⟩
  rw [hread]
  constructor
  · exact fun h => ⟨_, collapsed_collapse s, h⟩
  · rintro ⟨t, ht, h⟩
    rw [collapseSpaces_eq_iff.mpr ht]
    exact h

theorem requiredText_ok_iff :
    requiredText v field limit = .ok t ↔ TextOf limit v t := by
  rw [requiredText, bind_eq_ok]
  cases v with
  | string s =>
      simp only [qaText_string, TextOf, Decoded.string.injEq, exists_eq_left']
      constructor
      · rintro ⟨o, ⟨t', hc, hle, hne, rfl⟩, h⟩
        have ht' : ¬ List.isEmpty t' = true :=
          fun hempty => hne trivial (List.isEmpty_iff.mp hempty)
        rw [if_neg ht'] at h
        cases h
        exact ⟨hc, hne trivial, hle⟩
      · rintro ⟨hc, hne, hle⟩
        have ht : ¬ List.isEmpty t = true :=
          fun hempty => hne (List.isEmpty_iff.mp hempty)
        exact ⟨some t, ⟨t, hc, hle, fun _ => hne, (if_neg ht).symm⟩, rfl⟩
  | null =>
      refine iff_of_false ?_ fun ⟨_, h, _⟩ => (by cases h)
      rintro ⟨o, h, -⟩
      exact qaFail_ne_ok h
  | _ =>
      refine iff_of_false ?_ fun ⟨_, h, _⟩ => (by cases h)
      rintro ⟨o, h, -⟩
      exact qaFail_ne_ok h

theorem optionalText_ok_iff {o : Option CodePoints} :
    qaText v field limit false = .ok o ↔ OptionalTextOf limit v o := by
  cases v with
  | string s =>
      rw [qaText_string]
      constructor
      · rintro ⟨t, hc, hle, -, ho⟩
        exact .inr ⟨s, t, rfl, hc, hle, ho⟩
      · rintro (⟨h, -⟩ | ⟨s', t, h, hc, hle, ho⟩)
        · cases h
        · cases h
          exact ⟨t, hc, hle, fun h => (by cases h), ho⟩
  | null =>
      constructor
      · intro h
        cases h
        exact .inl ⟨rfl, rfl⟩
      · rintro (⟨-, rfl⟩ | ⟨s, t, h, -⟩)
        · rfl
        · cases h
  | _ =>
      refine iff_of_false qaFail_ne_ok ?_
      rintro (⟨h, -⟩ | ⟨s, t, h, -⟩) <;> cases h

theorem qaItems_ok_iff {ts : List CodePoints} :
    qaItems v field = .ok ts ↔ ItemsOf v ts := by
  cases v with
  | null =>
      constructor
      · intro h
        cases h
        exact .inl ⟨rfl, rfl⟩
      · rintro (⟨-, rfl⟩ | ⟨items, h, -⟩)
        · rfl
        · cases h
  | array items =>
      have hread : qaItems (.array items) field = .ok ts ↔
          items.length ≤ maxItems ∧ List.Forall₂ (TextOf maxItem) items ts := by
        rw [qaItems]
        split
        · next hlong =>
            exact iff_of_false qaFail_ne_ok fun h => absurd h.1 (not_le.mpr hlong)
        · next hshort =>
            simp only [mapM_eq_ok, requiredText_ok_iff]
            exact (and_iff_right (not_lt.mp hshort)).symm
      rw [hread]
      constructor
      · exact fun h => .inr ⟨items, rfl, h⟩
      · rintro (⟨h, -⟩ | ⟨items', h, hitems⟩)
        · cases h
        · cases h
          exact hitems
  | _ =>
      refine iff_of_false qaFail_ne_ok ?_
      rintro (⟨h, -⟩ | ⟨items, h, -⟩) <;> cases h

theorem qaEnum_ok_iff {ε : Type} [StrEnum ε] {e : ε} :
    qaEnum v field = .ok e ↔ IsMember v e := by
  cases v with
  | string s =>
      rw [qaEnum, IsMember, Decoded.string.injEq]
      cases hfind : StrEnum.members.find? fun e : ε =>
          decide (codePoints (StrEnum.value e) = s) with
      | none =>
          refine iff_of_false qaFail_ne_ok fun h => ?_
          exact List.find?_eq_none.mp hfind e (StrEnum.complete e)
            (decide_eq_true h.symm)
      | some e' =>
          have hfound := List.find?_some hfind
          have heq := of_decide_eq_true hfound
          constructor
          · intro h
            cases h
            exact heq.symm
          · intro h
            rw [h] at heq
            rw [StrEnum.distinct (codePoints_inj heq)]
  | _ => exact iff_of_false qaFail_ne_ok fun h => by cases h

theorem checkSize_ok_iff : checkSize floatRepr payload maxBytes = .ok () ↔
    ∃ size : Nat, dumpedSize floatRepr payload = some size ∧ size ≤ maxBytes := by
  rw [checkSize]
  cases dumpedSize floatRepr payload with
  | none => exact iff_of_false qaFail_ne_ok fun ⟨_, h, _⟩ => (by cases h)
  | some size =>
      simp only [Option.some.injEq, exists_eq_left']
      split
      · next hlong => exact iff_of_false qaFail_ne_ok (not_le.mpr hlong)
      · next hshort => exact iff_of_true rfl (not_lt.mp hshort)

theorem isText_iff {text : CodePoints} : v.isText text = true ↔ v = .string text := by
  cases v with
  | string s =>
      rw [Decoded.isText, Decoded.string.injEq]
      exact beq_iff_eq
  | _ => exact iff_of_false (fun h => (by cases h)) fun h => (by cases h)

/-- No key but these. -/
theorem keys_allowed_iff {keys : List CodePoints} {names : List String} :
    (keys.any fun key => !(names.map codePoints).contains key) = false ↔
      ∀ key ∈ keys, ∃ name ∈ names, key = codePoints name := by
  rw [List.any_eq_false]
  refine forall₂_congr fun key _ => ?_
  rw [Bool.not_eq_true', Bool.not_eq_false, List.contains_iff_mem, List.mem_map]
  exact exists_congr fun name => and_congr_right fun _ => eq_comm

theorem checkFields_ok_iff : checkFields payload = .ok () ↔
    (∀ name ∈ requiredFields, (payload.field name).isSome = true) ∧
      (∀ key ∈ payload.keys, ∃ name ∈ allowedFields, key = codePoints name) ∧
      payload.fieldOr "schema_version" .null
        = .string (codePoints contractVersion) := by
  have hmissing : (requiredFields.filter fun name => (payload.field name).isNone)
      = [] ↔ ∀ name ∈ requiredFields, (payload.field name).isSome = true := by
    rw [List.filter_eq_nil_iff]
    refine forall₂_congr fun name _ => ?_
    cases payload.field name <;> simp
  rw [checkFields, ← hmissing, ← keys_allowed_iff, ← isText_iff]
  split
  · next hsome => exact iff_of_false qaFail_ne_ok fun h => hsome h.1
  · next hnone =>
      rw [and_iff_right (not_not.mp hnone)]
      split
      · next hother =>
          refine iff_of_false qaFail_ne_ok fun h => ?_
          rw [h.1] at hother
          cases hother
      · next hallowed =>
          rw [and_iff_right (Bool.eq_false_iff.mpr hallowed)]
          split
          · next hversion =>
              exact iff_of_false qaFail_ne_ok fun h => by simp [h] at hversion
          · next hversion => exact iff_of_true rfl (by simpa using hversion)

theorem readFlag_ok_iff {name : BoolSignal} {flag : BoolSignal × Bool} :
    readFlag signals name = .ok flag ↔
      flag.1 = name ∧ signals.fieldOr name.value (.bool false) = .bool flag.2 := by
  obtain ⟨name', b⟩ := flag
  rw [readFlag]
  cases signals.fieldOr name.value (.bool false) with
  | bool b' =>
      simp only [Except.ok.injEq, Prod.mk.injEq, Decoded.bool.injEq]
      exact and_congr_left fun _ => eq_comm
  | _ => exact iff_of_false qaFail_ne_ok fun h => (by cases h.2)

theorem readCount_ok_iff {n : Int} : readCount signals = .ok n ↔
    signals.fieldOr "objection_count" (.int 0) = .int n ∧ 0 ≤ n ∧
      n ≤ maxObjectionsCount := by
  rw [readCount]
  cases signals.fieldOr "objection_count" (.int 0) with
  | int m =>
      dsimp only
      split
      · next hrange =>
          rw [Except.ok.injEq, Decoded.int.injEq]
          exact ⟨fun h => ⟨h, h ▸ hrange⟩, fun h => h.1⟩
      · next hrange =>
          refine iff_of_false qaFail_ne_ok ?_
          rintro ⟨h, hn⟩
          cases h
          exact hrange hn
  | _ => exact iff_of_false qaFail_ne_ok fun h => (by cases h.1)

/-- A flag is given as true when it is read as true. -/
theorem raises_iff {name : BoolSignal} : Raises signals name ↔
    signals.fieldOr name.value (.bool false) = .bool true := by
  rw [Raises, Decoded.fieldOr]
  cases signals.field name.value with
  | none => exact iff_of_false (fun h => (by cases h)) fun h => (by cases h)
  | some v => exact Option.some_inj

/-- The flags that are read, looked up again. -/
theorem lookup_flags {names : List BoolSignal} {flags : List (BoolSignal × Bool)}
    (h : List.Forall₂ (fun name flag => readFlag signals name = .ok flag) names
      flags) {name : BoolSignal} (hin : name ∈ names) :
    ∃ b, flags.lookup name = some b ∧
      signals.fieldOr name.value (.bool false) = .bool b := by
  induction h with
  | nil => cases hin
  | @cons first flag names flags hflag _ ih =>
      obtain ⟨name', b⟩ := flag
      obtain ⟨rfl, hb⟩ := readFlag_ok_iff.mp hflag
      by_cases heq : name = name'
      · subst heq
        exact ⟨b, by simp, hb⟩
      · obtain ⟨b', hlookup, hb'⟩ :=
          ih ((List.mem_cons.mp hin).resolve_left heq)
        refine ⟨b', ?_, hb'⟩
        rw [List.lookup_cons, beq_eq_false_iff_ne.mpr heq]
        exact hlookup

theorem flag_ofFlags {flags : BoolSignal → Bool} {count : Int} (name : BoolSignal) :
    (ScoringSignals.ofFlags flags count).flag name = flags name := by
  cases name <;> rfl

theorem ScoringSignals.ext_flags {s s' : ScoringSignals}
    (h : ∀ name, s.flag name = s'.flag name)
    (hcount : s.objectionCount = s'.objectionCount) : s = s' := by
  obtain ⟨a, b, c, d, e, f, g, i, j⟩ := s
  obtain ⟨a', b', c', d', e', f', g', i', j'⟩ := s'
  have h₁ := h .explicitInterest
  have h₂ := h .purchaseIntent
  have h₃ := h .requestedCallback
  have h₄ := h .requestedPricing
  have h₅ := h .hasTimeline
  have h₆ := h .explicitRejection
  have h₇ := h .optedOut
  have h₈ := h .informationRequested
  simp only [ScoringSignals.flag] at h₁ h₂ h₃ h₄ h₅ h₆ h₇ h₈ hcount
  subst h₁ h₂ h₃ h₄ h₅ h₆ h₇ h₈ hcount
  rfl

/-- **The signals are read exactly when they are those of their contract.** -/
theorem readSignals_ok_iff {s : ScoringSignals} : readSignals signals = .ok s ↔
    SignalsContract signals ∧ SignalsOf signals s := by
  cases signals with
  | object fields =>
      have hkeys : (fields.any fun f =>
          !(allowedSignals.map codePoints).contains f.1) = false ↔
          ∀ key ∈ (Decoded.object fields).keys, ∃ name ∈ allowedSignals,
            key = codePoints name := by
        rw [← keys_allowed_iff, Decoded.keys, List.any_map]
        rfl
      rw [readSignals]
      split
      · next hother =>
          refine iff_of_false qaFail_ne_ok fun ⟨hc, _⟩ => ?_
          rw [hkeys.mpr hc.allowed] at hother
          cases hother
      · next hallowed =>
          simp only [bind_eq_ok, mapM_eq_ok, readCount_ok_iff]
          constructor
          · rintro ⟨flags, hflags, count, hcount, heq⟩
            cases heq
            have hlookup := fun name => lookup_flags hflags (StrEnum.complete name)
            refine ⟨⟨⟨fields, rfl⟩, hkeys.mp (Bool.eq_false_iff.mpr hallowed),
              fun name => ?_, ⟨count, hcount⟩⟩, fun name => ?_, hcount.1⟩
            · obtain ⟨b, -, hb⟩ := hlookup name
              exact ⟨b, hb⟩
            · obtain ⟨b, hb, hread⟩ := hlookup name
              rw [flag_ofFlags, hb, raises_iff, hread, Decoded.bool.injEq]
              rfl
          · rintro ⟨hc, hs⟩
            obtain ⟨flags, hflags⟩ := exists_forall₂ (R := fun name flag =>
                readFlag (.object fields) name = .ok flag)
              (l := StrEnum.members) fun name _ =>
                have ⟨b, hb⟩ := hc.flags name
                ⟨(name, b), readFlag_ok_iff.mpr ⟨rfl, hb⟩⟩
            obtain ⟨n, hn, hrange⟩ := hc.count
            have hcount : n = s.objectionCount :=
              Decoded.int.inj (hn.symm.trans hs.count)
            refine ⟨flags, hflags, n, ⟨hn, hrange⟩, congrArg _ ?_⟩
            refine ScoringSignals.ext_flags (fun name => ?_) hcount
            obtain ⟨b, hb, hread⟩ := lookup_flags hflags (StrEnum.complete name)
            have hflag := (hs.flags name).trans raises_iff
            rw [hread, Decoded.bool.injEq] at hflag
            rw [flag_ofFlags, hb]
            exact (Bool.eq_iff_iff.mpr hflag).symm
  | _ =>
      refine iff_of_false qaFail_ne_ok ?_
      rintro ⟨⟨⟨_, h⟩, -⟩, -⟩
      cases h

theorem checkConsistent_ok_iff {s : ScoringSignals} {intent : AnalysisIntent}
    {interest : InterestStatus} : checkConsistent s intent interest = .ok () ↔
      (s.optedOut = true ∨ s.explicitRejection = true →
        intent ≠ .interested ∧ intent ≠ .callbackRequested ∧
          interest ≠ .interested) := by
  rw [checkConsistent]
  split
  · next hbad =>
      refine iff_of_false qaFail_ne_ok fun h => ?_
      simp only [Bool.and_eq_true, Bool.or_eq_true, decide_eq_true_eq] at hbad
      obtain ⟨h₁, h₂, h₃⟩ := h hbad.1
      exact hbad.2.elim (fun h => h.elim h₁ h₂) h₃
  · next hgood =>
      refine iff_of_true rfl fun hraised => ?_
      simp only [Bool.and_eq_true, Bool.or_eq_true, decide_eq_true_eq] at hgood
      have hnot := not_and.mp hgood hraised
      simp only [not_or] at hnot
      exact ⟨hnot.1.1, hnot.1.2, hnot.2⟩

/-! ## The check and the contract -/

theorem IsMember.unique {ε : Type} [StrEnum ε] {e e' : ε} (h : IsMember v e)
    (h' : IsMember v e') : e = e' :=
  StrEnum.distinct (codePoints_inj (Decoded.string.inj (h.symm.trans h')))

/-- What the flags of the result say of the answer. -/
theorem SignalsOf.raised_iff {s : ScoringSignals} (h : SignalsOf signals s) :
    s.optedOut = true ∨ s.explicitRejection = true ↔
      Raises signals .optedOut ∨ Raises signals .explicitRejection :=
  or_congr (h.flags .optedOut) (h.flags .explicitRejection)

/-- **A result comes out exactly when the answer meets the contract and the
result reports it.** -/
theorem parseQaPayload_ok_iff {r : AnalysisResult} :
    parseQaPayload floatRepr payload maxBytes = .ok r ↔
      QaContract floatRepr payload maxBytes ∧ Reports payload r := by
  cases payload with
  | object fields =>
      simp only [parseQaPayload, bind_eq_ok, qaEnum_ok_iff, requiredText_ok_iff,
        optionalText_ok_iff, qaItems_ok_iff, readSignals_ok_iff]
      constructor
      · rintro ⟨⟨⟩, hsize, ⟨⟩, hfields, s, ⟨hcontract, hs⟩, intent, hintent,
          interest, hinterest, ⟨⟩, hconsistent, summary, hsummary, language,
          hlanguage, sentiment, hsentiment, next, hnext, feedback, hfeedback,
          facts, hfacts, objections, hobjections, needs, hneeds, heq⟩
        cases heq
        obtain ⟨hrequired, hallowed, hversion⟩ := checkFields_ok_iff.mp hfields
        refine ⟨⟨⟨fields, rfl⟩, checkSize_ok_iff.mp hsize, hrequired, hallowed,
          hversion, ⟨_, hsummary⟩, ⟨_, hlanguage⟩, ⟨_, hintent⟩, ⟨_, hinterest⟩,
          ⟨_, hsentiment⟩, ⟨_, hnext⟩, ⟨_, hfeedback⟩, ⟨_, hfacts⟩,
          ⟨_, hobjections⟩, ⟨_, hneeds⟩, hcontract, fun hraised => ?_⟩,
          ⟨hsummary, hlanguage, hintent, hinterest, hsentiment, hnext, hfeedback,
            hfacts, hobjections, hneeds, hs⟩⟩
        obtain ⟨h₁, h₂, h₃⟩ :=
          checkConsistent_ok_iff.mp hconsistent (hs.raised_iff.mpr hraised)
        exact ⟨fun h => h₁ (hintent.unique h), fun h => h₂ (hintent.unique h),
          fun h => h₃ (hinterest.unique h)⟩
      · rintro ⟨hc, hr⟩
        have hfields := checkFields_ok_iff.mpr ⟨hc.required, hc.allowed, hc.version⟩
        have hconsistent : checkConsistent r.scoringSignals r.intent
            r.interestStatus = .ok () ↔ _ := checkConsistent_ok_iff
        refine ⟨(), checkSize_ok_iff.mpr hc.size, (), hfields, _,
          ⟨hc.signals, hr.signals⟩, _, hr.intent, _, hr.interestStatus, (),
          hconsistent.mpr fun hraised => ?_, _, hr.summary, _, hr.language, _,
          hr.sentiment, _, hr.nextAction, _, hr.feedback, _, hr.keyFacts, _,
          hr.objections, _, hr.customerNeeds, rfl⟩
        obtain ⟨h₁, h₂, h₃⟩ := hc.consistent (hr.signals.raised_iff.mp hraised)
        exact ⟨fun h => h₁ (h ▸ hr.intent), fun h => h₂ (h ▸ hr.intent),
          fun h => h₃ (h ▸ hr.interestStatus)⟩
  | _ =>
      refine iff_of_false qaFail_ne_ok ?_
      rintro ⟨⟨⟨_, h⟩, -⟩, -⟩
      cases h

/-- Signals that meet their contract can be reported. -/
theorem SignalsContract.exists_signals (h : SignalsContract signals) :
    ∃ s, SignalsOf signals s := by
  classical
  obtain ⟨n, hn, -⟩ := h.count
  refine ⟨.ofFlags (fun name => decide (Raises signals name)) n, fun name => ?_, hn⟩
  rw [flag_ofFlags, decide_eq_true_iff]

/-- An answer that meets the contract can be reported. -/
theorem QaContract.exists_reports (h : QaContract floatRepr payload maxBytes) :
    ∃ r, Reports payload r := by
  obtain ⟨_, hsummary⟩ := h.summary
  obtain ⟨_, hlanguage⟩ := h.language
  obtain ⟨_, hintent⟩ := h.intent
  obtain ⟨_, hinterest⟩ := h.interestStatus
  obtain ⟨_, hsentiment⟩ := h.sentiment
  obtain ⟨_, hnext⟩ := h.nextAction
  obtain ⟨_, hfeedback⟩ := h.feedback
  obtain ⟨_, hfacts⟩ := h.keyFacts
  obtain ⟨_, hobjections⟩ := h.objections
  obtain ⟨_, hneeds⟩ := h.customerNeeds
  obtain ⟨_, hsignals⟩ := h.signals.exists_signals
  exact ⟨⟨_, _, _, _, _, _, _, _, _, _, _⟩, hsummary, hlanguage, hintent,
    hinterest, hsentiment, hnext, hfeedback, hfacts, hobjections, hneeds, hsignals⟩

/-! ## Refusals -/

/-- Only a validation error comes out. -/
def OnlyInvalid {α : Type} (x : Except QaError α) : Prop :=
  ∀ e, x = .error e → ∃ reason, e = .validation ("invalid QA output: " ++ reason)

theorem OnlyInvalid.ok {α : Type} (a : α) : OnlyInvalid (.ok a) :=
  fun _ h => by cases h

theorem OnlyInvalid.fail {α : Type} (reason : String) :
    OnlyInvalid (qaFail (α := α) reason) := by
  intro e h
  cases h
  exact ⟨reason, rfl⟩

theorem OnlyInvalid.bind {α β : Type} {x : Except QaError α}
    {f : α → Except QaError β} (hx : OnlyInvalid x)
    (hf : ∀ a, x = .ok a → OnlyInvalid (f a)) : OnlyInvalid (x >>= f) := by
  cases x with
  | error e => exact fun e' h => hx e' (by cases h; rfl)
  | ok a => exact hf a rfl

theorem OnlyInvalid.mapM {α β : Type} {f : α → Except QaError β}
    (h : ∀ a, OnlyInvalid (f a)) (l : List α) : OnlyInvalid (l.mapM f) := by
  induction l with
  | nil => exact .ok []
  | cons a l ih =>
      rw [List.mapM_cons]
      exact (h a).bind fun _ _ => ih.bind fun _ _ => .ok _

theorem OnlyInvalid.text (v : Decoded) (field : String) (limit : Nat)
    (required : Bool) : OnlyInvalid (qaText v field limit required) := by
  cases v with
  | null =>
      cases required with
      | true => exact .fail _
      | false => exact .ok none
  | string s =>
      change OnlyInvalid (if _ then qaFail _ else if _ then qaFail _ else .ok _)
      split
      · exact .fail _
      · split
        · exact .fail _
        · exact .ok _
  | _ => exact .fail _

/-- A text that is required is there. -/
theorem qaText_required_ne_none : qaText v field limit true ≠ .ok none := by
  cases v with
  | string s =>
      rw [ne_eq, qaText_string]
      rintro ⟨t, -, -, hne, hnone⟩
      rw [if_neg fun h => hne rfl (List.isEmpty_iff.mp h)] at hnone
      cases hnone
  | _ => exact qaFail_ne_ok

/-- The `assert` never fails. -/
theorem OnlyInvalid.ofRequired (v : Decoded) (field : String) (limit : Nat) :
    OnlyInvalid (requiredText v field limit) := by
  refine (OnlyInvalid.text v field limit true).bind fun o ho => ?_
  cases o with
  | some t => exact .ok t
  | none => exact absurd ho qaText_required_ne_none

theorem OnlyInvalid.items (v : Decoded) (field : String) :
    OnlyInvalid (qaItems v field) := by
  cases v with
  | null => exact .ok []
  | array items =>
      rw [qaItems]
      split
      · exact .fail _
      · exact .mapM (fun item => .ofRequired item field maxItem) items
  | _ => exact .fail _

theorem OnlyInvalid.enum {ε : Type} [StrEnum ε] (v : Decoded) (field : String) :
    OnlyInvalid (qaEnum (ε := ε) v field) := by
  cases v with
  | string s =>
      rw [qaEnum]
      split
      · exact .ok _
      · exact .fail _
  | _ => exact .fail _

theorem OnlyInvalid.ofSignals (v : Decoded) : OnlyInvalid (readSignals v) := by
  have hflag : ∀ name, OnlyInvalid (readFlag v name) := by
    intro name
    rw [readFlag]
    split
    · exact .ok _
    · exact .fail _
  have hcount : OnlyInvalid (readCount v) := by
    rw [readCount]
    split
    · split
      · exact .ok _
      · exact .fail _
    · exact .fail _
  cases v with
  | object fields =>
      rw [readSignals]
      split
      · exact .fail _
      · exact (OnlyInvalid.mapM hflag _).bind fun _ _ =>
          hcount.bind fun _ _ => .ok _
  | _ => exact .fail _

/-- **Every refusal is a validation error.** -/
theorem parseQaPayload_onlyInvalid (floatRepr : PyFloat → List Char)
    (payload : Decoded) (maxBytes : Int) :
    OnlyInvalid (parseQaPayload floatRepr payload maxBytes) := by
  have hsize : OnlyInvalid (checkSize floatRepr payload maxBytes) := by
    rw [checkSize]
    split
    · exact .fail _
    · split
      · exact .fail _
      · exact .ok _
  have hfields : OnlyInvalid (checkFields payload) := by
    rw [checkFields]
    split
    · exact .fail _
    · split
      · exact .fail _
      · split
        · exact .fail _
        · exact .ok _
  have hconsistent : ∀ s i j, OnlyInvalid (checkConsistent s i j) := by
    intro s i j
    rw [checkConsistent]
    split
    · exact .fail _
    · exact .ok _
  cases payload with
  | object fields =>
      exact hsize.bind fun _ _ => hfields.bind fun _ _ =>
        (OnlyInvalid.ofSignals _).bind fun s _ => (OnlyInvalid.enum _ _).bind fun i _ =>
        (OnlyInvalid.enum _ _).bind fun j _ => (hconsistent s i j).bind fun _ _ =>
        (OnlyInvalid.ofRequired _ _ _).bind fun _ _ =>
        (OnlyInvalid.ofRequired _ _ _).bind fun _ _ =>
        (OnlyInvalid.enum _ _).bind fun _ _ => (OnlyInvalid.enum _ _).bind fun _ _ =>
        (OnlyInvalid.text _ _ _ _).bind fun _ _ =>
        (OnlyInvalid.items _ _).bind fun _ _ => (OnlyInvalid.items _ _).bind fun _ _ =>
        (OnlyInvalid.items _ _).bind fun _ _ => .ok _
  | _ => exact .fail _

/-- **The check accepts exactly its contract**, reports what the answer says,
and accepts nothing positive of a person who rejected or opted out. -/
theorem parseQaPayload_exact (floatRepr : PyFloat → List Char)
    (payload : Decoded) (maxBytes : Int) :
    ((∃ r, parseQaPayload floatRepr payload maxBytes = .ok r) ↔
      QaContract floatRepr payload maxBytes) ∧
    (∀ r, parseQaPayload floatRepr payload maxBytes = .ok r ↔
      QaContract floatRepr payload maxBytes ∧ Reports payload r) ∧
    ∀ r, parseQaPayload floatRepr payload maxBytes = .ok r →
      r.scoringSignals.optedOut = true ∨
          r.scoringSignals.explicitRejection = true →
        r.intent ≠ .interested ∧ r.intent ≠ .callbackRequested ∧
          r.interestStatus ≠ .interested := by
  refine ⟨⟨?_, fun hc => ?_⟩, fun r => parseQaPayload_ok_iff,
    fun r hok hraised => ?_⟩
  · rintro ⟨r, hok⟩
    exact (parseQaPayload_ok_iff.mp hok).1
  · obtain ⟨r, hr⟩ := hc.exists_reports
    exact ⟨r, parseQaPayload_ok_iff.mpr ⟨hc, hr⟩⟩
  · obtain ⟨hc, hr⟩ := parseQaPayload_ok_iff.mp hok
    obtain ⟨h₁, h₂, h₃⟩ := hc.consistent (hr.signals.raised_iff.mp hraised)
    exact ⟨fun h => h₁ (h ▸ hr.intent), fun h => h₂ (h ▸ hr.intent),
      fun h => h₃ (h ▸ hr.interestStatus)⟩

end

end CallingAgent
