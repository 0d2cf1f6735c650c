import CallingAgent.Model.Errors
import CallingAgent.Services.CallingWindow
import Mathlib.Data.List.Dedup

/-!
# Retry policy — validation and the admin update

An update is checked against the configured limits, the hard calling bound
and the known reasons before anything is written. The window it brings must
lie inside the bound, so that at run time the bound changes nothing.
-/

namespace CallingAgent

open Lib

/-! ## A window inside the bound -/

/-- `window_within_bound`. Every span of the window must lie in one span of
the bound. -/
def windowWithinBound (start stop hardStart hardEnd : TimeOfDay) :
    Except WindowError Bool :=
  match intervals hardStart hardEnd with
  | .error e => .error e
  | .ok bound =>
      match intervals start stop with
      | .error e => .error e
      | .ok spans =>
          .ok (spans.all fun s => bound.any fun b => b.1 ≤ s.1 && s.2 ≤ b.2)

/-- A time of day inside a window: between its ends, or outside them when the
window goes over midnight. -/
def InWindow (start stop t : Nat) : Prop :=
  if start < stop then start ≤ t ∧ t < stop else start ≤ t ∨ t < stop

theorem localTime_lt (tz : Zone) (now : Instant) :
    localTime tz now < dayMicros := by
  have hpos : (0 : Int) < dayMicros := by decide
  have hnat : ∀ x : Int, x < dayMicros → x.toNat < dayMicros := by
    intro x hx
    have hday : 0 < dayMicros := by decide
    omega
  exact hnat _ (Int.emod_lt_of_pos (tz.toLocal now) hpos)

section

variable {start stop hardStart hardEnd t : Nat}

/-- The spans of a window, as numbers. -/
theorem intervals_eq (h : start ≠ stop) :
    intervals start stop = .ok (if start < stop then [(start, stop)]
      else (start, dayMicros) :: if 0 < stop then [(0, stop)] else []) := by
  unfold intervals
  rw [if_neg h]
  exact (apply_ite Except.ok _ _ _).symm

theorem ne_of_intervals {spans : List Interval}
    (h : intervals start stop = .ok spans) : start ≠ stop := by
  rintro rfl
  simp [intervals] at h

/-- Some span of a window holds a time of day exactly when the window
does. -/
theorem exists_span_iff {spans : List Interval}
    (h : intervals start stop = .ok spans) (ht : t < dayMicros) :
    (∃ s ∈ spans, s.1 ≤ t ∧ t < s.2) ↔ InWindow start stop t := by
  rw [intervals_eq (ne_of_intervals h)] at h
  cases h
  unfold InWindow
  by_cases hlt : start < stop
  · simp [hlt]
  · rw [if_neg hlt, if_neg hlt]
    by_cases hz : 0 < stop
    · simp [hz, ht]
    · simp [hz, ht]
      omega

/-- A window is open when the local time of day is inside it. -/
theorem isWithinCallingWindow_iff {now : Instant} {tz : Zone}
    (h : start ≠ stop) :
    ∃ b, isWithinCallingWindow now tz start stop = .ok b ∧
      (b = true ↔ InWindow start stop (localTime tz now)) := by
  refine ⟨_, by rw [isWithinCallingWindow, intervals_eq h], ?_⟩
  rw [← exists_span_iff (intervals_eq h) (localTime_lt tz now)]
  simp

theorem windowWithinBound_sound
    (h : windowWithinBound start stop hardStart hardEnd = .ok true)
    (ht : t < dayMicros) (hin : InWindow start stop t) :
    InWindow hardStart hardEnd t := by
  unfold windowWithinBound at h
  split at h
  · cases h
  · next bound hbound =>
    split at h
    · cases h
    · next spans hspans =>
      obtain ⟨s, hs, h₁, h₂⟩ := (exists_span_iff hspans ht).mpr hin
      have hall := List.all_eq_true.mp (Except.ok.inj h) s hs
      obtain ⟨b, hb, hle⟩ := List.any_eq_true.mp hall
      simp only [Bool.and_eq_true, decide_eq_true_eq] at hle
      exact (exists_span_iff hbound ht).mp ⟨b, hb, by omega, by omega⟩

/-- What lies inside the bound at every time of day lies in one span of
it: the two spans of an overnight bound do not touch. -/
theorem span_within {bound : List Interval} {s : Interval}
    (hbound : intervals hardStart hardEnd = .ok bound)
    (hs : s.1 < s.2) (hday : s.2 ≤ dayMicros)
    (h : ∀ t, s.1 ≤ t → t < s.2 → InWindow hardStart hardEnd t) :
    ∃ b ∈ bound, b.1 ≤ s.1 ∧ s.2 ≤ b.2 := by
  have hfirst := h s.1 (Nat.le_refl _) hs
  have hlast := h (s.2 - 1) (by omega) (by omega)
  have hne := ne_of_intervals hbound
  rw [intervals_eq hne] at hbound
  cases hbound
  unfold InWindow at h hfirst hlast
  by_cases hlt : hardStart < hardEnd
  · rw [if_pos hlt] at hfirst hlast ⊢
    exact ⟨(hardStart, hardEnd), List.mem_singleton.mpr rfl, hfirst.1,
      by omega⟩
  · simp only [if_neg hlt] at h hfirst hlast ⊢
    by_cases hlate : hardStart ≤ s.1
    · exact ⟨(hardStart, dayMicros), List.mem_cons_self, hlate, hday⟩
    · -- the span begins in the morning part, and cannot go on past its end
      have hmorning : s.2 ≤ hardEnd := by
        by_contra hgt
        have hgap := h hardEnd (by omega) (by omega)
        omega
      refine ⟨(0, hardEnd), ?_, Nat.zero_le _, hmorning⟩
      rw [if_pos (by omega)]
      exact List.mem_cons_of_mem _ (List.mem_singleton.mpr rfl)

theorem spans_nonempty {spans : List Interval} {s : Interval}
    (h : intervals start stop = .ok spans) (hs : s ∈ spans)
    (hstart : start < dayMicros) (hstop : stop < dayMicros) :
    s.1 < s.2 ∧ s.2 ≤ dayMicros := by
  rw [intervals_eq (ne_of_intervals h)] at h
  cases h
  by_cases hlt : start < stop
  · rw [if_pos hlt] at hs
    obtain rfl := List.mem_singleton.mp hs
    exact ⟨hlt, Nat.le_of_lt hstop⟩
  · rw [if_neg hlt] at hs
    rcases List.mem_cons.mp hs with rfl | hs
    · exact ⟨hstart, Nat.le_refl _⟩
    · by_cases hz : 0 < stop
      · rw [if_pos hz] at hs
        obtain rfl := List.mem_singleton.mp hs
        exact ⟨hz, Nat.le_of_lt hstop⟩
      · rw [if_neg hz] at hs
        cases hs

theorem windowWithinBound_complete (hne : start ≠ stop)
    (hhne : hardStart ≠ hardEnd) (hstart : start < dayMicros)
    (hstop : stop < dayMicros)
    (h : ∀ t < dayMicros, InWindow start stop t →
      InWindow hardStart hardEnd t) :
    windowWithinBound start stop hardStart hardEnd = .ok true := by
  have hbound := intervals_eq hhne
  have hspans := intervals_eq hne
  simp only [windowWithinBound, hbound, hspans]
  refine congrArg Except.ok (List.all_eq_true.mpr fun s hs => ?_)
  obtain ⟨hlt, hday⟩ := spans_nonempty hspans hs hstart hstop
  obtain ⟨b, hb, h₁, h₂⟩ := span_within hbound hlt hday
    fun t h₁ h₂ => h t (by omega)
      ((exists_span_iff hspans (by omega)).mp ⟨s, hs, h₁, h₂⟩)
  exact List.any_eq_true.mpr ⟨b, hb, by simp [h₁, h₂]⟩

/-- Where the window lies inside the bound, the bound is open whenever the
window is. -/
theorem isDialableNow_of_within {now : Instant} {tz : Zone}
    (h : windowWithinBound start stop hardStart hardEnd = .ok true) :
    isDialableNow now tz start stop hardStart hardEnd
      = isWithinCallingWindow now tz start stop := by
  have hne : start ≠ stop ∧ hardStart ≠ hardEnd := by
    unfold windowWithinBound at h
    split at h
    · cases h
    · next hbound =>
      split at h
      · cases h
      · next hspans => exact ⟨ne_of_intervals hspans, ne_of_intervals hbound⟩
  obtain ⟨b, hb, hiff⟩ := @isWithinCallingWindow_iff _ _ now tz hne.1
  obtain ⟨b', hb', hiff'⟩ := @isWithinCallingWindow_iff _ _ now tz hne.2
  unfold isDialableNow
  rw [hb]
  cases b with
  | false => rfl
  | true =>
      have hopen := windowWithinBound_sound h (localTime_lt tz now)
        (hiff.mp rfl)
      rw [hb', hiff'.mpr hopen]

end

/-! ## The admin update -/

/-- The limits of `Settings` that only an update is checked against. -/
structure PolicyLimits where
  maxRetriesCeiling : Int := 5
  minRetryBackoffSeconds : Int := 300
  maxRetryBackoffSeconds : Int := 604800

structure RetryPolicyUpdate where
  maxRetries : Nat
  retrySpacingSeconds : List Int
  windowStart : TimeOfDay
  windowEnd : TimeOfDay
  timezone : Option String := none
  neverConnectedRules : Option (List (String × Bool)) := none
  midCallRules : Option (List (String × Bool)) := none

/-- What an update raises. -/
inductive PolicyError where
  | app (e : AppError)
  | window (e : WindowError)
  deriving DecidableEq, Repr

/-- `ValidationError(message)` -/
def PolicyError.invalid (message : String) : PolicyError :=
  .app (.validation message)

/-- `_NEVER_CONNECTED_KEYS` -/
def neverConnectedKeys : List String :=
  [.noAnswer, .busy, .invalidNumber, .rejected, .networkError,
    .providerError].map NeverConnectedFailureReason.value

/-- `_MID_CALL_KEYS` -/
def midCallKeys : List String :=
  [.technicalIssue, .networkProblem, .providerError, .aiError, .unknown,
    .customerHangup].map MidCallDisconnectReason.value

/-- `_validate_rules` -/
def validateRules (rules : List (String × Bool)) (allowed : List String)
    (label : String) : Except PolicyError Unit :=
  match ((rules.map (·.1)).dedup.filter (· ∉ allowed)).insertionSort
      (· ≤ ·) with
  | [] => .ok ()
  | unknown => .error (.invalid (label ++ " contains unknown reason(s): "
      ++ ", ".intercalate unknown))

/-- Two digits. -/
def twoDigits (n : Nat) : String :=
  if n < 10 then "0" ++ toString n else toString n

/-- `%H:%M` -/
def hourMinute (t : TimeOfDay) : String :=
  twoDigits (t / clock 1 0) ++ ":" ++ twoDigits (t / clock 0 1 % 60)

/-- The rules an update brings, if it brings any. -/
def validateRulesOf (rules : Option (List (String × Bool)))
    (allowed : List String) (label : String) : Except PolicyError Unit :=
  match rules with
  | none => .ok ()
  | some rules => validateRules rules allowed label

/-- The checks of the window. -/
def validateWindow (s : Settings) (start stop : TimeOfDay) :
    Except PolicyError Unit :=
  if start = stop then .error (.invalid "window_start and window_end must differ")
  else
    match windowWithinBound start stop s.hardCallingWindowStart
        s.hardCallingWindowEnd with
    | .error e => .error (.window e)
    | .ok true => .ok ()
    | .ok false => .error (.invalid
        ("the calling window must lie inside the allowed "
          ++ hourMinute s.hardCallingWindowStart ++ "-"
          ++ hourMinute s.hardCallingWindowEnd ++ " window"))

/-- `validate_policy_update` -/
def validatePolicyUpdate (l : PolicyLimits) (s : Settings)
    (data : RetryPolicyUpdate) : Except PolicyError Unit :=
  if (data.maxRetries : Int) > l.maxRetriesCeiling then
    .error (.invalid ("max_retries must be between 0 and "
      ++ toString l.maxRetriesCeiling))
  else if data.retrySpacingSeconds.length ≠ data.maxRetries then
    .error (.invalid
      "retry_spacing_seconds must have exactly max_retries entries")
  else if data.retrySpacingSeconds.any fun spacing =>
      !(l.minRetryBackoffSeconds ≤ spacing
        && spacing ≤ l.maxRetryBackoffSeconds) then
    .error (.invalid ("each retry spacing must be between "
      ++ toString l.minRetryBackoffSeconds ++ " and "
      ++ toString l.maxRetryBackoffSeconds ++ " seconds"))
  else
    match validateWindow s data.windowStart data.windowEnd with
    | .error e => .error e
    | .ok () =>
        match validateRulesOf data.neverConnectedRules neverConnectedKeys
            "never_connected_rules" with
        | .error e => .error e
        | .ok () => validateRulesOf data.midCallRules midCallKeys
            "mid_call_rules"

/-- `{**rules, **update}` -/
def mergeRules (rules update : List (String × Bool)) : List (String × Bool) :=
  update ++ rules.filter fun r => (update.lookup r.1).isNone

/-- The policy an accepted update leaves. -/
def RetryPolicyUpdate.applyTo (data : RetryPolicyUpdate)
    (policy : RetryPolicy) : RetryPolicy where
  maxRetries := data.maxRetries
  retrySpacingSeconds := data.retrySpacingSeconds.map (·.toNat)
  neverConnectedRules :=
    mergeRules policy.neverConnectedRules (data.neverConnectedRules.getD [])
  midCallRules := mergeRules policy.midCallRules (data.midCallRules.getD [])
  windowStart := data.windowStart
  windowEnd := data.windowEnd

/-- `RetryPolicyService.put`: the row is created with the defaults where it
is missing. -/
def putPolicy (env : Env) (l : PolicyLimits) (db : Db) (c : CampaignId)
    (data : RetryPolicyUpdate) : Except PolicyError Db :=
  match validatePolicyUpdate l env.settings data with
  | .error e => .error e
  | .ok () =>
      match data.timezone.map (loadTimezone env) with
      | some (.error _) =>
          .error (.invalid "timezone must be a valid IANA timezone name")
      | _ =>
          match db.campaign c with
          | none => .error (.app (campaignNotFound c))
          | some _ =>
              .ok { db.modifyCampaign c fun row =>
                  { row with timezone := data.timezone.getD row.timezone } with
                retryPolicies := AList.insert c
                  (data.applyTo (db.effectivePolicy env.settings c))
                  db.retryPolicies }

/-! ### What an accepted update is known to be -/

/-- Every reason the rules of a policy name is one of the taxonomies. -/
structure RetryPolicy.KnownRules (p : RetryPolicy) : Prop where
  neverConnected : ∀ r ∈ p.neverConnectedRules, r.1 ∈ neverConnectedKeys
  midCall : ∀ r ∈ p.midCallRules, r.1 ∈ midCallKeys

section

variable {l : PolicyLimits} {s : Settings} {data : RetryPolicyUpdate}

theorem validateRules_known {rules : List (String × Bool)}
    {allowed : List String} {label : String}
    (h : validateRules rules allowed label = .ok ()) :
    ∀ r ∈ rules, r.1 ∈ allowed := by
  intro r hr
  by_contra hnot
  unfold validateRules at h
  split at h
  · next hnil =>
    have hmem : r.1 ∈ (rules.map (·.1)).dedup.filter (· ∉ allowed) :=
      List.mem_filter.mpr ⟨List.mem_dedup.mpr (List.mem_map_of_mem hr),
        by simpa using hnot⟩
    have hsorted := (List.mem_insertionSort (· ≤ ·)).mpr hmem
    rw [hnil] at hsorted
    cases hsorted
  · cases h

theorem validateWindow_within {start stop : TimeOfDay}
    (h : validateWindow s start stop = .ok ()) :
    windowWithinBound start stop s.hardCallingWindowStart
      s.hardCallingWindowEnd = .ok true := by
  unfold validateWindow at h
  split at h
  · cases h
  · split at h
    · cases h
    · next hw => exact hw
    · cases h

/-- What an accepted update has been checked for. -/
theorem validatePolicyUpdate_ok (h : validatePolicyUpdate l s data = .ok ()) :
    validateWindow s data.windowStart data.windowEnd = .ok () ∧
      validateRulesOf data.neverConnectedRules neverConnectedKeys
        "never_connected_rules" = .ok () ∧
      validateRulesOf data.midCallRules midCallKeys "mid_call_rules"
        = .ok () := by
  unfold validatePolicyUpdate at h
  split at h
  · cases h
  · split at h
    · cases h
    · split at h
      · cases h
      · split at h
        · cases h
        · next hw =>
          split at h
          · cases h
          · next hn => exact ⟨hw, hn, h⟩

theorem validateRulesOf_known {rules : Option (List (String × Bool))}
    {allowed : List String} {label : String}
    (h : validateRulesOf rules allowed label = .ok ()) :
    ∀ r ∈ rules.getD [], r.1 ∈ allowed := by
  cases rules with
  | none =>
      intro r hr
      cases hr
  | some rules => exact validateRules_known h

theorem mem_mergeRules {rules update : List (String × Bool)} {r : String × Bool}
    (h : r ∈ mergeRules rules update) : r ∈ rules ∨ r ∈ update := by
  rcases List.mem_append.mp h with hu | hr
  · exact .inr hu
  · exact .inl (List.mem_filter.mp hr).1

theorem buildDefaultPolicy_known (s : Settings) :
    (buildDefaultPolicy s).KnownRules := by
  constructor
  · show ∀ r ∈ defaultNeverConnectedRules, r.1 ∈ neverConnectedKeys
    decide
  · show ∀ r ∈ defaultMidCallRules, r.1 ∈ midCallKeys
    decide

/-- An accepted update brings no unknown reason. -/
theorem RetryPolicyUpdate.applyTo_known {p : RetryPolicy} (hp : p.KnownRules)
    (h : validatePolicyUpdate l s data = .ok ()) :
    (data.applyTo p).KnownRules := by
  obtain ⟨-, hn, hm⟩ := validatePolicyUpdate_ok h
  constructor
  · intro r hr
    rcases mem_mergeRules hr with h | h
    · exact hp.neverConnected r h
    · exact validateRulesOf_known hn r h
  · intro r hr
    rcases mem_mergeRules hr with h | h
    · exact hp.midCall r h
    · exact validateRulesOf_known hm r h

/-- Every stored policy has known rules only. -/
def Db.KnownRules (db : Db) : Prop :=
  ∀ c p, AList.lookup c db.retryPolicies = some p → p.KnownRules

theorem Db.KnownRules.effectivePolicy {db : Db} (h : db.KnownRules)
    (s : Settings) (c : CampaignId) : (db.effectivePolicy s c).KnownRules := by
  unfold Db.effectivePolicy
  cases hp : AList.lookup c db.retryPolicies with
  | none => exact buildDefaultPolicy_known s
  | some p => exact h c p hp

/-- The update keeps the rules of all policies known. -/
theorem putPolicy_known {env : Env} {db db' : Db} {c : CampaignId}
    (hdb : db.KnownRules) (h : putPolicy env l db c data = .ok db') :
    db'.KnownRules := by
  unfold putPolicy at h
  split at h
  · cases h
  · next hvalid =>
    split at h
    · cases h
    · split at h
      · cases h
      · cases h
        intro k p hp
        have hp : AList.lookup k (AList.insert c _ db.retryPolicies) = some p :=
          hp
        by_cases hk : k = c
        · subst hk
          rw [AList.lookup_insert] at hp
          obtain rfl := Option.some.inj hp
          exact RetryPolicyUpdate.applyTo_known (hdb.effectivePolicy _ _) hvalid
        · rw [AList.lookup_insert_ne hk] at hp
          exact hdb k p hp

/-- **The validator is exact.** It answers whether every time of day inside
the window lies inside the bound; and for the window of an accepted update
the bound never closes what the window has open. -/
theorem windowWithinBound_exact :
    (∀ start stop hardStart hardEnd : TimeOfDay, start < dayMicros →
      stop < dayMicros → start ≠ stop → hardStart ≠ hardEnd →
      ∃ b, windowWithinBound start stop hardStart hardEnd = .ok b ∧
        (b = true ↔ ∀ t, t < dayMicros → InWindow start stop t →
          InWindow hardStart hardEnd t)) ∧
    (∀ (l : PolicyLimits) (s : Settings) (data : RetryPolicyUpdate),
      validatePolicyUpdate l s data = .ok () → ∀ (tz : Zone) (now : Instant),
        isDialableNow now tz data.windowStart data.windowEnd
            s.hardCallingWindowStart s.hardCallingWindowEnd
          = isWithinCallingWindow now tz data.windowStart data.windowEnd) := by
  refine ⟨fun start stop hardStart hardEnd hstart hstop hne hhne => ?_,
    fun l s data h tz now => ?_⟩
  · cases hb : windowWithinBound start stop hardStart hardEnd with
    | error e => simp [windowWithinBound, intervals_eq hne, intervals_eq hhne] at hb
    | ok b =>
        refine ⟨b, rfl, ?_, fun h => ?_⟩
        · rintro rfl t ht hin
          exact windowWithinBound_sound hb ht hin
        · rw [windowWithinBound_complete hne hhne hstart hstop h] at hb
          exact (Except.ok.inj hb).symm
  · exact isDialableNow_of_within
      (validateWindow_within (validatePolicyUpdate_ok h).1)

/-- A window of the night inside a bound of the night, and an update that is
accepted under the default bound. -/
theorem windowWithinBound_exact_nights :
    (windowWithinBound (clock 22 0) (clock 5 30) (clock 21 0) (clock 6 0)
        = .ok true ∧
      ∀ t, t < dayMicros → InWindow (clock 22 0) (clock 5 30) t →
        InWindow (clock 21 0) (clock 6 0) t) ∧
    ∀ (tz : Zone) (now : Instant),
      isDialableNow now tz (clock 10 0) (clock 18 0) (clock 9 0) (clock 21 0)
        = isWithinCallingWindow now tz (clock 10 0) (clock 18 0) := by
  have hwithin : windowWithinBound (clock 22 0) (clock 5 30) (clock 21 0)
      (clock 6 0) = .ok true := by decide
  obtain ⟨b, hb, hiff⟩ := windowWithinBound_exact.1 (clock 22 0) (clock 5 30)
    (clock 21 0) (clock 6 0) (by decide) (by decide) (by decide) (by decide)
  rw [hwithin] at hb
  exact ⟨⟨hwithin, hiff.mp (Except.ok.inj hb).symm⟩,
    windowWithinBound_exact.2 {} {} ⟨2, [3600, 14400], clock 10 0, clock 18 0,
      none, none, none⟩ (by decide)⟩

end

end CallingAgent
