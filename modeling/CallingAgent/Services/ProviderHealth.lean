import CallingAgent.Lib.Run
import CallingAgent.Lib.SortedSet
import CallingAgent.Lib.Streak
import CallingAgent.Model.Redis
import CallingAgent.Services.Dialer

/-!
# Provider health — the failures that stop more than one call

The workers share a count in Redis: how many different contacts in a row
failed for good with one category. Where there are enough of them the
provider is at fault, and the contact is held. Any number of workers report
to it, in any order, and Redis may fail.
-/

namespace CallingAgent

open Lib

/-! ## Failures in a row -/

/-- What Redis did to the streak, and when. -/
inductive StreakEvent where
  /-- `note_permanent_failure` -/
  | failed (category : DograhErrorCategory) (contact : ContactId) (time : Nat)
  /-- `reset_streak` -/
  | cleared (time : Nat)
  deriving DecidableEq

namespace StreakEvent

def time : StreakEvent → Nat
  | .failed _ _ t | .cleared t => t

def contact? : StreakEvent → Option ContactId
  | .failed _ c _ => some c
  | .cleared _ => none

/-- The later failure has the same category, and comes before the streak is
forgotten. -/
def goesOn (ttl : Nat) : StreakEvent → StreakEvent → Bool
  | .failed category _ t, .failed category' _ t' =>
      category == category' && decide (t' ≤ t + ttl)
  | _, _ => false

end StreakEvent

/-- The contacts of the failures that a history ends with. -/
def streakContacts (ttl : Nat) (history : List StreakEvent) : List ContactId :=
  ((streak (StreakEvent.goesOn ttl) history).filterMap
    StreakEvent.contact?).dedup

/-- `provider_halt:streak:category` and `provider_halt:streak:contacts` -/
structure StreakKeys where
  category : Option (Expiring DograhErrorCategory) := none
  contacts : Option (Expiring (List ContactId)) := none

/-- `GET`: a key is gone once it has expired. -/
def liveValue {α : Type} (now : Nat) (key : Option (Expiring α)) : Option α :=
  (key.filter fun e => !decide (e.expireAt < now)).map (·.value)

/-- `_STREAK_SCRIPT` -/
def streakScript (ttl now : Nat) (keys : StreakKeys)
    (category : DograhErrorCategory) (contact : ContactId) :
    StreakKeys × Nat :=
  let members :=
    if liveValue now keys.category = some category then
      (liveValue now keys.contacts).getD []
    else []
  let members := if contact ∈ members then members else contact :: members
  (⟨some ⟨category, now + ttl⟩, some ⟨members, now + ttl⟩⟩, members.length)

/-- The category `note_permanent_failure` is called with, if it is. -/
def TriggerResponse.noted (r : TriggerResponse) : Option DograhErrorCategory :=
  r.error.bind fun e =>
    if (providerConfigurationCategory e).isSome then none
    else if (classifyTriggerError e).policy = .permanent then some e.category
    else none

/-- A response and what the dialer decided on it, with what Redis had done
to the streak by then. -/
structure HealthDecision where
  response : TriggerResponse
  contact : ContactId
  reply : RedisReply
  decision : TriggerDecision
  history : List StreakEvent

structure StreakState where
  now : Nat := 0
  keys : StreakKeys := {}
  /-- everything Redis did, the latest first -/
  history : List StreakEvent := []
  decisions : List HealthDecision := []

inductive StreakAct where
  | tick (elapsed : Nat)
  /-- a trigger is answered, and its worker decides -/
  | answered (response : TriggerResponse) (contact : ContactId)
      (reply : RedisReply)
  /-- a halt was engaged or released -/
  | halted (reply : RedisReply)

namespace StreakState

variable (s : StreakState)

/-- `reset_streak` -/
def clear (reply : RedisReply) : StreakState :=
  if reply = .refused then s
  else { s with keys := {}, history := .cleared s.now :: s.history }

/-- `note_trigger_accepted`, if the trigger was accepted -/
def noteAccepted (reply : RedisReply) : TriggerResponse → StreakState
  | .accepted _ => s.clear reply
  | _ => s

/-- `note_permanent_failure` -/
def note (ttl : Nat) (category : DograhErrorCategory) (contact : ContactId)
    (reply : RedisReply) : StreakState × Nat :=
  let r := streakScript ttl s.now s.keys category contact
  match reply with
  | .refused => (s, 0)
  | .lost =>
      ({ s with keys := r.1,
                history := .failed category contact s.now :: s.history }, 0)
  | .answered =>
      ({ s with keys := r.1,
                history := .failed category contact s.now :: s.history }, r.2)

/-- The dialer decides on the response. -/
def log (settings : Settings) (streak : Nat) (r : TriggerResponse)
    (contact : ContactId) (reply : RedisReply) : StreakState :=
  { s with decisions :=
      ⟨r, contact, reply, decideTrigger settings streak r, s.history⟩
        :: s.decisions }

end StreakState

/-- One step; `ttl` is `provider_halt_streak_ttl_seconds`. -/
def streakStep (settings : Settings) (ttl : Nat) (s : StreakState) :
    StreakAct → Option StreakState
  | .tick d => some { s with now := s.now + d }
  | .answered r contact reply =>
      match r.noted with
      | some category =>
          let x := s.note ttl category contact reply
          some (x.1.log settings x.2 r contact reply)
      | none => some ((s.noteAccepted reply r).log settings 0 r contact reply)
  | .halted reply => some (s.clear reply)

/-! ### The keys say what the history ends with -/

section

variable {ttl : Nat} {settings : Settings} {s s' : StreakState}

/-- The keys hold the streak of the history. -/
def StreakState.Agrees (ttl : Nat) (s : StreakState) : Prop :=
  match s.history with
  | .failed category _ t :: _ =>
      s.keys.category = some ⟨category, t + ttl⟩ ∧
        ∃ members, s.keys.contacts = some ⟨members, t + ttl⟩ ∧
          members.Nodup ∧
          ∀ c, c ∈ members ↔ c ∈ streakContacts ttl s.history
  | _ => s.keys.category = none ∧ s.keys.contacts = none

theorem mem_streakContacts {h : List StreakEvent} {c : ContactId} :
    c ∈ streakContacts ttl h ↔
      ∃ e ∈ streak (StreakEvent.goesOn ttl) h, e.contact? = some c := by
  simp [streakContacts, List.mem_dedup, List.mem_filterMap]

theorem liveValue_some {α : Type} {now expireAt : Nat} {v : α} :
    liveValue now (some ⟨v, expireAt⟩)
      = if now ≤ expireAt then some v else none := by
  by_cases h : now ≤ expireAt
  · simp [liveValue, Option.filter_some, h]
  · simp [liveValue, Option.filter_some, h]

variable {category : DograhErrorCategory} {contact : ContactId}

/-- A failure that goes on from the one before adds its contact. -/
theorem mem_streakContacts_goesOn {e : StreakEvent} {h : List StreakEvent}
    {c : ContactId} {now : Nat}
    (he : e.goesOn ttl (.failed category contact now) = true) :
    c ∈ streakContacts ttl (.failed category contact now :: e :: h) ↔
      c = contact ∨ c ∈ streakContacts ttl (e :: h) := by
  simp [mem_streakContacts, streak_cons_of_goesOn he, StreakEvent.contact?,
    eq_comm]

/-- One that does not starts over. -/
theorem mem_streakContacts_starts {h : List StreakEvent} {c : ContactId}
    {now : Nat}
    (hh : ∀ e ∈ h.head?, e.goesOn ttl (.failed category contact now) = false) :
    c ∈ streakContacts ttl (.failed category contact now :: h) ↔
      c = contact := by
  have hstreak : streak (StreakEvent.goesOn ttl)
      (.failed category contact now :: h) = [.failed category contact now] := by
    cases h with
    | nil => rfl
    | cons e h => exact streak_cons_of_stops (hh e rfl)
  simp [mem_streakContacts, hstreak, StreakEvent.contact?, eq_comm]

/-- The members the script starts from are the streak so far. -/
theorem scriptMembers (hs : s.Agrees ttl) (category : DograhErrorCategory)
    (contact : ContactId) :
    ∃ members : List ContactId,
      (if liveValue s.now s.keys.category = some category then
        (liveValue s.now s.keys.contacts).getD [] else []) = members ∧
      members.Nodup ∧
      ∀ c, (c = contact ∨ c ∈ members) ↔
        c ∈ streakContacts ttl (.failed category contact s.now :: s.history) := by
  unfold StreakState.Agrees at hs
  cases hh : s.history with
  | nil =>
      rw [hh] at hs
      refine ⟨[], by simp [hs.1, liveValue], List.nodup_nil, fun c => ?_⟩
      rw [mem_streakContacts_starts fun e he => by cases he]
      simp
  | cons e h =>
      rw [hh] at hs
      cases e with
      | cleared t =>
          refine ⟨[], by simp [hs.1, liveValue], List.nodup_nil, fun c => ?_⟩
          rw [mem_streakContacts_starts fun e he => by cases he; rfl]
          simp
      | failed category' contact' t =>
          obtain ⟨hcategory, members, hcontacts, hnodup, hmem⟩ := hs
          rw [hcategory, hcontacts, liveValue_some, liveValue_some]
          by_cases hlive : s.now ≤ t + ttl
          · by_cases hsame : category' = category
            · refine ⟨members, by simp [hlive, hsame], hnodup, fun c => ?_⟩
              rw [mem_streakContacts_goesOn (by
                simp [StreakEvent.goesOn, hsame, hlive]), hmem c]
            · refine ⟨[], by simp [hlive, hsame], List.nodup_nil, fun c => ?_⟩
              rw [mem_streakContacts_starts fun e he => by
                cases he
                simp [StreakEvent.goesOn, hsame]]
              simp
          · refine ⟨[], by simp [hlive], List.nodup_nil, fun c => ?_⟩
            rw [mem_streakContacts_starts fun e he => by
              cases he
              simp [StreakEvent.goesOn, hlive]]
            simp

/-- **The script counts the streak**, and keeps it. -/
theorem streakScript_agrees (hs : s.Agrees ttl)
    (category : DograhErrorCategory) (contact : ContactId) :
    StreakState.Agrees ttl { s with
        keys := (streakScript ttl s.now s.keys category contact).1
        history := .failed category contact s.now :: s.history } ∧
      (streakScript ttl s.now s.keys category contact).2
        = (streakContacts ttl
            (.failed category contact s.now :: s.history)).length := by
  obtain ⟨members, hmembers, hnodup, hmem⟩ := scriptMembers hs category contact
  unfold streakScript
  simp only [hmembers]
  have hadded : (if contact ∈ members then members else contact :: members).Nodup
      ∧ ∀ c, c ∈ (if contact ∈ members then members else contact :: members) ↔
        c ∈ streakContacts ttl (.failed category contact s.now :: s.history) := by
    by_cases hin : contact ∈ members
    · rw [if_pos hin]
      refine ⟨hnodup, fun c => ?_⟩
      rw [← hmem c]
      exact ⟨.inr, fun h => h.elim (· ▸ hin) id⟩
    · rw [if_neg hin]
      exact ⟨List.nodup_cons.mpr ⟨hin, hnodup⟩, fun c => by
        rw [← hmem c, List.mem_cons]⟩
  refine ⟨⟨rfl, _, rfl, hadded.1, hadded.2⟩, ?_⟩
  exact ((List.perm_ext_iff_of_nodup hadded.1 (List.nodup_dedup _)).mpr
    hadded.2).length_eq

end

/-! ### Over whole runs -/

section

variable {ttl : Nat} {settings : Settings} {s s' : StreakState}

/-- What a decision rests on: where a failure was noted and Redis answered,
the streak that this failure ends, otherwise nothing. -/
structure HealthDecision.Sound (settings : Settings) (ttl : Nat)
    (d : HealthDecision) : Prop where
  decision : d.decision = decideTrigger settings
    (if d.response.noted.isSome ∧ d.reply = .answered then
      (streakContacts ttl d.history).length else 0) d.response
  latest : ∀ category, d.response.noted = some category →
    d.reply = .answered →
    ∃ t earlier, d.history = .failed category d.contact t :: earlier

structure StreakState.Inv (settings : Settings) (ttl : Nat)
    (s : StreakState) : Prop where
  agrees : s.Agrees ttl
  decisions : ∀ d ∈ s.decisions, d.Sound settings ttl

theorem StreakState.Inv.fresh : StreakState.Inv settings ttl {} :=
  ⟨⟨rfl, rfl⟩, fun _ hd => absurd hd List.not_mem_nil⟩

theorem StreakState.Inv.clear (h : s.Inv settings ttl) (reply : RedisReply) :
    (s.clear reply).Inv settings ttl := by
  unfold StreakState.clear
  split
  · exact h
  · exact ⟨⟨rfl, rfl⟩, h.decisions⟩

theorem StreakState.Inv.log (h : s.Inv settings ttl) {n : Nat}
    {r : TriggerResponse} {contact : ContactId} {reply : RedisReply}
    (hn : n = if r.noted.isSome ∧ reply = .answered then
      (streakContacts ttl s.history).length else 0)
    (hlatest : ∀ category, r.noted = some category → reply = .answered →
      ∃ t earlier, s.history = .failed category contact t :: earlier) :
    (s.log settings n r contact reply).Inv settings ttl := by
  refine ⟨h.agrees, fun d hd => ?_⟩
  rcases List.mem_cons.mp hd with rfl | hd
  · exact ⟨congrArg (decideTrigger settings · r) hn, hlatest⟩
  · exact h.decisions d hd

/-- What `note_permanent_failure` leaves and answers. -/
theorem StreakState.Inv.note (h : s.Inv settings ttl)
    {category : DograhErrorCategory} {contact : ContactId} {reply : RedisReply} :
    (s.note ttl category contact reply).1.Inv settings ttl ∧
      (s.note ttl category contact reply).2
        = if reply = .answered then
            (streakContacts ttl
              (s.note ttl category contact reply).1.history).length
          else 0 := by
  obtain ⟨hagrees, hcount⟩ := streakScript_agrees h.agrees category contact
  cases reply with
  | refused => exact ⟨h, rfl⟩
  | lost => exact ⟨⟨hagrees, h.decisions⟩, rfl⟩
  | answered => exact ⟨⟨hagrees, h.decisions⟩, hcount⟩

theorem StreakState.Inv.step (h : s.Inv settings ttl) {a : StreakAct}
    (hs : streakStep settings ttl s a = some s') : s'.Inv settings ttl := by
  cases a with
  | tick d =>
      cases hs
      exact ⟨h.agrees, h.decisions⟩
  | halted reply =>
      cases hs
      exact h.clear reply
  | answered r contact reply =>
      simp only [streakStep] at hs
      split at hs
      · next category hnoted =>
        cases hs
        obtain ⟨hinv, hcount⟩ := h.note
        refine hinv.log (by rw [hcount, hnoted]; simp) fun c hc hreply => ?_
        rw [hnoted] at hc
        cases hc
        subst hreply
        exact ⟨s.now, s.history, rfl⟩
      · next hnoted =>
        cases hs
        have hclear : (s.noteAccepted reply r).Inv settings ttl := by
          unfold StreakState.noteAccepted
          split
          · exact h.clear reply
          · exact h
        refine hclear.log (by rw [hnoted]; rfl) fun c hc => ?_
        rw [hnoted] at hc
        cases hc

theorem providerConfigurationCategory_ne {e : DograhApiError} {c : String}
    (h : providerConfigurationCategory e = some c) : c ≠ "systemic_failure" := by
  unfold providerConfigurationCategory at h
  rintro rfl
  split at h
  · exact absurd (Option.some.inj h) (by decide)
  · split at h
    · exact absurd (Option.some.inj h) (by decide)
    · split at h
      · exact absurd (Option.some.inj h) (by decide)
      · cases h

/-- The dialer's decision on an error of the provider. -/
def errorDecision (settings : Settings) (streak : Nat) (e : DograhApiError) :
    TriggerDecision :=
  match providerConfigurationCategory e with
  | some category => .hold category
  | none =>
      match (classifyTriggerError e).policy with
      | .ambiguous => .reconcile (classifyTriggerError e)
      | .permanent =>
          if streak ≥ settings.providerHaltSystemicThreshold then
            .hold "systemic_failure"
          else .fail (classifyTriggerError e)
      | _ => .fail (classifyTriggerError e)

theorem decideTrigger_error {streak : Nat} {r : TriggerResponse}
    {e : DograhApiError} (he : r.error = some e) :
    decideTrigger settings streak r = errorDecision settings streak e := by
  cases r with
  | accepted runId => cases he
  | notConfigured => cases he
  | http status retryAfter =>
      cases he
      rfl
  | malformed status =>
      cases he
      rfl
  | transport f =>
      cases he
      rfl

/-- The dialer holds for a systemic failure when a failure is one of those
that are noted and the streak is long enough. -/
theorem decideTrigger_systemic {streak : Nat} {r : TriggerResponse} :
    decideTrigger settings streak r = .hold "systemic_failure" ↔
      r.noted.isSome = true ∧ settings.providerHaltSystemicThreshold ≤ streak := by
  cases he : r.error with
  | none =>
      have hnoted : r.noted = none := by
        rw [TriggerResponse.noted, he]
        rfl
      cases r with
      | accepted runId => simp [decideTrigger, hnoted]
      | notConfigured => simp [decideTrigger, hnoted]
      | http status retryAfter => cases he
      | malformed status => cases he
      | transport f => cases he
  | some e =>
      rw [decideTrigger_error he, errorDecision, TriggerResponse.noted, he,
        Option.bind_some]
      cases hc : providerConfigurationCategory e with
      | some category => simp [providerConfigurationCategory_ne hc]
      | none =>
          cases hp : (classifyTriggerError e).policy <;> simp

/-- **A systemic hold is exact.** In every run of any number of workers, with
whatever Redis does: a worker holds its contact for a systemic failure if and
only if its trigger failed for good, Redis answered, and the failures that
end with this one are of enough different contacts. These are the failures
back to the last accepted trigger, halt or release, failure of another
category, or silence of `ttl`. -/
theorem systemic_hold_exact (settings : Settings) (ttl : Nat)
    (s : StreakState) (hthreshold : 0 < settings.providerHaltSystemicThreshold)
    (h : Run (streakStep settings ttl) (fun _ _ => True) {} s) :
    ∀ d ∈ s.decisions,
      (d.decision = .hold "systemic_failure" ↔
        ∃ category t earlier, d.response.noted = some category ∧
          d.history = .failed category d.contact t :: earlier ∧
          d.reply = .answered ∧
          settings.providerHaltSystemicThreshold
            ≤ (streakContacts ttl d.history).length) ∧
      ∀ c, c ∈ streakContacts ttl d.history ↔
        ∃ later category t earlier,
          d.history = later ++ .failed category c t :: earlier ∧
          List.IsChain (fun b a => StreakEvent.goesOn ttl a b = true)
            (later ++ [.failed category c t]) := by
  have hinv : s.Inv settings ttl :=
    h.inv (fun _ _ _ hi _ hs => hi.step hs) .fresh
  intro d hd
  have hsound := hinv.decisions d hd
  constructor
  · rw [hsound.decision, decideTrigger_systemic]
    constructor
    · rintro ⟨hnoted, hlong⟩
      obtain ⟨category, hcategory⟩ := Option.isSome_iff_exists.mp hnoted
      by_cases hreply : d.reply = .answered
      · obtain ⟨t, earlier, hhistory⟩ := hsound.latest category hcategory hreply
        rw [if_pos ⟨hnoted, hreply⟩] at hlong
        exact ⟨category, t, earlier, hcategory, hhistory, hreply, hlong⟩
      · rw [if_neg fun hand => hreply hand.2] at hlong
        omega
    · rintro ⟨category, t, earlier, hcategory, -, hreply, hlong⟩
      have hnoted : d.response.noted.isSome = true := by rw [hcategory]; rfl
      rw [if_pos ⟨hnoted, hreply⟩]
      exact ⟨hnoted, hlong⟩
  · intro c
    rw [mem_streakContacts]
    constructor
    · rintro ⟨e, he, hc⟩
      obtain ⟨later, earlier, hhistory, hchain⟩ := mem_streak_iff.mp he
      cases e with
      | cleared t => cases hc
      | failed category c' t =>
          cases hc
          exact ⟨later, category, t, earlier, hhistory, hchain⟩
    · rintro ⟨later, category, t, earlier, hhistory, hchain⟩
      exact ⟨.failed category c t,
        mem_streak_iff.mpr ⟨later, earlier, hhistory, hchain⟩, rfl⟩

/-- Two different contacts fail for good, the first one twice. -/
theorem systemic_hold_second :
    ∃ s, runActs (streakStep { providerHaltSystemicThreshold := 2 } 3600000) {}
        [.answered (.http 422 none) 1 .answered, .tick 1000,
          .answered (.http 422 none) 1 .answered,
          .answered (.http 422 none) 2 .answered] = some s ∧
      s.decisions.map (fun d => d.decision == .hold "systemic_failure")
        = [true, false, false] ∧
      ∀ d ∈ s.decisions, d.decision = .hold "systemic_failure" →
        2 ≤ (streakContacts 3600000 d.history).length := by
  have hany : (runActs
      (streakStep { providerHaltSystemicThreshold := 2 } 3600000) {}
      [.answered (.http 422 none) 1 .answered, .tick 1000,
        .answered (.http 422 none) 1 .answered,
        .answered (.http 422 none) 2 .answered]).any (fun s => decide
      (s.decisions.map (fun d => d.decision == .hold "systemic_failure")
        = [true, false, false])) = true := by
    decide +kernel
  obtain ⟨s, hs, hdec⟩ := (Option.any_eq_true _ _).mp hany
  have hexact := systemic_hold_exact { providerHaltSystemicThreshold := 2 }
    3600000 s (by decide) (Run.of_runActs hs)
  refine ⟨s, hs, of_decide_eq_true hdec, fun d hd hhold => ?_⟩
  obtain ⟨_, _, _, _, _, _, hlong⟩ := (hexact d hd).1.mp hhold
  exact hlong

end

end CallingAgent
