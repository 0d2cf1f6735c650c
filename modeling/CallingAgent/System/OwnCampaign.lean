import CallingAgent.System.Closed
import CallingAgent.System.RetryBudget

/-!
# Own campaign — what a dial knows of its contact when the call leaves

A job carries the campaign it was queued for. While it is queued, held or
scheduled, the contact can be associated with another campaign, and the
dial checks the campaign of the job; between its check and its trigger the
campaign can be paused and its window can close. Every call is judged here
at the moment it is asked for.
-/

namespace CallingAgent

open Lib

/-! ## The rule -/

/-- A campaign with this row is active and inside its own window. -/
def campaignOpen (env : Env) (db : Db) (g : CampaignId) (row : Campaign)
    (now : Instant) : Bool :=
  row.status == .active
    && match windowIsOpen env row (db.effectivePolicy env.settings g) now with
      | .ok b => b
      | .error _ => false

/-- The campaign the contact belongs to is active and inside its own
window. -/
def currentCampaignOpen (env : Env) (db : Db) (c : ContactId)
    (now : Instant) : Bool :=
  (db.contact c).any fun x => (db.campaign x.campaignId).any fun row =>
    campaignOpen env db x.campaignId row now

/-- This step of a worker asks its provider for a call: on dograh when the
trigger request leaves, on the native engine behind the claim. -/
def placesCall (env : Env) (s : System) (k : Worker) : WorkerAct → Bool
  | .send =>
      match k.phase with
      | .claimed _ _ => (s.db.contact k.job.contactId).isSome
      | _ => false
  | .gate reads _ _ =>
      match k.phase with
      | .ready view =>
          env.settings.callingEngine == .native
            && outboundGate env.settings reads == .open
            && match claimAttempt env s.db k.job view k.startedAt s.now with
              | .claimed _ _ _ => true
              | .lost => false
      | _ => false
  | _ => false

/-- The contact for whom a step asks for a call. -/
def System.calls (env : Env) (s : System) : SystemAct → Option ContactId
  | .worker w act => (s.worker w).bind fun k =>
      if placesCall env s k act then some k.job.contactId else none
  | _ => none

/-- A call that was asked for, with the database and the clock at that
moment. -/
structure Placement where
  contact : ContactId
  db : Db
  at_ : Instant

structure DialHistory where
  system : System
  placed : List Placement := []

def dialHistoryStep (env : Env) (h : DialHistory) (act : SystemAct) :
    Option DialHistory :=
  (systemStep env h.system act).map fun s' =>
    { system := s'
      placed := match h.system.calls env act with
        | some c => ⟨c, h.system.db, h.system.now⟩ :: h.placed
        | none => h.placed }

/-- Every call was asked for while the contact's own campaign was open. -/
def DialHistory.Respected (env : Env) (h : DialHistory) : Prop :=
  ∀ p ∈ h.placed, currentCampaignOpen env p.db p.contact p.at_ = true

instance (env : Env) (h : DialHistory) : Decidable (h.Respected env) :=
  inferInstanceAs (Decidable (∀ p ∈ h.placed, _))

/-! ## The condition -/

/-- Every run between its checks and its trigger is for a contact of which
`P` holds. -/
def System.pendingAll (s : System) (P : ContactId → Bool) : Bool :=
  !s.workers.any fun _ k => k.phase.behindChecks && !P k.job.contactId

/-- A check is for the contact's own campaign, or that one is open as well;
and behind a check nothing closes the campaign of the contact: it moves to
an open campaign only, its campaign is not updated to a closed one, and the
clock stays inside the window. -/
def keepsOpen (env : Env) (s : System) : SystemAct → Bool
  | .worker w .check => (s.worker w).all fun k =>
      (s.db.contact k.job.contactId).all fun x =>
        x.campaignId == k.job.campaignId
          || currentCampaignOpen env s.db k.job.contactId s.now
  | .service (.associate g c) true => s.pendingAll fun c' => c' != c
      || (s.db.campaign g).all fun row => campaignOpen env s.db g row s.now
  | .service (.updateCampaign g data) true => s.pendingAll fun c =>
      (s.db.contact c).all fun x => x.campaignId != g
        || (s.db.campaign g).all fun row =>
          campaignOpen env s.db g (data.applied row) s.now
  | .tick d => s.pendingAll fun c =>
      currentCampaignOpen env s.db c (s.now + d + 1)
  | _ => true

/-- Behind its checks a run is for a contact whose campaign is open. -/
def System.OpenBehindChecks (env : Env) (s : System) : Prop :=
  ∀ w k, s.worker w = some k → k.phase.behindChecks = true →
    currentCampaignOpen env s.db k.job.contactId s.now = true

/-! ## One step -/

section

variable {env : Env} {s s' : System} {act : SystemAct} {c : ContactId}
  {now : Instant}

theorem currentCampaignOpen_iff {db : Db} :
    currentCampaignOpen env db c now = true ↔
      ∃ x row, db.contact c = some x ∧ db.campaign x.campaignId = some row ∧
        campaignOpen env db x.campaignId row now = true := by
  unfold currentCampaignOpen
  constructor
  · intro h
    obtain ⟨x, hx, h⟩ := (Option.any_eq_true _ _).mp h
    obtain ⟨row, hrow, h⟩ := (Option.any_eq_true _ _).mp h
    exact ⟨x, row, hx, hrow, h⟩
  · rintro ⟨x, row, hx, hrow, h⟩
    rw [hx, Option.any_some, hrow, Option.any_some]
    exact h

/-- A campaign that was there keeps its policy. -/
theorem SystemEffect.open_eq (he : SystemEffect env s act s')
    {g : CampaignId} (hg : (s.db.campaign g).isSome = true) (row : Campaign) :
    campaignOpen env s'.db g row now = campaignOpen env s.db g row now := by
  unfold campaignOpen Db.effectivePolicy
  rw [he.policies g hg]

theorem System.pendingAll_of_worker (P : ContactId → Bool)
    (h : s.pendingAll P = true) {w : WorkerId} {k : Worker}
    (hk : s.worker w = some k) (hb : k.phase.behindChecks = true) :
    P k.job.contactId = true := by
  have hnone := Table.any_eq_false.mp ((Bool.not_eq_true' _).mp h) w k hk
  rw [hb, Bool.true_and, Bool.not_eq_false'] at hnone
  exact hnone

/-- An open campaign stays open, unless an update closes it. -/
theorem SystemEffect.campaign_open (he : SystemEffect env s act s')
    {g : CampaignId} {row : Campaign} (hrow : s.db.campaign g = some row)
    (hopen : campaignOpen env s.db g row now = true)
    (hupd : ∀ data, act = .service (.updateCampaign g data) true →
      campaignOpen env s.db g (data.applied row) now = true) :
    ∃ row', s'.db.campaign g = some row' ∧
      campaignOpen env s'.db g row' now = true := by
  have hg : (s.db.campaign g).isSome = true := by
    rw [hrow]
    rfl
  obtain ⟨row', hrow', hch⟩ := he.campaigns g row hrow
  refine ⟨row', hrow', ?_⟩
  rw [he.open_eq hg]
  cases hch with
  | same => exact hopen
  | updated => exact hupd _ rfl

/-- The campaign of a contact stays open, unless the contact moves or the
campaign is updated to a closed one. -/
theorem SystemEffect.current_open (he : SystemEffect env s act s')
    (hopen : currentCampaignOpen env s.db c now = true)
    (hmove : ∀ g row, act = .service (.associate g c) true →
      s.db.campaign g = some row → campaignOpen env s.db g row now = true)
    (hupd : ∀ g data x row, act = .service (.updateCampaign g data) true →
      s.db.contact c = some x → x.campaignId = g → s.db.campaign g = some row →
      campaignOpen env s.db g (data.applied row) now = true) :
    currentCampaignOpen env s'.db c now = true := by
  obtain ⟨x, row, hx, hrow, hopen⟩ := currentCampaignOpen_iff.mp hopen
  obtain ⟨x', hx', hch⟩ := he.contact c x hx
  have hstays : x'.campaignId = x.campaignId →
      currentCampaignOpen env s'.db c now = true := by
    intro hsame
    obtain ⟨row', hrow', hopen'⟩ := he.campaign_open hrow hopen
      fun data hact => hupd _ data x row hact hx rfl hrow
    exact currentCampaignOpen_iff.mpr
      ⟨x', row', hx', hsame ▸ hrow', hsame ▸ hopen'⟩
  cases hfix : fixedCampaign act with
  | true => exact hstays (hch.campaign hfix)
  | false =>
      -- only an association can have moved it
      cases hch with
      | same => exact hstays rfl
      | service change =>
          cases change with
          | moved open_ away target =>
              obtain ⟨row, hrow⟩ := Option.isSome_iff_exists.mp target
              obtain ⟨row', hrow', hopen'⟩ := he.campaign_open hrow
                (hmove _ row rfl hrow) fun _ h => by cases h
              exact currentCampaignOpen_iff.mpr ⟨_, row', hx', hrow', hopen'⟩
          | same => exact hstays rfl
          | _ => cases hfix
      | worker => cases hfix
      | dispatched => cases hfix
      | parked => cases hfix

/-- A check that passes for the contact's own campaign found it open. -/
theorem DialView.Passed.current_open {k : Worker} {view : DialView}
    (hp : view.Passed env s.db k.job s.now) {w : WorkerId}
    (hk : s.worker w = some k)
    (hkeep : keepsOpen env s (.worker w .check) = true) :
    currentCampaignOpen env s.db k.job.contactId s.now = true := by
  simp only [keepsOpen, hk, Option.all_some, hp.contact, Bool.or_eq_true,
    beq_iff_eq] at hkeep
  rcases hkeep with hsame | hopen
  · obtain ⟨campaign, hrow, he⟩ := hp.eligible
    refine currentCampaignOpen_iff.mpr
      ⟨view.contact, campaign, hp.contact, hsame ▸ hrow, ?_⟩
    unfold campaignOpen
    rw [hsame, he.campaignActive, he.windowOpen]
    rfl
  · exact hopen

/-- A pending run's campaign stays open in a kept step. -/
theorem current_open_kept {w : WorkerId} {k : Worker}
    (hk : s.worker w = some k) (hb : k.phase.behindChecks = true)
    (hopen : currentCampaignOpen env s.db k.job.contactId s.now = true)
    (hkeep : keepsOpen env s act = true)
    (h : systemStep env s act = some s') :
    currentCampaignOpen env s'.db k.job.contactId s'.now = true := by
  rcases systemStep_clock h with hnow | ⟨d, rfl, rfl⟩
  · rw [hnow]
    refine (systemStep_effect h).current_open hopen ?_ ?_
    · rintro g row rfl hrow
      simp only [keepsOpen] at hkeep
      have hp := System.pendingAll_of_worker _ hkeep hk hb
      simpa [hrow] using hp
    · rintro g data x row rfl hx rfl hrow
      simp only [keepsOpen] at hkeep
      have hp := System.pendingAll_of_worker _ hkeep hk hb
      simpa [hx, hrow] using hp
  · simp only [keepsOpen] at hkeep
    exact System.pendingAll_of_worker _ hkeep hk hb

/-- **One step keeps every pending run's campaign open.** -/
theorem System.OpenBehindChecks.step (hi : s.OpenBehindChecks env)
    (hkeep : keepsOpen env s act = true)
    (h : systemStep env s act = some s') : s'.OpenBehindChecks env := by
  intro w k hk hb
  rcases systemStep_worker h hk with ⟨hold, -⟩ |
    ⟨m, job, startedAt, rfl, rfl⟩ | ⟨wact, k₀, r, phase, rfl, hk₀, hr, rfl,
      hphase, rfl⟩
  · exact current_open_kept hold hb (hi w k hold hb) hkeep h
  · cases hb
  · have hpassed : ∀ {view : DialView}, wact = .check →
        (dialCheck env s.db k₀.job s.now).view = some view →
        currentCampaignOpen env (s.advance w k₀ r).db k₀.job.contactId
          s.now = true := by
      rintro view rfl hv
      have hopen := (dialCheck_passed hv).current_open hk₀ hkeep
      exact (systemStep_effect h).current_open hopen
        (fun _ _ hact => by cases hact) fun _ _ _ _ hact => by cases hact
    have hbehind : k₀.phase.behindChecks = true →
        currentCampaignOpen env (s.advance w k₀ r).db k₀.job.contactId
          (s.advance w k₀ r).now = true :=
      fun hb₀ => current_open_kept hk₀ hb₀ (hi w k₀ hk₀ hb₀) hkeep h
    cases workerStep_phase hr hphase with
    | secondGate check => exact hpassed rfl (by rw [check]; rfl)
    | ready check => exact hpassed rfl (by rw [check]; rfl)
    | passed phase gate => exact hbehind (by rw [phase]; rfl)
    | claimed phase => exact hbehind (by rw [phase]; rfl)
    | _ => cases hb

/-- A call is asked for by a run behind its checks. -/
theorem System.calls_behindChecks (h : s.calls env act = some c) :
    ∃ w k, s.worker w = some k ∧ k.job.contactId = c ∧
      k.phase.behindChecks = true := by
  cases act with
  | worker w wact =>
      obtain ⟨k, hk, hcall⟩ := Option.bind_eq_some_iff.mp h
      split at hcall
      · next hplaces =>
        cases hcall
        refine ⟨w, k, hk, rfl, ?_⟩
        unfold placesCall at hplaces
        split at hplaces
        · split at hplaces
          · next hp => rw [hp]; rfl
          · cases hplaces
        · split at hplaces
          · next hp => rw [hp]; rfl
          · cases hplaces
        · cases hplaces
      · cases hcall
  | _ => cases h

/-! ## Runs -/

/-- Nothing is in progress and nobody was called. -/
structure DialHistory.Idle (h : DialHistory) : Prop where
  workers : ∀ w, h.system.worker w = none
  placed : h.placed = []

/-- **A dial respects the contact's campaign, under a condition.** In every
run in which each check is for the contact's own campaign, or that one is
open as well, and behind a check nothing closes the campaign of the contact
(by a move, an update or the clock), every call is asked for while the
campaign the contact belongs to is active and inside its own window. -/
theorem run_respected {h₀ h : DialHistory} (hidle : h₀.Idle)
    (hrun : Run (dialHistoryStep env)
      (fun h act => keepsOpen env h.system act = true) h₀ h) :
    h.Respected env := by
  have hi : h.system.OpenBehindChecks env ∧ h.Respected env := by
    refine Run.inv (P := fun h => h.system.OpenBehindChecks env ∧
      h.Respected env) ?_ hrun ⟨fun w k hk => ?_, fun p hp => ?_⟩
    · rintro t act t' ⟨hopen, hres⟩ hkeep hst
      obtain ⟨s', hs, rfl⟩ := Option.map_eq_some_iff.mp hst
      refine ⟨hopen.step hkeep hs, fun p hp => ?_⟩
      dsimp only at hp
      split at hp
      · next c hcall =>
        rcases List.mem_cons.mp hp with rfl | hp
        · obtain ⟨w, k, hk, rfl, hb⟩ := System.calls_behindChecks hcall
          exact hopen w k hk hb
        · exact hres p hp
      · exact hres p hp
    · rw [hidle.workers w] at hk
      cases hk
    · rw [hidle.placed] at hp
      cases hp
  exact hi.2

end

/-! ## A contact that moved while its job was queued -/

/-- Contact 1 waits in the active campaign 1; campaign 2 is a draft. -/
def draftBeside : DialHistory where
  system := { db := twoCampaigns, now := noon }

/-- Queued for campaign 1, moved to campaign 2, and dialed. -/
def movedWhileQueued : List SystemAct :=
  [.enqueue 1 (fun _ => 1) quietGate, .service (.associate 2 1) true]
    ++ untilClaimed 1 1 ++ [.worker 1 .send]

/-- Its campaign is paused between the check and the trigger. -/
def pausedBehindCheck : List SystemAct :=
  [.enqueue 1 (fun _ => 1) quietGate, .read 1 1 noon,
    .worker 1 (.early quietGate), .worker 1 .acquire, .worker 1 .check,
    .service (.updateCampaign 1 { status := some .paused }) true,
    .worker 1 (.gate quietGate ⟨"", none, false⟩ true), .worker 1 .send]

/-- Each of the two triggers leaves although the contact's own campaign is
not active. -/
theorem movedContact_dialed :
    (∃ h, runActs (dialHistoryStep dograhEnv) draftBeside movedWhileQueued
      = some h ∧ ¬ h.Respected dograhEnv) ∧
    ∃ h, runActs (dialHistoryStep dograhEnv) draftBeside pausedBehindCheck
      = some h ∧ ¬ h.Respected dograhEnv := by
  have hrun : ∀ acts ∈ [movedWhileQueued, pausedBehindCheck],
      (runActs (dialHistoryStep dograhEnv) draftBeside acts).any
        (fun h => decide (¬ h.Respected dograhEnv)) = true := by
    decide +kernel
  constructor
  · obtain ⟨h, hh, hn⟩ := (Option.any_eq_true _ _).mp
      (hrun movedWhileQueued List.mem_cons_self)
    exact ⟨h, hh, of_decide_eq_true hn⟩
  · obtain ⟨h, hh, hn⟩ := (Option.any_eq_true _ _).mp
      (hrun pausedBehindCheck (List.mem_cons_of_mem _ List.mem_cons_self))
    exact ⟨h, hh, of_decide_eq_true hn⟩

/-- The contact moves to the active campaign 2 first; its timezone changes
and an hour passes between the check and the trigger. -/
def movedBeforeQueued : List SystemAct :=
  [.service (.associate 2 1) true, .enqueue 2 (fun _ => 1) quietGate,
    .read 1 1 noon, .worker 1 (.early quietGate), .worker 1 .acquire,
    .worker 1 .check,
    .service (.updateCampaign 2 { timezone := some "Asia/Kolkata" }) true,
    .tick 3600000000, .worker 1 (.gate quietGate ⟨"", none, false⟩ true),
    .worker 1 .send]

theorem movedContact_respected :
    ∃ h, runActs (dialHistoryStep dograhEnv) ⟨twoActive, []⟩ movedBeforeQueued
        = some h ∧
      h.placed.length = 1 ∧ h.Respected dograhEnv := by
  obtain ⟨h, hh, hrun⟩ := Run.of_holdsAlong (dialHistoryStep dograhEnv)
    (fun h act => keepsOpen dograhEnv h.system act) ⟨twoActive, []⟩
    movedBeforeQueued (by decide +kernel)
  have hlen : (runActs (dialHistoryStep dograhEnv) ⟨twoActive, []⟩
      movedBeforeQueued).map (·.placed.length) = some 1 := by
    decide +kernel
  rw [hh] at hlen
  exact ⟨h, hh, Option.some.inj hlen,
    run_respected ⟨fun _ => rfl, rfl⟩ hrun⟩

end CallingAgent
