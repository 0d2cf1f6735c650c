import CallingAgent.Services.BudgetDays
import CallingAgent.System.ProviderHold

/-!
# The daily dial cap — how far it can be overshot

The workers of a process share a cached budget status. A dial asks the gate
right before its claim, so what a status can miss is what was committed
since it was read, and a status is used for a short time only. What no status
counts is a dial outside the window of its own date.
-/

namespace CallingAgent

open Lib

/-! ## The system with its processes -/

abbrev ProcessId := Nat

structure CapSystem where
  sys : System
  processes : ProcessId → BudgetProcess

/-- What happens beside the steps of the system. -/
inductive CapAct where
  /-- a step of the system; the budget can be read or not -/
  | system (act : SystemAct) (readable : Bool)
  /-- the gate is asked elsewhere in a process -/
  | consult (p : ProcessId) (readable : Bool)
  | configure (p : ProcessId) (config : BudgetConfig) (cacheTtl : Int)
  /-- `reset_state`, or a new process -/
  | reset (p : ProcessId)

/-- The worker that asks the gate in a step, and what it reads of the
controls. -/
def SystemAct.asks : SystemAct → Option (WorkerId × GateReads)
  | .worker w (.early reads) | .worker w (.gate reads _ _) => some (w, reads)
  | _ => none

/-- The same step with what the worker is told of the budget. -/
def SystemAct.told (budget : WorkerId → Read BudgetStatus) :
    SystemAct → SystemAct
  | .worker w (.early reads) =>
      .worker w (.early { reads with budget := budget w })
  | .worker w (.gate reads native commits) =>
      .worker w (.gate { reads with budget := budget w } native commits)
  | act => act

/-- The budget is asked once the stops are found open. -/
def stopsOpen (s : Settings) (reads : GateReads) : Bool :=
  killSwitchGate s reads == .open && providerHaltGate reads == .open

section

variable (env : Env) (host : WorkerId → ProcessId) (s : CapSystem)

/-- What `current_status` gives a process now. -/
def CapSystem.status (p : ProcessId) (readable : Bool) : Read DayStatus :=
  (currentStatus env s.sys.db s.sys.now readable (s.processes p)).1

/-- One process is replaced. -/
def CapSystem.setProcess (p : ProcessId) (process : BudgetProcess) :
    CapSystem :=
  { s with processes := fun q => if q = p then process else s.processes q }

/-- A process has asked. -/
def CapSystem.consult (p : ProcessId) (readable : Bool) : CapSystem :=
  s.setProcess p
    (currentStatus env s.sys.db s.sys.now readable (s.processes p)).2

/-- What a worker finds at the gate. -/
def CapSystem.gateReads (w : WorkerId) (reads : GateReads)
    (readable : Bool) : GateReads :=
  { reads with budget := budgetRead (s.status env (host w) readable) }

/-- The process of the worker that asks in a step has asked. -/
def CapSystem.afterAsking (act : SystemAct) (readable : Bool) : CapSystem :=
  match act.asks with
  | some (w, reads) =>
      if stopsOpen env.settings reads then s.consult env (host w) readable
      else s
  | none => s

def capStep : CapAct → Option CapSystem
  | .system act readable =>
      (systemStep env s.sys (act.told fun w =>
          budgetRead (s.status env (host w) readable))).map fun sys =>
        { s.afterAsking env host act readable with sys }
  | .consult p readable => some (s.consult env p readable)
  | .configure p config cacheTtl =>
      some (s.setProcess p { s.processes p with config, cacheTtl })
  | .reset p => some (s.setProcess p { s.processes p with cache := none })

end

/-! ## The clock -/

/-- Nothing was started or stored in the future. -/
structure CapSystem.Clocked (s : CapSystem) : Prop where
  started : ∀ a y, s.sys.db.attempt a = some y → y.startedAt ≤ s.sys.now
  workers : ∀ w k, s.sys.worker w = some k → k.startedAt ≤ s.sys.now
  stored : ∀ p e, (s.processes p).cache = some e → e.storedAt ≤ s.sys.now

section

variable {env : Env} {host : WorkerId → ProcessId}

theorem systemStep_now {s s' : System} {act : SystemAct}
    (h : systemStep env s act = some s') : s.now ≤ s'.now := by
  rcases systemStep_clock h with hnow | ⟨d, -, rfl⟩
  · exact hnow.ge
  · show s.now ≤ s.now + (d : Int) + 1
    exact (Int.le_add_of_nonneg_right (Int.natCast_nonneg d)).trans
      (Int.le_add_of_nonneg_right (by decide))

/-- A row keeps its start, or is resumed now. -/
theorem CallChange.startedAt {s : System} {a : AttemptId} {y y' : CallAttempt}
    {act : SystemAct} (h : CallChange env s a y act y') :
    y'.startedAt = y.startedAt ∨ y'.startedAt = s.now := by
  cases h with
  | same => exact .inl rfl
  | service change =>
      cases change with
      | webhook found about row =>
          refine .inl ?_
          unfold endAttempt identifyRun
          split <;> dsimp only <;> split <;> rfl
      | same => exact .inl rfl
      | connected => exact .inl rfl
      | failed => exact .inl rfl
      | swept => exact .inl rfl
      | ended => exact .inl rfl
      | dropped => exact .inl rfl
  | worker running change =>
      cases change with
      | same => exact .inl rfl
      | reopened phase found state noRun row =>
          rcases row with rfl | ⟨run, -, rfl⟩ <;> exact .inl rfl
      | ran => exact .inl rfl
      | resumed => exact .inr rfl
      | native phase engine answer row =>
          unfold nativeAttempt
          rcases row with rfl | ⟨-, rfl⟩
          · refine .inl ?_
            split <;> rfl
          · refine .inr ?_
            split <;> rfl
      | held => exact .inl rfl
      | failed => exact .inl rfl

/-- A new row carries the start of its worker's transaction. -/
theorem WorkerInsert.startedAt {s : System} {k : Worker} {wact : WorkerAct}
    {y : CallAttempt} (h : WorkerInsert env s k wact y) :
    y.startedAt = k.startedAt := by
  cases h with
  | claimed => rfl
  | native phase held engine answer =>
      unfold nativeAttempt
      split <;> rfl

/-- The database and the clock after a step come from a step of the system,
or are the same. -/
theorem capStep_sys {s s' : CapSystem} {act : CapAct}
    (h : capStep env host s act = some s') :
    s'.sys = s.sys ∨ ∃ sact, systemStep env s.sys sact = some s'.sys := by
  cases act with
  | system sact readable =>
      obtain ⟨sys, hsys, rfl⟩ := Option.map_eq_some_iff.mp h
      exact .inr ⟨_, hsys⟩
  | consult p readable => cases h; exact .inl rfl
  | configure p config cacheTtl => cases h; exact .inl rfl
  | reset p => cases h; exact .inl rfl

theorem capStep_now {s s' : CapSystem} {act : CapAct}
    (h : capStep env host s act = some s') : s.sys.now ≤ s'.sys.now := by
  rcases capStep_sys h with heq | ⟨sact, hs⟩
  · rw [heq]
  · exact systemStep_now hs

/-- A status a process has just read. -/
def CapSystem.ReadNow (env : Env) (s : CapSystem) (e : CachedStatus) : Prop :=
  ∃ config tz, loadTimezone env config.budgetTimezone = .ok tz ∧
    e = ⟨s.sys.now, config, computeStatus config s.sys.db s.sys.now tz⟩

theorem CapSystem.setProcess_cache {s : CapSystem} {p q : ProcessId}
    {process : BudgetProcess} {e : CachedStatus}
    (h : ((s.setProcess q process).processes p).cache = some e) :
    (s.processes p).cache = some e ∨ p = q ∧ process.cache = some e := by
  simp only [CapSystem.setProcess] at h
  split at h
  · next hp => exact .inr ⟨hp, h⟩
  · exact .inl h

theorem CapSystem.consult_cache {s : CapSystem} {p q : ProcessId}
    {readable : Bool} {e : CachedStatus}
    (h : ((s.consult env q readable).processes p).cache = some e) :
    (s.processes p).cache = some e ∨ s.ReadNow env e := by
  rcases CapSystem.setProcess_cache h with hold | ⟨rfl, hnew⟩
  · exact .inl hold
  · rcases currentStatus_cache hnew with hold | ⟨tz, htz, rfl⟩
    · exact .inl hold
    · exact .inr ⟨_, tz, htz, rfl⟩

/-- What a process has cached after a step it had cached before, or it has
read it in this step. -/
theorem capStep_cache {s s' : CapSystem} {act : CapAct}
    (h : capStep env host s act = some s') {p : ProcessId} {e : CachedStatus}
    (he : (s'.processes p).cache = some e) :
    (s.processes p).cache = some e ∨ s.ReadNow env e := by
  cases act with
  | system sact readable =>
      obtain ⟨sys, -, rfl⟩ := Option.map_eq_some_iff.mp h
      simp only [CapSystem.afterAsking] at he
      split at he
      · split at he
        · exact CapSystem.consult_cache he
        · exact .inl he
      · exact .inl he
  | consult q readable =>
      cases h
      exact CapSystem.consult_cache he
  | configure q config cacheTtl =>
      cases h
      rcases CapSystem.setProcess_cache he with hold | ⟨rfl, hold⟩
      · exact .inl hold
      · exact .inl hold
  | reset q =>
      cases h
      rcases CapSystem.setProcess_cache he with hold | ⟨rfl, hnone⟩
      · exact .inl hold
      · cases hnone

/-- **Nothing comes from the future.** -/
theorem CapSystem.Clocked.step {s s' : CapSystem} {act : CapAct}
    (hi : s.Clocked) (h : capStep env host s act = some s') : s'.Clocked := by
  have hnow := capStep_now h
  constructor
  case stored =>
    intro p e he
    rcases capStep_cache h he with hold | ⟨config, tz, -, rfl⟩
    · exact le_trans (hi.stored p e hold) hnow
    · exact hnow
  case started =>
    intro a y' hy'
    rcases capStep_sys h with heq | ⟨sact, hs⟩
    · rw [heq] at hy' ⊢
      exact hi.started a y' hy'
    · have he := systemStep_effect hs
      cases hy : s.sys.db.attempt a with
      | none =>
          obtain ⟨w, k, wact, -, hk, -, -, hins⟩ := he.inserted a y' hy hy'
          rw [hins.startedAt]
          exact le_trans (hi.workers w k hk) hnow
      | some y =>
          obtain ⟨y₁, hy₁, hch⟩ := he.attempt a y hy
          rw [hy'] at hy₁
          cases hy₁
          rcases hch.startedAt with hkept | hresumed
          · rw [hkept]
            exact le_trans (hi.started a y hy) hnow
          · rw [hresumed]
            exact hnow
  case workers =>
    intro w k hk
    rcases capStep_sys h with heq | ⟨sact, hs⟩
    · rw [heq] at hk ⊢
      exact hi.workers w k hk
    · rcases systemStep_worker hs hk with ⟨hk₀, -⟩ | ⟨m, job, t, rfl, rfl⟩ |
        ⟨wact, k₀, r, phase, rfl, hk₀, -, -, -, rfl⟩
      · exact le_trans (hi.workers w k hk₀) hnow
      · simp only [systemStep] at hs
        split at hs
        · next hread => exact le_trans hread.1 hnow
        · cases hs
      · exact le_trans (hi.workers w k₀ hk₀) hnow

/-! ## Counting the dials of a day -/

/-- Before the end of a day no dial of it is lost: a row that is resumed is
started anew on the same day. -/
theorem dialsIn_step {s s' : CapSystem} {act : CapAct} (hi : s.Clocked)
    (h : capStep env host s act = some s') {w : BudgetWindow}
    (hw : s.sys.now < w.stop) : s.sys.db.dialsIn w ≤ s'.sys.db.dialsIn w := by
  rcases capStep_sys h with heq | ⟨sact, hs⟩
  · rw [heq]
  · refine Table.count_le fun a y hy hc => ?_
    obtain ⟨y', hy', hch⟩ := (systemStep_effect hs).attempt a y hy
    refine ⟨y', hy', ?_⟩
    have hstart := hi.started a y hy
    simp only [BudgetWindow.covers, Bool.and_eq_true, decide_eq_true_eq]
      at hc ⊢
    rcases hch.startedAt with hkept | hresumed
    · rwa [hkept]
    · rw [hresumed]
      exact ⟨le_trans hc.1 hstart, hw⟩

/-- The attempts that started on a local date. -/
def Db.dialsOn (db : Db) (day : Int) (tz : Zone) : Nat :=
  db.attempts.count fun _ a => localDate a.startedAt tz == day

/-- The window of `now` has every instant of its date up to `now`. -/
def DayCounted (now : Instant) (tz : Zone) : Prop :=
  ∀ t ≤ now, localDate t tz = localDate now tz →
    (budgetWindow now tz).covers t = true

theorem DayCounted.before_stop {now : Instant} {tz : Zone}
    (h : DayCounted now tz) : now < (budgetWindow now tz).stop := by
  have hown := h now (le_refl _) rfl
  simp only [BudgetWindow.covers, Bool.and_eq_true, decide_eq_true_eq] at hown
  exact hown.2

/-- Where budget days partition time, every day is counted. -/
theorem BudgetDaysPartition.dayCounted {tz : Zone} (h : BudgetDaysPartition tz)
    (now : Instant) : DayCounted now tz := by
  intro t _ hday
  have hown := h.own t
  have hsame : budgetWindow t tz = budgetWindow now tz :=
    congrArg (dayWindow · tz) hday
  rw [hsame] at hown
  simpa only [BudgetWindow.covers, Bool.and_eq_true, decide_eq_true_eq]
    using hown

/-- The dials of a date that is counted are in its window. -/
theorem CapSystem.Clocked.dialsOn_le {s : CapSystem} (hi : s.Clocked)
    {now : Instant} {tz : Zone} (hnow : s.sys.now ≤ now)
    (hday : DayCounted now tz) :
    s.sys.db.dialsOn (localDate now tz) tz
      ≤ s.sys.db.dialsIn (budgetWindow now tz) := by
  refine Table.count_le fun a y hy hc => ⟨y, hy, ?_⟩
  exact hday y.startedAt (le_trans (hi.started a y hy) hnow) (beq_iff_eq.mp hc)

/-- What is known of a state some time after `s₁`: the dials of a day that
is not over are still there, and a status read since then has seen them. -/
structure SeenSince (env : Env) (s₁ s : CapSystem) : Prop where
  clocked : s.Clocked
  dials : ∀ w : BudgetWindow, s.sys.now < w.stop →
    s₁.sys.db.dialsIn w ≤ s.sys.db.dialsIn w
  stored : ∀ p e, (s.processes p).cache = some e → s₁.sys.now < e.storedAt →
    ∃ tz, loadTimezone env e.key.budgetTimezone = .ok tz ∧
      e.status.dialCap = e.key.dailyDialCap ∧
      (e.storedAt < (dayWindow e.status.day tz).stop →
        s₁.sys.db.dialsIn (dayWindow e.status.day tz) ≤ e.status.dials)

theorem SeenSince.step {s₁ s s' : CapSystem} {act : CapAct}
    (hi : SeenSince env s₁ s) (h : capStep env host s act = some s') :
    SeenSince env s₁ s' where
  clocked := hi.clocked.step h
  dials w hw := by
    have hbefore : s.sys.now < w.stop := lt_of_le_of_lt (capStep_now h) hw
    exact le_trans (hi.dials w hbefore) (dialsIn_step hi.clocked h hbefore)
  stored p e he hsince := by
    rcases capStep_cache h he with hold | ⟨config, tz, htz, rfl⟩
    · exact hi.stored p e hold hsince
    · exact ⟨tz, htz, rfl, fun hstop => hi.dials _ hstop⟩

/-- At `s₁` itself nothing has been read since. -/
theorem SeenSince.refl {s₁ : CapSystem} (h : s₁.Clocked) :
    SeenSince env s₁ s₁ where
  clocked := h
  dials _ _ := le_refl _
  stored p e he hsince := absurd (h.stored p e he) (not_le.mpr hsince)

/-! ## The final gate -/

/-- A gate that is not open ends the run before anything is written. -/
theorem gateStep_blocked {s : System} {x : Worker} {view : DialView}
    {reads : GateReads} {native : NativeAnswer} {commits : Bool}
    (h : outboundGate env.settings reads ≠ .open) :
    (gateStep env s x view reads native commits).db = s.db := by
  unfold gateStep
  split
  · rfl
  · rfl
  · next ho => exact absurd ho h

/-- A status younger than the TTL was stored after what lies a TTL back. -/
theorem stored_since {before now stored ttl : Int} (h : before + ttl ≤ now)
    (age : now - stored < ttl) : before < stored := by
  omega

/-- What a status that lets a dial pass has seen of the time before its
cache could answer. -/
theorem SeenSince.below {s₁ s₂ : CapSystem} (hi : SeenSince env s₁ s₂)
    {p : ProcessId} {readable : Bool} {tz : Zone} {st : DayStatus}
    (htz : loadTimezone env (s₂.processes p).config.budgetTimezone = .ok tz)
    (hfrom : StatusFrom env s₂.sys.db s₂.sys.now readable (s₂.processes p) tz
      st) (hopen : st.reached = none)
    (hbefore : s₁.sys.now + (s₂.processes p).cacheTtl ≤ s₂.sys.now)
    (hday : s₂.sys.now < (budgetWindow s₂.sys.now tz).stop) :
    s₁.sys.db.dialsIn (budgetWindow s₂.sys.now tz)
      < (s₂.processes p).config.dailyDialCap := by
  have hbelow := BudgetStatus.below_of_open hopen
  cases hfrom with
  | read answered => exact lt_of_le_of_lt (hi.dials _ hday) hbelow
  | @cached e stored age key day =>
      have hsince : s₁.sys.now < e.storedAt := stored_since hbefore age
      obtain ⟨tz', htz', hcap, hseen⟩ := hi.stored p e stored hsince
      rw [key, htz] at htz'
      cases htz'
      rw [hcap, key] at hbelow
      rw [day] at hseen
      have hstored := hi.clocked.stored p e stored
      exact lt_of_le_of_lt (hseen (lt_of_le_of_lt hstored hday)) hbelow

/-- **The overshoot is bounded while the day is counted.** In any run, a dial
passes its final gate only on a status of the current day and configuration,
read now or cached for less than the TTL, and, where the window of now has
every instant of its date so far, only if fewer dials of that date than the
cap had been committed one TTL before. A dial that does not pass writes
nothing. -/
theorem dialCap_overshoot {s₀ s₁ s₂ s₃ : CapSystem} (h₀ : s₀.Clocked)
    (h₁ : Run (capStep env host) (fun _ _ => True) s₀ s₁)
    (h₂ : Run (capStep env host) (fun _ _ => True) s₁ s₂)
    {w : WorkerId} {reads : GateReads} {native : NativeAnswer}
    {commits readable : Bool}
    (h₃ : capStep env host s₂
      (.system (.worker w (.gate reads native commits)) readable) = some s₃) :
    (outboundGate env.settings (s₂.gateReads env host w reads readable)
        = .open →
      ∃ tz st,
        loadTimezone env (s₂.processes (host w)).config.budgetTimezone
          = .ok tz ∧
        s₂.status env (host w) readable = .value st ∧
        StatusFrom env s₂.sys.db s₂.sys.now readable (s₂.processes (host w))
          tz st ∧
        st.day = localDate s₂.sys.now tz ∧
        (s₁.sys.now + (s₂.processes (host w)).cacheTtl ≤ s₂.sys.now →
          (s₂.sys.now < (budgetWindow s₂.sys.now tz).stop →
            s₁.sys.db.dialsIn (budgetWindow s₂.sys.now tz)
              < (s₂.processes (host w)).config.dailyDialCap) ∧
          (DayCounted s₂.sys.now tz →
            s₁.sys.db.dialsOn (localDate s₂.sys.now tz) tz
              < (s₂.processes (host w)).config.dailyDialCap))) ∧
    (outboundGate env.settings (s₂.gateReads env host w reads readable)
        ≠ .open → s₃.sys.db = s₂.sys.db) := by
  have hclocked : s₁.Clocked :=
    h₁.inv (fun _ _ _ hi _ h => CapSystem.Clocked.step hi h) h₀
  have hseen : SeenSince env s₁ s₂ :=
    h₂.inv (fun _ _ _ hi _ h => SeenSince.step hi h) (.refl hclocked)
  have hlater : s₁.sys.now ≤ s₂.sys.now :=
    h₂.inv (P := fun s => s₁.sys.now ≤ s.sys.now)
      (fun _ _ _ hi _ h => le_trans hi (capStep_now h)) (le_refl _)
  constructor
  · intro hopen
    obtain ⟨-, -, -, b, hb, hreached⟩ := outboundGate_open_iff.mp hopen
    simp only [CapSystem.gateReads] at hb
    cases hst : s₂.status env (host w) readable with
    | unavailable => rw [hst] at hb; cases hb
    | raised => rw [hst] at hb; cases hb
    | value st =>
        rw [hst] at hb
        cases hb
        obtain ⟨tz, htz, hfrom⟩ := currentStatus_value hst
        refine ⟨tz, st, htz, rfl, hfrom, hfrom.day, fun hbefore =>
          ⟨hseen.below htz hfrom hreached hbefore, fun hday => ?_⟩⟩
        exact lt_of_le_of_lt (hclocked.dialsOn_le hlater hday)
          (hseen.below htz hfrom hreached hbefore hday.before_stop)
  · intro hclosed
    obtain ⟨sys, hsys, rfl⟩ := Option.map_eq_some_iff.mp h₃
    obtain ⟨x, hx, hsys⟩ := Option.bind_eq_some_iff.mp hsys
    obtain ⟨r, hr, rfl⟩ := Option.map_eq_some_iff.mp hsys
    simp only [workerStep] at hr
    split at hr
    · cases hr
      exact gateStep_blocked hclosed
    · cases hr

end

/-! ### A first dial -/

/-- One worker is past its checks; nothing is cached. -/
def capReady : CapSystem where
  sys := { twoActive with workers := AList.insert 1 firstReady ∅ }
  processes _ := { config := configKey {}, cacheTtl := 2 * second }

theorem capReady_clocked : capReady.Clocked where
  started _ _ h := by cases h
  workers w k h := by
    have hrow : capReady.sys.worker w = if w = 1 then some firstReady else none :=
      Table.lookup_insert' _ _ _ _
    rw [hrow] at h
    split at h
    · cases h
      exact le_refl _
    · cases h
  stored _ _ h := by cases h

theorem loadTimezone_kolkata {name : String} {tz : Zone}
    (h : loadTimezone dograhEnv name = .ok tz) : tz = kolkata := by
  simp only [loadTimezone, dograhEnv, plainEnv] at h
  split at h
  · cases h
  · split at h
    · cases h
    · next z hz =>
      split at hz
      · cases hz
        exact (Except.ok.inj h).symm
      · cases hz

/-- A time is in the day it falls in, under a fixed offset. -/
theorem inDay {t offset day : Int} (h : (t + offset) / 86400000000 = day) :
    day * 86400000000 - offset ≤ t ∧ t < (day + 1) * 86400000000 - offset := by
  omega

theorem kolkata_dayCounted (now : Instant) : DayCounted now kolkata :=
  fun _ _ hday => dayWindow_covers.mpr (inDay hday)

/-- Two seconds later it dials, and the day is far below its cap. -/
theorem firstDial_belowCap :
    ∃ s₂ s₃ tz, runActs (capStep dograhEnv id) capReady
        [.system (.tick 1999999) true] = some s₂ ∧
      capStep dograhEnv id s₂ (.system (.worker 1
        (.gate quietGate ⟨"", none, false⟩ true)) true) = some s₃ ∧
      s₃.sys.db.attempts.entries.length = 1 ∧
      capReady.sys.db.dialsOn (localDate s₂.sys.now tz) tz < 1000 := by
  let s₂ : CapSystem :=
    { capReady with sys := { capReady.sys with now := noon + 1999999 + 1 } }
  have hrun : runActs (capStep dograhEnv id) capReady
      [.system (.tick 1999999) true] = some s₂ := rfl
  have hstep : (capStep dograhEnv id s₂ (.system (.worker 1
      (.gate quietGate ⟨"", none, false⟩ true)) true)).any
      (fun s₃ => s₃.sys.db.attempts.entries.length == 1) = true := by
    decide +kernel
  have hopen : outboundGate dograhEnv.settings
      (s₂.gateReads dograhEnv id 1 quietGate true) = .open := by
    decide +kernel
  simp only [Option.any_eq_true, beq_iff_eq] at hstep
  obtain ⟨s₃, hs₃, hlen⟩ := hstep
  obtain ⟨tz, st, htz, -, -, -, hbelow⟩ :=
    (dialCap_overshoot capReady_clocked .refl (.of_runActs hrun) hs₃).1 hopen
  cases loadTimezone_kolkata htz
  exact ⟨s₂, s₃, kolkata, hrun, hs₃, hlen,
    (hbelow (by decide)).2 (kolkata_dayCounted _)⟩

/-! ### Dials that no window has -/

/-- The zone database with St. John's of 2006. -/
def stJohnsEnv : Env :=
  { dograhEnv with
    zoneInfo := fun name =>
      if name = "America/St_Johns" then some (.ofClock stJohns)
      else dograhEnv.zoneInfo name }

/-- A second contact of the campaign. -/
def secondContact : Contact :=
  { campaignId := 1, normalizedPhoneNumber := "+919876543211" }

/-- Two workers are past their checks. -/
def stJohnsWorkers : List (WorkerId × Worker) :=
  [(1, { firstReady with startedAt := 1162089060 * second }),
    (2, { message := 2
          job := { campaignId := 1, contactId := 2, attemptNumber := 1 }
          startedAt := 1162089060 * second
          phase := .ready { contact := secondContact, held := none } })]

/-- The clock of St. John's goes back, and one dial a day is allowed. -/
def stJohnsReady : CapSystem where
  sys :=
    { db := { twoActive.db with
        contacts := AList.insert 2 secondContact twoActive.db.contacts }
      now := 1162089060 * second
      workers := stJohnsWorkers.foldr (fun e t => AList.insert e.1 e.2 t) ∅ }
  processes _ :=
    { config := { configKey dograhEnv.settings with
        dailyDialCap := 1, budgetTimezone := "America/St_Johns" }
      cacheTtl := 2 * second }

theorem stJohnsReady_clocked : stJohnsReady.Clocked where
  started _ _ h := by cases h
  workers w k h := by
    have hrow : stJohnsReady.sys.worker w
        = if w = 1 then some { firstReady with startedAt := 1162089060 * second }
          else if w = 2 then (stJohnsWorkers.lookup 2) else none := by
      show AList.lookup w (AList.insert _ _ (AList.insert _ _ ∅)) = _
      rw [Table.lookup_insert', Table.lookup_insert']
      rfl
    rw [hrow] at h
    split at h
    · cases h
      exact le_refl _
    · split at h
      · cases h
        exact le_refl _
      · cases h
  stored _ _ h := by cases h

/-- Worker 1 dials; two seconds later one dial of the day has been committed
for the time of a cached status, and worker 2 dials too. -/
theorem dialCap_exceeded :
    stJohnsReady.Clocked ∧
    ∃ s₁ s₂ s₃,
      capStep stJohnsEnv id stJohnsReady (.system (.worker 1
        (.gate quietGate ⟨"", none, false⟩ true)) true) = some s₁ ∧
      runActs (capStep stJohnsEnv id) s₁ [.system (.tick 1999999) true]
        = some s₂ ∧
      s₁.sys.now + (s₂.processes 2).cacheTtl ≤ s₂.sys.now ∧
      (s₂.processes 2).config.dailyDialCap
        ≤ s₁.sys.db.dialsOn (localDate s₂.sys.now (.ofClock stJohns))
            (.ofClock stJohns) ∧
      outboundGate stJohnsEnv.settings
        (s₂.gateReads stJohnsEnv id 2 quietGate true) = .open ∧
      capStep stJohnsEnv id s₂ (.system (.worker 2
        (.gate quietGate ⟨"", none, false⟩ true)) true) = some s₃ ∧
      s₃.sys.db.attempts.entries.length = 2 := by
  have hall : (capStep stJohnsEnv id stJohnsReady (.system (.worker 1
      (.gate quietGate ⟨"", none, false⟩ true)) true)).any (fun s₁ =>
        (runActs (capStep stJohnsEnv id) s₁ [.system (.tick 1999999) true]).any
          fun s₂ =>
            decide (s₁.sys.now + (s₂.processes 2).cacheTtl ≤ s₂.sys.now)
            && decide ((s₂.processes 2).config.dailyDialCap
              ≤ s₁.sys.db.dialsOn (localDate s₂.sys.now (.ofClock stJohns))
                (.ofClock stJohns))
            && outboundGate stJohnsEnv.settings
              (s₂.gateReads stJohnsEnv id 2 quietGate true) == .open
            && (capStep stJohnsEnv id s₂ (.system (.worker 2
              (.gate quietGate ⟨"", none, false⟩ true)) true)).any fun s₃ =>
                s₃.sys.db.attempts.entries.length == 2) = true := by
    decide +kernel
  simp only [Option.any_eq_true, Bool.and_eq_true, beq_iff_eq,
    decide_eq_true_eq] at hall
  obtain ⟨s₁, hs₁, s₂, hs₂, ⟨⟨hlater, hcap⟩, hopen⟩, s₃, hs₃, htwo⟩ := hall
  exact ⟨stJohnsReady_clocked, s₁, s₂, s₃, hs₁, hs₂, hlater, hcap, hopen, hs₃,
    htwo⟩

end CallingAgent
