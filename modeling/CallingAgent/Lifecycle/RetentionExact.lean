import CallingAgent.Lifecycle.RetentionBatches

/-!
# RetentionExact — a retention run acts exactly on its policy

A run that completes leaves what is due treated and nothing else changed,
whatever runs were broken off before it. After it nothing is due: another run
at the same instant changes nothing. A dry run counts what a run treats.
-/

namespace CallingAgent

open Lib

/-- A run that was not refused and went through. -/
def RunCompletes (run : LifecycleDb × Option Retention.Progress) : Prop :=
  ∃ p, run.2 = some p ∧ p.status = .completed

/-- Two databases hold the same, but for the rows of runs at `now`, which
were opened after `db`. -/
structure SameData (now : Instant) (db left right : LifecycleDb) : Prop where
  rows : ∀ (c : RetentionClass) (k : Nat) (r : c.Row), ¬ c.Own now db k r →
    (AList.lookup k (c.table left) = some r ↔
      AList.lookup k (c.table right) = some r)
  core : left.core = { right.core with contacts := left.core.contacts }
  closedAt : left.closedAt = right.closedAt

/-- Nothing has changed, but for new rows of runs at `now`. -/
structure Unchanged (now : Instant) (db db' : LifecycleDb) : Prop where
  keeps : ∀ (c : RetentionClass) (k : Nat) (r : c.Row),
    AList.lookup k (c.table db) = some r → AList.lookup k (c.table db') = some r
  adds : ∀ (c : RetentionClass) (k : Nat) (r : c.Row),
    AList.lookup k (c.table db') = some r →
      c.Own now db k r ∨ AList.lookup k (c.table db) = some r
  core : db'.core = { db.core with contacts := db'.core.contacts }
  closedAt : db'.closedAt = db.closedAt

section

variable {policy : RetentionPolicy} {now : Instant} {db db' db'' : LifecycleDb}

theorem RetentionDone.sameData (h : RetentionDone policy now db db')
    (h' : RetentionDone policy now db db'') : SameData now db db' db'' where
  rows c k r hown := by
    constructor
    · intro hr
      obtain ⟨r₀, hr₀, hout⟩ := ((h.rows c).only hr).resolve_left hown
      exact (h'.rows c).all hr₀ hout
    · intro hr
      obtain ⟨r₀, hr₀, hout⟩ := ((h'.rows c).only hr).resolve_left hown
      exact (h.rows c).all hr₀ hout
  core := by
    rw [h.core, h'.core]
  closedAt := h.closedAt.trans h'.closedAt.symm

/-- Where nothing is due, runs change nothing. -/
theorem PartialRuns.unchanged (h : PartialRuns policy now db db')
    (hclear : NothingDue policy now db) : Unchanged now db db' where
  keeps c k r hr := (h.underway.1.rows c).keeps hr (hclear c hr)
  adds c k r hr := by
    refine ((h.underway.1.rows c).only hr).imp_right ?_
    rintro ⟨r₀, hr₀, rfl | ⟨hdue, -⟩⟩
    · exact hr₀
    · rw [hclear c hr₀] at hdue
      cases hdue
  core := h.underway.1.core
  closedAt := h.underway.1.closedAt

/-! ## A run -/

/-- Where a run is after its classes. -/
def classesDone (policy : RetentionPolicy) (now : Instant) (apply : Bool)
    (turns : List Retention.Turn) (db : LifecycleDb) : Retention.Progress :=
  (RetentionClass.all.map RetentionClass.step).foldl
    (Retention.runStep policy.toRetentionConfig now apply
      db.retentionRuns.nextKey) { db := openRun now apply db, turns }

/-- And what it reports. -/
def reported (p : Retention.Progress) : Retention.Progress :=
  if p.status = .running then { p with status := .completed } else p

theorem reported_db (p : Retention.Progress) : (reported p).db = p.db := by
  rw [reported]
  split <;> rfl

theorem reported_counts (p : Retention.Progress) :
    (reported p).counts = p.counts := by
  rw [reported]
  split <;> rfl

theorem reported_disabled (p : Retention.Progress) :
    (reported p).disabled = p.disabled := by
  rw [reported]
  split <;> rfl

/-- **A run goes through its classes and is closed.** -/
theorem run_eq (policy : RetentionPolicy) (now : Instant) (apply : Bool)
    (actor : String) (turns : List Retention.Turn) (db : LifecycleDb) :
    ∃ p, p = reported (classesDone policy now apply turns db) ∧
      Retention.run policy.toRetentionConfig now apply actor true turns db
        = (Retention.finish p.db db.retentionRuns.nextKey actor now p,
          some { p with
            db := Retention.finish p.db db.retentionRuns.nextKey actor now p }) :=
  ⟨_, rfl, rfl⟩

/-- A dry run writes nothing on its way. -/
theorem classesDone_dry_db (turns : List Retention.Turn) (db : LifecycleDb) :
    (classesDone policy now false turns db).db = openRun now false db :=
  foldl_dry_db _ _ _

theorem classesDone_dry (hdated : policy.Dated now)
    (turns : List Retention.Turn) (db : LifecycleDb) :
    (classesDone policy now false turns db).counts = [] ++ dueCounts policy now
        db.retentionRuns.nextKey (openRun now false db) RetentionClass.all ∧
      (classesDone policy now false turns db).disabled
        = [] ++ disabledKeys policy RetentionClass.all := by
  have hfold : classesDone policy now false turns db = _ :=
    foldl_dry hdated RetentionClass.all { db := openRun now false db, turns } rfl
  rw [hfold]
  exact ⟨rfl, rfl⟩

theorem classesDone_batches (apply : Bool) (turns : List Retention.Turn)
    (db : LifecycleDb) : Batches policy now db.retentionRuns.nextKey
      (openRun now apply db) (classesDone policy now apply turns db).db := by
  cases apply with
  | true =>
      have hfold : Batches policy now db.retentionRuns.nextKey
          ({ db := openRun now true db, turns } : Retention.Progress).db _ :=
        foldl_batches RetentionClass.all { db := openRun now true db, turns }
      exact hfold
  | false =>
      rw [classesDone_dry_db turns db]
      exact .none

/-- **Every run is one of a sequence of runs**, however it ends. -/
theorem PartialRuns.run (h : PartialRuns policy now db db') (apply lockGot : Bool)
    (actor : String) (turns : List Retention.Turn) :
    PartialRuns policy now db (Retention.run policy.toRetentionConfig now apply
      actor lockGot turns db').1 := by
  cases lockGot with
  | false =>
      have hnone : Batches policy now db'.retentionRuns.nextKey
          (openRun now apply db') (openRun now apply db') := .none
      exact h.finished actor _ hnone
  | true =>
      obtain ⟨p, hp, heq⟩ := run_eq policy now apply actor turns db'
      rw [heq]
      have hbatches : Batches policy now db'.retentionRuns.nextKey
          (openRun now apply db') p.db := by
        rw [hp, reported_db]
        exact classesDone_batches apply turns db'
      exact h.finished actor p hbatches

/-! ## A run that completes -/

theorem runBatches_ne_completed (step : RetentionStep) (cfg : RetentionConfig)
    (cutoff : Instant) (current : Nat) (turns : List Retention.Turn)
    (db : LifecycleDb) (total : Nat) :
    (Retention.runBatches step cfg now cutoff current turns db total).1.status
      ≠ .completed := by
  induction turns generalizing db total with
  | nil => exact fun h => by cases h
  | cons turn turns ih =>
      cases turn with
      | overBudget => exact fun h => by cases h
      | dbError => exact fun h => by cases h
      | withinBudget =>
          rw [Retention.runBatches]
          split
          · exact fun h => by cases h
          · exact ih _ _

theorem runStep_ne_completed {cfg : RetentionConfig} {apply : Bool}
    {current : Nat} {p : Retention.Progress} (step : RetentionStep)
    (hp : p.status ≠ .completed) :
    (Retention.runStep cfg now apply current p step).status ≠ .completed := by
  rw [Retention.runStep]
  split
  · exact hp
  · split
    · exact hp
    · dsimp only
      split
      · exact fun h => by cases h
      · split
        · exact runBatches_ne_completed _ _ _ _ _ _ _
        · exact hp

theorem classesDone_ne_completed (apply : Bool) (turns : List Retention.Turn)
    (db : LifecycleDb) :
    (classesDone policy now apply turns db).status ≠ .completed := by
  have hfold : ∀ (steps : List RetentionStep) (p : Retention.Progress),
      p.status ≠ .completed → (steps.foldl (Retention.runStep
        policy.toRetentionConfig now apply db.retentionRuns.nextKey) p).status
          ≠ .completed := by
    intro steps
    induction steps with
    | nil => exact fun p hp => hp
    | cons step steps ih => exact fun p hp => ih _ (runStep_ne_completed step hp)
  exact hfold _ _ fun h => by cases h

/-- **A run completes when it is still going after the last class.** -/
theorem runCompletes_iff (apply : Bool) (actor : String)
    (turns : List Retention.Turn) (db : LifecycleDb) :
    RunCompletes (Retention.run policy.toRetentionConfig now apply actor true turns
      db) ↔ (classesDone policy now apply turns db).status = .running := by
  obtain ⟨p, hp, heq⟩ := run_eq policy now apply actor turns db
  have hnot : (classesDone policy now apply turns db).status ≠ .completed :=
    classesDone_ne_completed apply turns db
  have hstatus : RunCompletes (Retention.run policy.toRetentionConfig now apply
      actor true turns db) ↔ p.status = .completed := by
    rw [RunCompletes, heq]
    constructor
    · rintro ⟨q, hq, hcompleted⟩
      cases hq
      exact hcompleted
    · exact fun hcompleted => ⟨_, rfl, hcompleted⟩
  rw [hstatus, hp, reported]
  split
  · next hrunning => exact iff_of_true rfl hrunning
  · next hover => exact iff_of_false hnot hover

theorem nodup_all : RetentionClass.all.Nodup := by decide

/-- **A run with time enough completes.** -/
theorem run_terminates (hdated : policy.Dated now) (db : LifecycleDb) : ∃ n, ∀ (actor : String) (turns : List Retention.Turn),
      (∀ t ∈ turns, t = .withinBudget) → n ≤ turns.length →
      RunCompletes (Retention.run policy.toRetentionConfig now true actor true turns
        db) := by
  refine ⟨turnsNeeded policy now db.retentionRuns.nextKey (openRun now true db)
    RetentionClass.all, fun actor turns hall hlong => ?_⟩
  refine (runCompletes_iff true actor turns db).mpr ?_
  have hfold := foldl_enough hdated nodup_all
    { db := openRun now true db, turns } rfl hall hlong
  exact hfold

/-- What the classes of a run that completes have been through. -/
theorem classesDone_passed {turns : List Retention.Turn} {actor : String}
    (h : RunCompletes (Retention.run policy.toRetentionConfig now true actor true
      turns db)) :
    ClassPasses policy now db.retentionRuns.nextKey RetentionClass.all
      { db := openRun now true db, turns }
      (classesDone policy now true turns db) := by
  have hrunning := (runCompletes_iff true actor turns db).mp h
  exact (foldl_passed nodup_all { db := openRun now true db, turns } hrunning).2

/-- What is there when a run is closed was there before, or is its own. -/
theorem row_of_finish {before : LifecycleDb} {current k : Nat}
    {c : RetentionClass} {r : c.Row} {actor : String} {p : Retention.Progress}
    (hfresh : before.retentionRuns.nextKey ≤ current)
    (hrow : ∀ r, AList.lookup current db.retentionRuns = some r →
      r.startedAt = now)
    (h : AList.lookup k (c.table (Retention.finish db current actor now p))
      = some r) :
    c.Own now before k r ∨ AList.lookup k (c.table db) = some r := by
  cases c with
  | retentionRuns =>
      refine (Classical.em (k = current)).imp (fun hk => ?_) fun hk => ?_
      · subst hk
        obtain ⟨r₀, hr₀, rfl⟩ :=
          Option.map_eq_some_iff.mp ((Table.lookup_modify_self ..).symm.trans h)
        exact ⟨hfresh, hrow r₀ hr₀⟩
      · exact (Table.lookup_modify_ne _ hk _).symm.trans h
  | auditLog =>
      refine (Classical.em (k = db.auditLog.nextKey)).imp (fun hk => ?_) fun hk => ?_
      · subst hk
        have hin := (AList.lookup_insert _).symm.trans h
        cases hin
        exact ⟨rfl, rfl⟩
      · exact (AList.lookup_insert_ne hk).symm.trans h
  | _ => exact .inr h

/-- A row that is due is selected, but for the run under way. -/
theorem mem_candidates_of_due {c : RetentionClass} {current k : Nat} {r : c.Row}
    (hr : AList.lookup k (c.table db) = some r)
    (hdue : c.due policy.toRetentionConfig now db r = true)
    (hkeep : c.keep current k = true) :
    ∃ d, Retention.periodOf policy.toRetentionConfig c.step = some d ∧
      k ∈ c.step.candidates db (Retention.cutoffAt now d) current := by
  obtain ⟨d, hd, -⟩ := (Option.any_eq_true _ _).mp hdue
  refine ⟨d, hd, ?_⟩
  rw [candidates_eq_due hd]
  exact Table.mem_select.mpr ⟨r, hr, Bool.and_eq_true_iff.mpr ⟨hdue, hkeep⟩⟩

/-- **After a run that completes nothing is due.** -/
theorem run_nothingDue {turns : List Retention.Turn} {actor : String}
    (h : RunCompletes (Retention.run policy.toRetentionConfig now true actor true
      turns db)) :
    NothingDue policy now (Retention.run policy.toRetentionConfig now true actor
      true turns db).1 := by
  have hpassed := classesDone_passed h
  have hopened : AList.lookup db.retentionRuns.nextKey
      (classesDone policy now true turns db).db.retentionRuns
      = some { startedAt := now, apply := true } :=
    hpassed.batches.lookup_current.trans (AList.lookup_insert _)
  have hend : PartialRuns policy now db (Retention.run policy.toRetentionConfig now
      true actor true turns db).1 := PartialRuns.none.run true true actor turns
  have hmid := hpassed.batches.underway
    ((RetentionUnderway.refl db).openRun (le_refl _) true)
  intro c k r hr
  change c.due _ now _ r = false
  rw [hend.underway.1.frame.due_eq, ← hmid.frame.due_eq]
  obtain ⟨p, hp, heq⟩ := run_eq policy now true actor turns db
  have hdb : p.db = (classesDone policy now true turns db).db := by
    rw [hp, reported_db]
  rw [heq, hdb] at hr
  have hown : ∀ r, AList.lookup db.retentionRuns.nextKey
      (classesDone policy now true turns db).db.retentionRuns = some r →
      r.startedAt = now := by
    intro r hr
    rw [hopened] at hr
    cases hr
    rfl
  rcases row_of_finish (le_refl _) hown hr with hown | hrow
  · exact RetentionClass.not_due_of_own hown
  · by_contra hdue
    rw [Bool.not_eq_false] at hdue
    cases hkeep : c.keep db.retentionRuns.nextKey k with
    | true =>
        obtain ⟨d, hd, hk⟩ := mem_candidates_of_due hrow hdue hkeep
        rw [hpassed.clear c c.mem_all d hd] at hk
        cases hk
    | false =>
        -- the row of the run under way
        cases c with
        | retentionRuns =>
            have hk : k = db.retentionRuns.nextKey := by
              simpa [RetentionClass.keep] using hkeep
            subst hk
            have hopen : RetentionClass.retentionRuns.Own now db
              db.retentionRuns.nextKey r := ⟨le_refl _, hown r hrow⟩
            rw [RetentionClass.not_due_of_own hopen] at hdue
            cases hdue
        | _ => cases hkeep

/-! ## Counts -/

/-- The row that a run opens is not among what it selects. -/
theorem candidates_openRun (c : RetentionClass) (apply : Bool) (cutoff : Instant) :
    c.step.candidates (openRun now apply db) cutoff db.retentionRuns.nextKey
      = c.step.candidates db cutoff db.retentionRuns.nextKey := by
  cases c with
  | retentionRuns =>
      change Retention.runHistory _ _ _ = Retention.runHistory _ _ _
      have hfresh : db.retentionRuns.nextKey ∉ db.retentionRuns.keys :=
        AList.lookup_eq_none.mp (Table.lookup_nextKey _)
      rw [Retention.runHistory, Retention.runHistory, openRun, Table.select,
        Table.select, AList.entries_insert, List.kerase_of_notMem_keys hfresh,
        List.filter_cons_of_neg (by simp)]
  | _ => rfl

theorem dueCounts_openRun (apply : Bool) (cs : List RetentionClass) :
    dueCounts policy now db.retentionRuns.nextKey (openRun now apply db) cs
      = dueCounts policy now db.retentionRuns.nextKey db cs := by
  simp only [dueCounts, candidates_openRun]

/-- **What a run reports**: a dry run, or one that completes. -/
theorem run_counts (hdated : policy.Dated now) {apply : Bool} {actor : String} {turns : List Retention.Turn}
    {p : Retention.Progress}
    (h : apply = true → RunCompletes (Retention.run policy.toRetentionConfig now
      apply actor true turns db))
    (hp : (Retention.run policy.toRetentionConfig now apply actor true turns db).2
      = some p) :
    p.counts = dueCounts policy now db.retentionRuns.nextKey db RetentionClass.all ∧
      p.disabled = disabledKeys policy RetentionClass.all := by
  have hdone : (classesDone policy now apply turns db).counts
      = dueCounts policy now db.retentionRuns.nextKey db RetentionClass.all ∧
      (classesDone policy now apply turns db).disabled
        = disabledKeys policy RetentionClass.all := by
    cases apply with
    | true =>
        have hpassed := classesDone_passed (h rfl)
        refine ⟨hpassed.counts.trans ?_, hpassed.disabled.trans (List.nil_append _)⟩
        exact (List.nil_append _).trans (dueCounts_openRun true _)
    | false =>
        obtain ⟨hcounts, hdisabled⟩ := classesDone_dry hdated turns db
        refine ⟨hcounts.trans ?_, hdisabled.trans (List.nil_append _)⟩
        exact (List.nil_append _).trans (dueCounts_openRun false _)
  obtain ⟨q, hq, heq⟩ := run_eq policy now apply actor turns db
  rw [← reported_counts, ← reported_disabled, ← hq] at hdone
  rw [heq] at hp
  cases hp
  exact hdone

theorem candidates_of_nothingDue (h : NothingDue policy now db)
    {c : RetentionClass} {d : Int} (current : Nat)
    (hd : Retention.periodOf policy.toRetentionConfig c.step = some d) :
    c.step.candidates db (Retention.cutoffAt now d) current = [] := by
  rw [candidates_eq_due hd]
  refine List.eq_nil_iff_forall_not_mem.mpr fun k hk => ?_
  obtain ⟨r, hr, hp⟩ := Table.mem_select.mp hk
  rw [h c hr] at hp
  cases hp

theorem dueCounts_of_nothingDue (h : NothingDue policy now db) (current : Nat)
    {cs : List RetentionClass} {n : String × Nat}
    (hn : n ∈ dueCounts policy now current db cs) : n.2 = 0 := by
  obtain ⟨c, -, hc⟩ := List.mem_filterMap.mp hn
  obtain ⟨d, hd, rfl⟩ := Option.map_eq_some_iff.mp hc
  rw [candidates_of_nothingDue h current hd]
  rfl

end

/-- **Retention acts exactly on the policy**, on this database at this
instant. -/
structure RetentionActsExactly (policy : RetentionPolicy) (now : Instant)
    (db : LifecycleDb) : Prop where
  terminates : ∃ n, ∀ (actor : String) (turns : List Retention.Turn),
    (∀ t ∈ turns, t = .withinBudget) → n ≤ turns.length →
    RunCompletes (Retention.run policy.toRetentionConfig now true actor true turns db)
  exact : ∀ (actor : String) (turns : List Retention.Turn),
    RunCompletes (Retention.run policy.toRetentionConfig now true actor true turns
      db) →
    RetentionDone policy now db (Retention.run policy.toRetentionConfig now true
      actor true turns db).1
  /-- whichever rows the batches took -/
  anyBatches : ∀ db', PartialRuns policy now db db' → NothingDue policy now db' →
    RetentionDone policy now db db'
  suppressions : ∀ db', PartialRuns policy now db db' →
    db'.core.suppressions = db.core.suppressions
  again : ∀ (actor : String) (turns : List Retention.Turn) (db₁ : LifecycleDb),
    RunCompletes (Retention.run policy.toRetentionConfig now true actor true turns
      db) →
    (Retention.run policy.toRetentionConfig now true actor true turns db).1 = db₁ →
    (∀ db₂, PartialRuns policy now db₁ db₂ → Unchanged now db₁ db₂) ∧
      ∀ (actor' : String) (turns' : List Retention.Turn) (p : Retention.Progress),
        (Retention.run policy.toRetentionConfig now true actor' true turns' db₁).2
          = some p →
        p.status = .completed → ∀ n ∈ p.counts, n.2 = 0
  resumes : ∀ (db' : LifecycleDb) (actor actor' : String)
    (turns turns' : List Retention.Turn), PartialRuns policy now db db' →
    RunCompletes (Retention.run policy.toRetentionConfig now true actor true turns
      db') →
    RetentionDone policy now db (Retention.run policy.toRetentionConfig now true
        actor true turns db').1 ∧
      (RunCompletes (Retention.run policy.toRetentionConfig now true actor' true
          turns' db) →
        SameData now db
          (Retention.run policy.toRetentionConfig now true actor true turns db').1
          (Retention.run policy.toRetentionConfig now true actor' true turns' db).1)
  counts : ∀ (actor actor' : String) (turns turns' : List Retention.Turn)
    (dry applied : Retention.Progress),
    (Retention.run policy.toRetentionConfig now false actor true turns db).2
      = some dry →
    (Retention.run policy.toRetentionConfig now true actor' true turns' db).2
      = some applied →
    applied.status = .completed →
    dry.counts = applied.counts ∧ dry.disabled = applied.disabled

section

variable {policy : RetentionPolicy} {now : Instant} {db : LifecycleDb}

/-- Where the cutoff of every enabled class is a date, retention acts
exactly. -/
theorem RetentionActsExactly.of_dated (hdated : policy.Dated now)
    (db : LifecycleDb) : RetentionActsExactly policy now db where
  terminates := run_terminates hdated db
  exact actor turns h :=
    (PartialRuns.none.run true true actor turns).done (run_nothingDue h)
  anyBatches _ h hclear := h.done hclear
  suppressions db' h := by
    rw [h.underway.1.core]
  again actor turns db₁ h hrun := by
    subst hrun
    have hclear := run_nothingDue h
    refine ⟨fun db₂ h₂ => h₂.unchanged hclear, fun actor' turns' p hp hdone n hn => ?_⟩
    rw [(run_counts hdated (fun _ => ⟨p, hp, hdone⟩) hp).1] at hn
    exact dueCounts_of_nothingDue hclear _ hn
  resumes db' actor actor' turns turns' hruns h := by
    have hend := (hruns.run true true actor turns).done (run_nothingDue h)
    refine ⟨hend, fun h' => hend.sameData ?_⟩
    exact (PartialRuns.none.run true true actor' turns').done (run_nothingDue h')
  counts actor actor' turns turns' dry applied hdry happlied hdone := by
    obtain ⟨hd, hd'⟩ := run_counts hdated (fun h => (by cases h)) hdry
    obtain ⟨ha, ha'⟩ :=
      run_counts hdated (fun _ => ⟨applied, happlied, hdone⟩) happlied
    exact ⟨hd.trans ha.symm, hd'.trans ha'.symm⟩

/-- **A run only completes on dates.** -/
theorem Dated.of_completes {turns : List Retention.Turn} {actor : String}
    (h : RunCompletes (Retention.run policy.toRetentionConfig now true actor true
      turns db)) : policy.Dated now :=
  fun c d hd => (classesDone_passed h).dated c c.mem_all d hd

end

/-- **Retention acts exactly on the policy**, on a database at an instant, if
and only if the cutoff of every enabled class is a date. -/
theorem retention_exact (policy : RetentionPolicy) (now : Instant)
    (db : LifecycleDb) :
    RetentionActsExactly policy now db ↔ policy.Dated now := by
  constructor
  · intro h
    obtain ⟨n, hn⟩ := h.terminates
    refine Dated.of_completes (hn "" (List.replicate n .withinBudget) ?_ ?_)
    · exact fun t ht => List.eq_of_mem_replicate ht
    · exact (List.length_replicate ..).ge
  · exact fun hdated => .of_dated hdated db

/-! ### A period of 999999 days -/

/-- Contacts are kept 999999 days and audit rows one. -/
def farPeriod : RetentionPolicy where
  contactDays := some 999999
  auditLogDays := some 1
  periods c d hd := by
    cases c <;> cases hd <;> decide
  batchSize_pos := by decide

/-- One audit row, ten days old. -/
def oldAuditRow : LifecycleDb where
  core := {}
  auditLog := AList.insert 1
    { actor := "api", action := "campaign.created", entity := none
      createdAt := 1767225600 * second } ∅

/-- The run ends in the class of the contacts. -/
theorem farPeriod_classesDone (turns : List Retention.Turn) :
    ∃ disabled, classesDone farPeriod (1768089600 * second) true turns oldAuditRow
      = { db := openRun (1768089600 * second) true oldAuditRow, turns
          status := .failed, disabled, errorCategory := some "internal" } := by
  have hdisabled : ∀ c ∈ [RetentionClass.transcriptMessages, .transcriptLinks,
      .workingMemorySnapshots, .analysisFreeText],
      Retention.periodOf farPeriod.toRetentionConfig c.step = none := by
    decide
  have hdays : Retention.periodOf farPeriod.toRetentionConfig
      RetentionClass.contacts.step = some 999999 := rfl
  exact foldl_overflow hdisabled hdays (by decide)
    [.auditLog, .processedEvents, .retentionRuns]
    { db := openRun (1768089600 * second) true oldAuditRow, turns } rfl

/-- On 11 January 2026 the date of the contacts lies before the year 1: the
run fails there, and the audit row that is due stays. -/
theorem farPeriod_fails :
    RetentionClass.auditLog.due farPeriod.toRetentionConfig
        (1768089600 * second) oldAuditRow
        { actor := "api", action := "campaign.created", entity := none
          createdAt := 1767225600 * second } = true ∧
      (∀ turns, ∃ p, (Retention.run farPeriod.toRetentionConfig
          (1768089600 * second) true "system:retention" true turns
          oldAuditRow).2 = some p ∧
        p.status = .failed ∧ p.errorCategory = some "internal" ∧
        (AList.lookup 1 p.db.auditLog).isSome = true) ∧
      ¬ RetentionActsExactly farPeriod (1768089600 * second) oldAuditRow := by
  have hfails : ∀ (actor : String) (turns : List Retention.Turn),
      ∃ p, (Retention.run farPeriod.toRetentionConfig (1768089600 * second) true
          actor true turns oldAuditRow).2 = some p ∧
        p.status = .failed ∧ p.errorCategory = some "internal" ∧
        (AList.lookup 1 p.db.auditLog).isSome = true := by
    intro actor turns
    obtain ⟨p, hp, heq⟩ :=
      run_eq farPeriod (1768089600 * second) true actor turns oldAuditRow
    obtain ⟨disabled, hdone⟩ := farPeriod_classesDone turns
    rw [hdone] at hp
    subst hp
    rw [heq]
    exact ⟨_, rfl, rfl, rfl, rfl⟩
  refine ⟨by decide, hfails "system:retention", fun h => ?_⟩
  obtain ⟨n, hn⟩ := h.terminates
  obtain ⟨p, hp, hcompleted⟩ := hn "" (List.replicate n .withinBudget)
    (fun t ht => List.eq_of_mem_replicate ht) (List.length_replicate ..).ge
  obtain ⟨q, hq, hfailed, -⟩ := hfails "" (List.replicate n .withinBudget)
  rw [hp] at hq
  cases hq
  rw [hcompleted] at hfailed
  cases hfailed

end CallingAgent
