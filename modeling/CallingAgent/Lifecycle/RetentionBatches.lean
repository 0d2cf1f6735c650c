import CallingAgent.Lifecycle.RetentionPolicy

/-!
# RetentionBatches — what batches of retention leave, however they are broken off

A run opens a row of its own, works in batches, and closes the row with a
report. Between two batches it may run out of time, fail or die. What has
been done by then is some of what is due; when a run completes, it is all of
it, and nothing else has changed but for the rows of the runs themselves.
-/

namespace CallingAgent

open Lib

/-- The row that a run opens. -/
def openRun (now : Instant) (apply : Bool) (db : LifecycleDb) : LifecycleDb :=
  { db with
    retentionRuns := AList.insert db.retentionRuns.nextKey
      { startedAt := now, apply } db.retentionRuns }

/-- Batches of the run under way: each treats rows that its class selects,
whichever the database answers. -/
inductive Batches (policy : RetentionPolicy) (now : Instant) (current : Nat)
    (db : LifecycleDb) : LifecycleDb → Prop
  | none : Batches policy now current db db
  | batch {db' : LifecycleDb} (c : RetentionClass) {d : Int} {ids : List Nat} :
      Batches policy now current db db' →
      Retention.periodOf policy.toRetentionConfig c.step = some d →
      Retention.isDate (Retention.cutoffAt now d) = true →
      (∀ k ∈ ids,
        k ∈ c.step.candidates db' (Retention.cutoffAt now d) current) →
      Batches policy now current db (c.step.apply db' ids now)

/-- **Runs at `now`**, each broken off after some batches, or finished. -/
inductive PartialRuns (policy : RetentionPolicy) (now : Instant)
    (db : LifecycleDb) : LifecycleDb → Prop
  | none : PartialRuns policy now db db
  | crashed {db' db'' : LifecycleDb} {apply : Bool} :
      PartialRuns policy now db db' →
      Batches policy now db'.retentionRuns.nextKey (openRun now apply db') db'' →
      PartialRuns policy now db db''
  | finished {db' db'' : LifecycleDb} {apply : Bool} (actor : String)
      (p : Retention.Progress) :
      PartialRuns policy now db db' →
      Batches policy now db'.retentionRuns.nextKey (openRun now apply db') db'' →
      PartialRuns policy now db (Retention.finish db''
        db'.retentionRuns.nextKey actor now p)

/-- Some of what is due in `db` has been treated. -/
structure RetentionUnderway (policy : RetentionPolicy) (now : Instant)
    (db db' : LifecycleDb) : Prop where
  rows : ∀ c : RetentionClass,
    (c.purge policy now db).Underway (c.table db) (c.table db')
  core : db'.core = { db.core with contacts := db'.core.contacts }
  closedAt : db'.closedAt = db.closedAt

/-- **All that is due in `db` has been treated, and nothing else**, but for
the rows of the runs. -/
structure RetentionDone (policy : RetentionPolicy) (now : Instant)
    (db db' : LifecycleDb) : Prop where
  rows : ∀ c : RetentionClass,
    (c.purge policy now db).Done (c.table db) (c.table db')
  core : db'.core = { db.core with contacts := db'.core.contacts }
  closedAt : db'.closedAt = db.closedAt

/-- Nothing is due. -/
def NothingDue (policy : RetentionPolicy) (now : Instant) (db : LifecycleDb) :
    Prop :=
  ∀ c : RetentionClass, (c.purge policy now db).Clear (c.table db)

section

variable {policy : RetentionPolicy} {now : Instant} {current : Nat}
  {db db' db'' start : LifecycleDb}

namespace RetentionUnderway

theorem refl (db : LifecycleDb) : RetentionUnderway policy now db db :=
  ⟨fun _ => .refl _ _, rfl, rfl⟩

/-- **What dates a row or excludes it has not changed.** -/
theorem frame (h : RetentionUnderway policy now db db') :
    RetentionClass.Frame db db' where
  campaigns := by rw [h.core]
  attempts := by rw [h.core]
  closedAt := h.closedAt
  contacts _ := (h.rows .contacts).map_lookup_eq
    (fun _ r => ⟨_, rfl, rfl⟩) fun _ _ h => h
  links _ := (h.rows .transcriptLinks).map_lookup_eq
    (fun _ r => ⟨_, rfl, rfl⟩) fun _ _ h => h
  analyses _ := (h.rows .analysisFreeText).map_lookup_eq
    (fun _ r => ⟨_, rfl, rfl⟩) fun _ _ h => h

/-- What a class selects is due since the beginning. -/
theorem due_of_candidates (h : RetentionUnderway policy now db db')
    {c : RetentionClass} {d : Int} {k : Nat}
    (hd : Retention.periodOf policy.toRetentionConfig c.step = some d)
    (hk : k ∈ c.step.candidates db' (Retention.cutoffAt now d) current) :
    ∃ r, AList.lookup k (c.table db') = some r ∧
      (c.purge policy now db).due r = true ∧ c.keep current k = true := by
  rw [c.candidates_eq] at hk
  obtain ⟨r, hr, hp⟩ := Table.mem_select.mp hk
  rw [h.frame.wants_eq, Bool.and_eq_true] at hp
  refine ⟨r, hr, ?_, hp.2⟩
  change c.due _ now db r = true
  rw [RetentionClass.due, hd]
  exact hp.1

/-- A batch. -/
theorem batch (h : RetentionUnderway policy now db db') (c : RetentionClass)
    {d : Int} {ids : List Nat}
    (hd : Retention.periodOf policy.toRetentionConfig c.step = some d)
    (hids : ∀ k ∈ ids,
      k ∈ c.step.candidates db' (Retention.cutoffAt now d) current) :
    RetentionUnderway policy now db (c.step.apply db' ids now) where
  rows c' := by
    by_cases hc : c' = c
    · subst hc
      refine (h.rows c').batch (c'.treats_apply ids now) fun k hk => ?_
      obtain ⟨r, hr, hdue, -⟩ := h.due_of_candidates hd (hids k hk)
      exact ⟨r, hr, hdue⟩
    · rw [RetentionClass.table_apply_ne hc]
      exact h.rows c'
  core := by
    cases c with
    | contacts =>
        exact congrArg (fun core : Db => { core with
          contacts := (Retention.scrubContacts db' ids now).core.contacts }) h.core
    | _ => exact h.core
  closedAt := by cases c <;> exact h.closedAt

/-- A run is opened. -/
theorem openRun (h : RetentionUnderway policy now db db')
    (hfresh : db.retentionRuns.nextKey ≤ db'.retentionRuns.nextKey)
    (apply : Bool) : RetentionUnderway policy now db (openRun now apply db') where
  rows c := by
    cases c with
    | retentionRuns =>
        exact (h.rows .retentionRuns).insert (Table.lookup_nextKey _)
          ⟨hfresh, rfl⟩
    | _ => exact h.rows _
  core := h.core
  closedAt := h.closedAt

/-- A run is closed. -/
theorem finish (h : RetentionUnderway policy now db db')
    (hfresh : db.retentionRuns.nextKey ≤ current) (actor : String)
    (p : Retention.Progress) :
    RetentionUnderway policy now db
      (Retention.finish db' current actor now p) where
  rows c := by
    cases c with
    | retentionRuns =>
        refine (h.rows .retentionRuns).modify ?_ fun r hown => hown
        cases hr : AList.lookup current db.retentionRuns with
        | none => exact hr
        | some r => exact absurd (Table.lt_nextKey hr) (not_lt.mpr hfresh)
    | auditLog =>
        exact (h.rows .auditLog).insert (Table.lookup_nextKey _) ⟨rfl, rfl⟩
    | _ => exact h.rows _
  core := h.core
  closedAt := h.closedAt

/-- When nothing is due any more, all has been done. -/
theorem done (h : RetentionUnderway policy now db db')
    (hclear : NothingDue policy now db') : RetentionDone policy now db db' where
  rows c := by
    refine (h.rows c).done fun {k r} hr => ?_
    have hnot := hclear c hr
    change c.due _ now db' r = false at hnot
    rw [h.frame.due_eq] at hnot
    exact hnot
  core := h.core
  closedAt := h.closedAt

end RetentionUnderway

/-! ## Sequences of runs -/

/-- The row of the run under way stays. -/
theorem Batches.lookup_current (h : Batches policy now current start db) :
    AList.lookup current db.retentionRuns
      = AList.lookup current start.retentionRuns := by
  induction h with
  | none => rfl
  | @batch db' c d ids _ hd hdate hids ih =>
      by_cases hc : c = .retentionRuns
      · subst hc
        have htreats : AList.lookup current (RetentionClass.retentionRuns.table
            (RetentionClass.retentionRuns.step.apply db' ids now)) = _ :=
          RetentionClass.retentionRuns.treats_apply ids now current
        refine htreats.trans ((if_neg fun hin => ?_).trans ih)
        have hsel := hids current hin
        rw [RetentionClass.candidates_eq] at hsel
        obtain ⟨r, -, hp⟩ := Table.mem_select.mp hsel
        rw [Bool.and_eq_true] at hp
        exact of_decide_eq_true hp.2 rfl
      · have hsame : RetentionClass.retentionRuns.table (c.step.apply db' ids now)
            = db'.retentionRuns := RetentionClass.table_apply_ne (Ne.symm hc) ids now
        rw [← ih]
        exact congrArg (AList.lookup current) hsame

theorem Batches.underway (h : Batches policy now current start db')
    (hstart : RetentionUnderway policy now db start) :
    RetentionUnderway policy now db db' := by
  induction h with
  | none => exact hstart
  | batch c _ hd hdate hids ih => exact ih.batch c hd hids

/-- The key of the next run comes after the keys of the runs before it. -/
theorem Batches.nextKey_lt {apply : Bool}
    (h : Batches policy now db.retentionRuns.nextKey (openRun now apply db) db') :
    db.retentionRuns.nextKey < db'.retentionRuns.nextKey := by
  have hrow := h.lookup_current
  rw [openRun, AList.lookup_insert] at hrow
  exact Table.lt_nextKey hrow

/-- Closing a run leaves its row. -/
theorem lookup_finish {r : RetentionRun}
    (h : AList.lookup current db.retentionRuns = some r) (actor : String)
    (p : Retention.Progress) :
    ∃ r', AList.lookup current
      (Retention.finish db current actor now p).retentionRuns = some r' :=
  ⟨_, (Table.lookup_modify_self db.retentionRuns current _).trans
    (congrArg (Option.map _) h)⟩

/-- **Any runs at `now` have done some of what is due.** -/
theorem PartialRuns.underway (h : PartialRuns policy now db db') :
    RetentionUnderway policy now db db' ∧
      db.retentionRuns.nextKey ≤ db'.retentionRuns.nextKey := by
  induction h with
  | none => exact ⟨.refl db, le_refl _⟩
  | crashed _ hb ih =>
      exact ⟨hb.underway (ih.1.openRun ih.2 _), ih.2.trans hb.nextKey_lt.le⟩
  | @finished before after apply actor p _ hb ih =>
      have hrow := hb.lookup_current
      rw [openRun, AList.lookup_insert] at hrow
      refine ⟨(hb.underway (ih.1.openRun ih.2 apply)).finish ih.2 actor p,
        ih.2.trans (Nat.le_of_lt ?_)⟩
      obtain ⟨r, hr⟩ := lookup_finish hrow actor p
      exact Table.lt_nextKey hr

/-- **Runs after which nothing is due** have done all of it, whatever was
treated in which run. -/
theorem PartialRuns.done (h : PartialRuns policy now db db')
    (hclear : NothingDue policy now db') : RetentionDone policy now db db' :=
  h.underway.1.done hclear

/-! ## The batches of one class -/

theorem Batches.trans (h : Batches policy now current start db)
    (h' : Batches policy now current db db') :
    Batches policy now current start db' := by
  induction h' with
  | none => exact h
  | batch c _ hd hdate hids ih => exact ih.batch c hd hdate hids

theorem Batches.frame (h : Batches policy now current start db) :
    RetentionClass.Frame start db :=
  (h.underway (.refl start)).frame

variable {c : RetentionClass} {d : Int}

/-- A selection depends on the table of the class only. -/
theorem candidates_congr (h : RetentionClass.Frame db db')
    (htable : c.table db' = c.table db) (cutoff : Instant) :
    c.step.candidates db' cutoff current = c.step.candidates db cutoff current := by
  rw [c.candidates_eq, c.candidates_eq, htable]
  simp only [h.wants_eq]

/-- What is selected is what is due, but for the run under way. -/
theorem candidates_eq_due
    (hd : Retention.periodOf policy.toRetentionConfig c.step = some d) :
    c.step.candidates db (Retention.cutoffAt now d) current
      = (c.table db).select fun k r =>
          (c.purge policy now db).due r && c.keep current k := by
  have hdue : (c.purge policy now db).due
      = c.wants db (Retention.cutoffAt now d) := by
    funext r
    change c.due _ now db r = _
    rw [RetentionClass.due, hd]
    rfl
  rw [c.candidates_eq, hdue]

/-- **A batch leaves as many rows due as it does not treat.** -/
theorem length_candidates_batch {ids : List Nat}
    (hd : Retention.periodOf policy.toRetentionConfig c.step = some d)
    (hids : ∀ k ∈ ids,
      k ∈ c.step.candidates db (Retention.cutoffAt now d) current)
    (hnodup : ids.Nodup) :
    (c.step.candidates (c.step.apply db ids now) (Retention.cutoffAt now d)
        current).length + ids.length
      = (c.step.candidates db (Retention.cutoffAt now d) current).length := by
  have hframe := ((RetentionUnderway.refl db).batch c hd hids).frame
  have hdue : (c.purge policy now (c.step.apply db ids now)).due
      = (c.purge policy now db).due := hframe.due_eq
  rw [candidates_eq_due hd] at hids ⊢
  rw [candidates_eq_due hd, hdue]
  exact Purge.length_select_treats (c.treats_apply ids now) hids hnodup

theorem length_candidates_take
    (hd : Retention.periodOf policy.toRetentionConfig c.step = some d) :
    (c.step.candidates (c.step.apply db ((c.step.candidates db
          (Retention.cutoffAt now d) current).take policy.batchSize) now)
        (Retention.cutoffAt now d) current).length
      + ((c.step.candidates db (Retention.cutoffAt now d) current).take
          policy.batchSize).length
      = (c.step.candidates db (Retention.cutoffAt now d) current).length := by
  refine length_candidates_batch hd (fun k hk => List.mem_of_mem_take hk) ?_
  rw [c.candidates_eq]
  exact Table.select_nodup.sublist (List.take_sublist _ _)

/-- The loop over the batches of a class. -/
theorem runBatches_batches (c : RetentionClass)
    (hd : Retention.periodOf policy.toRetentionConfig c.step = some d)
    (hdate : Retention.isDate (Retention.cutoffAt now d) = true)
    (turns : List Retention.Turn) (db : LifecycleDb) (total : Nat) :
    Batches policy now current db (Retention.runBatches c.step
      policy.toRetentionConfig now (Retention.cutoffAt now d) current turns db
      total).1.db := by
  induction turns generalizing db total with
  | nil => exact .none
  | cons turn turns ih =>
      cases turn with
      | overBudget => exact .none
      | dbError => exact .none
      | withinBudget =>
          rw [Retention.runBatches]
          split
          · exact .none
          · have hbatch : Batches policy now current db (c.step.apply db
                ((c.step.candidates db (Retention.cutoffAt now d) current).take
                  policy.batchSize) now) :=
              Batches.none.batch c hd hdate fun k hk => List.mem_of_mem_take hk
            exact hbatch.trans (ih _ _)

theorem table_runBatches_ne {c' : RetentionClass} (hc : c' ≠ c)
    (cfg : RetentionConfig) (cutoff : Instant) (turns : List Retention.Turn)
    (db : LifecycleDb) (total : Nat) :
    c'.table (Retention.runBatches c.step cfg now cutoff current turns db
      total).1.db = c'.table db := by
  induction turns generalizing db total with
  | nil => rfl
  | cons turn turns ih =>
      cases turn with
      | overBudget => rfl
      | dbError => rfl
      | withinBudget =>
          rw [Retention.runBatches]
          split
          · rfl
          · rw [ih, RetentionClass.table_apply_ne hc]

/-- **A class that is done has treated all it selected.** -/
theorem runBatches_done
    (hd : Retention.periodOf policy.toRetentionConfig c.step = some d)
    (turns : List Retention.Turn) (db : LifecycleDb) (total : Nat)
    (hrunning : (Retention.runBatches c.step policy.toRetentionConfig now
      (Retention.cutoffAt now d) current turns db total).1.status = .running) :
    c.step.candidates (Retention.runBatches c.step policy.toRetentionConfig now
        (Retention.cutoffAt now d) current turns db total).1.db
        (Retention.cutoffAt now d) current = [] ∧
      (Retention.runBatches c.step policy.toRetentionConfig now
        (Retention.cutoffAt now d) current turns db total).2
        = total + (c.step.candidates db (Retention.cutoffAt now d) current).length
    := by
  induction turns generalizing db total with
  | nil => cases hrunning
  | cons turn turns ih =>
      cases turn with
      | overBudget => cases hrunning
      | dbError => cases hrunning
      | withinBudget =>
          rw [Retention.runBatches] at hrunning ⊢
          split at hrunning
          · next hempty =>
              rw [if_pos hempty]
              have hnil : c.step.candidates db (Retention.cutoffAt now d) current
                  = [] := by
                have h := List.isEmpty_iff.mp hempty
                rw [List.take_eq_nil_iff] at h
                exact h.resolve_left policy.batchSize_pos.ne'
              exact ⟨hnil, by rw [hnil]; rfl⟩
          · next hsome =>
              rw [if_neg hsome]
              obtain ⟨hnil, htotal⟩ := ih _ _ hrunning
              refine ⟨hnil, htotal.trans ?_⟩
              have hlen : _ = (c.step.candidates db (Retention.cutoffAt now d)
                current).length := length_candidates_take hd
              omega

/-- **With time enough a class is done**, after at most one batch for every
row that is due, and one look that finds none. -/
theorem runBatches_enough
    (hd : Retention.periodOf policy.toRetentionConfig c.step = some d)
    (turns : List Retention.Turn) (db : LifecycleDb) (total : Nat)
    (hall : ∀ t ∈ turns, t = .withinBudget)
    (hlong : (c.step.candidates db (Retention.cutoffAt now d) current).length
      < turns.length) :
    (Retention.runBatches c.step policy.toRetentionConfig now
        (Retention.cutoffAt now d) current turns db total).1.status = .running ∧
      ∃ m, m ≤ (c.step.candidates db (Retention.cutoffAt now d) current).length + 1 ∧
        (Retention.runBatches c.step policy.toRetentionConfig now
          (Retention.cutoffAt now d) current turns db total).1.turns
          = turns.drop m := by
  induction turns generalizing db total with
  | nil => exact absurd hlong (Nat.not_lt_zero _)
  | cons turn turns ih =>
      obtain ⟨rfl, hrest⟩ := List.forall_mem_cons.mp hall
      rw [Retention.runBatches]
      split
      · exact ⟨rfl, 1, Nat.le_add_left _ _, rfl⟩
      · next hsome =>
          have hlen : _ = (c.step.candidates db (Retention.cutoffAt now d)
            current).length := length_candidates_take hd
          have hpos := List.length_pos_iff.mpr
            fun hnil => hsome (List.isEmpty_iff.mpr hnil)
          rw [List.length_cons] at hlong
          have hfewer : (c.step.candidates (c.step.apply db ((c.step.candidates db
              (Retention.cutoffAt now d) current).take policy.batchSize) now)
              (Retention.cutoffAt now d) current).length < turns.length := by
            omega
          obtain ⟨hrunning, m, hm, hturns⟩ := ih _ (total + _) hrest hfewer
          exact ⟨hrunning, m + 1, by omega, hturns⟩

/-! ## The classes in turn -/

/-- What is due in the classes that are enabled. -/
def dueCounts (policy : RetentionPolicy) (now : Instant) (current : Nat)
    (db : LifecycleDb) (cs : List RetentionClass) : List (String × Nat) :=
  cs.filterMap fun c =>
    (Retention.periodOf policy.toRetentionConfig c.step).map fun d =>
      (c.step.key,
        (c.step.candidates db (Retention.cutoffAt now d) current).length)

/-- The classes that are not enabled. -/
def disabledKeys (policy : RetentionPolicy) (cs : List RetentionClass) :
    List String :=
  (cs.filter fun c =>
    (Retention.periodOf policy.toRetentionConfig c.step).isNone).map (·.step.key)

/-- A run has gone through some classes. -/
structure ClassPasses (policy : RetentionPolicy) (now : Instant) (current : Nat)
    (cs : List RetentionClass) (p q : Retention.Progress) : Prop where
  batches : Batches policy now current p.db q.db
  tables : ∀ c, c ∉ cs → c.table q.db = c.table p.db
  counts : q.counts = p.counts ++ dueCounts policy now current p.db cs
  disabled : q.disabled = p.disabled ++ disabledKeys policy cs
  dated : ∀ c ∈ cs, ∀ d,
    Retention.periodOf policy.toRetentionConfig c.step = some d →
    Retention.isDate (Retention.cutoffAt now d) = true
  clear : ∀ c ∈ cs, ∀ d,
    Retention.periodOf policy.toRetentionConfig c.step = some d →
    c.step.candidates q.db (Retention.cutoffAt now d) current = []

variable {p p' q : Retention.Progress} {cs : List RetentionClass}

theorem dueCounts_congr (h : RetentionClass.Frame db db')
    (htables : ∀ c ∈ cs, c.table db' = c.table db) :
    dueCounts policy now current db' cs = dueCounts policy now current db cs := by
  refine List.filterMap_congr fun c hc => ?_
  simp only [candidates_congr h (htables c hc)]

theorem ClassPasses.nil (p : Retention.Progress) :
    ClassPasses policy now current [] p p :=
  ⟨.none, fun _ _ => rfl, (List.append_nil _).symm, (List.append_nil _).symm,
    nofun, nofun⟩

/-- One class after the other. -/
theorem ClassPasses.cons (h : ClassPasses policy now current [c] p p')
    (h' : ClassPasses policy now current cs p' q) (hnew : c ∉ cs) :
    ClassPasses policy now current (c :: cs) p q where
  batches := h.batches.trans h'.batches
  tables c' hc' := by
    obtain ⟨hne, hrest⟩ := List.ne_and_not_mem_of_not_mem_cons hc'
    rw [h'.tables c' hrest, h.tables c' (by simpa using hne)]
  counts := by
    have hsame : dueCounts policy now current p'.db cs
        = dueCounts policy now current p.db cs := by
      refine dueCounts_congr h.batches.frame fun c' hc' => h.tables c' ?_
      rintro hin
      rw [List.mem_singleton] at hin
      exact hnew (hin ▸ hc')
    rw [h'.counts, h.counts, hsame, List.append_assoc, dueCounts, dueCounts,
      dueCounts, ← List.filterMap_append]
    rfl
  disabled := by
    rw [h'.disabled, h.disabled, List.append_assoc, disabledKeys, disabledKeys,
      disabledKeys, ← List.map_append, ← List.filter_append]
    rfl
  dated c' hc' d hd := by
    rcases List.mem_cons.mp hc' with rfl | hc'
    · exact h.dated c' List.mem_cons_self d hd
    · exact h'.dated c' hc' d hd
  clear c' hc' d hd := by
    rcases List.mem_cons.mp hc' with rfl | hc'
    · rw [candidates_congr h'.batches.frame (h'.tables c' hnew)]
      exact h.clear c' List.mem_cons_self d hd
    · exact h'.clear c' hc' d hd

/-- A run that is over does no more. -/
theorem runStep_over (cfg : RetentionConfig) (apply : Bool) (step : RetentionStep)
    (h : p.status ≠ .running) : Retention.runStep cfg now apply current p step = p :=
  if_pos h

theorem runStep_batches (c : RetentionClass) (p : Retention.Progress) :
    Batches policy now current p.db (Retention.runStep policy.toRetentionConfig
      now true current p c.step).db := by
  rw [Retention.runStep]
  split
  · exact .none
  · split
    · exact .none
    · next d hd =>
      dsimp only
      split
      · exact .none
      · next hdate =>
        exact runBatches_batches c hd (by simpa using hdate) _ _ _

theorem runStep_disabled {cfg : RetentionConfig} {apply : Bool}
    {step : RetentionStep} (hp : p.status = .running)
    (hd : Retention.periodOf cfg step = none) :
    Retention.runStep cfg now apply current p step
      = { p with disabled := p.disabled ++ [step.key] } := by
  rw [Retention.runStep, if_neg (not_not.mpr hp), hd]

/-- A cutoff that is no date fails the run. -/
theorem runStep_overflow {cfg : RetentionConfig} {apply : Bool}
    {step : RetentionStep} (hp : p.status = .running)
    (hd : Retention.periodOf cfg step = some d)
    (hdate : Retention.isDate (Retention.cutoffAt now d) = false) :
    Retention.runStep cfg now apply current p step
      = { p with status := .failed, errorCategory := some "internal" } := by
  rw [Retention.runStep, if_neg (not_not.mpr hp), hd]
  simp only [hdate, Bool.not_false, if_true]

theorem runStep_dry {cfg : RetentionConfig} {step : RetentionStep}
    (hp : p.status = .running) (hd : Retention.periodOf cfg step = some d)
    (hdate : Retention.isDate (Retention.cutoffAt now d) = true) :
    Retention.runStep cfg now false current p step
      = { p with counts := p.counts ++ [(step.key, (step.candidates p.db
          (Retention.cutoffAt now d) current).length)] } := by
  rw [Retention.runStep, if_neg (not_not.mpr hp), hd]
  simp only [hdate, Bool.not_true, Bool.false_eq_true, if_false]

/-- What a step that is not broken off leaves. -/
theorem runStep_apply {cfg : RetentionConfig} {step : RetentionStep}
    (hp : p.status = .running) (hd : Retention.periodOf cfg step = some d)
    (hdate : Retention.isDate (Retention.cutoffAt now d) = true)
    {done : Retention.Progress × Nat}
    (hdone : Retention.runBatches step cfg now (Retention.cutoffAt now d) current
      p.turns p.db 0 = done) (hrunning : done.1.status = .running) :
    Retention.runStep cfg now true current p step
      = { p with
          db := done.1.db
          turns := done.1.turns
          counts := p.counts ++ [(step.key, done.2)]
          errorCategory := none } := by
  subst hdone
  have hfailed : ¬ (Retention.runBatches step cfg now (Retention.cutoffAt now d)
      current p.turns p.db 0).1.status = .failed := by
    rw [hrunning]
    exact fun h => by cases h
  rw [Retention.runStep, if_neg (not_not.mpr hp), hd]
  simp only [hdate, Bool.not_true, Bool.false_eq_true, if_false, if_true,
    hrunning, hp]
  rfl

theorem dueCounts_singleton
    (hd : Retention.periodOf policy.toRetentionConfig c.step = some d) :
    dueCounts policy now current db [c] = [(c.step.key,
      (c.step.candidates db (Retention.cutoffAt now d) current).length)] := by
  simp [dueCounts, hd]

/-- **A run that is still going has done the class.** -/
theorem runStep_passed (c : RetentionClass) (p : Retention.Progress)
    (hq : (Retention.runStep policy.toRetentionConfig now true current p
      c.step).status = .running) :
    p.status = .running ∧ ClassPasses policy now current [c] p
      (Retention.runStep policy.toRetentionConfig now true current p c.step) := by
  have hp : p.status = .running := by
    by_contra hover
    rw [runStep_over _ _ _ hover] at hq
    exact hover hq
  refine ⟨hp, ?_⟩
  cases hd : Retention.periodOf policy.toRetentionConfig c.step with
  | none =>
      rw [runStep_disabled hp hd]
      refine ⟨.none, fun _ _ => rfl, ?_, ?_, fun c' hc' d' hd' => ?_,
        fun c' hc' d' hd' => ?_⟩
      · simp [dueCounts, hd]
      · simp [disabledKeys, hd]
      · cases List.mem_singleton.mp hc'
        rw [hd] at hd'
        cases hd'
      · cases List.mem_singleton.mp hc'
        rw [hd] at hd'
        cases hd'
  | some d =>
      have hdate : Retention.isDate (Retention.cutoffAt now d) = true := by
        by_contra hover
        rw [runStep_overflow hp hd (Bool.not_eq_true _ ▸ hover)] at hq
        cases hq
      have hrunning : (Retention.runBatches c.step policy.toRetentionConfig now
          (Retention.cutoffAt now d) current p.turns p.db 0).1.status
          = .running := by
        rw [Retention.runStep, if_neg (not_not.mpr hp), hd] at hq
        simpa only [hdate, Bool.not_true, Bool.false_eq_true, if_false, if_true]
          using hq
      obtain ⟨hclear, htotal⟩ := runBatches_done hd _ _ _ hrunning
      rw [runStep_apply hp hd hdate rfl hrunning]
      refine ⟨runBatches_batches c hd hdate _ _ _, fun c' hc' => ?_, ?_, ?_,
        fun c' hc' d' hd' => ?_, fun c' hc' d' hd' => ?_⟩
      · exact table_runBatches_ne (by simpa using hc') _ _ _ _ _
      · rw [dueCounts_singleton hd, htotal, Nat.zero_add]
      · simp [disabledKeys, hd]
      · cases List.mem_singleton.mp hc'
        rw [hd] at hd'
        cases hd'
        exact hdate
      · cases List.mem_singleton.mp hc'
        rw [hd] at hd'
        cases hd'
        exact hclear

/-! ## All classes -/

theorem foldl_batches (cs : List RetentionClass) (p : Retention.Progress) :
    Batches policy now current p.db ((cs.map RetentionClass.step).foldl
      (Retention.runStep policy.toRetentionConfig now true current) p).db := by
  induction cs generalizing p with
  | nil => exact .none
  | cons c cs ih => exact (runStep_batches c p).trans (ih _)

/-- **A run that has gone through all has treated what was due in each.** -/
theorem foldl_passed (hnodup : cs.Nodup) (p : Retention.Progress)
    (hq : ((cs.map RetentionClass.step).foldl
      (Retention.runStep policy.toRetentionConfig now true current) p).status
        = .running) :
    p.status = .running ∧ ClassPasses policy now current cs p
      ((cs.map RetentionClass.step).foldl
        (Retention.runStep policy.toRetentionConfig now true current) p) := by
  induction cs generalizing p with
  | nil => exact ⟨hq, .nil p⟩
  | cons c cs ih =>
      obtain ⟨hnew, hnodup⟩ := List.nodup_cons.mp hnodup
      rw [List.map_cons, List.foldl_cons] at hq ⊢
      obtain ⟨hstep, hrest⟩ := ih hnodup _ hq
      obtain ⟨hp, hfirst⟩ := runStep_passed c p hstep
      exact ⟨hp, hfirst.cons hrest hnew⟩

theorem foldl_over (cfg : RetentionConfig) (apply : Bool)
    (steps : List RetentionStep) (h : p.status ≠ .running) :
    steps.foldl (Retention.runStep cfg now apply current) p = p := by
  induction steps with
  | nil => rfl
  | cons step steps ih => rw [List.foldl_cons, runStep_over cfg apply step h, ih]

/-- **A cutoff that is no date ends the run in its class**, whatever is due in
the classes after it. -/
theorem foldl_overflow {before : List RetentionClass} {apply : Bool}
    (hbefore : ∀ c ∈ before,
      Retention.periodOf policy.toRetentionConfig c.step = none)
    (hd : Retention.periodOf policy.toRetentionConfig c.step = some d)
    (hdate : Retention.isDate (Retention.cutoffAt now d) = false)
    (after : List RetentionClass) (p : Retention.Progress)
    (hp : p.status = .running) :
    ∃ disabled, ((before ++ c :: after).map RetentionClass.step).foldl
        (Retention.runStep policy.toRetentionConfig now apply current) p
      = { p with
          status := .failed
          disabled
          errorCategory := some "internal" } := by
  induction before generalizing p with
  | nil =>
      refine ⟨p.disabled, ?_⟩
      rw [List.nil_append, List.map_cons, List.foldl_cons,
        runStep_overflow hp hd hdate]
      exact foldl_over _ _ _ fun h => by cases h
  | cons c' before ih =>
      obtain ⟨hnone, hbefore⟩ := List.forall_mem_cons.mp hbefore
      rw [List.cons_append, List.map_cons, List.foldl_cons,
        runStep_disabled hp hnone]
      obtain ⟨disabled, heq⟩ := ih hbefore
        { p with disabled := p.disabled ++ [c'.step.key] } hp
      exact ⟨disabled, heq⟩

/-- What a dry run counts. -/
theorem foldl_dry (hdated : policy.Dated now) (cs : List RetentionClass)
    (p : Retention.Progress) (hp : p.status = .running) :
    (cs.map RetentionClass.step).foldl
        (Retention.runStep policy.toRetentionConfig now false current) p
      = { p with
          counts := p.counts ++ dueCounts policy now current p.db cs
          disabled := p.disabled ++ disabledKeys policy cs } := by
  induction cs generalizing p with
  | nil => simp [dueCounts, disabledKeys]
  | cons c cs ih =>
      rw [List.map_cons, List.foldl_cons]
      cases hd : Retention.periodOf policy.toRetentionConfig c.step with
      | none =>
          rw [runStep_disabled hp hd]
          refine (ih _ ?_).trans ?_
          · exact hp
          · simp [dueCounts, disabledKeys, hd]
      | some d =>
          rw [runStep_dry hp hd (hdated c d hd)]
          refine (ih _ ?_).trans ?_
          · exact hp
          · simp [dueCounts, disabledKeys, hd]

/-- It writes nothing on its way. -/
theorem foldl_dry_db (cfg : RetentionConfig) (steps : List RetentionStep)
    (p : Retention.Progress) :
    (steps.foldl (Retention.runStep cfg now false current) p).db = p.db := by
  induction steps generalizing p with
  | nil => rfl
  | cons step steps ih =>
      refine (ih _).trans ?_
      rw [Retention.runStep]
      split
      · rfl
      · split
        · rfl
        · dsimp only
          split <;> rfl

/-- The turns that are enough for some classes: one for each row that is due,
and one to see that there is no more. -/
def turnsNeeded (policy : RetentionPolicy) (now : Instant) (current : Nat)
    (db : LifecycleDb) : List RetentionClass → Nat
  | [] => 0
  | c :: cs =>
      (match Retention.periodOf policy.toRetentionConfig c.step with
        | none => 0
        | some d => (c.step.candidates db (Retention.cutoffAt now d)
            current).length + 1) + turnsNeeded policy now current db cs

theorem turnsNeeded_congr (h : RetentionClass.Frame db db')
    (htables : ∀ c ∈ cs, c.table db' = c.table db) :
    turnsNeeded policy now current db' cs = turnsNeeded policy now current db cs := by
  induction cs with
  | nil => rfl
  | cons c cs ih =>
      obtain ⟨hc, hrest⟩ := List.forall_mem_cons.mp htables
      rw [turnsNeeded, turnsNeeded, ih hrest]
      simp only [candidates_congr h hc]

/-- **With time enough a run goes through all.** -/
theorem foldl_enough (hdated : policy.Dated now) (hnodup : cs.Nodup)
    (p : Retention.Progress)
    (hp : p.status = .running) (hall : ∀ t ∈ p.turns, t = .withinBudget)
    (hlong : turnsNeeded policy now current p.db cs ≤ p.turns.length) :
    ((cs.map RetentionClass.step).foldl
      (Retention.runStep policy.toRetentionConfig now true current) p).status
        = .running := by
  induction cs generalizing p with
  | nil => exact hp
  | cons c cs ih =>
      obtain ⟨hnew, hnodup⟩ := List.nodup_cons.mp hnodup
      rw [List.map_cons, List.foldl_cons]
      cases hd : Retention.periodOf policy.toRetentionConfig c.step with
      | none =>
          rw [turnsNeeded, hd, Nat.zero_add] at hlong
          rw [runStep_disabled hp hd]
          exact ih hnodup _ hp hall hlong
      | some d =>
          rw [turnsNeeded, hd] at hlong
          have hneeded : (c.step.candidates p.db (Retention.cutoffAt now d)
              current).length + 1 + turnsNeeded policy now current p.db cs
              ≤ p.turns.length := hlong
          have hfewer : (c.step.candidates p.db (Retention.cutoffAt now d)
              current).length < p.turns.length := by omega
          obtain ⟨hrunning, m, hm, hturns⟩ :=
            runBatches_enough hd p.turns p.db 0 hall hfewer
          have hbatches : Batches policy now current p.db _ :=
            runBatches_batches c hd (hdated c d hd) p.turns p.db 0
          rw [runStep_apply hp hd (hdated c d hd) rfl hrunning]
          refine ih hnodup _ hp (fun t ht => ?_) ?_
          · rw [hturns] at ht
            exact hall t (List.mem_of_mem_drop ht)
          · have hsame : turnsNeeded policy now current _ cs
                = turnsNeeded policy now current p.db cs :=
              turnsNeeded_congr hbatches.frame fun c' hc' =>
                have hne : c' ≠ c := fun heq => hnew (heq ▸ hc')
                table_runBatches_ne hne _ _ _ _ _
            rw [hturns, List.length_drop]
            dsimp only
            omega

end

end CallingAgent
