import CallingAgent.Lifecycle.ErasureComplete

/-!
# Re-application — erasures after a restore

A restore brings erased people back, and may lose the rows that say so.
`reconcile_erasures` adds the fingerprints of the secondary copy that are
missing, and `reapply_erasures` then goes through the contacts page by page.
What the pages do together is one step: the content of everybody who matches
and is not held is cleared, and nothing else is changed.
-/

namespace CallingAgent

open Lib

/-! ## The copy of the erasure log -/

structure ErasureCopyRow where
  fingerprint : String
  createdAt : Instant

/-- The counts of `reconcile_erasures`. -/
structure ErasureReconcileCounts where
  copyRows : Nat := 0
  alreadyPresent : Nat := 0
  wouldAdd : Nat := 0
  added : Nat := 0
  deriving DecidableEq, Repr

/-- A row of the copy. `known` holds what the log had, and what was added. -/
def reconcileErasureRow (apply : Bool)
    (st : List String × ErasureReconcileCounts) (row : ErasureCopyRow) :
    List String × ErasureReconcileCounts :=
  let counts := { st.2 with copyRows := st.2.copyRows + 1 }
  if row.fingerprint ∈ st.1 then
    (st.1, { counts with alreadyPresent := counts.alreadyPresent + 1 })
  else
    let counts := { counts with wouldAdd := counts.wouldAdd + 1 }
    if apply then
      (row.fingerprint :: st.1, { counts with added := counts.added + 1 })
    else (st.1, counts)

/-- `reconcile_erasures` -/
def reconcileErasures (db : LifecycleDb) (rows : List ErasureCopyRow)
    (apply : Bool) (now : Instant) : LifecycleDb × ErasureReconcileCounts :=
  let st := rows.foldl (reconcileErasureRow apply) (db.core.erasureLog, {})
  (if apply then
      { db with core := { db.core with erasureLog := st.1 } }.audit
        { actor := "restore_reconcile", action := "erasure_log.reconciled"
          entity := none, createdAt := now }
    else db, st.2)

/-! ## One step for all -/

/-- The content and the rows of these contacts are cleared, and nothing else
is changed. -/
structure Scrubbed (ids : List ContactId) (now : Instant)
    (db db' : LifecycleDb) : Prop where
  contacts : ∀ c, db'.core.contact c = (db.core.contact c).map fun row =>
    if c ∈ ids then scrubContact now c row else row
  messages : ∀ m, AList.lookup m db'.messages
    = (AList.lookup m db.messages).filter fun r =>
        !db.sessionOf ids r.sessionId
  sessions : ∀ s, AList.lookup s db'.sessions
    = (AList.lookup s db.sessions).map fun r =>
        if db.attemptOf ids r.callAttemptId then { r with transcriptUrl := none }
        else r
  snapshots : ∀ s, AList.lookup s db'.snapshots
    = (AList.lookup s db.snapshots).map fun r =>
        if db.attemptOf ids r.attemptId then r.cleared else r
  analyses : ∀ a, AList.lookup a db'.analyses
    = (AList.lookup a db.analyses).map fun r =>
        if ids.contains r.row.call.contactId then r.cleared else r
  core : db'.core = { db.core with contacts := db'.core.contacts }
  closedAt : db'.closedAt = db.closedAt
  auditLog : db'.auditLog = db.auditLog
  processedEvents : db'.processedEvents = db.processedEvents
  retentionRuns : db'.retentionRuns = db.retentionRuns

section

variable {ids ids' : List ContactId} {now : Instant} {db db' db'' : LifecycleDb}

theorem LifecycleDb.attemptOf_append (a : AttemptId) :
    db.attemptOf (ids ++ ids') a = (db.attemptOf ids a || db.attemptOf ids' a) := by
  unfold LifecycleDb.attemptOf
  cases db.core.attempt a with
  | none => rfl
  | some row => simp [Bool.decide_or]

theorem LifecycleDb.sessionOf_append (s : SessionId) :
    db.sessionOf (ids ++ ids') s = (db.sessionOf ids s || db.sessionOf ids' s) := by
  unfold LifecycleDb.sessionOf
  cases AList.lookup s db.sessions with
  | none => rfl
  | some row => exact LifecycleDb.attemptOf_append _

theorem scrubContact_idem (c : ContactId) (row : Contact) :
    scrubContact now c (scrubContact now c row) = scrubContact now c row := by
  unfold scrubContact
  cases row.status <;> rfl

namespace Scrubbed

theorem refl (now : Instant) (db : LifecycleDb) : Scrubbed [] now db db where
  contacts c := by simp
  messages m := by
    cases AList.lookup m db.messages <;>
      simp [LifecycleDb.sessionOf, LifecycleDb.attemptOf, Option.filter_some]
  sessions s := by simp [LifecycleDb.attemptOf]
  snapshots s := by simp [LifecycleDb.attemptOf]
  analyses a := by simp
  core := rfl
  closedAt := rfl
  auditLog := rfl
  processedEvents := rfl
  retentionRuns := rfl

/-- Which attempt is whose stays as it is. -/
theorem attemptOf (h : Scrubbed ids now db db') (ids' : List ContactId)
    (a : AttemptId) : db'.attemptOf ids' a = db.attemptOf ids' a := by
  unfold LifecycleDb.attemptOf Db.attempt
  rw [h.core]

theorem sessionOf (h : Scrubbed ids now db db') (ids' : List ContactId)
    (s : SessionId) : db'.sessionOf ids' s = db.sessionOf ids' s := by
  unfold LifecycleDb.sessionOf
  rw [h.sessions]
  cases AList.lookup s db.sessions with
  | none => rfl
  | some r =>
      simp only [Option.map_some, Option.any_some, h.attemptOf]
      split <;> rfl

/-- **Two steps are one** over the contacts of both. -/
theorem trans (h : Scrubbed ids now db db') (h' : Scrubbed ids' now db' db'') :
    Scrubbed (ids ++ ids') now db db'' where
  contacts c := by
    rw [h'.contacts, h.contacts]
    cases db.core.contact c with
    | none => rfl
    | some row =>
        simp only [Option.map_some, List.mem_append, Option.some.injEq]
        by_cases hc : c ∈ ids <;> by_cases hc' : c ∈ ids' <;>
          simp [hc, hc', scrubContact_idem]
  messages m := by
    rw [h'.messages, h.messages, Option.filter_filter]
    congr 1
    funext r
    rw [h.sessionOf, LifecycleDb.sessionOf_append]
    cases db.sessionOf ids r.sessionId <;> simp
  sessions s := by
    rw [h'.sessions, h.sessions, Option.map_map]
    congr 1
    funext r
    simp only [Function.comp, h.attemptOf, LifecycleDb.attemptOf_append]
    by_cases ha : db.attemptOf ids r.callAttemptId = true <;>
      by_cases ha' : db.attemptOf ids' r.callAttemptId = true <;> simp [ha, ha']
  snapshots s := by
    rw [h'.snapshots, h.snapshots, Option.map_map]
    congr 1
    funext r
    simp only [Function.comp, h.attemptOf, LifecycleDb.attemptOf_append]
    by_cases ha : db.attemptOf ids r.attemptId = true <;>
      by_cases ha' : db.attemptOf ids' r.attemptId = true <;>
        simp [ha, ha', WorkingMemorySnapshot.cleared, WorkingMemory.cleared]
  analyses a := by
    rw [h'.analyses, h.analyses, Option.map_map]
    congr 1
    funext r
    by_cases hc : r.row.call.contactId ∈ ids <;>
      by_cases hc' : r.row.call.contactId ∈ ids' <;>
        simp [hc, hc', StoredAnalysis.cleared]
  core := by rw [h'.core, h.core]
  closedAt := h'.closedAt.trans h.closedAt
  auditLog := h'.auditLog.trans h.auditLog
  processedEvents := h'.processedEvents.trans h.processedEvents
  retentionRuns := h'.retentionRuns.trans h.retentionRuns

end Scrubbed

/-- What a page does to the contacts that are free. -/
theorem scrub_scrubbed (ids : List ContactId) (now : Instant)
    (db : LifecycleDb) :
    Scrubbed ids now db ((db.scrubContent ids).scrubContactRows ids now) where
  contacts c := by
    unfold Db.contact
    rw [LifecycleDb.scrubContactRows, Table.lookup_mapRows]
    congr 1
    funext row
    simp
  messages m := Table.lookup_deleteIn_select
  sessions s := Table.lookup_updateIn_select
  snapshots s := Table.lookup_updateIn_select
  analyses a := Table.lookup_updateIn_select
  core := rfl
  closedAt := rfl
  auditLog := rfl
  processedEvents := rfl
  retentionRuns := rfl

end

/-! ## The pages -/

section

variable {env : Env} {fingerprint : String → String} {now : Instant}
  {prints : List String} {ids : List ContactId} {db db' : LifecycleDb}
  {c : ContactId}

/-- A hold is as it was. -/
theorem Scrubbed.contactHeld (h : Scrubbed ids now db db') (c : ContactId) :
    db'.contactHeld c = db.contactHeld c := by
  have hcampaigns : db'.core.campaigns = db.core.campaigns := by rw [h.core]
  unfold LifecycleDb.contactHeld
  rw [h.contacts]
  cases db.core.contact c with
  | none => rfl
  | some row =>
      simp only [Option.map_some, Option.any_some]
      unfold LifecycleDb.holdCovers Db.campaign
      rw [hcampaigns]
      by_cases hc : c ∈ ids
      · rw [if_pos hc]
        rfl
      · rw [if_neg hc]

/-- Whoever was not reached matches as before. -/
theorem Scrubbed.matchesErased (h : Scrubbed ids now db db') (hc : c ∉ ids) :
    matchesErased env fingerprint db' prints c
      = matchesErased env fingerprint db prints c := by
  unfold CallingAgent.matchesErased
  rw [h.contacts]
  simp [hc]

/-- The pages are the contacts, in their order. -/
theorem contactPages_flatten {page : Nat} (hp : 0 < page) (fuel : Nat)
    (ids : List ContactId) (hf : ids.length ≤ fuel) :
    (contactPages page fuel ids).flatten = ids := by
  induction fuel generalizing ids with
  | zero =>
      have hnil : ids = [] := List.length_eq_zero_iff.mp (Nat.le_zero.mp hf)
      rw [hnil]
      rfl
  | succ fuel ih =>
      unfold contactPages
      cases ids with
      | nil => simp
      | cons i ids =>
          obtain ⟨p, rfl⟩ := Nat.exists_eq_succ_of_ne_zero hp.ne'
          have hrest : ((i :: ids).drop (p + 1)).length ≤ fuel := by
            simp only [List.drop_succ_cons, List.length_drop]
            simp only [List.length_cons] at hf
            omega
          have hne : ((i :: ids).take (p + 1)).isEmpty = false := rfl
          rw [hne, if_neg Bool.false_ne_true, List.flatten_cons, ih _ hrest,
            List.take_append_drop]

/-- Who matches, and who of them is free, before the first page. -/
def matching (env : Env) (fingerprint : String → String) (db : LifecycleDb)
    (prints : List String) (ids : List ContactId) : List ContactId :=
  ids.filter (matchesErased env fingerprint db prints)

def freeToScrub (env : Env) (fingerprint : String → String) (db : LifecycleDb)
    (prints : List String) (ids : List ContactId) : List ContactId :=
  (matching env fingerprint db prints ids).filter fun c => !db.contactHeld c

/-- The report after these contacts. -/
def ReapplyReport.over (env : Env) (fingerprint : String → String)
    (db : LifecycleDb) (prints : List String) (report : ReapplyReport)
    (ids : List ContactId) : ReapplyReport :=
  let matched := matching env fingerprint db prints ids
  let free := freeToScrub env fingerprint db prints ids
  { report with
    contactsScanned := report.contactsScanned + ids.length
    matched := report.matched ++ matched
    contactsScrubbed := report.contactsScrubbed + free.length
    skippedLegalHold :=
      report.skippedLegalHold + (matched.length - free.length) }

theorem freeToScrub_le (env : Env) (fingerprint : String → String)
    (db : LifecycleDb) (prints : List String) (ids : List ContactId) :
    (freeToScrub env fingerprint db prints ids).length
      ≤ (matching env fingerprint db prints ids).length :=
  List.length_filter_le _ _

theorem ReapplyReport.over_append (report : ReapplyReport)
    (ids' : List ContactId) :
    (report.over env fingerprint db prints ids).over env fingerprint db prints
      ids' = report.over env fingerprint db prints (ids ++ ids') := by
  have hle := freeToScrub_le env fingerprint db prints ids
  have hle' := freeToScrub_le env fingerprint db prints ids'
  simp only [ReapplyReport.over, matching, freeToScrub, List.filter_append,
    List.length_append, List.append_assoc] at hle hle' ⊢
  congr 1 <;> omega

/-- **A page** on a database where those before it are scrubbed. -/
theorem reapplyPage_scrubbed (h : Scrubbed ids now db db')
    (page : List ContactId) (hnew : ∀ c ∈ page, c ∉ ids)
    (report : ReapplyReport) :
    Scrubbed (ids ++ freeToScrub env fingerprint db prints page) now db
        (reapplyPage env fingerprint now true prints (db', report) page).1 ∧
      (reapplyPage env fingerprint now true prints (db', report) page).2
        = report.over env fingerprint db prints page := by
  have hmatched : page.filter (matchesErased env fingerprint db' prints)
      = matching env fingerprint db prints page :=
    List.filter_congr fun c hc => h.matchesErased (hnew c hc)
  have hfree : (page.filter (matchesErased env fingerprint db' prints)).filter
      (fun c => !db'.contactHeld c)
      = freeToScrub env fingerprint db prints page := by
    rw [hmatched]
    exact List.filter_congr fun c _ => by rw [h.contactHeld]
  unfold reapplyPage
  dsimp only
  rw [hfree, hmatched]
  refine ⟨?_, rfl⟩
  split
  · exact h.trans (scrub_scrubbed _ now db')
  · next hnone =>
    have hnil : freeToScrub env fingerprint db prints page = [] := by
      simpa using hnone
    rw [hnil, List.append_nil]
    exact h

/-- **All pages.** -/
theorem reapplyPages_scrubbed (env : Env) (fingerprint : String → String)
    (prints : List String) (pages : List (List ContactId))
    (done : List ContactId) (hnodup : (done ++ pages.flatten).Nodup)
    (report : ReapplyReport)
    (h : Scrubbed (freeToScrub env fingerprint db prints done) now db db') :
    Scrubbed (freeToScrub env fingerprint db prints (done ++ pages.flatten)) now
        db (pages.foldl (reapplyPage env fingerprint now true prints)
          (db', report.over env fingerprint db prints done)).1 ∧
      (pages.foldl (reapplyPage env fingerprint now true prints)
          (db', report.over env fingerprint db prints done)).2
        = report.over env fingerprint db prints (done ++ pages.flatten) := by
  induction pages generalizing done db' with
  | nil =>
      rw [List.flatten_nil, List.append_nil]
      exact ⟨h, rfl⟩
  | cons page pages ih =>
      rw [List.flatten_cons, ← List.append_assoc] at hnodup ⊢
      have hnew : ∀ c ∈ page, c ∉ freeToScrub env fingerprint db prints done := by
        intro c hc hdone
        have hdisjoint := (List.nodup_append.mp
          (List.nodup_append.mp hnodup).1).2.2
        exact hdisjoint c (List.mem_of_mem_filter (List.mem_of_mem_filter hdone))
          c hc rfl
      obtain ⟨hpage, hreport⟩ := reapplyPage_scrubbed h page hnew
        (report.over env fingerprint db prints done)
      rw [ReapplyReport.over_append] at hreport
      have happend : freeToScrub env fingerprint db prints done
          ++ freeToScrub env fingerprint db prints page
          = freeToScrub env fingerprint db prints (done ++ page) := by
        simp [freeToScrub, matching, List.filter_append]
      rw [happend] at hpage
      have hstep : reapplyPage env fingerprint now true prints
          (db', report.over env fingerprint db prints done) page
          = ((reapplyPage env fingerprint now true prints
              (db', report.over env fingerprint db prints done) page).1,
            report.over env fingerprint db prints (done ++ page)) :=
        Prod.ext rfl hreport
      rw [List.foldl_cons, hstep]
      exact ih (done ++ page) hnodup hpage

/-- A dry run reads the same pages and leaves everything. -/
theorem reapplyPages_dry (pages : List (List ContactId))
    (report : ReapplyReport) :
    pages.foldl (reapplyPage env fingerprint now false prints) (db, report)
      = (db, report.over env fingerprint db prints pages.flatten) := by
  induction pages generalizing report with
  | nil => simp [ReapplyReport.over, matching, freeToScrub]
  | cons page pages ih =>
      have hstep : reapplyPage env fingerprint now false prints (db, report) page
          = (db, report.over env fingerprint db prints page) := rfl
      rw [List.foldl_cons, hstep, ih, ReapplyReport.over_append,
        List.flatten_cons]

end

/-! ## The whole re-application -/

section

variable (env : Env) (fingerprint : String → String) (db : LifecycleDb)

/-- Whom a re-application clears: not purged, with the number of a logged
fingerprint, and not held. -/
def erasureTargets : List ContactId :=
  freeToScrub env fingerprint db db.core.erasureLog.eraseDups (unpurged db)

/-- What it reports, in pages of any size. -/
def reapplyReport (apply : Bool) : ReapplyReport :=
  let prints := db.core.erasureLog.eraseDups
  let report : ReapplyReport := { fingerprints := prints.length, applied := apply }
  if prints.isEmpty then report
  else
    { report.over env fingerprint db prints (unpurged db) with
      erasedMissingFromDnc := (prints.filter fun p =>
        !(db.core.suppressions.rows.map fun r =>
          fingerprint (canonicalNumber env r.phoneNumber)).contains p).length }

variable {env fingerprint db} {now : Instant} {page : Nat} {c : ContactId}

theorem mem_erasureTargets : c ∈ erasureTargets env fingerprint db ↔
    ∃ row, db.Unpurged c row ∧ db.contactHeld c = false ∧
      fingerprint (canonicalNumber env row.normalizedPhoneNumber)
        ∈ db.core.erasureLog := by
  unfold erasureTargets freeToScrub matching matchesErased
  rw [List.mem_filter, List.mem_filter, mem_unpurged]
  constructor
  · rintro ⟨⟨⟨row, hrow⟩, hmatch⟩, hfree⟩
    rw [hrow.1, Option.any_some, List.contains_iff_mem, List.mem_eraseDups]
      at hmatch
    exact ⟨row, hrow, by simpa using hfree, hmatch⟩
  · rintro ⟨row, hrow, hfree, hmatch⟩
    refine ⟨⟨⟨row, hrow⟩, ?_⟩, by simpa using hfree⟩
    rw [hrow.1, Option.any_some, List.contains_iff_mem, List.mem_eraseDups]
    exact hmatch

/-- **Paged or not**: a re-application is one step. -/
theorem reapplyErasures_scrubbed (hpage : 0 < page) :
    Scrubbed (erasureTargets env fingerprint db) now db
        (reapplyErasures env fingerprint db now true page).1 ∧
      (reapplyErasures env fingerprint db now true page).2
        = reapplyReport env fingerprint db true := by
  unfold reapplyErasures reapplyReport
  dsimp only
  by_cases hprints : db.core.erasureLog.eraseDups.isEmpty = true
  · rw [if_pos hprints, if_pos hprints]
    have hnone : erasureTargets env fingerprint db = [] := by
      rw [List.eq_nil_iff_forall_not_mem]
      intro c hc
      obtain ⟨row, -, -, hlog⟩ := mem_erasureTargets.mp hc
      rw [List.isEmpty_iff] at hprints
      have hmem := List.mem_eraseDups.mpr hlog
      rw [hprints] at hmem
      cases hmem
    rw [hnone]
    exact ⟨.refl now db, rfl⟩
  · rw [if_neg hprints, if_neg hprints]
    have hflat := contactPages_flatten hpage (unpurged db).length (unpurged db)
      (Nat.le_refl _)
    have hpages := reapplyPages_scrubbed env fingerprint
      db.core.erasureLog.eraseDups
      (contactPages page (unpurged db).length (unpurged db)) []
      (by rw [List.nil_append, hflat]; exact Table.sortedKeys_nodup)
      { fingerprints := db.core.erasureLog.eraseDups.length, applied := true }
      (Scrubbed.refl now db)
    rw [List.nil_append, hflat,
      show ({ fingerprints := db.core.erasureLog.eraseDups.length
              applied := true } : ReapplyReport).over env fingerprint db
          db.core.erasureLog.eraseDups []
        = { fingerprints := db.core.erasureLog.eraseDups.length
            applied := true } from rfl] at hpages
    obtain ⟨hdb, hreport⟩ := hpages
    refine ⟨hdb, ?_⟩
    rw [hreport, hdb.core]

theorem reapplyReport_dry : reapplyReport env fingerprint db false
    = { reapplyReport env fingerprint db true with applied := false } := by
  unfold reapplyReport
  dsimp only
  split <;> rfl

/-- A dry run reports the same, and writes nothing. -/
theorem reapplyErasures_dry (hpage : 0 < page) :
    reapplyErasures env fingerprint db now false page
      = (db, reapplyReport env fingerprint db false) := by
  unfold reapplyErasures reapplyReport
  dsimp only
  by_cases hprints : db.core.erasureLog.eraseDups.isEmpty = true
  · rw [if_pos hprints, if_pos hprints]
  · rw [if_neg hprints, if_neg hprints, reapplyPages_dry,
      contactPages_flatten hpage _ _ (Nat.le_refl _)]

/-- Whoever is left with an erased number is held. -/
theorem Scrubbed.left {db' : LifecycleDb}
    (h : Scrubbed (erasureTargets env fingerprint db) now db db')
    {row : Contact} (hrow : db'.Unpurged c row)
    (hlog : fingerprint (canonicalNumber env row.normalizedPhoneNumber)
      ∈ db'.core.erasureLog) : db'.contactHeld c = true := by
  rw [h.contactHeld, ← Bool.not_eq_false]
  intro hfree
  obtain ⟨hcontact, hpurged⟩ := hrow
  rw [h.contacts, Option.map_eq_some_iff] at hcontact
  obtain ⟨before, hbefore, heq⟩ := hcontact
  by_cases hc : c ∈ erasureTargets env fingerprint db
  · rw [if_pos hc] at heq
    rw [← heq] at hpurged
    cases hpurged
  · rw [if_neg hc] at heq
    subst heq
    refine hc (mem_erasureTargets.mpr ⟨before, ⟨hbefore, hpurged⟩, hfree, ?_⟩)
    rw [h.core] at hlog
    exact hlog

/-- Everybody it clears is counted. -/
theorem reapplyReport_contactsScrubbed (apply : Bool) :
    (reapplyReport env fingerprint db apply).contactsScrubbed
      = (erasureTargets env fingerprint db).length := by
  unfold reapplyReport
  dsimp only
  split
  · next hprints =>
    have hnone : erasureTargets env fingerprint db = [] := by
      rw [List.eq_nil_iff_forall_not_mem]
      intro c hc
      obtain ⟨row, -, -, hlog⟩ := mem_erasureTargets.mp hc
      rw [List.isEmpty_iff] at hprints
      have hmem := List.mem_eraseDups.mpr hlog
      rw [hprints] at hmem
      cases hmem
    rw [hnone]
    rfl
  · exact Nat.zero_add _

end

/-! ## With the copy -/

section

variable {db : LifecycleDb} {now : Instant}

/-- **The rows of the copy** are added once each, and counted. -/
theorem reconcileErasureRows (rows : List ErasureCopyRow)
    (log : List String) (counts : ErasureReconcileCounts) :
    ∃ new, rows.foldl (reconcileErasureRow true) (log, counts) = (new ++ log,
        { copyRows := counts.copyRows + rows.length
          alreadyPresent := counts.alreadyPresent + (rows.length - new.length)
          wouldAdd := counts.wouldAdd + new.length
          added := counts.added + new.length }) ∧
      new.Nodup ∧ new.length ≤ rows.length ∧
      ∀ f, f ∈ new ↔ f ∉ log ∧ ∃ row ∈ rows, row.fingerprint = f := by
  induction rows generalizing log counts with
  | nil => exact ⟨[], rfl, List.nodup_nil, Nat.le_refl _, by simp⟩
  | cons row rows ih =>
      by_cases hknown : row.fingerprint ∈ log
      · obtain ⟨new, hfold, hnodup, hle, hmem⟩ := ih log
          { counts with
            copyRows := counts.copyRows + 1
            alreadyPresent := counts.alreadyPresent + 1 }
        have hrow : reconcileErasureRow true (log, counts) row = (log,
            { counts with
              copyRows := counts.copyRows + 1
              alreadyPresent := counts.alreadyPresent + 1 }) := if_pos hknown
        refine ⟨new, ?_, hnodup, Nat.le_succ_of_le hle, fun f => ?_⟩
        · rw [List.foldl_cons, hrow, hfold]
          simp only [List.length_cons, Prod.mk.injEq,
            ErasureReconcileCounts.mk.injEq, true_and, and_true]
          omega
        · rw [hmem, List.exists_mem_cons_iff]
          constructor
          · exact fun h => ⟨h.1, .inr h.2⟩
          · rintro ⟨hf, rfl | h⟩
            · exact absurd hknown hf
            · exact ⟨hf, h⟩
      · obtain ⟨new, hfold, hnodup, hle, hmem⟩ := ih (row.fingerprint :: log)
          { copyRows := counts.copyRows + 1
            alreadyPresent := counts.alreadyPresent
            wouldAdd := counts.wouldAdd + 1
            added := counts.added + 1 }
        have hrow : reconcileErasureRow true (log, counts) row
            = (row.fingerprint :: log,
              { copyRows := counts.copyRows + 1
                alreadyPresent := counts.alreadyPresent
                wouldAdd := counts.wouldAdd + 1
                added := counts.added + 1 }) := if_neg hknown
        have hfirst : row.fingerprint ∉ new := fun h =>
          ((hmem _).mp h).1 (List.mem_cons_self ..)
        refine ⟨new ++ [row.fingerprint], ?_, ?_, ?_, fun f => ?_⟩
        · rw [List.foldl_cons, hrow, hfold, List.append_assoc]
          simp only [List.singleton_append, List.length_cons, List.length_append,
            List.length_nil, Prod.mk.injEq, ErasureReconcileCounts.mk.injEq,
            true_and]
          omega
        · rw [List.nodup_append]
          refine ⟨hnodup, List.nodup_singleton _, fun a ha b hb => ?_⟩
          rw [List.mem_singleton.mp hb]
          exact fun heq => hfirst (heq ▸ ha)
        · simp only [List.length_append, List.length_cons, List.length_nil]
          omega
        · rw [List.mem_append, List.mem_singleton, hmem, List.exists_mem_cons_iff,
            List.mem_cons, not_or]
          constructor
          · rintro (⟨⟨-, hf⟩, h⟩ | rfl)
            · exact ⟨hf, .inr h⟩
            · exact ⟨hknown, .inl rfl⟩
          · rintro ⟨hf, heq | h⟩
            · exact .inr heq.symm
            · by_cases heq : f = row.fingerprint
              · exact .inr heq
              · exact .inl ⟨⟨heq, hf⟩, h⟩

/-- The database after `reconcile_erasures`. -/
def LifecycleDb.withErasures (db : LifecycleDb) (new : List String)
    (now : Instant) : LifecycleDb :=
  { db with core := { db.core with
      erasureLog := new ++ db.core.erasureLog } }.audit
    { actor := "restore_reconcile", action := "erasure_log.reconciled"
      entity := none, createdAt := now }

/-- `reconcile_suppressions --kind erasure --apply`, and then
`reapply_erasures --apply` -/
def restoreErasures (env : Env) (fingerprint : String → String)
    (db : LifecycleDb) (rows : List ErasureCopyRow) (now : Instant)
    (page : Nat) : (LifecycleDb × ReapplyReport) × ErasureReconcileCounts :=
  let reconciled := reconcileErasures db rows true now
  (reapplyErasures env fingerprint reconciled.1 now true page, reconciled.2)

/-- The erasures of the log and of the copy hold again. -/
structure ErasuresRestored (env : Env) (fingerprint : String → String)
    (rows : List ErasureCopyRow) (now : Instant) (db : LifecycleDb)
    (new : List String) (ids : List ContactId)
    (x : (LifecycleDb × ReapplyReport) × ErasureReconcileCounts) : Prop where
  /-- what the log lacked was added, once each, and counted -/
  nodup : new.Nodup
  added : ∀ f, f ∈ new ↔
    f ∉ db.core.erasureLog ∧ ∃ row ∈ rows, row.fingerprint = f
  counts : x.2 = ⟨rows.length, rows.length - new.length, new.length, new.length⟩
  /-- whoever has a logged number and is not held was cleared, in one step -/
  targets : ∀ c, c ∈ ids ↔ ∃ row, db.Unpurged c row ∧
    db.contactHeld c = false ∧
    fingerprint (canonicalNumber env row.normalizedPhoneNumber)
      ∈ new ++ db.core.erasureLog
  cleared : Scrubbed ids now (db.withErasures new now) x.1.1
  scrubbed : x.1.2.contactsScrubbed = ids.length
  /-- which a dry run would have reported, writing nothing -/
  dry : ∀ now' page', 0 < page' →
    reapplyErasures env fingerprint (db.withErasures new now) now' false page'
      = (db.withErasures new now, { x.1.2 with applied := false })
  /-- and whoever is left is held -/
  left : ∀ c row, x.1.1.Unpurged c row →
    fingerprint (canonicalNumber env row.normalizedPhoneNumber)
      ∈ new ++ db.core.erasureLog → x.1.1.contactHeld c = true

theorem restoreErasures_restored (env : Env) (fingerprint : String → String)
    (db : LifecycleDb) (rows : List ErasureCopyRow) (now : Instant) {page : Nat}
    (hpage : 0 < page) :
    ∃ new ids, ErasuresRestored env fingerprint rows now db new ids
        (restoreErasures env fingerprint db rows now page) := by
  obtain ⟨new, hfold, hnodup, -, hmem⟩ :=
    reconcileErasureRows rows db.core.erasureLog {}
  have hreconciled : reconcileErasures db rows true now
      = (db.withErasures new now,
        ⟨rows.length, rows.length - new.length, new.length, new.length⟩) := by
    unfold reconcileErasures
    rw [hfold]
    simp [LifecycleDb.withErasures]
  obtain ⟨hcleared, hreport⟩ := @reapplyErasures_scrubbed env fingerprint
    (db.withErasures new now) now page hpage
  refine ⟨new, erasureTargets env fingerprint (db.withErasures new now), ?_⟩
  unfold restoreErasures
  rw [hreconciled]
  exact {
    nodup := hnodup
    added := hmem
    counts := rfl
    targets := fun c => mem_erasureTargets
    cleared := hcleared
    scrubbed := by
      rw [hreport]
      exact reapplyReport_contactsScrubbed true
    dry := fun now' page' hpage' => by
      rw [hreport, reapplyErasures_dry hpage', reapplyReport_dry]
    left := fun c row hrow hlog => hcleared.left hrow (by
      rw [hcleared.core]
      exact hlog) }

/-- After one restore a second one finds everything in place. -/
theorem ErasuresRestored.again {env : Env} {fingerprint : String → String}
    {rows : List ErasureCopyRow} {new : List String} {ids : List ContactId}
    {x : (LifecycleDb × ReapplyReport) × ErasureReconcileCounts}
    (h : ErasuresRestored env fingerprint rows now db new ids x)
    (now' : Instant) {page : Nat} (hpage : 0 < page) :
    ErasuresRestored env fingerprint rows now' x.1.1 [] []
      (restoreErasures env fingerprint x.1.1 rows now' page) := by
  have hlog : x.1.1.core.erasureLog = new ++ db.core.erasureLog := by
    rw [h.cleared.core]
    rfl
  obtain ⟨new', ids', h'⟩ := restoreErasures_restored env fingerprint x.1.1 rows
    now' hpage
  have hnew : new' = [] := by
    rw [List.eq_nil_iff_forall_not_mem]
    intro f hf
    obtain ⟨hunknown, hrow⟩ := (h'.added f).mp hf
    rw [hlog, List.mem_append, not_or] at hunknown
    exact hunknown.1 ((h.added f).mpr ⟨hunknown.2, hrow⟩)
  have hids : ids' = [] := by
    rw [List.eq_nil_iff_forall_not_mem]
    intro c hc
    obtain ⟨row, hrow, hfree, hprint⟩ := (h'.targets c).mp hc
    rw [hnew, List.nil_append, hlog] at hprint
    rw [h.left c row hrow hprint] at hfree
    cases hfree
  rw [hnew, hids] at h'
  exact h'

end

/-- **A restore keeps every erasure.** Whatever database is restored, and
whatever rows the secondary copy has: the missing fingerprints are added once
each, and then everybody who is not held and has a number of the log or of
the copy is cleared, with all content, as in one step that leaves all else as
it was, whatever the size of the pages; who is left with such a number is
held. Doing it all again, at any time and in any pages, adds nothing and
clears nobody. -/
theorem restore_erases (env : Env) (fingerprint : String → String)
    (db : LifecycleDb) (rows : List ErasureCopyRow) (now : Instant) (page : Nat)
    (hpage : 0 < page) :
    ∃ new ids, ErasuresRestored env fingerprint rows now db new ids
        (restoreErasures env fingerprint db rows now page) ∧
      ∀ now' page', 0 < page' → ErasuresRestored env fingerprint rows now'
        (restoreErasures env fingerprint db rows now page).1.1 [] []
        (restoreErasures env fingerprint
          (restoreErasures env fingerprint db rows now page).1.1 rows now'
          page') := by
  obtain ⟨new, ids, h⟩ := restoreErasures_restored env fingerprint db rows now
    hpage
  exact ⟨new, ids, h, fun now' page' hpage' => h.again now' hpage'⟩

/-- The contact with spaces in its number came back; its erasure is in the
copy only. -/
theorem restore_erases_legacy_contact :
    ((restoreErasures spacedEnv id legacyContact [⟨"+919876543210", 0⟩] 5
        1000).1.1.core.contact 1).map (·.purgedAt) = some (some 5) ∧
      ∃ new ids, ErasuresRestored spacedEnv id [⟨"+919876543210", 0⟩] 5
        legacyContact new ids
        (restoreErasures spacedEnv id legacyContact [⟨"+919876543210", 0⟩] 5
          1000) := by
  obtain ⟨new, ids, h, -⟩ := restore_erases spacedEnv id legacyContact
    [⟨"+919876543210", 0⟩] 5 1000 (by decide)
  exact ⟨by decide +kernel, new, ids, h⟩

end CallingAgent
