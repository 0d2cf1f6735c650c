import CallingAgent.Services.DncCopy

/-!
# Restore — the do-not-call copy reconciled with an older database

A restored database has lost the suppressions made after its backup. Every
number of a verified copy that it lacks is inserted, unless its own audit
log has a removal of that number newer than the entry of the copy.
-/

namespace CallingAgent

/-- A row of `audit_log`, with the fingerprint of its metadata. -/
structure AuditEvent where
  actor : String
  action : String
  fingerprint : Option String := none
  createdAt : Instant
  deriving DecidableEq, Repr

/-- The tables of a restored database the script reads or writes. -/
structure RestoredDb where
  suppressions : SuppressionTable
  auditLog : List AuditEvent

/-- `ACTOR` -/
def restoreActor : String := "restore_reconcile"

/-- `counts` -/
structure ReconcileCounts where
  copyRows : Nat := 0
  alreadyPresent : Nat := 0
  skippedRemoved : Nat := 0
  wouldAdd : Nat := 0
  added : Nat := 0
  deriving DecidableEq, Repr

/-- `func.max` -/
def latest : List Instant → Option Instant
  | [] => none
  | t :: ts =>
      match latest ts with
      | none => some t
      | some u => some (if u < t then t else u)

/-- The event removes the number of this fingerprint. -/
def AuditEvent.removes (fingerprint : String) (e : AuditEvent) : Bool :=
  e.action = "suppression.removed" && e.fingerprint = some fingerprint

namespace RestoredDb

/-- `_removal_times`: by fingerprint, the newest removal in the log. -/
def removalTimes (db : RestoredDb) (fingerprint : String) : Option Instant :=
  latest ((db.auditLog.filter (·.removes fingerprint)).map (·.createdAt))

end RestoredDb

section

variable (env : Env) (fingerprint : String → String)

/-- One row of the copy: the loop body of `reconcile`. -/
def reconcileRow (removed : String → Option Instant) (apply : Bool)
    (st : SuppressionTable × ReconcileCounts) (row : CopyRow) :
    SuppressionTable × ReconcileCounts :=
  let counts := { st.2 with copyRows := st.2.copyRows + 1 }
  let e164 := canonicalNumber env row.phoneNumber
  if st.1.hasPhone e164 then
    (st.1, { counts with alreadyPresent := counts.alreadyPresent + 1 })
  else if (removed (fingerprint e164)).any (row.createdAt < ·) then
    (st.1, { counts with skippedRemoved := counts.skippedRemoved + 1 })
  else
    let counts := { counts with wouldAdd := counts.wouldAdd + 1 }
    if apply then
      let inserted := st.1.insertIfAbsent env e164
        (SuppressionSource.ofValue row.source) (some "restore_reconcile") none
        (some restoreActor)
      (inserted.1, if inserted.2 then { counts with added := counts.added + 1 }
        else counts)
    else (st.1, counts)

/-- `reconcile` -/
def reconcile (db : RestoredDb) (rows : List CopyRow) (apply : Bool)
    (now : Instant) : RestoredDb × ReconcileCounts :=
  let r := rows.foldl (reconcileRow env fingerprint db.removalTimes apply)
    (db.suppressions, {})
  ({ suppressions := r.1
     auditLog := if apply then
        { actor := restoreActor, action := "suppression.reconciled",
          createdAt := now } :: db.auditLog
       else db.auditLog }, r.2)

/-- `main`: the exit code, and the database after its commit or rollback.
A copy that is refused is not reconciled at all. -/
def reconcileMain (tools : CopyTools) (files : CopyFiles) (identity : String)
    (apply : Bool) (now : Instant) (db : RestoredDb) : Nat × RestoredDb :=
  match readCopy tools files identity with
  | .error _ => (1, db)
  | .ok (_, rows) =>
      (0, if apply then (reconcile env fingerprint db rows apply now).1
        else db)

/-- The restored log has a removal of the row's number that is newer than
the row. -/
def RemovedSince (db : RestoredDb) (row : CopyRow) : Prop :=
  ∃ e ∈ db.auditLog, e.removes
    (fingerprint (canonicalNumber env row.phoneNumber)) = true ∧
    row.createdAt < e.createdAt

end

/-! ## One row -/

theorem latest_any {ts : List Instant} {c : Instant} :
    (latest ts).any (c < ·) = true ↔ ∃ t ∈ ts, c < t := by
  induction ts with
  | nil => simp [latest]
  | cons t ts ih =>
      rw [latest]
      cases hl : latest ts with
      | none =>
          have hnone : ¬ ∃ u ∈ ts, c < u := by
            rw [← ih, hl]
            simp
          have hfirst : (∃ u ∈ t :: ts, c < u) ↔ c < t := by
            constructor
            · rintro ⟨u, hu, hcu⟩
              rcases List.mem_cons.mp hu with rfl | hu
              · exact hcu
              · exact absurd ⟨u, hu, hcu⟩ hnone
            · intro h
              exact ⟨t, List.mem_cons_self .., h⟩
          rw [hfirst]
          simp
      | some u =>
          rw [hl] at ih
          simp only [Option.any_some, decide_eq_true_eq] at ih ⊢
          have hsplit : (∃ v ∈ t :: ts, c < v) ↔ c < t ∨ c < u := by
            rw [ih]
            simp
          rw [hsplit]
          split
          · next hut =>
            exact ⟨.inl, fun h => h.elim id fun hcu => Int.lt_trans hcu hut⟩
          · next hut =>
            exact ⟨.inr, fun h => h.elim
              (fun hct => Int.lt_of_lt_of_le hct (Int.not_lt.mp hut)) id⟩

section

variable {env : Env} {fingerprint : String → String} {db : RestoredDb}
  {apply : Bool} {row : CopyRow} {rows : List CopyRow}

/-- The test of the loop is about the events of the log. -/
theorem removed_iff :
    (db.removalTimes (fingerprint (canonicalNumber env
      row.phoneNumber))).any (row.createdAt < ·) = true ↔
      RemovedSince env fingerprint db row := by
  unfold RestoredDb.removalTimes RemovedSince
  rw [latest_any]
  simp only [List.mem_map, List.mem_filter, exists_exists_and_eq_and]
  simp only [and_assoc]

/-- The number of the row is present, or its removal is newer. -/
def Accounted (env : Env) (fingerprint : String → String) (db : RestoredDb)
    (t : SuppressionTable) (row : CopyRow) : Prop :=
  t.hasPhone (canonicalNumber env row.phoneNumber) = true ∨
    RemovedSince env fingerprint db row

variable {st : SuppressionTable × ReconcileCounts}

/-- A settled row changes nothing. -/
theorem reconcileRow_accounted (h : Accounted env fingerprint db st.1 row) :
    let r := reconcileRow env fingerprint db.removalTimes apply st row
    r.1 = st.1 ∧ r.2.added = st.2.added ∧ r.2.wouldAdd = st.2.wouldAdd := by
  unfold reconcileRow
  dsimp only
  by_cases hp : st.1.hasPhone (canonicalNumber env row.phoneNumber) = true
  · rw [if_pos hp]
    exact ⟨rfl, rfl, rfl⟩
  · rw [if_neg hp, if_pos (removed_iff.mpr (h.resolve_left hp))]
    exact ⟨rfl, rfl, rfl⟩

/-- The suppression a row of the copy becomes. -/
def restored (env : Env) (row : CopyRow) : Suppression where
  contactId := none
  phoneNumber := canonicalNumber env row.phoneNumber
  reason := some "restore_reconcile"
  source := SuppressionSource.ofValue row.source
  createdBy := some restoreActor

/-- A row that is not settled is inserted under its canonical number. -/
theorem reconcileRow_unsettled (laws : PhoneLaws env)
    (h : ¬ Accounted env fingerprint db st.1 row) :
    (reconcileRow env fingerprint db.removalTimes true st row).1.rows
      = restored env row :: st.1.rows := by
  obtain ⟨hp, hr⟩ := not_or.mp h
  have hinsert : st.1.insertIfAbsent env (canonicalNumber env row.phoneNumber)
      (SuppressionSource.ofValue row.source) (some "restore_reconcile") none
      (some restoreActor) = st.1.insertRow (restored env row) := by
    rw [SuppressionTable.insertIfAbsent, canonicalNumber_idem laws, restored]
  have habsent : st.1.hasPhone (restored env row).phoneNumber = false := by
    simpa only [restored, Bool.not_eq_true] using hp
  have hrows := (st.1.insertRow_inserted habsent rfl).1
  rw [← hrows, ← hinsert, reconcileRow]
  dsimp only
  rw [if_neg hp, if_neg fun hc => hr (removed_iff.mp hc), if_pos rfl]

/-- **What one row records.** -/
theorem hasPhone_reconcileRow (laws : PhoneLaws env) (number : String) :
    (reconcileRow env fingerprint db.removalTimes true st row).1.hasPhone
        number = true ↔
      st.1.hasPhone number = true ∨
        (canonicalNumber env row.phoneNumber = number ∧
          ¬ RemovedSince env fingerprint db row) := by
  by_cases h : Accounted env fingerprint db st.1 row
  · rw [(reconcileRow_accounted h).1]
    constructor
    · exact .inl
    · rintro (hp | ⟨rfl, hr⟩)
      · exact hp
      · exact h.resolve_right hr
  · have hrows := reconcileRow_unsettled laws h
    have hr := (not_or.mp h).2
    simp only [SuppressionTable.hasPhone, hrows, restored, List.any_cons,
      Bool.or_eq_true, beq_iff_eq, hr, not_false_eq_true, and_true]
    exact Or.comm

/-- A row of the copy adds to the table and takes nothing from it. -/
theorem reconcileRow_adds :
    ∃ new, (reconcileRow env fingerprint db.removalTimes apply st row).1.rows
      = new ++ st.1.rows := by
  unfold reconcileRow
  dsimp only
  split
  · exact ⟨[], rfl⟩
  · split
    · exact ⟨[], rfl⟩
    · split
      · dsimp only [SuppressionTable.insertIfAbsent]
        unfold SuppressionTable.insertRow
        split
        · exact ⟨[_], rfl⟩
        · exact ⟨[], rfl⟩
      · exact ⟨[], rfl⟩

/-! ## All rows -/

theorem fold_adds :
    ∃ new, (rows.foldl (reconcileRow env fingerprint db.removalTimes apply)
      st).1.rows = new ++ st.1.rows := by
  induction rows generalizing st with
  | nil => exact ⟨[], rfl⟩
  | cons row rows ih =>
      obtain ⟨first, hfirst⟩ : ∃ new, (reconcileRow env fingerprint
          db.removalTimes apply st row).1.rows = new ++ st.1.rows :=
        reconcileRow_adds
      obtain ⟨new, hnew⟩ := @ih (reconcileRow env fingerprint db.removalTimes
        apply st row)
      refine ⟨new ++ first, ?_⟩
      rw [List.foldl_cons, hnew, hfirst, List.append_assoc]

theorem hasPhone_fold (laws : PhoneLaws env) (number : String) :
    (rows.foldl (reconcileRow env fingerprint db.removalTimes true)
        st).1.hasPhone number = true ↔
      st.1.hasPhone number = true ∨ ∃ row ∈ rows,
        canonicalNumber env row.phoneNumber = number ∧
          ¬ RemovedSince env fingerprint db row := by
  induction rows generalizing st with
  | nil => simp
  | cons row rows ih =>
      rw [List.foldl_cons, ih, hasPhone_reconcileRow laws, or_assoc]
      simp only [List.mem_cons, exists_eq_or_imp]

/-- Rows that are settled change nothing, all together. -/
theorem fold_accounted
    (h : ∀ row ∈ rows, Accounted env fingerprint db st.1 row) :
    let r := rows.foldl (reconcileRow env fingerprint db.removalTimes apply) st
    r.1 = st.1 ∧ r.2.added = st.2.added := by
  induction rows generalizing st with
  | nil => exact ⟨rfl, rfl⟩
  | cons row rows ih =>
      have hfirst := h row (List.mem_cons_self ..)
      have htable : (reconcileRow env fingerprint db.removalTimes apply st
          row).1 = st.1 := (reconcileRow_accounted hfirst).1
      have hadded : (reconcileRow env fingerprint db.removalTimes apply st
          row).2.added = st.2.added := (reconcileRow_accounted hfirst).2.1
      obtain ⟨hrest, hcount⟩ := @ih (reconcileRow env fingerprint
        db.removalTimes apply st row) fun other hother => by
          rw [htable]
          exact h other (List.mem_cons_of_mem row hother)
      exact ⟨hrest.trans htable, hcount.trans hadded⟩

/-- The event a reconciliation writes is no removal. -/
theorem removalTimes_reconcile {now : Instant} :
    (reconcile env fingerprint db rows apply now).1.removalTimes
      = db.removalTimes := by
  funext fp
  cases apply with
  | false => rfl
  | true => rfl

/-- **Present afterwards.** A number is suppressed after a reconciliation
exactly when it was before, or an entry of the copy has it and no newer
removal is in the log. -/
theorem isSuppressed_reconcile (laws : PhoneLaws env) {now : Instant}
    (number : String) :
    (reconcile env fingerprint db rows true now).1.suppressions.isSuppressed
        env number = true ↔
      db.suppressions.isSuppressed env number = true ∨ ∃ row ∈ rows,
        canonicalNumber env row.phoneNumber = canonicalNumber env number ∧
          ¬ RemovedSince env fingerprint db row :=
  hasPhone_fold laws _

/-- **Twice is once.** A second reconciliation adds nothing. -/
theorem reconcile_again (laws : PhoneLaws env) {now now' : Instant} :
    let db' := (reconcile env fingerprint db rows true now).1
    (reconcile env fingerprint db' rows true now').1.suppressions
        = db'.suppressions ∧
      (reconcile env fingerprint db' rows true now').2.added = 0 := by
  intro db'
  have hremoved : db'.removalTimes = db.removalTimes := removalTimes_reconcile
  have hsettled : ∀ row ∈ rows,
      Accounted env fingerprint db db'.suppressions row := by
    intro row hrow
    by_cases hr : RemovedSince env fingerprint db row
    · exact .inr hr
    · exact .inl ((hasPhone_fold laws _).mpr (.inr ⟨row, hrow, rfl, hr⟩))
  unfold reconcile
  rw [hremoved]
  exact @fold_accounted _ _ _ _ _ (db'.suppressions, {}) hsettled

/-- **Only added.** -/
theorem reconcileMain_adds {tools : CopyTools} {files : CopyFiles}
    {identity : String} {now : Instant} :
    let r := reconcileMain env fingerprint tools files identity apply now db
    (∃ new, r.2.suppressions.rows = new ++ db.suppressions.rows) ∧
      (∃ new, r.2.auditLog = new ++ db.auditLog) ∧
      (apply = false → r.2 = db) := by
  unfold reconcileMain
  cases readCopy tools files identity with
  | error e => exact ⟨⟨[], rfl⟩, ⟨[], rfl⟩, fun _ => rfl⟩
  | ok read =>
      obtain ⟨m, rows⟩ := read
      cases apply with
      | false => exact ⟨⟨[], rfl⟩, ⟨[], rfl⟩, fun _ => rfl⟩
      | true => exact ⟨fold_adds, ⟨[_], rfl⟩, fun h => by cases h⟩

/-- A copy that is not read leaves the database as it is. -/
theorem reconcileMain_refused {tools : CopyTools} {files : CopyFiles}
    {identity : String} {now : Instant}
    (h : ∀ m rows, readCopy tools files identity ≠ .ok (m, rows)) :
    reconcileMain env fingerprint tools files identity apply now db
      = (1, db) := by
  unfold reconcileMain
  cases hr : readCopy tools files identity with
  | error e => rfl
  | ok read => exact absurd hr (h read.1 read.2)

end

/-- **A do-not-call copy survives a restore.** For the copy of a suppression
table, read on the restore host and applied to any restored database: every
number of the table is suppressed, except where the restored log has a
newer removal of it; nothing else becomes suppressed, so a number with a
newer removal stays off a list it is not on; only rows are added, also by
any other run; a second run adds nothing; and a copy that disagrees with its
manifest, or whose rows are not those that were exported, is refused with
the database as it was. -/
theorem dncCopy_restores {env : Env} {fingerprint : String → String}
    {tools : CopyTools} {s : DatedSuppressions} {dest : Destination}
    {recipients : List String} {exportedAt : Instant} {environment : String}
    {allowUnencrypted : Bool} {identity : String} {files : CopyFiles}
    (laws : PhoneLaws env) (hrt : tools.RoundTrip s recipients identity)
    (hexp : exportCopy tools s dest recipients exportedAt environment
      allowUnencrypted = .ok files) (db : RestoredDb) (now : Instant) :
    (∃ db', reconcileMain env fingerprint tools files identity true now db
        = (0, db') ∧
      (∀ r ∈ s.table.rows,
        (∃ e ∈ db.auditLog, e.removes
            (fingerprint (canonicalNumber env r.phoneNumber)) = true ∧
          s.requestedAt r.phoneNumber < e.createdAt) ∨
        db'.suppressions.isSuppressed env r.phoneNumber = true) ∧
      (∀ number, db'.suppressions.isSuppressed env number = true ↔
        db.suppressions.isSuppressed env number = true ∨
        ∃ r ∈ s.table.rows,
          canonicalNumber env r.phoneNumber = canonicalNumber env number ∧
          ¬ ∃ e ∈ db.auditLog, e.removes
              (fingerprint (canonicalNumber env r.phoneNumber)) = true ∧
            s.requestedAt r.phoneNumber < e.createdAt) ∧
      ∀ now', (reconcileMain env fingerprint tools files identity true now'
        db').2.suppressions = db'.suppressions) ∧
    (∀ files' identity' apply,
      ∃ new, (reconcileMain env fingerprint tools files' identity' apply now
        db).2.suppressions.rows = new ++ db.suppressions.rows) ∧
    (∀ files' identity' apply,
      (∀ m rows, ¬ Verified tools files' identity' m rows) →
      reconcileMain env fingerprint tools files' identity' apply now db
        = (1, db)) ∧
    ∀ files' apply, files'.manifest = files.manifest →
      (tools.sha256 files'.copy = tools.sha256 files.copy →
        files'.copy = files.copy) →
      (∀ plain, tools.decrypt identity files'.copy = some plain →
        parseCopy tools .dnc plain ≠ .ok (s.ordered.map s.copyRow)) →
      reconcileMain env fingerprint tools files' identity apply now db
        = (1, db) := by
  have hexported := exportCopy_ok hexp
  obtain ⟨m, -, hread⟩ := readCopy_exportCopy hexported hrt
  have hmain : ∀ now db, reconcileMain env fingerprint tools files identity
      true now db = (0, (reconcile env fingerprint db
        (s.ordered.map s.copyRow) true now).1) := by
    intro now db
    simp only [reconcileMain, hread, if_true]
  refine ⟨⟨_, hmain now db, ?_, ?_, ?_⟩, ?_, ?_, ?_⟩
  · intro r hr
    by_cases hremoved : RemovedSince env fingerprint db (s.copyRow r)
    · exact .inl hremoved
    · exact .inr ((isSuppressed_reconcile laws _).mpr (.inr
        ⟨_, List.mem_map_of_mem (s.mem_ordered.mpr hr), rfl, hremoved⟩))
  · intro number
    rw [isSuppressed_reconcile laws]
    refine or_congr_right ⟨?_, ?_⟩
    · rintro ⟨row, hrow, hnumber, hremoved⟩
      obtain ⟨r, hr, rfl⟩ := List.mem_map.mp hrow
      exact ⟨r, s.mem_ordered.mp hr, hnumber, hremoved⟩
    · rintro ⟨r, hr, hnumber, hremoved⟩
      exact ⟨_, List.mem_map_of_mem (s.mem_ordered.mpr hr), hnumber, hremoved⟩
  · intro now'
    rw [hmain]
    exact (reconcile_again laws).1
  · intro files' identity' apply
    exact reconcileMain_adds.1
  · intro files' identity' apply h
    exact reconcileMain_refused fun m rows hok => h m rows (readCopy_ok hok)
  · intro files' apply hmanifest hdigest h
    apply reconcileMain_refused
    intro m' rows hok
    obtain ⟨plain, hdec, hparse⟩ := (readCopy_ok hok).plain
    rw [readCopy_undamaged hexported hrt hmanifest hdigest hok] at hparse
    exact h plain hdec hparse

/-! ### A copy of two numbers, one of them removed since -/

/-- Two opt-outs, a second apart. -/
def twoOptOuts : DatedSuppressions where
  table :=
    { rows :=
        [{ contactId := some 1, phoneNumber := "+919876543210",
           reason := some "opt-out", source := .agentInCall,
           createdBy := none },
         { contactId := none, phoneNumber := "+919876543211", reason := none,
           source := .manualApi, createdBy := some "admin" }] }
  requestedAt number := if number = "+919876543210" then 0 else second

/-- CSV of fields that need no quotes, ISO dates of the first two seconds,
and a cipher that turns the file around. -/
def plainTools : CopyTools where
  writeCsv rows := String.ofList (rows.flatMap fun row =>
    List.intercalate [','] (row.map (·.toList)) ++ ['\r', '\n'])
  readCsv text := (((text.toList.splitOn '\n').dropLast).map fun line =>
    (line.dropLast.splitOn ',').map String.ofList, false)
  isoformat t := if t = 0 then "1970-01-01T00:00:00+00:00"
    else "1970-01-01T00:00:01+00:00"
  fromisoformat text :=
    if text = "1970-01-01T00:00:00+00:00" then some 0
    else if text = "1970-01-01T00:00:01+00:00" then some second
    else none
  stamp _ := "19700101T000002Z"
  encrypt _ plain := some ⟨plain.data.reverse⟩
  decrypt _ copy := some ⟨copy.data.reverse⟩
  sha256 _ :=
    "3fdbda80f5d45c57e8b00c802bacb9d3aaa827fdcde35f921b69f31261d8c8e7"
  recipientFingerprint _ := "7428440fc5090ddd"

/-- `phone_fingerprint` of the two numbers. -/
def twoFingerprints (number : String) : String :=
  if number = "+919876543210" then "22432f68c96c0b4f" else "e917b49bd4733edb"

theorem plainTools_roundTrip :
    plainTools.RoundTrip twoOptOuts ["age1restore"] "identity.txt" where
  csv := by
    simp only [plainTools, String.toList_ofList]
    decide +kernel
  iso := by decide +kernel
  age plain copy h := by
    cases h
    simp [plainTools]

/-- The backup is older than both opt-outs; the second was removed after
it was exported. -/
def restoredDb : RestoredDb where
  suppressions := .empty
  auditLog := [{ actor := "admin", action := "suppression.removed",
                 fingerprint := some "e917b49bd4733edb",
                 createdAt := 3 * second }]

/-- The first opt-out is restored, and the second stays removed. -/
theorem twoOptOuts_restored :
    ∃ files db', exportCopy plainTools twoOptOuts { mode := 0o700 }
        ["age1restore"] (2 * second) "production" false = .ok files ∧
      reconcileMain (plainEnv {}) twoFingerprints plainTools files
        "identity.txt" true (4 * second) restoredDb = (0, db') ∧
      db'.suppressions.isSuppressed (plainEnv {}) "+919876543210" = true ∧
      db'.suppressions.isSuppressed (plainEnv {}) "+919876543211" = false := by
  obtain ⟨⟨db', hmain, hall, honly, -⟩, -⟩ := @dncCopy_restores (plainEnv {})
    twoFingerprints plainTools twoOptOuts { mode := 0o700 } ["age1restore"]
    (2 * second) "production" false "identity.txt" _ (plainEnv_laws {})
    plainTools_roundTrip rfl restoredDb (4 * second)
  refine ⟨_, db', rfl, hmain, ?_, Bool.eq_false_iff.mpr fun h => ?_⟩
  · rcases hall _ (List.mem_cons_self ..) with ⟨e, he, hfp, -⟩ | h
    · rw [restoredDb, List.mem_singleton] at he
      rw [he] at hfp
      exact absurd hfp (by decide +kernel)
    · exact h
  · rcases (honly _).mp h with h | ⟨r, hr, hnumber, hkept⟩
    · cases h
    · -- only the second entry has the number, and its removal is newer
      rcases List.mem_cons.mp hr with rfl | hr
      · exact absurd hnumber (by decide +kernel)
      · obtain rfl := List.mem_singleton.mp hr
        exact hkept ⟨_, List.mem_cons_self .., by decide +kernel,
          by decide +kernel⟩

end CallingAgent
