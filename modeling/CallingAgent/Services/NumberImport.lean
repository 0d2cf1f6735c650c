import CallingAgent.Lib.CsvText
import CallingAgent.Services.Campaigns

/-!
# Number imports — a CSV file of phone numbers

The bulk imports of contacts and of do-not-call numbers read the same kind of
file and screen its rows in the same way: a row is blank, invalid, new in the
file or a repetition. What is new goes into the database in chunks. A file
that is refused, or that the CSV reader breaks off, changes nothing.
-/

namespace CallingAgent

open Lib

/-! ## The rows of a file -/

/-- `csv.field_size_limit()` -/
def csvFieldLimit : Nat := 131072

/-- `MAX_IMPORT_ROWS` -/
def maxImportRows : Nat := 10000

/-- `MAX_IMPORT_FILE_BYTES` -/
def maxImportFileBytes : Nat := 5 * 1024 * 1024

/-- `CHUNK_SIZE`, and `_CHUNK` -/
def importChunkSize : Nat := 500

inductive ImportFailure where
  | refused (e : AppError)
  /-- another exception, by its class -/
  | raised (exception : String)
  deriving DecidableEq, Repr

/-- `decode("utf-8-sig")`: a byte order mark is dropped. -/
def decodeUtf8Sig (bytes : ByteArray) : Option (List Char) :=
  (String.fromUTF8? bytes).map fun text =>
    match text.toList with
    | '\uFEFF' :: cs => cs
    | cs => cs

/-- The column of the numbers. -/
def phoneColumn : List Char := "phone_number".toList

/-- `_read_rows`: the numbers with the lines their records end on, and how the
iteration ends if not with the file. -/
def readRows (bytes : ByteArray) :
    List (Nat × String) × Option ImportFailure :=
  match decodeUtf8Sig bytes with
  | none =>
      ([], some (.refused (.validation "CSV file must be UTF-8 encoded")))
  | some text =>
      match CsvText.read false csvFieldLimit text with
      | ([], some _) => ([], some (.raised "csv.Error"))
      | ([], none) => ([], some (.refused (.validation
          "CSV file must have a 'phone_number' column")))
      | ((_, names) :: records, e) =>
          if phoneColumn ∈ names then
            ((records.filter fun x => x.2 ≠ []).map fun x =>
                (x.1, String.ofList
                  ((CsvText.valueOf names x.2 phoneColumn).getD [])),
              e.map fun _ => .raised "csv.Error")
          else ([], some (.refused (.validation
            "CSV file must have a 'phone_number' column")))

/-! ## Screening -/

/-- What the loop over the rows has gathered; lists in the order of the
file. -/
structure RowScreen where
  total : Nat := 0
  errors : List (Nat × InvalidPhoneCode) := []
  /-- the texts whose numbers are new, and these numbers -/
  kept : List (String × String) := []
  repeated : Nat := 0

/-- The code of a row that is refused, or its number. -/
def rowNumber (normalize : String → Except InvalidPhoneCode NormalizedPhone)
    (raw : String) : Except InvalidPhoneCode String :=
  if (strip raw).toList = [] then .error .empty
  else (normalize raw).map (·.e164)

/-- The body of the loop. -/
def screenRow (normalize : String → Except InvalidPhoneCode NormalizedPhone)
    (s : RowScreen) (row : Nat × String) : RowScreen :=
  let s := { s with total := s.total + 1 }
  match rowNumber normalize row.2 with
  | .error code => { s with errors := s.errors ++ [(row.1, code)] }
  | .ok number =>
      if number ∈ s.kept.map (·.2) then { s with repeated := s.repeated + 1 }
      else { s with kept := s.kept ++ [(row.2, number)] }

/-- The loop: a row too many is refused when it comes up, and so is what the
reader raises. -/
def screenRows (normalize : String → Except InvalidPhoneCode NormalizedPhone) :
    List (Nat × String) → Option ImportFailure → RowScreen →
      Except ImportFailure RowScreen
  | [], none, s => .ok s
  | [], some e, _ => .error e
  | row :: rows, e, s =>
      if maxImportRows < s.total + 1 then
        .error (.refused (.validation
          "Import file exceeds the maximum of 10000 rows"))
      else screenRows normalize rows e (screenRow normalize s row)

/-- `range(0, len(xs), size)`, each start with its slice. -/
def slices {α : Type} (size : Nat) (xs : List α) : List (List α) :=
  (List.range ((xs.length + size - 1) / size)).map fun i =>
    (xs.drop (i * size)).take size

/-! ## Do-not-call numbers -/

/-- `SuppressionImportResult` -/
structure SuppressionImportResult where
  total : Nat
  added : Nat
  alreadyPresent : Nat
  invalid : Nat
  errors : List (Nat × InvalidPhoneCode)
  deriving DecidableEq, Repr

/-- `bulk_insert_if_absent`, which answers how many rows were new. -/
def bulkInsertIfAbsent (reason createdBy : Option String)
    (x : SuppressionTable × Nat) (numbers : List String) :
    SuppressionTable × Nat :=
  numbers.foldl (fun x number =>
    let inserted := x.1.insertRow
      { contactId := none, phoneNumber := number, reason
        source := .manualApi, createdBy }
    (inserted.1, if inserted.2 then x.2 + 1 else x.2)) x

section

variable (env : Env)

/-- The numbers of do-not-call rows, of any region. -/
def suppressionNumber (raw : String) :
    Except InvalidPhoneCode NormalizedPhone :=
  normalizePhone env raw env.settings.defaultRegion

/-- `SuppressionService.import_csv` -/
def importSuppressions (t : SuppressionTable) (bytes : ByteArray)
    (reason actor : Option String) :
    Except ImportFailure (SuppressionTable × SuppressionImportResult) :=
  let rows := readRows bytes
  match screenRows (suppressionNumber env) rows.1 rows.2 {} with
  | .error e => .error e
  | .ok s =>
      let numbers := s.kept.map (·.2)
      let x := (slices importChunkSize numbers).foldl
        (bulkInsertIfAbsent reason actor) (t, 0)
      .ok (x.1,
        { total := s.total
          added := x.2
          alreadyPresent := (numbers.length - x.2) + s.repeated
          invalid := s.errors.length
          errors := s.errors })

/-- `import_suppressions`: the route, on one transaction. -/
def importSuppressionsRoute (t : SuppressionTable) (bytes : ByteArray)
    (reason actor : Option String) :
    SuppressionTable × Except ImportFailure SuppressionImportResult :=
  if maxImportFileBytes < bytes.size then
    (t, .error (.refused (.validation
      "Import file exceeds the maximum size of 5242880 bytes")))
  else
    match importSuppressions env t bytes reason actor with
    | .error e => (t, .error e)
    | .ok (t, result) => (t, .ok result)

/-! ## Contacts -/

/-- `BulkContactImportResult` -/
structure BulkContactImportResult where
  campaignId : Option CampaignId := none
  total : Nat
  created : Nat
  duplicates : Nat
  invalid : Nat
  suppressedCount : Nat := 0
  errors : List (Nat × InvalidPhoneCode)
  deriving DecidableEq, Repr

/-- The numbers of contacts, of the regions that may be dialed. -/
def contactNumber (raw : String) : Except InvalidPhoneCode NormalizedPhone :=
  normalizePhone env raw env.settings.defaultRegion
    (some env.settings.allowedDialRegions)

/-- A chunk of contacts, and how many have been created. -/
def addContacts (campaignId : CampaignId) (x : Db × Nat)
    (numbers : List String) : Db × Nat :=
  (numbers.foldl (fun db number => db.insertContact
    { campaignId, normalizedPhoneNumber := number }) x.1,
    x.2 + numbers.length)

/-- `ContactImportService.import_csv` -/
def importContactsCsv (db : Db) (bytes : ByteArray) :
    Except ImportFailure (Db × BulkContactImportResult) :=
  let rows := readRows bytes
  match screenRows (contactNumber env) rows.1 rows.2 {} with
  | .error e => .error e
  | .ok s =>
      let numbers := s.kept.map (·.2)
      if numbers = [] then
        .ok (db, { total := s.total, created := 0, duplicates := s.repeated
                   invalid := s.errors.length, errors := s.errors })
      else
        let campaignId := db.campaigns.nextKey
        let x := (slices importChunkSize numbers).foldl
          (addContacts campaignId)
          (db.insertCampaign
            { timezone := env.settings.defaultTimezone
              defaultRegion := env.settings.defaultRegion }
            (buildDefaultPolicy env.settings), 0)
        .ok (x.1,
          { campaignId := some campaignId
            total := s.total
            created := x.2
            duplicates := s.repeated
            invalid := s.errors.length
            suppressedCount := (numbers.filter fun n =>
              db.suppressions.isSuppressed env n).length
            errors := s.errors })

/-- `import_contacts`: the route, on one transaction. -/
def importContactsRoute (db : Db) (bytes : ByteArray) :
    Db × Except ImportFailure BulkContactImportResult :=
  if maxImportFileBytes < bytes.size then
    (db, .error (.refused (.validation
      "Import file exceeds the maximum size of 5242880 bytes")))
  else
    match importContactsCsv env db bytes with
    | .error e => (db, .error e)
    | .ok (db, result) => (db, .ok result)

end

/-! ## What the screening gathers -/

section

variable {normalize : String → Except InvalidPhoneCode NormalizedPhone}

/-- The rows that are refused, with their codes. -/
def refusedRows (normalize : String → Except InvalidPhoneCode NormalizedPhone)
    (rows : List (Nat × String)) : List (Nat × InvalidPhoneCode) :=
  rows.filterMap fun row =>
    match rowNumber normalize row.2 with
    | .error code => some (row.1, code)
    | .ok _ => none

/-- The numbers of the others. -/
def rowNumbers (normalize : String → Except InvalidPhoneCode NormalizedPhone)
    (rows : List (Nat × String)) : List String :=
  rows.filterMap fun row => (rowNumber normalize row.2).toOption

/-- The screening of these rows. -/
structure RowScreen.Of
    (normalize : String → Except InvalidPhoneCode NormalizedPhone)
    (rows : List (Nat × String)) (s : RowScreen) : Prop where
  total : s.total = rows.length
  errors : s.errors = refusedRows normalize rows
  kept : s.kept.map (·.2) = (rowNumbers normalize rows).eraseDups
  accounted : s.errors.length + s.kept.length + s.repeated = s.total

theorem eraseDups_concat {α : Type} [BEq α] [LawfulBEq α] (xs : List α) (x : α) :
    (xs ++ [x]).eraseDups = if x ∈ xs then xs.eraseDups else xs.eraseDups ++ [x] := by
  rw [List.eraseDups_append]
  by_cases hx : x ∈ xs
  · simp [List.removeAll, hx]
  · simp [List.removeAll, hx, List.eraseDups_cons]

theorem nodup_eraseDups {α : Type} [BEq α] [LawfulBEq α] (xs : List α) :
    xs.eraseDups.Nodup := by
  induction xs using List.reverseRecOn with
  | nil => exact List.nodup_nil
  | append_singleton xs x ih =>
      rw [eraseDups_concat]
      split
      · exact ih
      · next hx =>
        rw [List.nodup_append]
        refine ⟨ih, List.nodup_singleton _, fun a ha b hb => ?_⟩
        rw [List.mem_singleton.mp hb]
        exact fun heq => hx (List.mem_eraseDups.mp (heq ▸ ha))

theorem screenRows_fold (rows : List (Nat × String)) :
    (rows.foldl (screenRow normalize) {}).Of normalize rows := by
  induction rows using List.reverseRecOn with
  | nil => exact ⟨rfl, rfl, rfl, rfl⟩
  | append_singleton rows row ih =>
      rw [List.foldl_append, List.foldl_cons, List.foldl_nil]
      generalize rows.foldl (screenRow normalize) {} = s at ih
      unfold screenRow
      have hcount := ih.accounted
      cases hrow : rowNumber normalize row.2 with
      | error code =>
          refine ⟨?_, ?_, ?_, ?_⟩
          · simp [ih.total]
          · simp [ih.errors, refusedRows, hrow]
          · simp [ih.kept, rowNumbers, hrow, Except.toOption]
          · simp only [List.length_append, List.length_singleton]
            omega
      | ok number =>
          have hnumbers : rowNumbers normalize (rows ++ [row])
              = rowNumbers normalize rows ++ [number] := by
            simp [rowNumbers, hrow, Except.toOption]
          have hmem : number ∈ s.kept.map (·.2) ↔
              number ∈ rowNumbers normalize rows := by
            rw [ih.kept, List.mem_eraseDups]
          have herrors : refusedRows normalize (rows ++ [row])
              = refusedRows normalize rows := by
            simp [refusedRows, hrow]
          dsimp only
          split
          · next hseen =>
            refine ⟨by simp [ih.total], by rw [herrors]; exact ih.errors, ?_, ?_⟩
            · rw [hnumbers, eraseDups_concat, if_pos (hmem.mp hseen)]
              exact ih.kept
            · dsimp only
              omega
          · next hnew =>
            refine ⟨by simp [ih.total], by rw [herrors]; exact ih.errors, ?_, ?_⟩
            · rw [hnumbers, eraseDups_concat, if_neg (hnew ∘ hmem.mpr),
                List.map_append, ih.kept]
              rfl
            · simp only [List.length_append, List.length_singleton]
              omega

/-- Every row counts. -/
theorem screenRow_total (s : RowScreen) (row : Nat × String) :
    (screenRow normalize s row).total = s.total + 1 := by
  unfold screenRow
  dsimp only
  split
  · rfl
  · split <;> rfl

/-- **Which files go through**: those that are read to their end and have no
row too many. -/
theorem screenRows_ok {rows : List (Nat × String)} {e : Option ImportFailure}
    {s s' : RowScreen} : screenRows normalize rows e s = .ok s' ↔
      e = none ∧ (rows = [] ∨ s.total + rows.length ≤ maxImportRows) ∧
        s' = rows.foldl (screenRow normalize) s := by
  induction rows generalizing s with
  | nil =>
      cases e with
      | none => simp [screenRows, eq_comm]
      | some e => simp [screenRows]
  | cons row rows ih =>
      rw [screenRows]
      split
      · next hmany =>
        simp only [List.cons_ne_nil, false_or, List.length_cons, reduceCtorEq,
          false_iff, not_and]
        intro _ hfew
        omega
      · next hroom =>
        rw [ih, screenRow_total, List.foldl_cons, List.length_cons]
        have hbound : (rows = [] ∨ s.total + 1 + rows.length ≤ maxImportRows) ↔
            (row :: rows = [] ∨ s.total + (rows.length + 1) ≤ maxImportRows) := by
          constructor
          · rintro (rfl | h)
            · exact .inr (Nat.not_lt.mp hroom)
            · exact .inr (by omega)
          · rintro (h | h)
            · cases h
            · exact .inr (by omega)
        rw [hbound]

/-- From the first row on. -/
theorem screenRows_start {rows : List (Nat × String)}
    {e : Option ImportFailure} {s : RowScreen} :
    screenRows normalize rows e {} = .ok s ↔
      e = none ∧ rows.length ≤ maxImportRows ∧
        s = rows.foldl (screenRow normalize) {} := by
  rw [screenRows_ok]
  have hbound : (rows = [] ∨ ({} : RowScreen).total + rows.length
      ≤ maxImportRows) ↔ rows.length ≤ maxImportRows := by
    constructor
    · rintro (rfl | h)
      · exact Nat.zero_le _
      · rwa [Nat.zero_add] at h
    · intro h
      rw [Nat.zero_add]
      exact .inr h
  rw [hbound]

end

/-- The slices are the list. -/
theorem slices_flatten {α : Type} {size : Nat} (hsize : 0 < size)
    (xs : List α) : (slices size xs).flatten = xs := by
  have htake : ∀ k, ((List.range k).map fun i =>
      (xs.drop (i * size)).take size).flatten = xs.take (k * size) := by
    intro k
    induction k with
    | zero => simp
    | succ k ih =>
        rw [List.range_succ, List.map_append, List.flatten_append, ih,
          Nat.succ_mul, List.take_add]
        simp
  rw [slices, htake]
  apply List.take_of_length_le
  have hdiv := Nat.lt_div_mul_add (a := xs.length + size - 1) hsize
  omega

/-! ## Do-not-call numbers: what an import leaves -/

section

variable {env : Env} {t t' : SuppressionTable} {reason actor : Option String}

/-- The row an import adds for a number. -/
def importedRow (reason actor : Option String) (number : String) :
    Suppression where
  contactId := none
  phoneNumber := number
  reason
  source := .manualApi
  createdBy := actor

/-- The numbers that are not on the list yet. -/
def newNumbers (t : SuppressionTable) (numbers : List String) : List String :=
  numbers.filter fun number => !t.hasPhone number

/-- **The inserts of different numbers.** -/
theorem bulkInsertIfAbsent_spec (numbers : List String) (hnodup : numbers.Nodup)
    (n : Nat) :
    (bulkInsertIfAbsent reason actor (t, n) numbers).1.rows
        = ((newNumbers t numbers).map (importedRow reason actor)).reverse
          ++ t.rows ∧
      (bulkInsertIfAbsent reason actor (t, n) numbers).2
        = n + (newNumbers t numbers).length := by
  induction numbers generalizing t n with
  | nil => exact ⟨rfl, rfl⟩
  | cons number numbers ih =>
      obtain ⟨hfirst, hrest⟩ := List.nodup_cons.mp hnodup
      by_cases hphone : t.hasPhone number = true
      · have hskip := t.insertRow_conflict
          (r := importedRow reason actor number) (.inl hphone)
        have hnew : newNumbers t (number :: numbers) = newNumbers t numbers := by
          simp [newNumbers, hphone]
        rw [hnew, ← (ih hrest n).1, ← (ih hrest n).2]
        simp only [bulkInsertIfAbsent, List.foldl_cons]
        rw [show t.insertRow { contactId := none, phoneNumber := number, reason
                               source := .manualApi, createdBy := actor }
          = (t, false) from hskip]
        exact ⟨rfl, rfl⟩
      · rw [Bool.not_eq_true] at hphone
        obtain ⟨hrows, hdone⟩ := t.insertRow_inserted
          (r := importedRow reason actor number) hphone rfl
        have hsame : newNumbers (t.insertRow (importedRow reason actor number)).1
            numbers = newNumbers t numbers := by
          refine List.filter_congr fun m hm => ?_
          have hne : number ≠ m := fun heq => hfirst (heq ▸ hm)
          unfold SuppressionTable.hasPhone
          rw [hrows, List.any_cons]
          simp [importedRow, hne]
        have hnew : newNumbers t (number :: numbers)
            = number :: newNumbers t numbers := by
          simp [newNumbers, hphone]
        obtain ⟨ihrows, ihcount⟩ := ih (t := (t.insertRow
          (importedRow reason actor number)).1) hrest (n + 1)
        have hfold : bulkInsertIfAbsent reason actor (t, n) (number :: numbers)
            = bulkInsertIfAbsent reason actor
              ((t.insertRow (importedRow reason actor number)).1, n + 1)
              numbers := by
          rw [bulkInsertIfAbsent, List.foldl_cons]
          dsimp only
          rw [show (t.insertRow { contactId := none, phoneNumber := number, reason
                                  source := .manualApi, createdBy := actor }).2
            = true from hdone, if_pos rfl]
          rfl
        rw [hfold, ihrows, ihcount, hsame, hnew, hrows]
        constructor
        · simp
        · rw [List.length_cons]
          omega

/-- Where no number is new, nothing is inserted. -/
theorem bulkInsertIfAbsent_old (numbers : List String)
    (h : ∀ number ∈ numbers, t.hasPhone number = true) (n : Nat) :
    bulkInsertIfAbsent reason actor (t, n) numbers = (t, n) := by
  induction numbers with
  | nil => rfl
  | cons number numbers ih =>
      have hskip := t.insertRow_conflict (r := importedRow reason actor number)
        (.inl (h number (List.mem_cons_self ..)))
      have hrest := ih fun m hm => h m (List.mem_cons_of_mem _ hm)
      rw [bulkInsertIfAbsent, List.foldl_cons]
      dsimp only
      rw [show t.insertRow { contactId := none, phoneNumber := number, reason
                             source := .manualApi, createdBy := actor }
        = (t, false) from hskip]
      exact hrest

/-- Chunks are inserted as their numbers would be. -/
theorem bulkInsertIfAbsent_slices (numbers : List String)
    (x : SuppressionTable × Nat) :
    (slices importChunkSize numbers).foldl (bulkInsertIfAbsent reason actor) x
      = bulkInsertIfAbsent reason actor x numbers := by
  have hflat := slices_flatten (show 0 < importChunkSize by decide) numbers
  conv => rhs; rw [← hflat]
  exact (List.foldl_flatten ..).symm

/-- What the route answers for a file it takes. -/
structure SuppressionsImported (env : Env) (t : SuppressionTable)
    (reason actor : Option String) (rows : List (Nat × String))
    (t' : SuppressionTable) (result : SuppressionImportResult) : Prop where
  /-- one row for each number that was not on the list, before those that
  were -/
  table : t'.rows = ((newNumbers t (rowNumbers (suppressionNumber env)
    rows).eraseDups).map (importedRow reason actor)).reverse ++ t.rows
  added : result.added = (newNumbers t (rowNumbers (suppressionNumber env)
    rows).eraseDups).length
  total : result.total = rows.length
  errors : result.errors = refusedRows (suppressionNumber env) rows
  invalid : result.invalid = result.errors.length
  accounted : result.added + result.alreadyPresent + result.invalid
    = result.total

/-- A file that is taken: not too large, read to its end, not too long. -/
structure Importable (bytes : ByteArray) (rows : List (Nat × String)) :
    Prop where
  size : bytes.size ≤ maxImportFileBytes
  read : readRows bytes = (rows, none)
  few : rows.length ≤ maxImportRows

/-- The answer to a file that is taken, with the table and the inserts. -/
def suppressionImport (s : RowScreen) (x : SuppressionTable × Nat) :
    SuppressionTable × Except ImportFailure SuppressionImportResult :=
  (x.1, .ok
    { total := s.total
      added := x.2
      alreadyPresent := ((s.kept.map (·.2)).length - x.2) + s.repeated
      invalid := s.errors.length
      errors := s.errors })

theorem importSuppressionsRoute_eq {bytes : ByteArray}
    {rows : List (Nat × String)} (h : Importable bytes rows) :
    ∃ s : RowScreen, s.Of (suppressionNumber env) rows ∧
      ∀ t reason actor, importSuppressionsRoute env t bytes reason actor
        = suppressionImport s (bulkInsertIfAbsent reason actor (t, 0)
            (rowNumbers (suppressionNumber env) rows).eraseDups) := by
  obtain ⟨hsize, hread, hfew⟩ := h
  have hof := @screenRows_fold (suppressionNumber env) rows
  have hscreen := (@screenRows_start (suppressionNumber env) rows none _).mpr
    ⟨rfl, hfew, rfl⟩
  refine ⟨_, hof, fun t reason actor => ?_⟩
  rw [importSuppressionsRoute, if_neg (Nat.not_lt.mpr hsize),
    importSuppressions, hread]
  dsimp only
  rw [hscreen]
  dsimp only
  rw [bulkInsertIfAbsent_slices, hof.kept]
  simp only [suppressionImport, hof.kept]

end

/-- **An import of do-not-call numbers.** A file that is too large, that is
not read to its end or that has a row too many leaves the list as it was.
Any other is taken: exactly the different valid numbers that were not on the
list get one row each, and no row goes; every refused row is named by its
line and code; and every row is accounted for as added, present, repeated or
invalid. Importing the file again changes nothing, and finds present what it
had added. -/
theorem suppressions_import_exact (env : Env) (t : SuppressionTable)
    (bytes : ByteArray) (reason actor : Option String) :
    (∀ rows, Importable bytes rows → ∃ t' result,
      importSuppressionsRoute env t bytes reason actor = (t', .ok result) ∧
      SuppressionsImported env t reason actor rows t' result ∧
      ∀ reason' actor', importSuppressionsRoute env t' bytes reason' actor'
        = (t', .ok { result with
            added := 0
            alreadyPresent := result.added + result.alreadyPresent })) ∧
    ((¬∃ rows, Importable bytes rows) →
      ∃ e, importSuppressionsRoute env t bytes reason actor
        = (t, .error e)) := by
  constructor
  · intro rows h
    obtain ⟨s, hs, hroute⟩ := @importSuppressionsRoute_eq env bytes rows h
    obtain ⟨hrows, hadded⟩ := @bulkInsertIfAbsent_spec t reason actor
      (rowNumbers (suppressionNumber env) rows).eraseDups
      (nodup_eraseDups _) 0
    rw [Nat.zero_add] at hadded
    have hle : (newNumbers t (rowNumbers (suppressionNumber env)
        rows).eraseDups).length ≤ (s.kept.map (·.2)).length := by
      rw [hs.kept]
      exact List.length_filter_le _ _
    have hkept : (s.kept.map (·.2)).length = s.kept.length := List.length_map _
    have haccounted := hs.accounted
    refine ⟨_, _, hroute t reason actor, ?_, fun reason' actor' => ?_⟩
    · exact {
        table := hrows
        added := hadded
        total := hs.total
        errors := hs.errors
        invalid := rfl
        accounted := by
          dsimp only
          omega }
    · have hpresent : ∀ number ∈ (rowNumbers (suppressionNumber env)
          rows).eraseDups, (bulkInsertIfAbsent reason actor (t, 0)
            (rowNumbers (suppressionNumber env) rows).eraseDups).1.hasPhone
              number = true := by
        intro number hnumber
        rw [SuppressionTable.hasPhone_iff, hrows, List.map_append,
          List.mem_append]
        by_cases hphone : t.hasPhone number = true
        · exact .inr ((t.hasPhone_iff).mp hphone)
        · refine .inl (List.mem_map.mpr ⟨importedRow reason actor number, ?_,
            rfl⟩)
          rw [List.mem_reverse]
          refine List.mem_map_of_mem (List.mem_filter.mpr ⟨hnumber, ?_⟩)
          simpa using hphone
      rw [hroute, bulkInsertIfAbsent_old _ hpresent, suppressionImport]
      simp only [Prod.mk.injEq, Except.ok.injEq, true_and,
        SuppressionImportResult.mk.injEq, and_true]
      omega
  · intro hnone
    rw [importSuppressionsRoute]
    split
    · exact ⟨_, rfl⟩
    · next hsize =>
      rw [importSuppressions]
      dsimp only
      cases hscreen : screenRows (suppressionNumber env) (readRows bytes).1
          (readRows bytes).2 {} with
      | error e => exact ⟨e, rfl⟩
      | ok s =>
          obtain ⟨hread, hfew, -⟩ := screenRows_start.mp hscreen
          exact absurd ⟨(readRows bytes).1, Nat.not_lt.mp hsize,
            Prod.ext rfl hread, hfew⟩ hnone

/-- Three rows: a number, a text that is none, and the number again. -/
def numberFile : ByteArray :=
  "phone_number\r\n+919876543210\r\nx\r\n+919876543210\r\n".toUTF8

def numberFileRows : List (Nat × String) :=
  [(2, "+919876543210"), (3, "x"), (4, "+919876543210")]

/-- The number is added, and every row is counted. -/
theorem suppressions_import_file :
    ∃ t' result, importSuppressionsRoute (plainEnv {}) .empty numberFile none
        (some "admin") = (t', .ok result) ∧
      result.added = 1 ∧ result.total = 3 ∧
      result.errors = [(3, .invalidNumber)] := by
  have hfile : Importable numberFile numberFileRows :=
    ⟨by decide +kernel, by decide +kernel, by decide⟩
  obtain ⟨t', result, hroute, himported, -⟩ := (suppressions_import_exact
    (plainEnv {}) .empty numberFile none (some "admin")).1 _ hfile
  refine ⟨t', result, hroute, ?_, himported.total, ?_⟩
  · rw [himported.added]
    decide +kernel
  · rw [himported.errors]
    decide +kernel

/-! ## Contacts: what an import leaves -/

section

variable {env : Env} {db : Db}

/-- The chunks of contacts one after the other. -/
theorem addContacts_slices (campaignId : CampaignId) (numbers : List String)
    (db : Db) :
    (slices importChunkSize numbers).foldl (addContacts campaignId) (db, 0)
      = (numbers.foldl (fun db number => db.insertContact
          { campaignId, normalizedPhoneNumber := number }) db,
        numbers.length) := by
  have hchunks : ∀ (chunks : List (List String)) (x : Db × Nat),
      chunks.foldl (addContacts campaignId) x
        = (chunks.flatten.foldl (fun db number => db.insertContact
            { campaignId, normalizedPhoneNumber := number }) x.1,
          x.2 + chunks.flatten.length) := by
    intro chunks
    induction chunks with
    | nil => exact fun x => rfl
    | cons chunk chunks ih =>
        intro x
        rw [List.foldl_cons, ih, List.flatten_cons, List.foldl_append,
          List.length_append, ← Nat.add_assoc]
        rfl
  rw [hchunks, slices_flatten (by decide), Nat.zero_add]

/-- The contacts stand behind the ones there were, in the order of the
file. -/
theorem foldl_insertContact (campaignId : CampaignId) (numbers : List String)
    (db : Db) (c : Nat) :
    (numbers.foldl (fun db number => db.insertContact
        { campaignId, normalizedPhoneNumber := number }) db).contact c
      = if db.contacts.nextKey ≤ c then
          (numbers[c - db.contacts.nextKey]?).map fun number =>
            { campaignId, normalizedPhoneNumber := number }
        else db.contact c := by
  induction numbers generalizing db with
  | nil =>
      split
      · next hle =>
        cases hc : db.contact c with
        | none => rw [List.foldl_nil, hc]; rfl
        | some row => exact absurd (Table.lt_nextKey hc) (Nat.not_lt.mpr hle)
      · rfl
  | cons number numbers ih =>
      have hnext : (db.insertContact
          { campaignId, normalizedPhoneNumber := number }).contacts.nextKey
          = db.contacts.nextKey + 1 := Table.nextKey_insert_nextKey _ _
      rw [List.foldl_cons, ih, hnext]
      rcases Nat.lt_trichotomy c db.contacts.nextKey with hlt | rfl | hgt
      · rw [if_neg (by omega), if_neg (by omega)]
        exact AList.lookup_insert_ne (Nat.ne_of_lt hlt)
      · rw [if_neg (by omega), if_pos (Nat.le_refl _), Nat.sub_self]
        exact AList.lookup_insert _
      · rw [if_pos (by omega), if_pos (by omega),
          show c - db.contacts.nextKey = (c - (db.contacts.nextKey + 1)) + 1 by
            omega]
        rfl

/-- The numbers the system's import keeps are those of the screening. -/
theorem importableNumbers_eq (env : Env) (rows : List (Nat × String))
    (seen : List String) :
    importableNumbers env seen (rows.map (·.2))
      = ((rowNumbers (contactNumber env) rows).filter (· ∉ seen)).eraseDups := by
  induction rows generalizing seen with
  | nil => rfl
  | cons row rows ih =>
      have hblank : (strip row.2).toList = [] → normalizePhone env row.2
          env.settings.defaultRegion (some env.settings.allowedDialRegions)
          = .error .empty := fun h => by
        rw [normalizePhone]
        exact if_pos h
      rw [List.map_cons, importableNumbers]
      cases hrow : normalizePhone env row.2 env.settings.defaultRegion
          (some env.settings.allowedDialRegions) with
      | error code =>
          have hnumber : (rowNumber (contactNumber env) row.2).toOption
              = none := by
            rw [rowNumber, contactNumber, hrow]
            split <;> rfl
          have hnone : rowNumbers (contactNumber env) (row :: rows)
              = rowNumbers (contactNumber env) rows := by
            rw [rowNumbers, List.filterMap_cons, hnumber]
            rfl
          rw [hnone]
          exact ih seen
      | ok number =>
          have hsome : rowNumbers (contactNumber env) (row :: rows)
              = number.e164 :: rowNumbers (contactNumber env) rows := by
            have htext : (strip row.2).toList ≠ [] := fun h => by
              rw [hblank h] at hrow
              cases hrow
            simp only [rowNumbers, List.filterMap_cons, rowNumber, htext,
              if_false, contactNumber, hrow]
            rfl
          rw [hsome]
          dsimp only
          by_cases hseen : number.e164 ∈ seen
          · rw [if_pos hseen, ih, List.filter_cons_of_neg (by simpa using hseen)]
          · rw [if_neg hseen, ih, List.filter_cons_of_pos (by simpa using hseen),
              List.eraseDups_cons, List.filter_filter]
            refine congrArg (fun ms => number.e164 :: List.eraseDups ms)
              (List.filter_congr fun m _ => ?_)
            by_cases hm : m = number.e164 <;> simp [hm]

/-- The campaign an import creates. -/
def importedCampaign (env : Env) : Campaign where
  timezone := env.settings.defaultTimezone
  defaultRegion := env.settings.defaultRegion

/-- What the route answers for a file it takes. -/
structure ContactsImported (env : Env) (db : Db) (rows : List (Nat × String))
    (numbers : List String) (db' : Db) (result : BulkContactImportResult) :
    Prop where
  /-- without a valid number nothing is created -/
  nothing : numbers = [] → db' = db ∧ result.campaignId = none
  /-- otherwise a new campaign with its policy, and behind the contacts there
  were one pending contact for each number, in the order of the file -/
  campaign : numbers ≠ [] → result.campaignId = some db.campaigns.nextKey ∧
    db' = { db.insertCampaign (importedCampaign env)
      (buildDefaultPolicy env.settings) with contacts := db'.contacts }
  contacts : ∀ c : Nat, db'.contact c = if db.contacts.nextKey ≤ c then
      (numbers[c - db.contacts.nextKey]?).map fun number =>
        { campaignId := db.campaigns.nextKey, normalizedPhoneNumber := number }
    else db.contact c
  created : result.created = numbers.length
  total : result.total = rows.length
  errors : result.errors = refusedRows (contactNumber env) rows
  invalid : result.invalid = result.errors.length
  suppressed : result.suppressedCount = (numbers.filter fun n =>
    db.suppressions.isSuppressed env n).length
  accounted : result.created + result.duplicates + result.invalid
    = result.total

/-- Inserted contacts change no other table. -/
theorem foldl_insertContact_frame (campaignId : CampaignId)
    (numbers : List String) (db : Db) :
    numbers.foldl (fun db number => db.insertContact
        { campaignId, normalizedPhoneNumber := number }) db
      = { db with contacts := (numbers.foldl (fun db number =>
          db.insertContact { campaignId, normalizedPhoneNumber := number })
            db).contacts } := by
  induction numbers generalizing db with
  | nil => rfl
  | cons number numbers ih =>
      rw [List.foldl_cons, ih]
      rfl

theorem importContactsRoute_imported {bytes : ByteArray}
    {rows : List (Nat × String)} (h : Importable bytes rows) :
    ∃ db' result, importContactsRoute env db bytes = (db', .ok result) ∧
      ContactsImported env db rows
        (rowNumbers (contactNumber env) rows).eraseDups db' result ∧
      importContacts env db (rows.map (·.2)) = .ok db' := by
  obtain ⟨hsize, hread, hfew⟩ := h
  have hof := @screenRows_fold (contactNumber env) rows
  have hscreen := (@screenRows_start (contactNumber env) rows none _).mpr
    ⟨rfl, hfew, rfl⟩
  have haccounted := hof.accounted
  have hkept : (rowNumbers (contactNumber env) rows).eraseDups.length
      = (rows.foldl (screenRow (contactNumber env)) {}).kept.length := by
    rw [← hof.kept, List.length_map]
  have hall : importableNumbers env [] (rows.map (·.2))
      = (rowNumbers (contactNumber env) rows).eraseDups := by
    rw [importableNumbers_eq]
    simp
  have hshort : ¬(rows.map (·.2)).length > 10000 := by
    rw [List.length_map]
    exact Nat.not_lt.mpr hfew
  rw [importContactsRoute, if_neg (Nat.not_lt.mpr hsize), importContactsCsv,
    hread]
  dsimp only
  rw [hscreen]
  dsimp only
  rw [hof.kept, importContacts, if_neg hshort, hall]
  by_cases hempty : (rowNumbers (contactNumber env) rows).eraseDups = []
  · rw [if_pos hempty, hempty]
    refine ⟨db, _, rfl, ?_, rfl⟩
    exact {
      nothing := fun _ => ⟨rfl, rfl⟩
      campaign := fun h => absurd rfl h
      contacts := fun c => foldl_insertContact db.campaigns.nextKey [] db c
      created := rfl
      total := hof.total
      errors := hof.errors
      invalid := rfl
      suppressed := rfl
      accounted := by
        rw [hempty] at hkept
        dsimp only
        rw [List.length_nil] at hkept
        omega }
  · rw [if_neg hempty, addContacts_slices]
    refine ⟨_, _, rfl, ?_, ?_⟩
    · exact {
        nothing := fun h => absurd h hempty
        campaign := fun _ => ⟨rfl, foldl_insertContact_frame _ _ _⟩
        contacts := fun c => foldl_insertContact db.campaigns.nextKey _ _ c
        created := rfl
        total := hof.total
        errors := hof.errors
        invalid := rfl
        suppressed := rfl
        accounted := by
          dsimp only
          omega }
    · cases hnumbers : (rowNumbers (contactNumber env) rows).eraseDups with
      | nil => exact absurd hnumbers hempty
      | cons number numbers => rfl

end

/-- **An import of contacts.** A file that is too large, that is not read to
its end or that has a row too many changes nothing. Any other creates, if it
has a valid number, one campaign with one pending contact for each different
one, and changes nothing else; without one it creates nothing. Every refused
row is named by its line and code, and every row is accounted for. What the
file does is what the system's import of its numbers does. -/
theorem contacts_import_exact (env : Env) (db : Db) (bytes : ByteArray) :
    (∀ rows, Importable bytes rows → ∃ db' result,
      importContactsRoute env db bytes = (db', .ok result) ∧
      ContactsImported env db rows
        (rowNumbers (contactNumber env) rows).eraseDups db' result ∧
      importContacts env db (rows.map (·.2)) = .ok db') ∧
    ((¬∃ rows, Importable bytes rows) →
      ∃ e, importContactsRoute env db bytes = (db, .error e)) := by
  refine ⟨fun rows h => importContactsRoute_imported h, fun hnone => ?_⟩
  rw [importContactsRoute]
  split
  · exact ⟨_, rfl⟩
  · next hsize =>
    rw [importContactsCsv]
    dsimp only
    cases hscreen : screenRows (contactNumber env) (readRows bytes).1
        (readRows bytes).2 {} with
    | error e => exact ⟨e, rfl⟩
    | ok s =>
        obtain ⟨hread, hfew, -⟩ := screenRows_start.mp hscreen
        exact absurd ⟨(readRows bytes).1, Nat.not_lt.mp hsize,
          Prod.ext rfl hread, hfew⟩ hnone

/-- The file creates a campaign with one contact. -/
theorem contacts_import_file :
    ∃ db' result, importContactsRoute (plainEnv {}) {} numberFile
        = (db', .ok result) ∧
      result.campaignId = some 0 ∧
      db'.contact 0 = some
        { campaignId := 0, normalizedPhoneNumber := "+919876543210" } := by
  have hfile : Importable numberFile numberFileRows :=
    ⟨by decide +kernel, by decide +kernel, by decide⟩
  obtain ⟨db', result, hroute, himported, -⟩ := (contacts_import_exact
    (plainEnv {}) {} numberFile).1 _ hfile
  have hnumbers : (rowNumbers (contactNumber (plainEnv {}))
      numberFileRows).eraseDups = ["+919876543210"] := by decide +kernel
  rw [hnumbers] at himported
  exact ⟨db', result, hroute,
    (himported.campaign (List.cons_ne_nil _ _)).1, himported.contacts 0⟩

end CallingAgent
