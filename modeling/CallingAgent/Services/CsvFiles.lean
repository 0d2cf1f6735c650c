import CallingAgent.Services.DncCopy
import CallingAgent.Services.NumberImport

/-!
# CSV files — written by one side, read by the other

The do-not-call copy is written and read with the CSV module, and so are the
files of an import. With its writer and its reader in place of assumptions
about them, what is written is what is read, whatever the fields hold.
-/

namespace CallingAgent

open Lib

/-! ## A file of numbers -/

/-- A file with these columns and rows, as it is saved: in UTF-8, with or
without a byte order mark. -/
def savedFile (mark : Bool) (names : List (List Char))
    (rows : List (List (List Char))) : ByteArray :=
  (String.ofList ((if mark then ['\uFEFF'] else [])
    ++ CsvText.write (names :: rows))).toUTF8

/-- The number a row of such a file has. -/
def phoneOf (names row : List (List Char)) : String :=
  String.ofList ((CsvText.valueOf names row phoneColumn).getD [])

section

variable {names : List (List Char)} {rows : List (List (List Char))}
  {mark : Bool}

/-- The mark is dropped, and nothing else is. -/
theorem decodeUtf8Sig_savedFile
    (hmark : mark = false →
      (CsvText.write (names :: rows)).head? ≠ some '\uFEFF') :
    decodeUtf8Sig (savedFile mark names rows)
      = some (CsvText.write (names :: rows)) := by
  rw [decodeUtf8Sig, savedFile, fromUTF8_toUTF8, Option.map_some,
    String.toList_ofList]
  cases mark with
  | true => rfl
  | false =>
      rw [if_neg Bool.false_ne_true, List.nil_append]
      cases htext : CsvText.write (names :: rows) with
      | nil => rfl
      | cons c cs =>
          rw [htext] at hmark
          have hc : c ≠ '\uFEFF' := fun h => hmark rfl (by rw [h]; rfl)
          simp [hc]

/-- **An import reads what was saved**: the rows of a file come one after the
other, each with its number, and nothing is raised. Only blank rows are
left out. -/
theorem readRows_savedFile (mark : Bool) (names : List (List Char))
    (rows : List (List (List Char))) (hphone : phoneColumn ∈ names)
    (hfit : ∀ row ∈ names :: rows, ∀ field ∈ row,
      field.length ≤ csvFieldLimit)
    (hmark : mark = false →
      (CsvText.write (names :: rows)).head? ≠ some '\uFEFF') :
    (readRows (savedFile mark names rows)).1.map (·.2)
        = (rows.filter (· ≠ [])).map (phoneOf names) ∧
      (readRows (savedFile mark names rows)).2 = none := by
  obtain ⟨hrows, hend⟩ := @CsvText.read_write false csvFieldLimit
    (names :: rows) hfit
  rw [readRows, decodeUtf8Sig_savedFile hmark]
  dsimp only
  generalize CsvText.read false csvFieldLimit
    (CsvText.write (names :: rows)) = x at hrows hend
  obtain ⟨records, e⟩ := x
  cases records with
  | nil => cases hrows
  | cons first records =>
      obtain ⟨n, header⟩ := first
      rw [List.map_cons, List.cons.injEq] at hrows
      obtain ⟨rfl, rfl⟩ := hrows
      have hdone : e = none := hend
      subst hdone
      dsimp only at hphone ⊢
      rw [if_pos hphone]
      refine ⟨?_, rfl⟩
      rw [List.map_map, List.filter_map, List.map_map]
      rfl

end

/-- A number with a line end inside quotes, a blank row, and a short one. -/
theorem readRows_savedFile_mark :
    (readRows (savedFile true ["name".toList, phoneColumn]
        [["a\n\"b\"".toList, "+919876543210".toList], [], ["c".toList]])).1.map
          (·.2) = ["+919876543210", ""] := by
  have hfile := (readRows_savedFile true ["name".toList, phoneColumn]
    [["a\n\"b\"".toList, "+919876543210".toList], [], ["c".toList]]
    (by decide) (by decide +kernel) (by decide)).1
  rw [hfile]
  decide +kernel

/-! ## The do-not-call copy -/

/-- The tools of a copy with the CSV module: `csv.writer`, and `csv.reader`
on lines that also end at carriage returns (`newline=""`). -/
def CopyTools.withCsv (tools : CopyTools) : CopyTools :=
  { tools with
    writeCsv := fun rows =>
      String.ofList (CsvText.write (rows.map (·.map (·.toList))))
    readCsv := fun text =>
      let x := CsvText.read true csvFieldLimit text.toList
      (x.1.map fun r => r.2.map String.ofList, x.2.isSome) }

/-- The fields of a row are not too long for the reader. -/
def FieldsFit (tools : CopyTools) (s : DatedSuppressions) : Prop :=
  ∀ r ∈ s.table.rows, r.phoneNumber.length ≤ csvFieldLimit ∧
    (r.reason.getD "").length ≤ csvFieldLimit ∧
    (tools.isoformat (s.requestedAt r.phoneNumber)).length ≤ csvFieldLimit

section

variable {tools : CopyTools} {s : DatedSuppressions}

theorem records_fit (hfit : FieldsFit tools s) :
    ∀ row ∈ (s.records tools).map (·.map (·.toList)), ∀ field ∈ row,
      field.length ≤ csvFieldLimit := by
  intro row hrow field hfield
  obtain ⟨record, hrecord, rfl⟩ := List.mem_map.mp hrow
  obtain ⟨text, htext, rfl⟩ := List.mem_map.mp hfield
  rw [String.length_toList]
  rcases List.mem_cons.mp hrecord with rfl | hrecord
  · exact (by decide : ∀ text ∈ CopyKind.dnc.fields,
      text.length ≤ csvFieldLimit) text htext
  · obtain ⟨r, hr, rfl⟩ := List.mem_map.mp hrecord
    obtain ⟨hphone, hreason, hiso⟩ := hfit r (s.mem_ordered.mp hr)
    simp only [DatedSuppressions.record, List.mem_cons, List.not_mem_nil,
      or_false] at htext
    rcases htext with rfl | rfl | rfl | rfl
    · exact hphone
    · cases r.source <;> decide
    · exact hreason
    · exact hiso

/-- **The CSV of a copy reads back.** -/
theorem withCsv_records (hfit : FieldsFit tools s) :
    tools.withCsv.readCsv (tools.withCsv.writeCsv (s.records tools.withCsv))
      = (s.records tools.withCsv, false) := by
  obtain ⟨hrows, hend⟩ := @CsvText.read_write true csvFieldLimit
    ((s.records tools).map (·.map (·.toList))) (records_fit hfit)
  have hsame : s.records tools.withCsv = s.records tools := rfl
  rw [hsame]
  simp only [CopyTools.withCsv, String.toList_ofList, hend, Option.isSome_none,
    Prod.mk.injEq, and_true]
  have hmap : (CsvText.read true csvFieldLimit (CsvText.write
        ((s.records tools).map (·.map (·.toList))))).1.map
        (fun r => r.2.map String.ofList)
      = ((CsvText.read true csvFieldLimit (CsvText.write
        ((s.records tools).map (·.map (·.toList))))).1.map (·.2)).map
          (·.map String.ofList) := by
    rw [List.map_map]
    rfl
  rw [hmap, hrows, List.map_map]
  refine (List.map_congr_left fun record _ => ?_).trans (List.map_id _)
  simp [Function.comp_def]

end

/-- **A do-not-call copy reads back.** Whatever texts the reasons of the table
are (with quotes, separators or line ends in them), a copy whose export
succeeded is read with all its rows, in the order of the numbers, under the
manifest written with it; of the other programs, only the cipher and the
dates are relied on. -/
theorem dncCopy_reads_back (tools : CopyTools) (s : DatedSuppressions)
    (dest : Destination) (recipients : List String) (identity : String)
    (now : Instant) (environment : String) (allowUnencrypted : Bool)
    (files : CopyFiles) (hfit : FieldsFit tools s)
    (hiso : ∀ r ∈ s.table.rows, tools.fromisoformat
      (tools.isoformat (s.requestedAt r.phoneNumber))
        = some (s.requestedAt r.phoneNumber))
    (hage : ∀ plain copy, tools.encrypt recipients plain = some copy →
      tools.decrypt identity copy = some plain)
    (h : exportCopy tools.withCsv s dest recipients now environment
      allowUnencrypted = .ok files) :
    ∃ m, files.manifest = some m ∧ m.rowCount = s.table.rows.length ∧
      readCopy tools.withCsv files identity
        = .ok (m, s.ordered.map s.copyRow) := by
  have hexported := exportCopy_ok h
  have hround : tools.withCsv.RoundTrip s recipients identity :=
    ⟨withCsv_records hfit, hiso, hage⟩
  obtain ⟨m, hm, hread⟩ := readCopy_exportCopy hexported hround
  obtain ⟨m', hm', -, -, -, hcount⟩ := hexported.manifest
  rw [hm] at hm'
  cases hm'
  refine ⟨m, hm, ?_, hread⟩
  rw [hcount]
  exact (List.perm_insertionSort _ _).length_eq

/-- The dates of one second, and a cipher that turns the file around. -/
def quotedTools : CopyTools where
  writeCsv _ := ""
  readCsv _ := ([], true)
  isoformat _ := "1970-01-01T00:00:00+00:00"
  fromisoformat text :=
    if text = "1970-01-01T00:00:00+00:00" then some 0 else none
  stamp _ := "19700101T000000Z"
  encrypt _ plain := some ⟨plain.data.reverse⟩
  decrypt _ copy := some ⟨copy.data.reverse⟩
  sha256 _ := "00"
  recipientFingerprint _ := "7428440fc5090ddd"

def quotedOptOut : DatedSuppressions where
  table :=
    { rows :=
        [{ contactId := none, phoneNumber := "+919876543210",
           reason := some "said \"stop\",\r\nthen hung up",
           source := .manualApi, createdBy := none }] }
  requestedAt _ := 0

/-- A reason of two lines, with quotes in it. -/
theorem dncCopy_reads_back_quoted :
    ∃ files m, exportCopy quotedTools.withCsv quotedOptOut { mode := 0o700 }
        ["age1restore"] 0 "production" false = .ok files ∧
      readCopy quotedTools.withCsv files "identity.txt"
        = .ok (m, quotedOptOut.ordered.map quotedOptOut.copyRow) := by
  obtain ⟨m, -, -, hread⟩ := dncCopy_reads_back quotedTools quotedOptOut
    { mode := 0o700 } ["age1restore"] "identity.txt" 0 "production" false _
    (by unfold FieldsFit; decide +kernel) (by decide +kernel)
    (fun plain copy h => by
      cases h
      simp [quotedTools]) rfl
  exact ⟨_, m, rfl, hread⟩

end CallingAgent
