import CallingAgent.Model.Suppressions
import Mathlib.Data.List.Sort

/-!
# Do-not-call copy — written at export, verified when it is read

A copy is a file and the manifest next to it. The file is the encrypted
CSV of the suppression table; the manifest has the size and the digest of
the file and the number of its rows. Nothing of a copy is returned before
all of it has been checked.
-/

namespace CallingAgent

/-- What the copy uses of other programs and modules. -/
structure CopyTools where
  /-- `csv.writer`: the text of some rows -/
  writeCsv : List (List String) → String
  /-- `csv.reader`: the records, and whether `csv.Error` ends them -/
  readCsv : String → List (List String) × Bool
  isoformat : Instant → String
  /-- `none` for `ValueError` -/
  fromisoformat : String → Option Instant
  /-- `strftime` of the artifact's name -/
  stamp : Instant → String
  /-- `age -r …`; `none` when it fails -/
  encrypt : List String → ByteArray → Option ByteArray
  /-- `age -d -i …` -/
  decrypt : String → ByteArray → Option ByteArray
  sha256 : ByteArray → String
  recipientFingerprint : List String → String

inductive CopyError where
  /-- `DncCopyError` -/
  | refused (message : String)
  /-- another exception, by its class -/
  | raised (exception : String)
  deriving DecidableEq, Repr

/-- `kind`, one of `_KINDS` -/
inductive CopyKind where
  | dnc
  | erasure
  deriving DecidableEq, Repr

def CopyKind.name : CopyKind → String
  | .dnc => "dnc"
  | .erasure => "erasure"

/-- `FIELDS` and `ERASURE_FIELDS` -/
def CopyKind.fields : CopyKind → List String
  | .dnc => ["phone_number", "source", "reason", "created_at"]
  | .erasure => ["fingerprint", "created_at"]

structure CopyRow where
  phoneNumber : String
  source : String
  reason : Option String
  createdAt : Instant
  deriving DecidableEq, Repr

structure Manifest where
  formatVersion : Nat := 1
  kind : String
  createdUtc : Instant
  scriptVersion : String := "15b.1"
  artifact : String
  rowCount : Nat
  newestCreatedUtc : Option Instant
  sizeBytes : Nat
  sha256 : String
  recipientFingerprint : String
  deriving DecidableEq, Repr

/-- A copy as it lies in a directory. -/
structure CopyFiles where
  copy : ByteArray
  manifest : Option Manifest

/-- The directory an export writes to. -/
structure Destination where
  /-- `st_mode` -/
  mode : Nat
  files : List String := []

/-- A suppression table whose rows have their `requested_at`. -/
structure DatedSuppressions where
  table : SuppressionTable
  requestedAt : String → Instant

def SuppressionSource.value : SuppressionSource → String
  | .agentInCall => "agent_in_call"
  | .manualApi => "manual_api"

/-- `SuppressionSource(value)`, and `MANUAL_API` for any other value. -/
def SuppressionSource.ofValue (value : String) : SuppressionSource :=
  if value = "agent_in_call" then .agentInCall else .manualApi

theorem SuppressionSource.ofValue_value (s : SuppressionSource) :
    ofValue s.value = s := by
  cases s <;> decide

namespace DatedSuppressions

variable (s : DatedSuppressions)

/-- The rows in the order of their numbers. -/
def ordered : List Suppression :=
  s.table.rows.insertionSort fun a b => a.phoneNumber ≤ b.phoneNumber

/-- The record `export_copy` writes of a row. -/
def record (tools : CopyTools) (r : Suppression) : List String :=
  [r.phoneNumber, r.source.value, r.reason.getD "",
    tools.isoformat (s.requestedAt r.phoneNumber)]

/-- All that is written: the header and the records. -/
def records (tools : CopyTools) : List (List String) :=
  CopyKind.dnc.fields :: s.ordered.map (s.record tools)

/-- The newest `requested_at`. -/
def newest : Option Instant :=
  s.ordered.foldl (fun newest r =>
    let created := s.requestedAt r.phoneNumber
    match newest with
    | none => some created
    | some t => if t < created then some created else some t) none

/-- A row as a copy gives it back: an empty reason is none. -/
def copyRow (r : Suppression) : CopyRow where
  phoneNumber := r.phoneNumber
  source := r.source.value
  reason := if r.reason.getD "" = "" then none else some (r.reason.getD "")
  createdAt := s.requestedAt r.phoneNumber

theorem mem_ordered {r : Suppression} : r ∈ s.ordered ↔ r ∈ s.table.rows :=
  List.mem_insertionSort _

end DatedSuppressions

section

variable (tools : CopyTools)

/-- `export_copy` with `kind="dnc"` -/
def exportCopy (s : DatedSuppressions) (dest : Destination)
    (recipients : List String) (now : Instant)
    (environment : String := "production")
    (allowUnencrypted : Bool := false) : Except CopyError CopyFiles :=
  let final := "dnc-" ++ tools.stamp now ++ ".csv.age"
  if allowUnencrypted then
    .error (.refused "unencrypted DNC copies are not supported")
  else if recipients = [] then
    .error (.refused "at least one age recipient is required")
  else if environment ≠ "development" ∧ dest.mode % 8 ≠ 0 then
    .error (.refused ("destination is accessible by 'other'; refusing in "
      ++ environment ++ " mode"))
  else if final ∈ dest.files then
    .error (.refused (final ++ " already exists (refusing to overwrite)"))
  else
    match tools.encrypt recipients (tools.writeCsv (s.records tools)).toUTF8 with
    | none => .error (.refused "age failed to encrypt the export")
    | some copy => .ok
        { copy
          manifest := some
            { kind := CopyKind.dnc.name
              createdUtc := now
              artifact := final
              rowCount := s.ordered.length
              newestCreatedUtc := s.newest
              sizeBytes := copy.size
              sha256 := tools.sha256 copy
              recipientFingerprint := tools.recipientFingerprint recipients } }

/-- A record of a "dnc" copy; a short one has `None` for a date. -/
def parseCopyRow : List String → Except CopyError CopyRow
  | phoneNumber :: source :: reason :: createdAt :: _ =>
      match tools.fromisoformat createdAt with
      | none => .error (.raised "ValueError")
      | some createdAt => .ok
          { phoneNumber, source
            reason := if reason = "" then none else some reason
            createdAt }
  | _ => .error (.raised "TypeError")

/-- The rows of a decrypted copy: the header has to be the kind's, and
`DictReader` skips blank records. The records are read one by one, so the
first that is at fault is what raises. -/
def parseCopy (kind : CopyKind) (plain : ByteArray) :
    Except CopyError (List CopyRow) :=
  match String.fromUTF8? plain with
  | none => .error (.raised "UnicodeDecodeError")
  | some text =>
      match tools.readCsv text with
      | ([], true) => .error (.raised "csv.Error")
      | (lines, broken) =>
          if lines.headD [] ≠ kind.fields then
            .error (.refused ("unexpected columns in the " ++ kind.name
              ++ " copy"))
          else
            match (lines.tail.filter (· ≠ [])).mapM (parseCopyRow tools) with
            | .error e => .error e
            | .ok rows =>
                if broken then .error (.raised "csv.Error") else .ok rows

/-- `read_copy` with `kind="dnc"` -/
def readCopy (files : CopyFiles) (identity : String) :
    Except CopyError (Manifest × List CopyRow) :=
  match files.manifest with
  | none => .error (.refused "manifest next to the copy is missing")
  | some manifest =>
      if manifest.kind ≠ CopyKind.dnc.name then
        .error (.refused ("manifest is not a " ++ CopyKind.dnc.name
          ++ " copy manifest"))
      else if files.copy.size ≠ manifest.sizeBytes
          ∨ tools.sha256 files.copy ≠ manifest.sha256 then
        .error (.refused
          "CHECKSUM MISMATCH: the DNC copy is corrupt or was modified")
      else
        match tools.decrypt identity files.copy with
        | none => .error (.refused
            "age could not decrypt the copy (wrong identity?)")
        | some plain =>
            match parseCopy tools .dnc plain with
            | .error e => .error e
            | .ok rows =>
                if rows.length ≠ manifest.rowCount then
                  .error (.refused
                    "row count differs from the manifest (truncated copy)")
                else .ok (manifest, rows)

end

/-- What is assumed of the tools for one copy: the CSV module, the ISO
format and `age` give back what they were given. -/
structure CopyTools.RoundTrip (tools : CopyTools) (s : DatedSuppressions)
    (recipients : List String) (identity : String) : Prop where
  csv : tools.readCsv (tools.writeCsv (s.records tools))
    = (s.records tools, false)
  iso : ∀ r ∈ s.table.rows, tools.fromisoformat
    (tools.isoformat (s.requestedAt r.phoneNumber))
      = some (s.requestedAt r.phoneNumber)
  age : ∀ plain copy, tools.encrypt recipients plain = some copy →
    tools.decrypt identity copy = some plain

section

variable {tools : CopyTools} {s : DatedSuppressions} {dest : Destination}
  {recipients : List String} {now : Instant} {environment : String}
  {allowUnencrypted : Bool} {identity : String} {files files' : CopyFiles}

/-- What an export that succeeds has written. -/
structure Exported (tools : CopyTools) (s : DatedSuppressions)
    (recipients : List String) (files : CopyFiles) : Prop where
  encrypted : tools.encrypt recipients
    (tools.writeCsv (s.records tools)).toUTF8 = some files.copy
  manifest : ∃ m, files.manifest = some m ∧ m.kind = CopyKind.dnc.name ∧
    m.sizeBytes = files.copy.size ∧ m.sha256 = tools.sha256 files.copy ∧
    m.rowCount = s.ordered.length

theorem exportCopy_ok
    (h : exportCopy tools s dest recipients now environment allowUnencrypted
      = .ok files) : Exported tools s recipients files := by
  unfold exportCopy at h
  dsimp only at h
  split at h
  · cases h
  split at h
  · cases h
  split at h
  · cases h
  split at h
  · cases h
  · split at h
    · cases h
    · next copy henc =>
      cases h
      exact ⟨henc, _, rfl, rfl, rfl, rfl, rfl⟩

theorem fromUTF8_toUTF8 (text : String) :
    String.fromUTF8? text.toUTF8 = some text := by
  unfold String.fromUTF8?
  exact dif_pos text.isValidUTF8

theorem mapM_map_ok {α β γ ε : Type} {f : α → β} {g : β → Except ε γ}
    {k : α → γ} {l : List α} (h : ∀ a ∈ l, g (f a) = .ok (k a)) :
    (l.map f).mapM g = .ok (l.map k) := by
  induction l with
  | nil => rfl
  | cons a l ih =>
      rw [List.map_cons, List.mapM_cons, h a (List.mem_cons_self ..),
        ih fun b hb => h b (List.mem_cons_of_mem a hb)]
      rfl

/-- **What was written is what is parsed.** -/
theorem parseCopy_records
    (hrt : tools.RoundTrip s recipients identity) :
    parseCopy tools .dnc (tools.writeCsv (s.records tools)).toUTF8
      = .ok (s.ordered.map s.copyRow) := by
  have hblank : ((s.ordered.map (s.record tools)).filter (· ≠ []))
      = s.ordered.map (s.record tools) := by
    apply List.filter_eq_self.mpr
    intro line hline
    obtain ⟨r, -, rfl⟩ := List.mem_map.mp hline
    simp [DatedSuppressions.record]
  have hrows : (s.ordered.map (s.record tools)).mapM (parseCopyRow tools)
      = .ok (s.ordered.map s.copyRow) := by
    apply mapM_map_ok
    intro r hr
    simp [DatedSuppressions.record, parseCopyRow, DatedSuppressions.copyRow,
      hrt.iso r (s.mem_ordered.mp hr)]
  unfold parseCopy
  rw [fromUTF8_toUTF8]
  have hlines : s.records tools
      = CopyKind.dnc.fields :: s.ordered.map (s.record tools) := rfl
  simp only [hrt.csv]
  rw [hlines]
  dsimp only [List.tail_cons]
  rw [if_neg (not_not.mpr List.headD_cons), hblank, hrows]
  rfl

/-- **Export, then read.** -/
theorem readCopy_exportCopy (hexp : Exported tools s recipients files)
    (hrt : tools.RoundTrip s recipients identity) :
    ∃ m, files.manifest = some m ∧
      readCopy tools files identity = .ok (m, s.ordered.map s.copyRow) := by
  obtain ⟨m, hm, hkind, hsize, hsha, hcount⟩ := hexp.manifest
  refine ⟨m, hm, ?_⟩
  simp only [readCopy, hm, hkind, hsize, hsha, ne_eq, not_true, or_self,
    if_false, hrt.age _ _ hexp.encrypted, parseCopy_records hrt,
    List.length_map, hcount]

/-- What a copy that is read agrees with. -/
structure Verified (tools : CopyTools) (files : CopyFiles) (identity : String)
    (m : Manifest) (rows : List CopyRow) : Prop where
  manifest : files.manifest = some m
  kind : m.kind = CopyKind.dnc.name
  size : files.copy.size = m.sizeBytes
  digest : tools.sha256 files.copy = m.sha256
  plain : ∃ plain, tools.decrypt identity files.copy = some plain ∧
    parseCopy tools .dnc plain = .ok rows
  count : rows.length = m.rowCount

/-- **Nothing is returned unverified.** -/
theorem readCopy_ok {m : Manifest} {rows : List CopyRow}
    (h : readCopy tools files identity = .ok (m, rows)) :
    Verified tools files identity m rows := by
  unfold readCopy at h
  cases hm : files.manifest with
  | none => rw [hm] at h; cases h
  | some manifest =>
      rw [hm] at h
      dsimp only at h
      split at h
      · cases h
      · next hkind =>
        split at h
        · cases h
        · next hfile =>
          rw [not_or, not_not, not_not] at hfile
          cases hdec : tools.decrypt identity files.copy with
          | none => rw [hdec] at h; cases h
          | some plain =>
              rw [hdec] at h
              dsimp only at h
              cases hparse : parseCopy tools .dnc plain with
              | error e => rw [hparse] at h; cases h
              | ok rows' =>
                  rw [hparse] at h
                  dsimp only at h
                  split at h
                  · cases h
                  · next hcount =>
                    cases h
                    exact ⟨hm, not_not.mp hkind, hfile.1, hfile.2,
                      ⟨plain, hdec, hparse⟩, not_not.mp hcount⟩

/-- **A damaged copy is refused.** What is read next to the manifest of an
export is what was exported, where the digest tells the two files apart. -/
theorem readCopy_undamaged {m : Manifest} {rows : List CopyRow}
    (hexp : Exported tools s recipients files)
    (hrt : tools.RoundTrip s recipients identity)
    (hsame : files'.manifest = files.manifest)
    (hdigest : tools.sha256 files'.copy = tools.sha256 files.copy →
      files'.copy = files.copy)
    (h : readCopy tools files' identity = .ok (m, rows)) :
    rows = s.ordered.map s.copyRow := by
  have hv := readCopy_ok h
  obtain ⟨m', hm', hread⟩ := readCopy_exportCopy hexp hrt
  have hmm : m = m' := Option.some.inj (by rw [← hv.manifest, hsame, hm'])
  subst hmm
  have hcopy : files'.copy = files.copy := by
    apply hdigest
    rw [hv.digest, (readCopy_ok hread).digest]
  obtain ⟨plain, hdec, hparse⟩ := hv.plain
  obtain ⟨plain', hdec', hparse'⟩ := (readCopy_ok hread).plain
  rw [hcopy, hdec'] at hdec
  cases hdec
  rw [hparse'] at hparse
  exact (Except.ok.inj hparse).symm

end

end CallingAgent
