import Mathlib.Data.List.Basic

/-!
# CSV texts — written with quotes where they are needed, read line by line

A field that holds a separator, a quote or a line end is put into quotes,
and a quote inside it is doubled. The reader takes the lines of a text one
after the other, each with an end of line after its characters; a field in
quotes goes on over line ends. A text is split into lines at line feeds, or
at carriage returns too.

What is written is read back, however it is split.
-/

namespace CallingAgent.Lib

namespace CsvText

/-! ## Writing -/

/-- A character for which a field is quoted. -/
def special (c : Char) : Bool :=
  c = ',' || c = '"' || c = '\r' || c = '\n'

/-- A character inside quotes. -/
def double (c : Char) : List Char := if c = '"' then ['"', '"'] else [c]

def writeField (field : List Char) : List Char :=
  if field.any special then '"' :: (field.flatMap double ++ ['"']) else field

def joinFields : List (List Char) → List Char
  | [] => []
  | field :: [] => writeField field
  | field :: fields => writeField field ++ ',' :: joinFields fields

/-- A record. A single empty field is quoted, for the line not to be blank. -/
def writeRow (row : List (List Char)) : List Char :=
  (if row = [[]] then ['"', '"'] else joinFields row) ++ ['\r', '\n']

def write (rows : List (List (List Char))) : List Char := rows.flatMap writeRow

/-! ## Reading -/

inductive ReadState where
  | startRecord
  | startField
  | inField
  | inQuotedField
  | quoteInQuotedField
  | eatCrnl
  deriving DecidableEq, Repr

inductive ReadError where
  /-- "new-line character seen in unquoted field" -/
  | newLineInField
  /-- "field larger than field limit" -/
  | fieldTooLarge
  deriving DecidableEq, Repr

/-- The reader on a record: the field it is on and the fields before it, both
with the latest first. -/
structure Reader where
  state : ReadState := .startRecord
  field : List Char := []
  fields : List (List Char) := []
  deriving DecidableEq, Repr

def isNewline (c : Char) : Bool := c = '\n' || c = '\r'

namespace Reader

variable (limit : Nat) (r : Reader)

def saveField (state : ReadState) : Reader where
  state
  field := []
  fields := r.field.reverse :: r.fields

def addChar (c : Char) (state : ReadState) : Except ReadError Reader :=
  if limit ≤ r.field.length then .error .fieldTooLarge
  else .ok { r with state, field := c :: r.field }

/-- The field ends with its line. -/
def endLine : Option Char → Reader
  | none => r.saveField .startRecord
  | some _ => r.saveField .eatCrnl

def atStartField (c : Char) : Except ReadError Reader :=
  if isNewline c then .ok (r.endLine (some c))
  else if c = '"' then .ok { r with state := .inQuotedField }
  else if c = ',' then .ok (r.saveField .startField)
  else r.addChar limit c .inField

/-- One character, or the end of a line. -/
def process : Option Char → Except ReadError Reader
  | none =>
      match r.state with
      | .startRecord | .inQuotedField => .ok r
      | .eatCrnl => .ok { r with state := .startRecord }
      | .startField | .inField | .quoteInQuotedField => .ok (r.endLine none)
  | some c =>
      match r.state with
      | .startRecord =>
          if isNewline c then .ok { r with state := .eatCrnl }
          else r.atStartField limit c
      | .startField => r.atStartField limit c
      | .inField =>
          if isNewline c then .ok (r.endLine (some c))
          else if c = ',' then .ok (r.saveField .startField)
          else r.addChar limit c .inField
      | .inQuotedField =>
          if c = '"' then .ok { r with state := .quoteInQuotedField }
          else r.addChar limit c .inQuotedField
      | .quoteInQuotedField =>
          if c = '"' then r.addChar limit c .inQuotedField
          else if c = ',' then .ok (r.saveField .startField)
          else if isNewline c then .ok (r.endLine (some c))
          else r.addChar limit c .inField
      | .eatCrnl =>
          if isNewline c then .ok r else .error .newLineInField

end Reader

/-- A line ends behind this character: at a line feed, at the end of the
text, and in `universal` mode at a carriage return of its own. -/
def lineEnds (universal : Bool) (c : Char) (rest : List Char) : Bool :=
  c = '\n' || rest.isEmpty
    || (universal && c = '\r' && decide (rest.head? ≠ some '\n'))

/-- The records of a text with the number of the line each ends on, up to an
error. A record that the text breaks off inside quotes is taken as it is. -/
def readFrom (universal : Bool) (limit : Nat) :
    List Char → Nat → Reader →
      List (Nat × List (List Char)) × Option ReadError
  | [], n, r =>
      if r.field ≠ [] ∨ r.state = .inQuotedField then
        ([(n, (r.saveField .startRecord).fields.reverse)], none)
      else ([], none)
  | c :: rest, n, r =>
      match r.process limit (some c) with
      | .error e => ([], some e)
      | .ok r =>
          if lineEnds universal c rest then
            match r.process limit none with
            | .error e => ([], some e)
            | .ok r =>
                if r.state = .startRecord then
                  let later := readFrom universal limit rest (n + 1) {}
                  ((n + 1, r.fields.reverse) :: later.1, later.2)
                else readFrom universal limit rest (n + 1) r
          else readFrom universal limit rest n r

/-- The records of a text. -/
def read (universal : Bool) (limit : Nat) (text : List Char) :
    List (Nat × List (List Char)) × Option ReadError :=
  readFrom universal limit text 0 {}

/-! ## Reading what was written -/

section

variable {universal : Bool} {limit : Nat}

theorem special_iff {c : Char} :
    special c = false ↔ c ≠ ',' ∧ c ≠ '"' ∧ c ≠ '\r' ∧ c ≠ '\n' := by
  simp [special, and_assoc]

/-- A step to the next character of the line. -/
theorem readFrom_step {c : Char} {rest : List Char} {n : Nat} {r r' : Reader}
    (h : r.process limit (some c) = .ok r')
    (hend : lineEnds universal c rest = false) :
    readFrom universal limit (c :: rest) n r
      = readFrom universal limit rest n r' := by
  simp [readFrom, h, hend]

/-- Inside a line no line ends. -/
theorem lineEnds_of_ne {c : Char} {rest : List Char} (hn : c ≠ '\n')
    (hr : c ≠ '\r') (hrest : rest ≠ []) : lineEnds universal c rest = false := by
  simp [lineEnds, hn, hr, hrest]

/-- **The rest of a field without special characters.** -/
theorem readFrom_inField {field rest : List Char} (hrest : rest ≠ []) (n : Nat)
    (seen : List Char) (fields : List (List Char))
    (hplain : field.any special = false)
    (hfit : seen.length + field.length ≤ limit) :
    readFrom universal limit (field ++ rest) n ⟨.inField, seen, fields⟩
      = readFrom universal limit rest n
          ⟨.inField, field.reverse ++ seen, fields⟩ := by
  induction field generalizing seen with
  | nil => rfl
  | cons c field ih =>
      rw [List.any_cons, Bool.or_eq_false_iff] at hplain
      obtain ⟨hcomma, -, hr, hn⟩ := special_iff.mp hplain.1
      rw [List.length_cons] at hfit
      have hstep : Reader.process limit ⟨.inField, seen, fields⟩ (some c)
          = .ok ⟨.inField, c :: seen, fields⟩ := by
        have hroom : ¬limit ≤ seen.length := by omega
        simp [Reader.process, isNewline, hn, hr, hcomma, Reader.addChar, hroom]
      rw [List.cons_append, readFrom_step hstep
        (lineEnds_of_ne hn hr (by simp [hrest])),
        ih (c :: seen) hplain.2 (by rw [List.length_cons]; omega)]
      simp

/-- A character inside quotes, on whatever line the next one is. -/
theorem readFrom_quoted_char {c : Char} {rest : List Char} (hc : c ≠ '"')
    (n : Nat) (seen : List Char) (fields : List (List Char)) (hfit : seen.length < limit) :
    ∃ n', readFrom universal limit (c :: rest) n ⟨.inQuotedField, seen, fields⟩
      = readFrom universal limit rest n' ⟨.inQuotedField, c :: seen, fields⟩ := by
  have hstep : Reader.process limit ⟨.inQuotedField, seen, fields⟩ (some c)
      = .ok ⟨.inQuotedField, c :: seen, fields⟩ := by
    simp [Reader.process, hc, Reader.addChar, Nat.not_le.mpr hfit]
  cases hend : lineEnds universal c rest with
  | false => exact ⟨n, readFrom_step hstep hend⟩
  | true =>
      have hline : Reader.process limit ⟨.inQuotedField, c :: seen, fields⟩ none
          = .ok ⟨.inQuotedField, c :: seen, fields⟩ := rfl
      refine ⟨n + 1, ?_⟩
      rw [readFrom, hstep]
      simp [hend, hline]

/-- **The rest of a field in quotes.** -/
theorem readFrom_inQuotedField {rest : List Char} (hrest : rest ≠ [])
    (field : List Char) (n : Nat) (seen : List Char) (fields : List (List Char))
    (hfit : seen.length + field.length ≤ limit) :
    ∃ n', readFrom universal limit (field.flatMap double ++ '"' :: rest) n
        ⟨.inQuotedField, seen, fields⟩
      = readFrom universal limit rest n'
          ⟨.quoteInQuotedField, field.reverse ++ seen, fields⟩ := by
  induction field generalizing n seen with
  | nil =>
      refine ⟨n, readFrom_step ?_ ?_⟩
      · simp [Reader.process]
      · simp [lineEnds, hrest]
  | cons c field ih =>
      rw [List.length_cons] at hfit
      obtain ⟨n', hchar⟩ : ∃ n', readFrom universal limit
          (double c ++ (field.flatMap double ++ '"' :: rest)) n
            ⟨.inQuotedField, seen, fields⟩
          = readFrom universal limit (field.flatMap double ++ '"' :: rest) n'
              ⟨.inQuotedField, c :: seen, fields⟩ := by
        by_cases hc : c = '"'
        · refine ⟨n, ?_⟩
          subst hc
          have hroom : ¬limit ≤ seen.length := by omega
          have hquote : Reader.process limit ⟨.inQuotedField, seen, fields⟩
              (some '"') = .ok ⟨.quoteInQuotedField, seen, fields⟩ := by
            simp [Reader.process]
          have hdouble : Reader.process limit
              ⟨.quoteInQuotedField, seen, fields⟩ (some '"')
              = .ok ⟨.inQuotedField, '"' :: seen, fields⟩ := by
            simp [Reader.process, Reader.addChar, hroom]
          rw [double, if_pos rfl, List.cons_append, List.cons_append,
            List.nil_append, readFrom_step hquote (by simp [lineEnds]),
            readFrom_step hdouble (by simp [lineEnds])]
        · rw [double, if_neg hc, List.singleton_append]
          exact readFrom_quoted_char hc n seen fields (by omega)
      obtain ⟨n'', hfield⟩ := ih n' (c :: seen) (by rw [List.length_cons]; omega)
      refine ⟨n'', ?_⟩
      rw [List.flatMap_cons, List.append_assoc, hchar, hfield]
      simp

/-- The states in which a field that was read may end. -/
structure FieldRead (field : List Char) (fields : List (List Char))
    (r : Reader) : Prop where
  field : r.field = field.reverse
  fields : r.fields = fields
  state : r.state = .inField ∨ r.state = .quoteInQuotedField ∨
    r.state = .startField

/-- **A field**, with something behind it that no field goes on with. -/
theorem readFrom_field {field : List Char} {c : Char} {rest : List Char}
    (n : Nat) (fields : List (List Char)) (hfit : field.length ≤ limit) :
    ∃ n' r, FieldRead field fields r ∧
      readFrom universal limit (writeField field ++ c :: rest) n
          ⟨.startField, [], fields⟩
        = readFrom universal limit (c :: rest) n' r := by
  cases hspecial : field.any special with
  | true =>
      obtain ⟨n', hquoted⟩ := @readFrom_inQuotedField universal limit (c :: rest)
        (List.cons_ne_nil _ _) field n [] fields (by simpa using hfit)
      have hquote : Reader.process limit ⟨.startField, [], fields⟩ (some '"')
          = .ok ⟨.inQuotedField, [], fields⟩ := by
        simp [Reader.process, Reader.atStartField, isNewline]
      refine ⟨n', ⟨.quoteInQuotedField, field.reverse ++ [], fields⟩,
        ⟨?_, rfl, .inr (.inl rfl)⟩, ?_⟩
      · exact List.append_nil _
      · rw [← hquoted, writeField, if_pos hspecial, List.cons_append,
          List.append_assoc, List.singleton_append,
          readFrom_step hquote (by simp [lineEnds])]
  | false =>
      rw [writeField, hspecial, if_neg Bool.false_ne_true]
      cases field with
      | nil => exact ⟨n, _, ⟨rfl, rfl, .inr (.inr rfl)⟩, rfl⟩
      | cons d field =>
          rw [List.any_cons, Bool.or_eq_false_iff] at hspecial
          obtain ⟨hcomma, hquote, hr, hn⟩ := special_iff.mp hspecial.1
          rw [List.length_cons] at hfit
          have hroom : limit ≠ 0 := by omega
          have hstep : Reader.process limit ⟨.startField, [], fields⟩ (some d)
              = .ok ⟨.inField, [d], fields⟩ := by
            simp [Reader.process, Reader.atStartField, isNewline, hn, hr, hquote,
              hcomma, Reader.addChar, hroom]
          refine ⟨n, ⟨.inField, field.reverse ++ [d], fields⟩,
            ⟨?_, rfl, .inl rfl⟩, ?_⟩
          · exact (List.reverse_cons ..).symm
          · rw [List.cons_append, readFrom_step hstep
              (lineEnds_of_ne hn hr (by simp))]
            exact readFrom_inField (List.cons_ne_nil _ _) n [d] fields
              hspecial.2 (by rw [List.length_singleton]; omega)

/-- A separator behind a field. -/
theorem FieldRead.comma {field : List Char} {fields : List (List Char)}
    {r : Reader} (h : FieldRead field fields r) {rest : List Char}
    (hrest : rest ≠ []) (n : Nat) :
    readFrom universal limit (',' :: rest) n r
      = readFrom universal limit rest n ⟨.startField, [], field :: fields⟩ := by
  refine readFrom_step ?_ (lineEnds_of_ne (by decide) (by decide) hrest)
  rcases h.state with hs | hs | hs <;>
    simp [Reader.process, Reader.atStartField, hs, isNewline, Reader.saveField,
      h.field, h.fields]

/-- The end of a record behind its last field. -/
theorem FieldRead.crlf {field : List Char} {fields : List (List Char)}
    {r : Reader} (h : FieldRead field fields r) (rest : List Char) (n : Nat) :
    readFrom universal limit ('\r' :: '\n' :: rest) n r
      = ((n + 1, (field :: fields).reverse)
          :: (readFrom universal limit rest (n + 1) {}).1,
        (readFrom universal limit rest (n + 1) {}).2) := by
  have hcr : r.process limit (some '\r') = .ok ⟨.eatCrnl, [], field :: fields⟩ := by
    rcases h.state with hs | hs | hs <;>
      simp [Reader.process, Reader.atStartField, hs, isNewline, Reader.endLine,
        Reader.saveField, h.field, h.fields]
  rw [readFrom_step hcr (by simp [lineEnds])]
  simp [readFrom, Reader.process, isNewline, lineEnds]

/-- The fields of a record. -/
theorem readFrom_joinFields (row : List (List Char)) (hne : row ≠ [])
    (rest : List Char) (n : Nat) (fields : List (List Char))
    (hfit : ∀ field ∈ row, field.length ≤ limit) :
    ∃ n', readFrom universal limit (joinFields row ++ '\r' :: '\n' :: rest) n
        ⟨.startField, [], fields⟩
      = ((n', fields.reverse ++ row)
          :: (readFrom universal limit rest n' {}).1,
        (readFrom universal limit rest n' {}).2) := by
  induction row generalizing n fields with
  | nil => exact absurd rfl hne
  | cons field row ih =>
      have hfirst := hfit field (List.mem_cons_self ..)
      cases row with
      | nil =>
          obtain ⟨n', r, hread, heq⟩ := @readFrom_field universal limit field
            '\r' ('\n' :: rest) n fields hfirst
          refine ⟨n' + 1, ?_⟩
          rw [joinFields, heq, hread.crlf]
          simp
      | cons next row =>
          obtain ⟨n', r, hread, heq⟩ := @readFrom_field universal limit field
            ',' (joinFields (next :: row) ++ '\r' :: '\n' :: rest) n fields hfirst
          obtain ⟨n'', hrest⟩ := ih (List.cons_ne_nil _ _) n' (field :: fields)
            fun f hf => hfit f (List.mem_cons_of_mem _ hf)
          refine ⟨n'', ?_⟩
          rw [joinFields, List.append_assoc, List.cons_append, heq,
            hread.comma (by simp), hrest]
          · simp
          · exact nofun

/-- Text that does not begin with a line end begins a field. -/
theorem readFrom_startRecord {c : Char} {rest : List Char} (n : Nat)
    (hn : c ≠ '\n') (hr : c ≠ '\r') :
    readFrom universal limit (c :: rest) n {}
      = readFrom universal limit (c :: rest) n ⟨.startField, [], []⟩ := by
  have hsame : Reader.process limit {} (some c)
      = Reader.process limit ⟨.startField, [], []⟩ (some c) := by
    simp [Reader.process, isNewline, hn, hr, Reader.atStartField,
      Reader.addChar, Reader.saveField]
  rw [readFrom, readFrom, hsame]

/-- A record of fields does not begin with a line end. -/
theorem joinFields_head {row : List (List Char)} {rest : List Char}
    (hrow : row ≠ []) (hblank : row ≠ [[]]) :
    ∃ c text, joinFields row ++ rest = c :: text ∧ c ≠ '\n' ∧ c ≠ '\r' := by
  cases row with
  | nil => exact absurd rfl hrow
  | cons field row =>
      cases hspecial : field.any special with
      | true =>
          cases row <;> exact ⟨'"', _, by
            simp [joinFields, writeField, hspecial]; rfl, by decide, by decide⟩
      | false =>
          cases field with
          | nil =>
              cases row with
              | nil => exact absurd rfl hblank
              | cons next row =>
                  exact ⟨',', _, rfl, by decide, by decide⟩
          | cons d field =>
              have hd := hspecial
              rw [List.any_cons, Bool.or_eq_false_iff] at hd
              obtain ⟨-, -, hr, hn⟩ := special_iff.mp hd.1
              cases row <;> exact ⟨d, _, by
                simp [joinFields, writeField, hspecial]; rfl, hn, hr⟩

/-- **A record.** -/
theorem readFrom_writeRow (row : List (List Char)) (rest : List Char) (n : Nat)
    (hfit : ∀ field ∈ row, field.length ≤ limit) :
    ∃ n', readFrom universal limit (writeRow row ++ rest) n {}
      = ((n', row) :: (readFrom universal limit rest n' {}).1,
        (readFrom universal limit rest n' {}).2) := by
  have htext : writeRow row ++ rest = (if row = [[]] then ['"', '"']
      else joinFields row) ++ '\r' :: '\n' :: rest := by
    rw [writeRow, List.append_assoc]
    rfl
  rw [htext]
  by_cases hblank : row = [[]]
  · -- a single empty field is in quotes
    rw [if_pos hblank, hblank]
    have hquote : Reader.process limit {} (some '"')
        = .ok ⟨.inQuotedField, [], []⟩ := by
      simp [Reader.process, Reader.atStartField, isNewline]
    have hclose : Reader.process limit ⟨.inQuotedField, [], []⟩ (some '"')
        = .ok ⟨.quoteInQuotedField, [], []⟩ := by
      simp [Reader.process]
    have hread : FieldRead [] [] ⟨.quoteInQuotedField, [], []⟩ :=
      ⟨rfl, rfl, .inr (.inl rfl)⟩
    refine ⟨n + 1, ?_⟩
    rw [List.cons_append, List.cons_append, List.nil_append,
      readFrom_step hquote (by simp [lineEnds]),
      readFrom_step hclose (by simp [lineEnds]), hread.crlf]
    rfl
  · rw [if_neg hblank]
    cases row with
    | nil =>
        -- a record without fields is a blank line
        have hcr : Reader.process limit {} (some '\r') = .ok ⟨.eatCrnl, [], []⟩ := by
          simp [Reader.process, isNewline]
        refine ⟨n + 1, ?_⟩
        rw [joinFields, List.nil_append, readFrom_step hcr (by simp [lineEnds])]
        simp [readFrom, Reader.process, isNewline, lineEnds]
    | cons field row =>
        obtain ⟨c, text, hc, hn, hr⟩ := @joinFields_head (field :: row)
          ('\r' :: '\n' :: rest) (List.cons_ne_nil _ _) hblank
        rw [hc, readFrom_startRecord n hn hr, ← hc]
        exact readFrom_joinFields (field :: row) (List.cons_ne_nil _ _) rest n []
          hfit

/-- **What is written is read back**, in lines of either kind. -/
theorem read_write (rows : List (List (List Char)))
    (hfit : ∀ row ∈ rows, ∀ field ∈ row, field.length ≤ limit) :
    (read universal limit (write rows)).1.map (·.2) = rows ∧
      (read universal limit (write rows)).2 = none := by
  have hall : ∀ n, (readFrom universal limit (write rows) n {}).1.map (·.2)
      = rows ∧ (readFrom universal limit (write rows) n {}).2 = none := by
    induction rows with
    | nil => exact fun n => ⟨rfl, rfl⟩
    | cons row rows ih =>
        intro n
        obtain ⟨n', hrow⟩ := @readFrom_writeRow universal limit row (write rows) n
          (hfit row (List.mem_cons_self ..))
        obtain ⟨hrest, herror⟩ := ih
          (fun r hr => hfit r (List.mem_cons_of_mem _ hr)) n'
        rw [show write (row :: rows) = writeRow row ++ write rows from rfl, hrow]
        exact ⟨by rw [List.map_cons, hrest], herror⟩
  exact hall 0

end

/-! ## Records with names -/

/-- The value of a name: the last of its columns counts, and a record that is
too short has nothing there. -/
def valueOf (names row : List (List Char)) (name : List Char) :
    Option (List Char) :=
  (((names.zip (row.map some
    ++ List.replicate (names.length - row.length) none)).reverse.find?
      (·.1 = name)).map (·.2)).join

end CsvText

end CallingAgent.Lib
