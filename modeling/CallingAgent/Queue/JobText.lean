import CallingAgent.Lib.JsonText
import CallingAgent.Queue.AnalysisStream
import CallingAgent.Queue.StreamSafety

/-!
# Job texts — what the producers write and the readers get

The three kinds of jobs travel through Redis as JSON objects: a dial job and
an analysis job on their streams, a retry or a deferred dial as a member of
the schedule. Each reader takes the fields as they are; here is that it gets
the fields that were written, and that a stream with one kind of producer
has nothing on it that cannot be read.
-/

namespace CallingAgent

open Lib

/-! ## Fields -/

/-- A value of a job's field. -/
inductive FieldValue where
  | text (s : String)
  | int (n : Nat)
  | none
  deriving DecidableEq

abbrev JobFields := List (String × FieldValue)

/-- The code points of a text. -/
def charPoints (s : String) : List Nat := s.toList.map Char.toNat

namespace FieldValue

def value : FieldValue → JsonValue
  | .text s => .string (charPoints s)
  | .int n => .number (JsonText.natLiteral n)
  | .none => .null

/-- `str(n)` refuses more than 4300 digits. -/
def printable : FieldValue → Bool
  | .int n => decide ((JsonText.natLiteral n).length ≤ 4300)
  | _ => true

/-- The value as a reader gets it. -/
def decoded : FieldValue → Json
  | .text s => .string s
  | .int n => .number (String.ofList (JsonText.natLiteral n))
  | .none => .null

end FieldValue

/-- The JSON object of some fields. -/
def JobFields.object (fields : JobFields) : JsonValue :=
  .object (fields.map fun f => (charPoints f.1, f.2.value))

/-- `json.dumps(fields)`; `none` where it raises. -/
def JobFields.dumps (fields : JobFields) : Option String :=
  if fields.all (·.2.printable) then
    some (String.ofList (JsonText.write [' '] fields.object))
  else none

theorem JobFields.exists_dumps {fields : JobFields}
    (h : fields.all (·.2.printable) = true) : ∃ text, fields.dumps = some text :=
  ⟨_, if_pos h⟩

/-- `json.dumps(fields, sort_keys=True)` -/
def JobFields.dumpsSorted (fields : JobFields) : Option String :=
  JobFields.dumps (List.insertionSort (fun a b => a.1 ≤ b.1) fields)

/-! ## `json.loads` -/

/-- A code point of a text; a surrogate that stands alone has no character
of its own here. -/
def textOf (s : List Nat) : String :=
  String.ofList (s.map fun n => if n.isValidChar then Char.ofNat n else '\ufffd')

mutual

def decodedValue : JsonValue → Json
  | .null => .null
  | .bool b => .bool b
  | .number literal => .number (String.ofList literal)
  | .string s => .string (textOf s)
  | .array items => .array (decodedItems items)
  | .object fields => .object (decodedFields fields)

def decodedItems : List JsonValue → List Json
  | [] => []
  | v :: items => decodedValue v :: decodedItems items

def decodedFields : List (List Nat × JsonValue) → List (String × Json)
  | [] => []
  | (key, v) :: fields => (textOf key, decodedValue v) :: decodedFields fields

end

/-- The `json` module, where so many arrays and objects may be nested. -/
def jsonModule (limit : Nat) : JsonModule where
  loads raw :=
    match JsonText.loads limit raw.toList with
    | .ok v => .ok (decodedValue v)
    | .error .malformed => .error .value
    | .error .depth => .error .other

/-! ## What is written is read -/

theorem toNat_isValidChar (c : Char) : c.toNat.isValidChar := c.valid

/-- No character is a surrogate. -/
theorem not_isLow (c : Char) : JsonText.isLow c.toNat = false := by
  have hvalid : c.toNat < 0xD800 ∨ 0xDFFF < c.toNat ∧ c.toNat < 0x110000 :=
    toNat_isValidChar c
  simp only [JsonText.isLow, Bool.and_eq_false_iff, decide_eq_false_iff_not]
  omega

/-- The code points of a text can be written. -/
theorem writable_charPoints (s : String) : JsonText.Writable (charPoints s) := by
  unfold charPoints
  refine ⟨fun n hn => ?_, ?_⟩
  · obtain ⟨c, -, rfl⟩ := List.mem_map.mp hn
    have hvalid : c.toNat < 0xD800 ∨ 0xDFFF < c.toNat ∧ c.toNat < 0x110000 :=
      toNat_isValidChar c
    omega
  · induction s.toList with
    | nil => trivial
    | cons c cs ih =>
        cases cs with
        | nil => trivial
        | cons c' cs =>
            refine ⟨fun hp => ?_, ih⟩
            rw [not_isLow] at hp
            cases hp.2

theorem textOf_charPoints (s : String) : textOf (charPoints s) = s := by
  have hchars (cs : List Char) : (cs.map Char.toNat).map
      (fun n => if n.isValidChar then Char.ofNat n else '\ufffd') = cs := by
    induction cs with
    | nil => rfl
    | cons c cs ih =>
        rw [List.map_cons, List.map_cons, ih, if_pos (toNat_isValidChar c),
          Char.ofNat_toNat]
  rw [textOf, charPoints, hchars, String.ofList_toList]

theorem charPoints_injective {s t : String} (h : charPoints s = charPoints t) : s = t := by
  rw [← textOf_charPoints s, h, textOf_charPoints]

section

variable {fields : JobFields}

theorem fits_value {v : FieldValue} {d : Nat} (h : v.printable = true) :
    JsonText.Fits d v.value := by
  cases v with
  | text s => exact writable_charPoints s
  | int n => exact JsonText.fits_nat (of_decide_eq_true h)
  | none => trivial

theorem fits_fields {d : Nat} (h : fields.all (·.2.printable) = true) :
    JsonText.FitsFields d (fields.map fun f => (charPoints f.1, f.2.value)) := by
  induction fields with
  | nil => trivial
  | cons f fields ih =>
      rw [List.all_cons, Bool.and_eq_true] at h
      exact ⟨writable_charPoints f.1, fits_value h.1, ih h.2⟩

theorem decodedFields_map :
    decodedFields (fields.map fun f => (charPoints f.1, f.2.value))
      = fields.map fun f => (f.1, f.2.decoded) := by
  induction fields with
  | nil => rfl
  | cons f fields ih =>
      have hvalue : decodedValue f.2.value = f.2.decoded := by
        cases f.2 with
        | text s => exact congrArg Json.string (textOf_charPoints s)
        | int n => rfl
        | none => rfl
      simp only [List.map_cons, decodedFields, ih, hvalue, textOf_charPoints]

/-- **Fields that are written are read**, as they were written. -/
theorem loads_dumps {limit : Nat} {text : String} (hlimit : 0 < limit)
    (hn : (fields.map (·.1)).Nodup) (h : fields.dumps = some text) :
    (jsonModule limit).loads text
      = .ok (.object (fields.map fun f => (f.1, f.2.decoded))) := by
  unfold JobFields.dumps at h
  split at h
  · next hall =>
    cases h
    have hkeys : ((fields.map fun f => (charPoints f.1, f.2.value)).map
        (·.1)).Nodup := by
      have hmap := hn.map (f := charPoints) fun s t => charPoints_injective
      simpa [List.map_map, Function.comp_def] using hmap
    have hfits : JsonText.Fits limit fields.object :=
      ⟨hlimit, hkeys, fits_fields hall⟩
    have hread : JsonText.loads limit
        (String.ofList (JsonText.write [' '] fields.object)).toList
        = .ok fields.object := by
      rw [String.toList_ofList]
      exact JsonText.loads_write rfl hfits
    simp only [jsonModule, hread]
    exact congrArg (fun x => Except.ok (Json.object x)) decodedFields_map
  · cases h

end

/-! ## Dial jobs and analysis jobs -/

namespace Wire

/-- `DialJob` -/
structure DialJob where
  jobId : String
  campaignId : String
  contactId : String
  attemptNumber : Nat
  idempotencyKey : String
  enqueuedAt : String
  traceId : String
  recoveryType : Option String := none
  previousAttemptId : Option String := none
  deriving DecidableEq

/-- `AnalysisJob` -/
structure AnalysisJob where
  jobId : String
  analysisId : String
  callAttemptId : String
  contactId : String
  campaignId : String
  conversationSessionId : Option String
  enqueuedAt : String
  traceId : String
  deriving DecidableEq

/-- A text or `None`. -/
def optional : Option String → FieldValue
  | some s => .text s
  | none => .none

namespace DialJob

variable (j : DialJob)

/-- `asdict(self)` -/
def asdict : JobFields :=
  [("job_id", .text j.jobId), ("campaign_id", .text j.campaignId),
   ("contact_id", .text j.contactId), ("attempt_number", .int j.attemptNumber),
   ("idempotency_key", .text j.idempotencyKey),
   ("enqueued_at", .text j.enqueuedAt), ("trace_id", .text j.traceId),
   ("recovery_type", optional j.recoveryType),
   ("previous_attempt_id", optional j.previousAttemptId)]

/-- `to_json` -/
def toJson : Option String := j.asdict.dumps

/-- What `from_json` makes of the job's own fields. -/
def untyped : UntypedJob where
  jobId := .string j.jobId
  campaignId := .string j.campaignId
  contactId := .string j.contactId
  attemptNumber := (FieldValue.int j.attemptNumber).decoded
  idempotencyKey := .string j.idempotencyKey
  enqueuedAt := .string j.enqueuedAt
  traceId := .string j.traceId
  recoveryType := (optional j.recoveryType).decoded
  previousAttemptId := (optional j.previousAttemptId).decoded

theorem asdict_keys :
    j.asdict.map (·.1) = ["job_id", "campaign_id", "contact_id",
      "attempt_number", "idempotency_key", "enqueued_at", "trace_id",
      "recovery_type", "previous_attempt_id"] := rfl

theorem ofFields_asdict :
    UntypedJob.ofFields (j.asdict.map fun f => (f.1, f.2.decoded))
      = some j.untyped := rfl

variable {j} in
/-- **A dial job that is written is parsed as itself.** -/
theorem parse_toJson {limit : Nat} {text : String} (hlimit : 0 < limit)
    (h : j.toJson = some text) :
    parse (jsonModule limit) text = .job j.untyped := by
  have hread := loads_dumps hlimit (by rw [asdict_keys]; decide) h
  simp only [parse, hread, ofFields_asdict]

end DialJob

namespace AnalysisJob

variable (j : AnalysisJob)

/-- `asdict(self)` -/
def asdict : JobFields :=
  [("job_id", .text j.jobId), ("analysis_id", .text j.analysisId),
   ("call_attempt_id", .text j.callAttemptId), ("contact_id", .text j.contactId),
   ("campaign_id", .text j.campaignId),
   ("conversation_session_id", optional j.conversationSessionId),
   ("enqueued_at", .text j.enqueuedAt), ("trace_id", .text j.traceId)]

/-- `to_json` -/
def toJson : Option String := j.asdict.dumps

/-- What `from_json` makes of the job's own fields. -/
def untyped : UntypedAnalysisJob where
  jobId := .string j.jobId
  analysisId := .string j.analysisId
  callAttemptId := .string j.callAttemptId
  contactId := .string j.contactId
  campaignId := .string j.campaignId
  conversationSessionId := (optional j.conversationSessionId).decoded
  enqueuedAt := .string j.enqueuedAt
  traceId := .string j.traceId

theorem asdict_keys :
    j.asdict.map (·.1) = ["job_id", "analysis_id", "call_attempt_id",
      "contact_id", "campaign_id", "conversation_session_id", "enqueued_at",
      "trace_id"] := rfl

theorem ofFields_asdict :
    UntypedAnalysisJob.ofFields (j.asdict.map fun f => (f.1, f.2.decoded))
      = some j.untyped := rfl

variable {j} in
/-- An analysis job that is written is read as itself. -/
theorem read_toJson {limit : Nat} {text : String} (hlimit : 0 < limit)
    (h : j.toJson = some text) :
    readAnalysisJob (jsonModule limit) [("job", text)] = some j.untyped := by
  have hread := loads_dumps hlimit (by rw [asdict_keys]; decide) h
  have hfield : List.lookup "job" [("job", text)] = some text := rfl
  simp only [readAnalysisJob, hfield, hread, ofFields_asdict]

end AnalysisJob

end Wire

end CallingAgent
