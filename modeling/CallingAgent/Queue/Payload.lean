/-!
# Payloads — what is read back from the dial stream

A stream entry carries a job as JSON text. Reading it back checks the names
of the fields and nothing else: the values are whatever the text says.
-/

namespace CallingAgent

/-- A JSON value as `json.loads` answers it. The keys of an object are
distinct; a number is kept as it was written. -/
inductive Json where
  | null
  | bool (b : Bool)
  | number (literal : String)
  | string (s : String)
  | array (items : List Json)
  | object (fields : List (String × Json))

/-- What `json.loads` raises: `ValueError`, or something that nobody expects
of it (a text that is nested too deeply). -/
inductive LoadError where
  | value
  | other
  deriving DecidableEq, Repr

structure JsonModule where
  /-- `json.loads` -/
  loads : String → Except LoadError Json

/-- `DialJob` as `from_json` makes it: no value is checked for its type. -/
structure UntypedJob where
  jobId : Json
  campaignId : Json
  contactId : Json
  attemptNumber : Json
  idempotencyKey : Json
  enqueuedAt : Json
  traceId : Json
  recoveryType : Json := .null
  previousAttemptId : Json := .null

namespace UntypedJob

def fieldNames : List String :=
  ["job_id", "campaign_id", "contact_id", "attempt_number", "idempotency_key",
   "enqueued_at", "trace_id", "recovery_type", "previous_attempt_id"]

/-- `cls(**fields)`; `none` is the `TypeError` of an unexpected or missing
argument. -/
def ofFields (fields : List (String × Json)) : Option UntypedJob :=
  if fields.all fun f => fieldNames.contains f.1 then do
    return {
      jobId := ← fields.lookup "job_id"
      campaignId := ← fields.lookup "campaign_id"
      contactId := ← fields.lookup "contact_id"
      attemptNumber := ← fields.lookup "attempt_number"
      idempotencyKey := ← fields.lookup "idempotency_key"
      enqueuedAt := ← fields.lookup "enqueued_at"
      traceId := ← fields.lookup "trace_id"
      recoveryType := (fields.lookup "recovery_type").getD .null
      previousAttemptId :=
        (fields.lookup "previous_attempt_id").getD .null }
  else none

end UntypedJob

/-- What `_parse` makes of a payload. -/
inductive Parsed where
  | job (job : UntypedJob)
  | unreadable
  /-- an exception `_parse` does not catch -/
  | raised

/-- `_parse`, over `DialJob.from_json`. An entry without the field is read
as one with an empty text, which is no JSON either. -/
def parse (json : JsonModule) (raw : String) : Parsed :=
  match json.loads raw with
  | .ok (.object fields) =>
      match UntypedJob.ofFields fields with
      | some job => .job job
      | none => .unreadable
  | .ok _ => .unreadable
  | .error .value => .unreadable
  | .error .other => .raised

/-! ## One concrete text -/

/-- A job every field of which is the text `17`. -/
def demoJobText : String :=
  "\x7b\"job_id\": \"17\", \"campaign_id\": \"17\", "
    ++ "\"contact_id\": \"17\", \"attempt_number\": \"17\", "
    ++ "\"idempotency_key\": \"17\", \"enqueued_at\": \"17\", "
    ++ "\"trace_id\": \"17\", \"recovery_type\": \"17\", "
    ++ "\"previous_attempt_id\": \"17\"\x7d"

/-- `json.loads` of that text; every other one is taken for no JSON. -/
def demoJson : JsonModule where
  loads raw :=
    if raw = demoJobText then
      .ok (.object (UntypedJob.fieldNames.map fun f => (f, .string "17")))
    else .error .value

end CallingAgent
