import CallingAgent.Lib.Spacing
import CallingAgent.Model.Decoded
import Mathlib.Data.List.Sort

/-!
# QaContract — the answer of the QA node

What the provider's language model writes about a call is checked against a
contract and never repaired: the size of the answer, its fields, the type and
the bounds of each, and that nothing positive is said of a person who
rejected or opted out. The contract is stated again without the code, of the
decoded answer alone.
-/

namespace CallingAgent

open Lib

/-! ## `json.dumps` -/

/-- `\uXXXX` -/
def unicodeEscape (n : Nat) : List Char :=
  ['\\', 'u', Nat.digitChar (n / 4096 % 16), Nat.digitChar (n / 256 % 16),
    Nat.digitChar (n / 16 % 16), Nat.digitChar (n % 16)]

/-- A code point of a string: what is not printable ASCII is escaped, above
the first plane as two surrogates. -/
def escapeCodePoint (n : Nat) : List Char :=
  if n = 34 then ['\\', '"']
  else if n = 92 then ['\\', '\\']
  else if n = 10 then ['\\', 'n']
  else if n = 13 then ['\\', 'r']
  else if n = 9 then ['\\', 't']
  else if n = 12 then ['\\', 'f']
  else if n = 8 then ['\\', 'b']
  else if 32 ≤ n ∧ n ≤ 126 then [Char.ofNat n]
  else if n < 0x10000 then unicodeEscape n
  else unicodeEscape (0xD800 + (n - 0x10000) / 1024)
    ++ unicodeEscape (0xDC00 + (n - 0x10000) % 1024)

def dumpString (s : CodePoints) : List Char :=
  '"' :: (List.flatMap escapeCodePoint s ++ ['"'])

/-- `int.__repr__`, which refuses more than 4300 digits. -/
def dumpInt (n : Int) : Option (List Char) :=
  let digits := Nat.toDigits 10 n.natAbs
  if 4300 < digits.length then none
  else some (if n < 0 then '-' :: digits else digits)

section

variable (floatRepr : PyFloat → List Char)

mutual

/-- `json.dumps(value, separators=(",", ":"))`; `none` where it raises a
`ValueError`. `floatRepr` is the text of a float. -/
def dumps : Decoded → Option (List Char)
  | .null => some ['n', 'u', 'l', 'l']
  | .bool true => some ['t', 'r', 'u', 'e']
  | .bool false => some ['f', 'a', 'l', 's', 'e']
  | .int n => dumpInt n
  | .float x => some (floatRepr x)
  | .string s => some (dumpString s)
  | .array items => do
      let texts ← dumpsItems items
      some ('[' :: ([','].intercalate texts ++ [']']))
  | .object fields => do
      let texts ← dumpsFields fields
      some ('{' :: ([','].intercalate texts ++ ['}']))

def dumpsItems : List Decoded → Option (List (List Char))
  | [] => some []
  | v :: items => do
      let text ← dumps v
      let texts ← dumpsItems items
      some (text :: texts)

def dumpsFields : List (CodePoints × Decoded) → Option (List (List Char))
  | [] => some []
  | (key, v) :: fields => do
      let text ← dumps v
      let texts ← dumpsFields fields
      some ((dumpString key ++ ':' :: text) :: texts)

end

/-- `len(json.dumps(payload, …).encode())` -/
def dumpedSize (payload : Decoded) : Option Nat :=
  (dumps floatRepr payload).map fun text => (String.ofList text).utf8ByteSize

end

/-! ## The enumerations -/

/-- A `str` enumeration: its members, and their values, which are distinct. -/
class StrEnum (ε : Type) where
  members : List ε
  value : ε → String
  complete : ∀ e, e ∈ members
  distinct : ∀ {e e'}, value e = value e' → e = e'

inductive AnalysisIntent where
  | interested | notInterested | informationRequested | callbackRequested
  | unclear
  deriving DecidableEq

inductive InterestStatus where
  | interested | maybe | notInterested | unknown
  deriving DecidableEq

inductive AnalysisSentiment where
  | positive | neutral | negative | mixed | unknown
  deriving DecidableEq

inductive AnalysisNextAction where
  | followUp | callback | sendInformation | salesContact | noAction
  | manualReview
  deriving DecidableEq

/-- `_BOOL_SIGNALS` -/
inductive BoolSignal where
  | explicitInterest | purchaseIntent | requestedCallback | requestedPricing
  | hasTimeline | explicitRejection | optedOut | informationRequested
  deriving DecidableEq

def AnalysisIntent.value : AnalysisIntent → String
  | interested => "interested"
  | notInterested => "not_interested"
  | informationRequested => "information_requested"
  | callbackRequested => "callback_requested"
  | unclear => "unclear"

def InterestStatus.value : InterestStatus → String
  | interested => "interested"
  | maybe => "maybe"
  | notInterested => "not_interested"
  | unknown => "unknown"

def AnalysisSentiment.value : AnalysisSentiment → String
  | positive => "positive"
  | neutral => "neutral"
  | negative => "negative"
  | mixed => "mixed"
  | unknown => "unknown"

def AnalysisNextAction.value : AnalysisNextAction → String
  | followUp => "follow_up"
  | callback => "callback"
  | sendInformation => "send_information"
  | salesContact => "sales_contact"
  | noAction => "no_action"
  | manualReview => "manual_review"

def BoolSignal.value : BoolSignal → String
  | explicitInterest => "explicit_interest"
  | purchaseIntent => "purchase_intent"
  | requestedCallback => "requested_callback"
  | requestedPricing => "requested_pricing"
  | hasTimeline => "has_timeline"
  | explicitRejection => "explicit_rejection"
  | optedOut => "opted_out"
  | informationRequested => "information_requested"

instance : StrEnum AnalysisIntent where
  members := [.interested, .notInterested, .informationRequested,
    .callbackRequested, .unclear]
  value := AnalysisIntent.value
  complete e := by cases e <;> simp
  distinct {e e'} := by cases e <;> cases e' <;> simp [AnalysisIntent.value]

instance : StrEnum InterestStatus where
  members := [.interested, .maybe, .notInterested, .unknown]
  value := InterestStatus.value
  complete e := by cases e <;> simp
  distinct {e e'} := by cases e <;> cases e' <;> simp [InterestStatus.value]

instance : StrEnum AnalysisSentiment where
  members := [.positive, .neutral, .negative, .mixed, .unknown]
  value := AnalysisSentiment.value
  complete e := by cases e <;> simp
  distinct {e e'} := by cases e <;> cases e' <;> simp [AnalysisSentiment.value]

instance : StrEnum AnalysisNextAction where
  members := [.followUp, .callback, .sendInformation, .salesContact, .noAction,
    .manualReview]
  value := AnalysisNextAction.value
  complete e := by cases e <;> simp
  distinct {e e'} := by cases e <;> cases e' <;> simp [AnalysisNextAction.value]

instance : StrEnum BoolSignal where
  members := [.explicitInterest, .purchaseIntent, .requestedCallback,
    .requestedPricing, .hasTimeline, .explicitRejection, .optedOut,
    .informationRequested]
  value := BoolSignal.value
  complete e := by cases e <;> simp
  distinct {e e'} := by cases e <;> cases e' <;> simp [BoolSignal.value]

/-! ## The result -/

structure ScoringSignals where
  explicitInterest : Bool := false
  purchaseIntent : Bool := false
  requestedCallback : Bool := false
  requestedPricing : Bool := false
  hasTimeline : Bool := false
  objectionCount : Int := 0
  explicitRejection : Bool := false
  optedOut : Bool := false
  informationRequested : Bool := false
  deriving DecidableEq

/-- The signal with a name. -/
def ScoringSignals.flag (s : ScoringSignals) : BoolSignal → Bool
  | .explicitInterest => s.explicitInterest
  | .purchaseIntent => s.purchaseIntent
  | .requestedCallback => s.requestedCallback
  | .requestedPricing => s.requestedPricing
  | .hasTimeline => s.hasTimeline
  | .explicitRejection => s.explicitRejection
  | .optedOut => s.optedOut
  | .informationRequested => s.informationRequested

/-- `ScoringSignals(objection_count=count, **flags)` -/
def ScoringSignals.ofFlags (flags : BoolSignal → Bool) (count : Int) :
    ScoringSignals where
  explicitInterest := flags .explicitInterest
  purchaseIntent := flags .purchaseIntent
  requestedCallback := flags .requestedCallback
  requestedPricing := flags .requestedPricing
  hasTimeline := flags .hasTimeline
  objectionCount := count
  explicitRejection := flags .explicitRejection
  optedOut := flags .optedOut
  informationRequested := flags .informationRequested

/-- The columns of the result that the contract fills in. -/
structure AnalysisResult where
  summary : CodePoints
  intent : AnalysisIntent
  interestStatus : InterestStatus
  sentiment : AnalysisSentiment
  nextAction : AnalysisNextAction
  feedback : Option CodePoints
  keyFacts : List CodePoints
  objections : List CodePoints
  customerNeeds : List CodePoints
  language : CodePoints
  scoringSignals : ScoringSignals
  deriving DecidableEq

/-- What the check raises: `AnalysisLLMValidationError`, or a failed `assert`. -/
inductive QaError where
  | validation (message : String)
  | assertion
  deriving DecidableEq

/-! ## The check -/

/-- `CONTRACT_VERSION` -/
def contractVersion : String := "cp14b.v1"

def maxSummary : Nat := 1000
def maxFeedback : Nat := 500
def maxItem : Nat := 200
def maxItems : Nat := 10
def maxLanguage : Nat := 16
def maxObjectionsCount : Int := 20

/-- `_REQUIRED` -/
def requiredFields : List String :=
  ["schema_version", "summary", "intent", "interest_status", "sentiment",
    "next_action", "language", "signals"]

/-- `_ALLOWED` -/
def allowedFields : List String :=
  requiredFields ++ ["feedback", "key_facts", "objections", "customer_needs"]

/-- The names that `signals` may have. -/
def allowedSignals : List String :=
  (StrEnum.members.map BoolSignal.value) ++ ["objection_count"]

/-- `raise _fail(reason)` -/
def qaFail {α : Type} (reason : String) : Except QaError α :=
  .error (.validation ("invalid QA output: " ++ reason))

/-- White space; no surrogate is. -/
def isSpacePoint (n : Nat) : Bool := isSpace (Char.ofNat n)

/-- `" ".join(value.split())` -/
def collapseSpaces (s : CodePoints) : CodePoints := respace isSpacePoint 32 s

/-- `_enum` -/
def qaEnum {ε : Type} [StrEnum ε] (value : Decoded) (field : String) :
    Except QaError ε :=
  match value with
  | .string s =>
      match StrEnum.members.find? fun e : ε => codePoints (StrEnum.value e) = s with
      | some e => .ok e
      | none => qaFail (field ++ " has an unknown value")
  | _ => qaFail (field ++ " not a string")

/-- `_text` -/
def qaText (value : Decoded) (field : String) (limit : Nat) (required : Bool) :
    Except QaError (Option CodePoints) :=
  match value with
  | .null => if required then qaFail (field ++ " missing") else .ok none
  | .string s =>
      let cleaned := collapseSpaces s
      if required && List.isEmpty cleaned then qaFail (field ++ " empty")
      else if limit < List.length cleaned then
        qaFail (field ++ " exceeds " ++ toString limit ++ " characters")
      else .ok (if List.isEmpty cleaned then none else some cleaned)
  | _ => qaFail (field ++ " not a string")

/-- `_text(value, field, limit, required=True)` and the `assert` behind it. -/
def requiredText (value : Decoded) (field : String) (limit : Nat) :
    Except QaError CodePoints := do
  match ← qaText value field limit true with
  | some text => .ok text
  | none => .error .assertion

/-- `_items` -/
def qaItems (value : Decoded) (field : String) : Except QaError (List CodePoints) :=
  match value with
  | .null => .ok []
  | .array items =>
      if maxItems < items.length then
        qaFail (field ++ " has more than " ++ toString maxItems ++ " entries")
      else items.mapM fun item => requiredText item field maxItem
  | _ => qaFail (field ++ " not a list")

namespace Decoded

/-- The keys of an object. -/
def keys : Decoded → List CodePoints
  | .object fields => fields.map (·.1)
  | _ => []

/-- `value.get(name, default)` -/
def fieldOr (value : Decoded) (name : String) (default : Decoded) : Decoded :=
  (value.field name).getD default

end Decoded

/-- The size of the answer. -/
def checkSize (floatRepr : PyFloat → List Char) (payload : Decoded)
    (maxBytes : Int) : Except QaError Unit :=
  match dumpedSize floatRepr payload with
  | none => qaFail "not serialisable"
  | some size =>
      if maxBytes < size then qaFail "output exceeds the configured size limit"
      else .ok ()

/-- The names of its fields, and the version. -/
def checkFields (payload : Decoded) : Except QaError Unit :=
  let missing := requiredFields.filter fun name => (payload.field name).isNone
  if missing ≠ [] then
    qaFail ("missing required field(s): "
      ++ ", ".intercalate (missing.insertionSort (· ≤ ·)))
  else if payload.keys.any fun key => !(allowedFields.map codePoints).contains key
  then qaFail "unexpected field(s) present"
  else if !(payload.fieldOr "schema_version" .null).isText
    (codePoints contractVersion) then qaFail "unsupported schema_version"
  else .ok ()

/-- One of the boolean signals. -/
def readFlag (signals : Decoded) (name : BoolSignal) :
    Except QaError (BoolSignal × Bool) :=
  match signals.fieldOr name.value (.bool false) with
  | .bool b => .ok (name, b)
  | _ => qaFail ("signal " ++ name.value ++ " not a boolean")

/-- The number of objections; a boolean is none. -/
def readCount (signals : Decoded) : Except QaError Int :=
  match signals.fieldOr "objection_count" (.int 0) with
  | .int count =>
      if 0 ≤ count ∧ count ≤ maxObjectionsCount then .ok count
      else qaFail "objection_count out of range"
  | _ => qaFail "objection_count out of range"

/-- The signals. -/
def readSignals (signals : Decoded) : Except QaError ScoringSignals :=
  match signals with
  | .object fields =>
      if fields.any fun f => !(allowedSignals.map codePoints).contains f.1 then
        qaFail "unexpected signal(s) present"
      else do
        let flags ← StrEnum.members.mapM (readFlag signals)
        let count ← readCount signals
        .ok (.ofFlags (fun name => (flags.lookup name).getD false) count)
  | _ => qaFail "signals not an object"

/-- A positive classification never stands beside a rejection or opt-out. -/
def checkConsistent (signals : ScoringSignals) (intent : AnalysisIntent)
    (interest : InterestStatus) : Except QaError Unit :=
  if (signals.optedOut || signals.explicitRejection) &&
      (intent = .interested || intent = .callbackRequested
        || interest = .interested) then
    qaFail "positive classification contradicts an explicit rejection or opt-out"
  else .ok ()

/-- `parse_qa_payload` -/
def parseQaPayload (floatRepr : PyFloat → List Char) (payload : Decoded)
    (maxBytes : Int) : Except QaError AnalysisResult :=
  match payload with
  | .object _ => do
      checkSize floatRepr payload maxBytes
      checkFields payload
      let signals ← readSignals (payload.fieldOr "signals" .null)
      let intent ← qaEnum (payload.fieldOr "intent" .null) "intent"
      let interest ←
        qaEnum (payload.fieldOr "interest_status" .null) "interest_status"
      checkConsistent signals intent interest
      let summary ←
        requiredText (payload.fieldOr "summary" .null) "summary" maxSummary
      let language ←
        requiredText (payload.fieldOr "language" .null) "language" maxLanguage
      let sentiment ← qaEnum (payload.fieldOr "sentiment" .null) "sentiment"
      let nextAction ← qaEnum (payload.fieldOr "next_action" .null) "next_action"
      let feedback ←
        qaText (payload.fieldOr "feedback" .null) "feedback" maxFeedback false
      let keyFacts ← qaItems (payload.fieldOr "key_facts" .null) "key_facts"
      let objections ← qaItems (payload.fieldOr "objections" .null) "objections"
      let customerNeeds ←
        qaItems (payload.fieldOr "customer_needs" .null) "customer_needs"
      .ok { summary, intent, interestStatus := interest, sentiment, nextAction,
            feedback, keyFacts, objections, customerNeeds, language,
            scoringSignals := signals }
  | _ => qaFail "not a JSON object"

end CallingAgent
