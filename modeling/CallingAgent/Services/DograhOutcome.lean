import CallingAgent.Model.Records

/-!
# Provider outcomes — what a provider signal means

Two inputs reach the backend from the provider: the synchronous failure of
a trigger request and the asynchronous completion webhook. Classification
only reports; whether to retry is the recovery manager's decision, driven
by the reason key returned here.
-/

namespace CallingAgent

open Lib

/-! ## Completion webhooks -/

/-- `[\s\-_]` -/
def isTokenSeparator (c : Char) : Bool := isSpace c || c == '-' || c == '_'

/-- `_token`: case, whitespace and separator variants collapse to one. -/
def token (env : Env) (value : Option String) : String :=
  let lowered := env.unicode.lower (strip (value.getD ""))
  String.ofList (stripChars (· == '_') (collapse isTokenSeparator lowered.toList))

/-- `CallOutcome.basis`, audit metadata. -/
inductive OutcomeBasis where
  | status
  | disposition
  | unrecognized
  | conflict
  deriving DecidableEq, Repr

structure CallOutcome where
  state : CallAttemptState
  neverConnectedReason : Option NeverConnectedFailureReason := none
  midCallReason : Option MidCallDisconnectReason := none
  reasonKey : Option String := none
  recognized : Bool := true
  nonFinal : Bool := false
  basis : OutcomeBasis := .status
  deriving DecidableEq, Repr

/-- `_never` -/
def CallOutcome.never (r : NeverConnectedFailureReason) : CallOutcome :=
  { state := .failedToConnect, neverConnectedReason := some r,
    reasonKey := some r.value }

/-- `_dropped` -/
def CallOutcome.dropped (r : MidCallDisconnectReason) : CallOutcome :=
  { state := .droppedMidCall, midCallReason := some r,
    reasonKey := some r.value }

/-- `_ENDED` -/
def CallOutcome.ended : CallOutcome := { state := .endedNormally }

/-- `_NON_FINAL` -/
def CallOutcome.notFinal : CallOutcome :=
  { state := .failedToConnect, nonFinal := true }

/-- `_UNRECOGNIZED`: its key is in no rule table, so it is never redialed. -/
def CallOutcome.unknown : CallOutcome :=
  { state := .failedToConnect, neverConnectedReason := some .providerError,
    reasonKey := some "unrecognized_status", recognized := false,
    basis := .unrecognized }

/-- `_VOCABULARY` -/
def vocabulary : List (String × CallOutcome) :=
  [("completed", .ended),
   ("user_hangup", .ended),
   ("end_call", .ended),
   ("call_transferred", .ended),
   ("transfer_call", .ended),
   ("call_duration_exceeded", .ended),
   ("user_idle_max_duration_exceeded", .ended),
   ("busy", .never .busy),
   ("no_answer", .never .noAnswer),
   ("voicemail_detected", .never .noAnswer),
   ("failed", .never .providerError),
   ("canceled", .never .providerError),
   ("error", .never .providerError),
   ("unexpected_error", .dropped .technicalIssue),
   ("pipeline_error", .dropped .technicalIssue),
   ("system_cancelled", .dropped .technicalIssue),
   ("initiated", .notFinal),
   ("ringing", .notFinal),
   ("in_progress", .notFinal),
   ("answered", .notFinal)]

/-- `_with_basis` -/
def CallOutcome.withBasis (o : CallOutcome) (b : OutcomeBasis) : CallOutcome :=
  { o with basis := b }

/-- The decision of `classify_call_outcome`, on what the vocabulary says of
the status and of the disposition. -/
def combineOutcomes : Option CallOutcome → Option CallOutcome → CallOutcome
  | none, some d =>
      if !d.nonFinal && d.state ≠ .endedNormally then d.withBasis .disposition
      else .unknown
  | none, none => .unknown
  | some s, none => s
  | some s, some d =>
      if d.nonFinal || s.nonFinal then s
      else if (s.state = .endedNormally) ↔ (d.state = .endedNormally) then s
      else CallOutcome.unknown.withBasis .conflict

/-- `classify_call_outcome` -/
def classifyCallOutcome (env : Env)
    (callStatus callDisposition : Option String) : CallOutcome :=
  combineOutcomes (vocabulary.lookup (token env callStatus))
    (vocabulary.lookup (token env callDisposition))

/-- A final outcome carries the reason its state needs. -/
structure CallOutcome.WellFormed (o : CallOutcome) : Prop where
  neverConnected : o.nonFinal = false → o.state = .failedToConnect →
    o.neverConnectedReason.isSome
  midCall : o.state = .droppedMidCall → o.midCallReason.isSome
  state : o.state = .failedToConnect ∨ o.state = .droppedMidCall
    ∨ o.state = .endedNormally

theorem vocabulary_wellFormed :
    ∀ e ∈ vocabulary, e.2.WellFormed := by
  intro e he
  simp only [vocabulary, List.mem_cons, List.not_mem_nil, or_false] at he
  rcases he with h | h | h | h | h | h | h | h | h | h | h | h | h | h | h | h
    | h | h | h | h <;> subst h <;> constructor <;> decide

theorem unknown_wellFormed (b : OutcomeBasis) :
    (CallOutcome.unknown.withBasis b).WellFormed := by
  constructor <;> simp [CallOutcome.unknown, CallOutcome.withBasis]

theorem CallOutcome.WellFormed.withBasis {o : CallOutcome}
    (h : o.WellFormed) (b : OutcomeBasis) : (o.withBasis b).WellFormed :=
  ⟨h.neverConnected, h.midCall, h.state⟩

theorem lookup_vocabulary_wellFormed {t : String} {o : CallOutcome}
    (h : vocabulary.lookup t = some o) : o.WellFormed := by
  obtain ⟨before, after, hsplit, -⟩ := List.lookup_eq_some_iff.mp h
  have hm : (t, o) ∈ vocabulary := hsplit ▸ List.mem_append_right _ (.head _)
  exact vocabulary_wellFormed _ hm

/-- **Every classification is well formed**, whatever the two texts. -/
theorem classifyCallOutcome_wellFormed (env : Env)
    (callStatus callDisposition : Option String) :
    (classifyCallOutcome env callStatus callDisposition).WellFormed := by
  have hu : CallOutcome.unknown.WellFormed := unknown_wellFormed .unrecognized
  unfold classifyCallOutcome
  cases hs : vocabulary.lookup (token env callStatus) with
  | none =>
      cases hd : vocabulary.lookup (token env callDisposition) with
      | none => exact hu
      | some d =>
          simp only [combineOutcomes]
          split
          · exact (lookup_vocabulary_wellFormed hd).withBasis _
          · exact hu
  | some s =>
      have hsw := lookup_vocabulary_wellFormed hs
      cases hd : vocabulary.lookup (token env callDisposition) with
      | none => exact hsw
      | some d =>
          simp only [combineOutcomes]
          split
          · exact hsw
          · split
            · exact hsw
            · exact unknown_wellFormed _

/-- `is_opt_out`: exact match against the operator's codes, in the raw or
the mapped disposition. -/
def isOptOut (env : Env) (callDisposition mappedCallDisposition : Option String)
    (configuredCodes : List String) : Bool :=
  let codes := (configuredCodes.filter fun c => (strip c).toList ≠ []).map
    fun c => token env (some c)
  [callDisposition, mappedCallDisposition].any fun value =>
    match value with
    | none => false
    | some v => v.toList ≠ [] && codes.contains (token env (some v))

/-! ## Trigger failures -/

/-- `DograhErrorCategory` -/
inductive DograhErrorCategory where
  | timeout
  | connectionError
  | authenticationError
  | validationError
  | rateLimited
  | providerUnavailable
  | providerRejected
  | ambiguousRequest
  | unknownProviderError
  deriving DecidableEq, Repr

structure DograhApiError where
  statusCode : Nat
  category : DograhErrorCategory
  retryAfterSeconds : Option Nat := none
  deriving DecidableEq, Repr

/-- `_classify_status_code` -/
def classifyStatusCode (status : Nat) : DograhErrorCategory :=
  if status = 408 then .ambiguousRequest
  else if status = 401 ∨ status = 403 then .authenticationError
  else if status = 429 then .rateLimited
  else if status = 404 then .providerRejected
  else if status = 500 ∨ status = 502 ∨ status = 504 then .ambiguousRequest
  else if status ≥ 500 then .providerUnavailable
  else if 400 ≤ status then .validationError
  else .unknownProviderError

/-- `AMBIGUOUS_CATEGORIES`: the request may have reached the provider. -/
def DograhApiError.isAmbiguous (e : DograhApiError) : Bool :=
  e.category == .ambiguousRequest || e.category == .timeout

inductive TriggerPolicy where
  | ambiguous
  | rateLimited
  | permanent
  | transient
  deriving DecidableEq, Repr

structure TriggerFailure where
  policy : TriggerPolicy
  reasonKey : String
  retryAfterSeconds : Option Nat := none
  deriving DecidableEq, Repr

/-- `classify_trigger_error` -/
def classifyTriggerError (e : DograhApiError) : TriggerFailure :=
  if e.isAmbiguous then ⟨.ambiguous, "provider_error", none⟩
  else
    match e.category with
    | .rateLimited =>
        ⟨.rateLimited, "provider_rate_limited", e.retryAfterSeconds⟩
    | .authenticationError | .providerRejected | .validationError =>
        ⟨.permanent, "provider_configuration_error", none⟩
    | _ => ⟨.transient, "provider_error", none⟩

/-- `provider_configuration_category`: a status that can only mean that
our credential, trigger or quota is at fault. -/
def providerConfigurationCategory (e : DograhApiError) : Option String :=
  if e.statusCode = 401 ∨ e.statusCode = 403 then some "authentication_error"
  else if e.statusCode = 404 then some "provider_rejected"
  else if e.statusCode = 402 then some "quota_exhausted"
  else none

/-- An ambiguous failure is one the request may have survived, and no
other policy is. -/
theorem classifyTriggerError_ambiguous_iff {e : DograhApiError} :
    (classifyTriggerError e).policy = .ambiguous ↔ e.isAmbiguous = true := by
  unfold classifyTriggerError
  split
  · simp [*]
  · cases e.category <;> simp_all

end CallingAgent
