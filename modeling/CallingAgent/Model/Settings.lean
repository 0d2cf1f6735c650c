import CallingAgent.Lib.Text
import CallingAgent.Model.Enums

/-!
# Settings and environment — what the services are configured with

`Settings` holds the configuration values the modelled services read, with
the defaults of the source. `Env` adds the code the repository calls and
does not contain: the Unicode tables, the phone-number library, the
time-zone database and the texts of identifiers.
-/

namespace CallingAgent

/-- An instant, in microseconds since the epoch (UTC). -/
abbrev Instant := Int

/-- A wall-clock time, in microseconds since midnight. -/
abbrev TimeOfDay := Nat

/-- Microseconds in a second. -/
def second : Int := 1000000

/-- A day, in microseconds. -/
def dayMicros : Nat := 86400 * 1000000

/-- `time(h, m)`. -/
def clock (h m : Nat) : TimeOfDay := (h * 3600 + m * 60) * 1000000

structure Settings where
  callingEngine : CallingEngine := .native
  jobDeadlineSeconds : Nat := 25
  retryRedispatchSeconds : Nat := 900
  sweeperStuckAfterSeconds : Nat := 3600
  dograhConnectTimeout : Int := 5 * second
  dograhReadTimeout : Int := 15 * second
  dograhOptOutDispositions : List String := ["do_not_call"]
  dograhRetryAfterMaxSeconds : Nat := 3600
  dograhProviderErrorMaxRetries : Nat := 2
  dograhReconcileMaxDeferrals : Nat := 5
  outboundKillSwitch : Bool := false
  providerHaltSystemicThreshold : Nat := 5
  defaultTimezone : String := "Asia/Kolkata"
  defaultRegion : String := "IN"
  allowedDialRegions : List String := ["IN"]
  hardCallingWindowStart : TimeOfDay := clock 9 0
  hardCallingWindowEnd : TimeOfDay := clock 21 0
  defaultCallingWindowStart : TimeOfDay := clock 9 0
  defaultCallingWindowEnd : TimeOfDay := clock 21 0
  defaultMaxRetries : Nat := 2
  defaultRetrySpacingSeconds : List Nat := [3600, 14400]
  dailyDialCap : Nat := 1000
  dailyEstimatedSpendCap : Option Rat := none
  estimatedCostPerMinute : Option Rat := none
  estimatedMinutesPerUnknownAttempt : Rat := 1
  budgetTimezone : String := "Asia/Kolkata"
  queueMaxBacklog : Nat := 200000
  queueMaxDeliveries : Nat := 10

/-- Python's string operations that need the Unicode tables. -/
structure Unicode where
  /-- `str.lower` -/
  lower : String → String
  /-- `str.upper` -/
  upper : String → String
  /-- `unicodedata.normalize("NFKC", ·)` -/
  nfkc : String → String

/-- `NumberParseException.error_type`, as far as the code tells them
apart. -/
inductive NumberParseError where
  | tooLong
  | other
  deriving DecidableEq, Repr

/-- The `phonenumbers` library. -/
structure PhoneNumbers where
  /-- `phonenumbers.PhoneNumber` -/
  PhoneNumber : Type
  parse : String → Option String → Except NumberParseError PhoneNumber
  /-- `format_number(·, PhoneNumberFormat.E164)` -/
  formatE164 : PhoneNumber → String
  isValidNumber : PhoneNumber → Bool
  regionCodeForNumber : PhoneNumber → Option String

/-- A loaded time zone (`zoneinfo.ZoneInfo`). -/
structure Zone where
  /-- The local wall clock at an instant, in microseconds since the local
  epoch. -/
  toLocal : Instant → Int
  /-- The instant of a local wall-clock reading (`fold=0`). -/
  toUtc : Int → Instant

/-- The `uuid` module: identifiers and their texts. -/
structure UuidModule where
  /-- `uuid.UUID(text)`; `none` when it raises `ValueError`. -/
  parse : String → Option Nat
  /-- `str(uuid)` -/
  text : Nat → String

structure Env where
  settings : Settings
  unicode : Unicode
  phone : PhoneNumbers
  /-- `ZoneInfo(name)`; `none` when the name cannot be loaded. -/
  zoneInfo : String → Option Zone
  uuid : UuidModule

/-- What is relied on of `str.lower`: it maps ASCII text letter by
letter. -/
structure UnicodeLaws (env : Env) : Prop where
  lower_ascii : ∀ s : String, (∀ c ∈ s.toList, c.toNat < 128) →
    env.unicode.lower s = String.ofList (s.toList.map Char.toLower)

end CallingAgent
