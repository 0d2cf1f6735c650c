import CallingAgent.Model.Phone

/-!
# Errors — the domain exceptions and their messages
-/

namespace CallingAgent

inductive AppError where
  | notFound (message : String)
  | conflict (message : String)
  | validation (message : String)
  | serviceUnavailable (message : String)
  /-- A failed `assert`. -/
  | assertion
  deriving DecidableEq, Repr

def InvalidPhoneCode.code : InvalidPhoneCode → String
  | .empty => "empty"
  | .invalidNumber => "invalid_number"
  | .tooLong => "too_long"
  | .regionNotAllowed => "region_not_allowed"

/-- `Contact … not found` -/
def contactNotFound (c : Nat) : AppError :=
  .notFound ("Contact " ++ toString c ++ " not found")

/-- `Campaign … not found` -/
def campaignNotFound (c : Nat) : AppError :=
  .notFound ("Campaign " ++ toString c ++ " not found")

/-- `Invalid phone number (code)`: the reason code only, never the
number. -/
def invalidPhone (code : InvalidPhoneCode) : AppError :=
  .validation ("Invalid phone number (" ++ code.code ++ ")")

end CallingAgent
