import CallingAgent.Model.Settings

/-!
# Phone numbers — the one place a number is parsed

`normalizePhone` refuses what the phone-number library would silently
reinterpret (extensions, vanity letters), lets the library parse the rest,
and accepts only a valid number with a region of its own. The result is
the E.164 text under which a number is stored, compared and suppressed.
-/

namespace CallingAgent

open Lib

/-- The reason codes an `InvalidPhoneError` carries. -/
inductive InvalidPhoneCode where
  | empty
  | invalidNumber
  | tooLong
  | regionNotAllowed
  deriving DecidableEq, Repr

structure NormalizedPhone where
  e164 : String
  region : String

/-- `_MAX_E164_DIGITS` -/
def maxE164Digits : Nat := 15

/-- `_MAX_RAW_LENGTH` -/
def maxRawLength : Nat := 64

def isAsciiDigit (c : Char) : Bool := '0' ≤ c && c ≤ '9'

/-- The class `[0-9\s().\-]`. -/
def allowedChar (c : Char) : Bool :=
  isAsciiDigit c || isSpace c || c == '(' || c == ')' || c == '.' || c == '-'

/-- `_ALLOWED_CHARS`: `^\+?[0-9\s().\-]+$`. -/
def allowedChars : List Char → Bool
  | '+' :: cs => !cs.isEmpty && cs.all allowedChar
  | cs => !cs.isEmpty && cs.all allowedChar

section

variable (env : Env)

/-- `region in {r.upper() for r in allowed_regions}`, when given. -/
def regionAllowed (allowedRegions : Option (List String))
    (region : String) : Bool :=
  match allowedRegions with
  | none => true
  | some rs => (rs.map env.unicode.upper).contains region

/-- What is left of `normalize_phone` once the library has parsed. -/
def acceptParsed (p : env.phone.PhoneNumber)
    (allowedRegions : Option (List String)) :
    Except InvalidPhoneCode NormalizedPhone :=
  let e164 := env.phone.formatE164 p
  if e164.length - 1 > maxE164Digits then .error .tooLong
  else if !env.phone.isValidNumber p then .error .invalidNumber
  else
    match env.phone.regionCodeForNumber p with
    | none => .error .invalidNumber
    | some region =>
        if regionAllowed env allowedRegions region then .ok ⟨e164, region⟩
        else .error .regionNotAllowed

/-- `normalize_phone` -/
def normalizePhone (raw : String) (defaultRegion : String)
    (allowedRegions : Option (List String) := none) :
    Except InvalidPhoneCode NormalizedPhone :=
  let stripped := strip raw
  if stripped.toList = [] then .error .empty
  else if stripped.length > maxRawLength then .error .tooLong
  else
    let text := env.unicode.nfkc stripped
    if !allowedChars text.toList || text.toList.tail.contains '+' then
      .error .invalidNumber
    else if text.toList.countP isAsciiDigit > maxE164Digits + 2 then
      .error .tooLong
    else
      match env.phone.parse text (some defaultRegion) with
      | .error .tooLong => .error .tooLong
      | .error .other => .error .invalidNumber
      | .ok p => acceptParsed env p allowedRegions

/-- `region_of_e164` -/
def regionOfE164 (e164 : String) : Option String :=
  match env.phone.parse e164 none with
  | .error _ => none
  | .ok p =>
      if env.phone.isValidNumber p then env.phone.regionCodeForNumber p
      else none

/-- `is_dialable_region` -/
def isDialableRegion (e164 : String) (allowedRegions : List String) : Bool :=
  match regionOfE164 env e164 with
  | none => false
  | some region => regionAllowed env (some allowedRegions) region

/-- `canonical_number`: the key under which a number is suppressed. A text
that does not parse is used as it is. -/
def canonicalNumber (number : String) : String :=
  match normalizePhone env number env.settings.defaultRegion with
  | .ok n => n.e164
  | .error _ => number

end

/-! ## Canonical numbers are canonical -/

/-- What is relied on of the phone-number library and of NFKC: an E.164
text is `+` and digits and reads back as the same number in any default
region, and NFKC leaves ASCII text alone. -/
structure PhoneLaws (env : Env) : Prop where
  e164_shape : ∀ p, env.phone.isValidNumber p = true →
    ∃ ds, ds ≠ [] ∧ (∀ c ∈ ds, isAsciiDigit c = true) ∧
      env.phone.formatE164 p = String.ofList ('+' :: ds)
  e164_parse : ∀ p region, env.phone.isValidNumber p = true →
    env.phone.parse (env.phone.formatE164 p) region = .ok p
  nfkc_ascii : ∀ s : String, (∀ c ∈ s.toList, c.toNat < 128) →
    env.unicode.nfkc s = s

theorem isAsciiDigit_bounds {c : Char} (h : isAsciiDigit c = true) :
    48 ≤ c.toNat ∧ c.toNat ≤ 57 := by
  simp only [isAsciiDigit, Bool.and_eq_true, decide_eq_true_eq] at h
  exact h

theorem isAsciiDigit_not_space {c : Char} (h : isAsciiDigit c = true) :
    isSpace c = false := by
  have hb := isAsciiDigit_bounds h
  simp only [isSpace]
  grind

theorem acceptParsed_ok {env : Env} {p : env.phone.PhoneNumber}
    {rs : Option (List String)} {n : NormalizedPhone}
    (h : acceptParsed env p rs = .ok n) :
    n.e164 = env.phone.formatE164 p ∧
    (env.phone.formatE164 p).length - 1 ≤ maxE164Digits ∧
    env.phone.isValidNumber p = true ∧
    env.phone.regionCodeForNumber p = some n.region := by
  unfold acceptParsed at h
  simp only [gt_iff_lt, Bool.not_eq_true'] at h
  split at h
  · cases h
  · split at h
    · cases h
    · next hlen hvalid =>
      split at h
      · cases h
      · next region hreg =>
        split at h
        · cases h
          exact ⟨rfl, by omega, by simpa using hvalid, hreg⟩
        · cases h

/-- A number that normalizes is one the library parsed and accepted. -/
theorem normalizePhone_ok {env : Env} {raw region : String}
    {rs : Option (List String)} {n : NormalizedPhone}
    (h : normalizePhone env raw region rs = .ok n) :
    ∃ p, acceptParsed env p rs = .ok n := by
  unfold normalizePhone at h
  simp only [gt_iff_lt, Bool.or_eq_true, Bool.not_eq_true'] at h
  repeat' split at h
  all_goals first | cases h | exact ⟨_, h⟩

/-- **Normalization is idempotent**: an accepted number's E.164 text is
accepted again, as itself. -/
theorem normalizePhone_e164 {env : Env} (laws : PhoneLaws env)
    {raw r r' : String} {n : NormalizedPhone}
    (h : normalizePhone env raw r none = .ok n) :
    normalizePhone env n.e164 r' none = .ok n := by
  obtain ⟨p, hp⟩ := normalizePhone_ok h
  obtain ⟨he, hlen, hvalid, hreg⟩ := acceptParsed_ok hp
  obtain ⟨ds, hne, hdig, hfmt⟩ := laws.e164_shape p hvalid
  have hlist : n.e164.toList = '+' :: ds := by rw [he, hfmt]; simp
  have hlenE : n.e164.length = ds.length + 1 := by
    rw [← String.length_toList, hlist]; rfl
  have hds : ds.length ≤ maxE164Digits := by
    rw [← he, hlenE] at hlen; omega
  have hstrip : strip n.e164 = n.e164 := by
    apply strip_of_none
    rw [hlist]
    intro c hc
    rcases List.mem_cons.mp hc with rfl | hc
    · decide
    · exact isAsciiDigit_not_space (hdig c hc)
  have hnfkc : env.unicode.nfkc n.e164 = n.e164 := by
    apply laws.nfkc_ascii
    rw [hlist]
    intro c hc
    rcases List.mem_cons.mp hc with rfl | hc
    · decide
    · have := isAsciiDigit_bounds (hdig c hc); omega
  have hallowed : allowedChars ('+' :: ds) = true := by
    simp only [allowedChars, Bool.and_eq_true, Bool.not_eq_true',
      List.isEmpty_eq_false_iff, List.all_eq_true]
    exact ⟨hne, fun c hc => by simp [allowedChar, hdig c hc]⟩
  have hplus : ds.contains '+' = false := by
    rw [← Bool.not_eq_true, List.contains_iff_mem]
    intro hm
    exact absurd (hdig _ hm) (by decide)
  have hcount : ('+' :: ds).countP isAsciiDigit ≤ maxE164Digits + 2 := by
    have := List.countP_le_length (p := isAsciiDigit) (l := '+' :: ds)
    rw [List.length_cons] at this
    omega
  have hraw : ¬ n.e164.length > maxRawLength := by
    rw [hlenE]; unfold maxRawLength maxE164Digits at *; omega
  have hparse : env.phone.parse n.e164 (some r') = .ok p := by
    rw [he]; exact laws.e164_parse p _ hvalid
  unfold normalizePhone
  simp only [hstrip, hnfkc, hlist, hraw, hallowed, List.tail_cons, hplus,
    hparse, reduceCtorEq, if_false, Bool.not_true, Bool.false_eq_true,
    Bool.or_self, Nat.not_lt.mpr hcount]
  exact hp

/-- **`canonical_number` is idempotent**, so a stored key is found again
under itself. -/
theorem canonicalNumber_idem {env : Env} (laws : PhoneLaws env) (n : String) :
    canonicalNumber env (canonicalNumber env n) = canonicalNumber env n := by
  cases h : normalizePhone env n env.settings.defaultRegion with
  | error e =>
      have hc : canonicalNumber env n = n := by simp [canonicalNumber, h]
      rw [hc, hc]
  | ok p =>
      have hc : canonicalNumber env n = p.e164 := by simp [canonicalNumber, h]
      rw [hc]
      simp [canonicalNumber, normalizePhone_e164 laws h]

/-! ## A concrete environment

Numbers written in E.164 form with the Indian country code, ASCII text and
the campaign default zone: enough for concrete runs of the model, on which
it answers as the libraries do. -/

/-- Lower-case letters of the ASCII range. -/
def asciiLower (s : String) : String :=
  String.ofList (s.toList.map Char.toLower)

def asciiUpper (s : String) : String :=
  String.ofList (s.toList.map Char.toUpper)

instance (priority := 10000) (ds : List Char) :
    Decidable (ds ≠ [] ∧ ∀ c ∈ ds, isAsciiDigit c = true) :=
  decidable_of_iff ((!ds.isEmpty && ds.all isAsciiDigit) = true) (by simp)

/-- The numbers `+` and digits. -/
def e164Numbers : PhoneNumbers where
  PhoneNumber := { ds : List Char // ds ≠ [] ∧ ∀ c ∈ ds, isAsciiDigit c = true }
  parse text _ :=
    match text.toList with
    | '+' :: ds =>
        if h : ds ≠ [] ∧ ∀ c ∈ ds, isAsciiDigit c = true then .ok ⟨ds, h⟩
        else .error .other
    | _ => .error .other
  formatE164 p := String.ofList ('+' :: p.1)
  isValidNumber p := p.1.length == 12
  regionCodeForNumber p :=
    if ['9', '1'].isPrefixOf p.1 then some "IN" else none

/-- `Asia/Kolkata`: UTC+05:30 all year. -/
def kolkata : Zone where
  toLocal t := t + 19800 * second
  toUtc l := l - 19800 * second

/-- The value of a hexadecimal digit. -/
def hexDigit? (c : Char) : Option Nat :=
  let n := c.toLower.toNat
  if 48 ≤ n ∧ n ≤ 57 then some (n - 48)
  else if 97 ≤ n ∧ n ≤ 102 then some (n - 87)
  else none

def hexValue (cs : List Char) : Option Nat :=
  cs.foldl (fun acc c => acc.bind fun n => (hexDigit? c).map (16 * n + ·))
    (some 0)

/-- The last `n` hexadecimal digits of a number. -/
def hexDigits : Nat → Nat → List Char
  | 0, _ => []
  | n + 1, k => hexDigits n (k / 16) ++ [Nat.digitChar (k % 16)]

/-- Identifiers in their canonical form, 8-4-4-4-12. -/
def canonicalUuid : UuidModule where
  parse text :=
    let cs := text.toList.filter (· ≠ '-')
    if cs.length = 32 then hexValue cs else none
  text k :=
    let cs := hexDigits 32 k
    String.ofList (cs.take 8 ++ '-' :: (cs.drop 8).take 4
      ++ '-' :: (cs.drop 12).take 4 ++ '-' :: (cs.drop 16).take 4
      ++ '-' :: cs.drop 20)

def plainEnv (settings : Settings) : Env where
  settings := settings
  unicode := ⟨asciiLower, asciiUpper, id⟩
  phone := e164Numbers
  zoneInfo name := if name = "Asia/Kolkata" then some kolkata else none
  uuid := canonicalUuid

theorem plainEnv_unicode (s : Settings) : UnicodeLaws (plainEnv s) where
  lower_ascii _ _ := rfl

theorem plainEnv_laws (s : Settings) : PhoneLaws (plainEnv s) where
  e164_shape p _ := ⟨p.1, p.2.1, p.2.2, rfl⟩
  e164_parse p _ _ := by
    simp only [plainEnv, e164Numbers, String.toList_ofList]
    rw [dif_pos p.2]
    rfl
  nfkc_ascii _ _ := rfl

end CallingAgent
