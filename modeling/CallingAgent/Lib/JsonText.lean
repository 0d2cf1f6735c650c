import Mathlib.Data.List.Basic
import Mathlib.Data.List.TakeWhile

/-!
# JSON texts — written with escapes, read in one pass

A string is written in printable ASCII: everything else becomes an escape,
above the first plane a pair of them. The reader goes over the text once,
with a stack of the arrays and objects that are open; a pair of escapes is
joined again, a surrogate that stands alone is kept, and of two fields with
one name the later value stays. A number is kept as it was written.

What is written is read back, as long as no two code points of a string
look like a pair.
-/

namespace CallingAgent.Lib

/-- A value. A string is a list of code points, surrogates among them. -/
inductive JsonValue where
  | null
  | bool (b : Bool)
  | number (literal : List Char)
  | string (s : List Nat)
  | array (items : List JsonValue)
  | object (fields : List (List Nat × JsonValue))

namespace JsonText

/-! ## Writing -/

/-- `\uXXXX` -/
def hexEscape (n : Nat) : List Char :=
  ['\\', 'u', Nat.digitChar (n / 4096 % 16), Nat.digitChar (n / 256 % 16),
    Nat.digitChar (n / 16 % 16), Nat.digitChar (n % 16)]

/-- One code point of a string. -/
def escape (n : Nat) : List Char :=
  if n = 34 then ['\\', '"']
  else if n = 92 then ['\\', '\\']
  else if n = 10 then ['\\', 'n']
  else if n = 13 then ['\\', 'r']
  else if n = 9 then ['\\', 't']
  else if n = 12 then ['\\', 'f']
  else if n = 8 then ['\\', 'b']
  else if 32 ≤ n ∧ n ≤ 126 then [Char.ofNat n]
  else if n < 0x10000 then hexEscape n
  else hexEscape (0xD800 + (n - 0x10000) / 1024)
    ++ hexEscape (0xDC00 + (n - 0x10000) % 1024)

/-- `"…"` -/
def quote (s : List Nat) : List Char :=
  '"' :: (s.flatMap escape ++ ['"'])

section

variable (gap : List Char)

mutual

/-- The text of a value, with a gap after each separator. -/
def write : JsonValue → List Char
  | .null => ['n', 'u', 'l', 'l']
  | .bool true => ['t', 'r', 'u', 'e']
  | .bool false => ['f', 'a', 'l', 's', 'e']
  | .number literal => literal
  | .string s => quote s
  | .array [] => ['[', ']']
  | .array (v :: items) => '[' :: (write v ++ (writeItems items ++ [']']))
  | .object [] => ['{', '}']
  | .object ((key, v) :: fields) =>
      '{' :: (quote key ++ ':' :: (gap ++ (write v
        ++ (writeFields fields ++ ['}']))))

/-- Each item with the separator before it. -/
def writeItems : List JsonValue → List Char
  | [] => []
  | v :: items => ',' :: (gap ++ (write v ++ writeItems items))

def writeFields : List (List Nat × JsonValue) → List Char
  | [] => []
  | (key, v) :: fields =>
      ',' :: (gap ++ (quote key ++ ':' :: (gap ++ (write v
        ++ writeFields fields))))

end

end

/-! ## Tokens without quotes -/

/-- A character of a number or of a word. -/
def isBare (c : Char) : Bool :=
  c.isDigit || (65 ≤ c.toNat && c.toNat ≤ 90) || (97 ≤ c.toNat && c.toNat ≤ 122)
    || c == '-' || c == '+' || c == '.'

/-- White space of the format. -/
def isBlank (c : Char) : Bool :=
  c == ' ' || c == '\t' || c == '\n' || c == '\r'

/-- `\d+`, to the end. -/
def onlyDigits (cs : List Char) : Bool := !cs.isEmpty && cs.all Char.isDigit

/-- `[-+]?\d+`, to the end. -/
def exponentDigits : List Char → Bool
  | '-' :: cs | '+' :: cs => onlyDigits cs
  | cs => onlyDigits cs

/-- `([eE][-+]?\d+)?`, to the end. -/
def isExponent : List Char → Bool
  | [] => true
  | c :: cs => (c == 'e' || c == 'E') && exponentDigits cs

/-- `(\.\d+)?([eE][-+]?\d+)?`, to the end. -/
def isFraction : List Char → Bool
  | '.' :: cs =>
      onlyDigits (cs.takeWhile Char.isDigit) && isExponent (cs.dropWhile Char.isDigit)
  | cs => isExponent cs

/-- `0|[1-9]\d*`, and what may follow an integer. -/
def isUnsigned : List Char → Bool
  | '0' :: cs => isFraction cs
  | c :: cs => c.isDigit && isFraction (cs.dropWhile Char.isDigit)
  | [] => false

def isNumber : List Char → Bool
  | '-' :: cs => isUnsigned cs
  | cs => isUnsigned cs

/-- An integer of more than 4300 digits. -/
def tooManyDigits (token : List Char) : Bool :=
  (token.all fun c => c.isDigit || c == '-')
    && decide (4300 < (token.filter Char.isDigit).length)

/-- The value of a token without quotes. -/
def bareValue (token : List Char) : Option JsonValue :=
  if token = ['n', 'u', 'l', 'l'] then some .null
  else if token = ['t', 'r', 'u', 'e'] then some (.bool true)
  else if token = ['f', 'a', 'l', 's', 'e'] then some (.bool false)
  else if token = "NaN".toList ∨ token = "Infinity".toList
      ∨ token = "-Infinity".toList then some (.number token)
  else if isNumber token && !tooManyDigits token then some (.number token)
  else none

/-! ## Reading -/

inductive ReadError where
  /-- not a text of the format -/
  | malformed
  /-- nested too deeply -/
  | depth
  deriving DecidableEq

/-- An array or an object that is open. -/
inductive Frame where
  | array (items : List JsonValue)
  | object (fields : List (List Nat × JsonValue))
  /-- an object whose next value belongs to the key -/
  | pair (fields : List (List Nat × JsonValue)) (key : List Nat)

/-- Where the reader is within an escape. -/
inductive EscapeState where
  | plain
  | backslash
  /-- so many digits are missing of the number read so far -/
  | hex (missing n : Nat)

/-- What the reader expects. -/
inductive Mode where
  | value
  /-- the first item, or the end of an empty array -/
  | firstItem
  /-- the first key, or the end of an empty object -/
  | firstKey
  | key
  | colon
  /-- a value is complete: a comma, or the end of what is open -/
  | after
  | bare (token : List Char)
  /-- within a string, its code points the last one first -/
  | string (isKey : Bool) (e : EscapeState) (s : List Nat)
  | done (v : JsonValue)

structure Reader where
  mode : Mode
  stack : List Frame

/-- The value of an object's field: a later one replaces an earlier one. -/
def putField (fields : List (List Nat × JsonValue)) (key : List Nat)
    (v : JsonValue) : List (List Nat × JsonValue) :=
  if fields.any fun f => f.1 = key then
    fields.map fun f => if f.1 = key then (key, v) else f
  else fields ++ [(key, v)]

/-- A value is complete. -/
def complete (v : JsonValue) : List Frame → Reader
  | .array items :: stack => ⟨.after, .array (items ++ [v]) :: stack⟩
  | .pair fields key :: stack => ⟨.after, .object (putField fields key v) :: stack⟩
  | stack => ⟨.done v, stack⟩

def hexValue (c : Char) : Option Nat :=
  if c.isDigit then some (c.toNat - 48)
  else if 97 ≤ c.toNat ∧ c.toNat ≤ 102 then some (c.toNat - 87)
  else if 65 ≤ c.toNat ∧ c.toNat ≤ 70 then some (c.toNat - 55)
  else none

def isHigh (n : Nat) : Bool := 0xD800 ≤ n && n ≤ 0xDBFF
def isLow (n : Nat) : Bool := 0xDC00 ≤ n && n ≤ 0xDFFF

/-- An escaped code point: the second of a pair is joined to the first. -/
def pushEscaped (n : Nat) : List Nat → List Nat
  | high :: s =>
      if isLow n && isHigh high then
        (0x10000 + (high - 0xD800) * 1024 + (n - 0xDC00)) :: s
      else n :: high :: s
  | [] => [n]

/-- What a single letter after a backslash stands for. -/
def letterEscape (c : Char) : Option Nat :=
  if c = '"' then some 34
  else if c = '\\' then some 92
  else if c = '/' then some 47
  else if c = 'b' then some 8
  else if c = 'f' then some 12
  else if c = 'n' then some 10
  else if c = 'r' then some 13
  else if c = 't' then some 9
  else none

/-- One character within a string; `none` where the string is closed. -/
def stepString (e : EscapeState) (s : List Nat) (c : Char) :
    Except ReadError (Option (EscapeState × List Nat)) :=
  match e with
  | .plain =>
      if c = '"' then .ok none
      else if c = '\\' then .ok (some (.backslash, s))
      else if c.toNat < 32 then .error .malformed
      else .ok (some (.plain, c.toNat :: s))
  | .backslash =>
      if c = 'u' then .ok (some (.hex 4 0, s))
      else match letterEscape c with
        | some n => .ok (some (.plain, n :: s))
        | none => .error .malformed
  | .hex missing n =>
      match hexValue c with
      | none => .error .malformed
      | some d =>
          if missing ≤ 1 then .ok (some (.plain, pushEscaped (16 * n + d) s))
          else .ok (some (.hex (missing - 1) (16 * n + d), s))

section

variable (limit : Nat)

/-- The start of a value. -/
def openValue (stack : List Frame) (c : Char) : Except ReadError Reader :=
  if c = '"' then .ok ⟨.string false .plain [], stack⟩
  else if c = '[' then
    if stack.length < limit then .ok ⟨.firstItem, .array [] :: stack⟩
    else .error .depth
  else if c = '{' then
    if stack.length < limit then .ok ⟨.firstKey, .object [] :: stack⟩
    else .error .depth
  else if isBare c then .ok ⟨.bare [c], stack⟩
  else .error .malformed

/-- The end of a string, which is a key or a value. -/
def closeString (isKey : Bool) (s : List Nat) : List Frame → Reader
  | .object fields :: stack =>
      if isKey then ⟨.colon, .pair fields s :: stack⟩
      else complete (.string s) (.object fields :: stack)
  | stack => complete (.string s) stack

/-- One character outside strings and tokens without quotes. -/
def stepToken (stack : List Frame) (c : Char) : Mode → Except ReadError Reader
  | .value => openValue limit stack c
  | .firstItem =>
      if c = ']' then .ok (complete (.array []) stack.tail)
      else openValue limit stack c
  | .firstKey =>
      if c = '}' then .ok (complete (.object []) stack.tail)
      else if c = '"' then .ok ⟨.string true .plain [], stack⟩
      else .error .malformed
  | .key =>
      if c = '"' then .ok ⟨.string true .plain [], stack⟩
      else .error .malformed
  | .colon => if c = ':' then .ok ⟨.value, stack⟩ else .error .malformed
  | .after =>
      match stack with
      | .array items :: rest =>
          if c = ',' then .ok ⟨.value, stack⟩
          else if c = ']' then .ok (complete (.array items) rest)
          else .error .malformed
      | .object fields :: rest =>
          if c = ',' then .ok ⟨.key, stack⟩
          else if c = '}' then .ok (complete (.object fields) rest)
          else .error .malformed
      | _ => .error .malformed
  | _ => .error .malformed

/-- One character outside a token without quotes. -/
def stepPlain (r : Reader) (c : Char) : Except ReadError Reader :=
  match r.mode with
  | .string isKey e s =>
      match stepString e s c with
      | .error err => .error err
      | .ok none => .ok (closeString isKey s.reverse r.stack)
      | .ok (some (e, s)) => .ok ⟨.string isKey e s, r.stack⟩
  | mode => if isBlank c then .ok r else stepToken limit r.stack c mode

/-- The end of a token without quotes, if the reader is in one. -/
def settle (r : Reader) : Except ReadError Reader :=
  match r.mode with
  | .bare token =>
      match bareValue token with
      | some v => .ok (complete v r.stack)
      | none => .error .malformed
  | _ => .ok r

/-- One character. -/
def step (r : Reader) (c : Char) : Except ReadError Reader :=
  match r.mode with
  | .bare token =>
      if isBare c then .ok ⟨.bare (token ++ [c]), r.stack⟩
      else (settle r).bind fun r => stepPlain limit r c
  | _ => stepPlain limit r c

/-- The rest of the text, to its end. -/
def read : Reader → List Char → Except ReadError JsonValue
  | r, [] =>
      (settle r).bind fun r =>
        match r.mode with
        | .done v => .ok v
        | _ => .error .malformed
  | r, c :: cs => (step limit r c).bind fun r => read r cs

/-- The value of a text. At most `limit` arrays and objects may be open at
once. -/
def loads (text : List Char) : Except ReadError JsonValue :=
  read limit ⟨.value, []⟩ text

end

/-! ## What is written is read back -/

/-- No two code points of a string look like a pair of surrogates. -/
def Unpaired : List Nat → Prop
  | m :: n :: s => ¬ (isHigh m = true ∧ isLow n = true) ∧ Unpaired (n :: s)
  | _ => True

/-- A string of the source language that its own text gives back. -/
structure Writable (s : List Nat) : Prop where
  points : ∀ n ∈ s, n < 0x110000
  unpaired : Unpaired s

mutual

/-- The value has a text, and fits where `d` more arrays and objects may be
open. -/
def Fits : Nat → JsonValue → Prop
  | _, .null | _, .bool _ => True
  | _, .number literal =>
      literal ≠ [] ∧ literal.all isBare = true
        ∧ bareValue literal = some (.number literal)
  | _, .string s => Writable s
  | d, .array items => 0 < d ∧ FitsItems (d - 1) items
  | d, .object fields =>
      0 < d ∧ (fields.map (·.1)).Nodup ∧ FitsFields (d - 1) fields

def FitsItems : Nat → List JsonValue → Prop
  | _, [] => True
  | d, v :: items => Fits d v ∧ FitsItems d items

def FitsFields : Nat → List (List Nat × JsonValue) → Prop
  | _, [] => True
  | d, (key, v) :: fields => Writable key ∧ Fits d v ∧ FitsFields d fields

end

/-- The text that follows does not continue a token. -/
def Delimited (cs : List Char) : Prop := ∀ c ∈ cs.head?, isBare c = false

section

variable {limit : Nat} {r r' : Reader} {c : Char} {cs : List Char}
  {stack : List Frame}

theorem read_cons (h : step limit r c = .ok r') :
    read limit r (c :: cs) = read limit r' cs := by
  rw [read, h]
  rfl

theorem step_of_not_bare (h : ∀ t, r.mode ≠ .bare t) :
    step limit r c = stepPlain limit r c := by
  unfold step
  split
  · next t ht => exact absurd ht (h t)
  · rfl

theorem complete_not_bare (v : JsonValue) (stack : List Frame)
    (t : List Char) : (complete v stack).mode ≠ .bare t := by
  unfold complete
  split <;> exact fun h => by cases h

/-! ### Tokens without quotes -/

theorem read_bare_append {t w : List Char} (h : w.all isBare = true) :
    read limit ⟨.bare t, stack⟩ (w ++ cs)
      = read limit ⟨.bare (t ++ w), stack⟩ cs := by
  induction w generalizing t with
  | nil => simp
  | cons c w ih =>
      rw [List.all_cons, Bool.and_eq_true] at h
      have hstep : step limit ⟨.bare t, stack⟩ c
          = .ok ⟨.bare (t ++ [c]), stack⟩ := by
        simp only [step, h.1, if_true]
      rw [List.cons_append, read_cons hstep, ih h.2, List.append_assoc]
      rfl

/-- A token ends where the text goes on otherwise, or ends. -/
theorem read_bare_end {t : List Char} {v : JsonValue}
    (hv : bareValue t = some v) (hc : Delimited cs) :
    read limit ⟨.bare t, stack⟩ cs = read limit (complete v stack) cs := by
  have hsettle : settle ⟨.bare t, stack⟩ = .ok (complete v stack) := by
    simp only [settle, hv]
  have hself : settle (complete v stack) = .ok (complete v stack) := by
    unfold settle
    split
    · next t' ht' => exact absurd ht' (complete_not_bare v stack t')
    · rfl
  cases cs with
  | nil => rw [read, read, hsettle, hself]
  | cons c cs =>
      have hbare : isBare c = false := hc c rfl
      rw [read, read, step_of_not_bare (complete_not_bare v stack)]
      simp only [step, hbare, hsettle]
      rfl

theorem ne_of_isBare (h : isBare c = true) (x : Char)
    (hx : isBare x = false) : c ≠ x :=
  fun heq => by rw [heq, hx] at h; cases h

theorem not_isBlank (h : isBare c = true) : isBlank c = false := by
  simp [isBlank, ne_of_isBare h ' ' rfl, ne_of_isBare h '\t' rfl,
    ne_of_isBare h '\n' rfl, ne_of_isBare h '\r' rfl]

/-- A value may start in this mode. -/
def Mode.Opens (m : Mode) : Prop := m = .value ∨ m = .firstItem

theorem step_open {m : Mode} (hm : m.Opens) (hc : c ≠ ']')
    (hb : isBlank c = false) :
    step limit ⟨m, stack⟩ c = openValue limit stack c := by
  obtain rfl | rfl := hm
  · simp [step, stepPlain, stepToken, hb]
  · simp [step, stepPlain, stepToken, hb, hc]

theorem read_bare {m : Mode} {w : List Char} {v : JsonValue} (hm : m.Opens)
    (hne : w ≠ []) (hw : w.all isBare = true) (hv : bareValue w = some v)
    (hc : Delimited cs) :
    read limit ⟨m, stack⟩ (w ++ cs) = read limit (complete v stack) cs := by
  cases w with
  | nil => exact absurd rfl hne
  | cons c w =>
      rw [List.all_cons, Bool.and_eq_true] at hw
      have hstep : step limit ⟨m, stack⟩ c = .ok ⟨.bare [c], stack⟩ := by
        rw [step_open hm (ne_of_isBare hw.1 ']' rfl) (not_isBlank hw.1)]
        simp [openValue, hw.1, ne_of_isBare hw.1 '"' rfl,
          ne_of_isBare hw.1 '[' rfl, ne_of_isBare hw.1 '\x7b' rfl]
      rw [List.cons_append, read_cons hstep, read_bare_append hw.2]
      exact read_bare_end hv hc

/-! ### Strings -/

theorem hexValue_digitChar {d : Nat} (h : d < 16) :
    hexValue (Nat.digitChar d) = some d := by
  revert d
  decide

/-- Three digits of an escape and the fourth. -/
theorem hex_digits {n : Nat} (hn : n < 0x10000) :
    16 * (16 * (16 * (n / 4096 % 16) + n / 256 % 16) + n / 16 % 16) + n % 16
      = n := by
  omega

theorem step_string {k : Bool} {e e' : EscapeState} {s s' : List Nat}
    (h : stepString e s c = .ok (some (e', s'))) :
    step limit ⟨.string k e s, stack⟩ c = .ok ⟨.string k e' s', stack⟩ := by
  rw [step_of_not_bare (fun t h => by cases h)]
  simp only [stepPlain, h]

theorem step_hex {d missing n : Nat} {s : List Nat} (h : d < 16)
    (hm : 1 < missing) :
    stepString (.hex missing n) s (Nat.digitChar d)
      = .ok (some (.hex (missing - 1) (16 * n + d), s)) := by
  simp [stepString, hexValue_digitChar h, Nat.not_le.mpr hm]

theorem step_lastHex {d n : Nat} {s : List Nat} (h : d < 16) :
    stepString (.hex 1 n) s (Nat.digitChar d)
      = .ok (some (.plain, pushEscaped (16 * n + d) s)) := by
  simp [stepString, hexValue_digitChar h]

theorem read_hexEscape {k : Bool} {s : List Nat} {n : Nat} (hn : n < 0x10000) :
    read limit ⟨.string k .plain s, stack⟩ (hexEscape n ++ cs)
      = read limit ⟨.string k .plain (pushEscaped n s), stack⟩ cs := by
  have hlt (m : Nat) : m % 16 < 16 := Nat.mod_lt _ (by decide)
  have hslash : stepString .plain s '\\' = .ok (some (.backslash, s)) := rfl
  have hu : stepString .backslash s 'u' = .ok (some (.hex 4 0, s)) := rfl
  simp only [hexEscape, List.cons_append, List.nil_append]
  rw [read_cons (step_string hslash), read_cons (step_string hu),
    read_cons (step_string (step_hex (hlt _) (by decide))),
    read_cons (step_string (step_hex (hlt _) (by decide))),
    read_cons (step_string (step_hex (hlt _) (by decide))),
    read_cons (step_string (step_lastHex (hlt _)))]
  simp only [Nat.mul_zero, Nat.zero_add, hex_digits hn]

/-- A code point is pushed unless it and the one before look like a pair. -/
theorem pushEscaped_of_unpaired {n : Nat} {s : List Nat}
    (h : ∀ m ∈ s.head?, ¬ (isHigh m = true ∧ isLow n = true)) :
    pushEscaped n s = n :: s := by
  cases s with
  | nil => rfl
  | cons m s =>
      have hm := h m rfl
      rw [pushEscaped, if_neg]
      rw [Bool.and_eq_true]
      exact fun hp => hm ⟨hp.2, hp.1⟩

/-- The two escapes above the first plane are joined. -/
theorem pushEscaped_pair {n : Nat} {s : List Nat} (hlow : 0x10000 ≤ n)
    (hn : n < 0x110000) :
    pushEscaped (0xDC00 + (n - 0x10000) % 1024)
      (pushEscaped (0xD800 + (n - 0x10000) / 1024) s) = n :: s := by
  have hd : (n - 0x10000) / 1024 < 1024 := by omega
  have hm : (n - 0x10000) % 1024 < 1024 := Nat.mod_lt _ (by decide)
  have hfirst : isLow (0xD800 + (n - 0x10000) / 1024) = false := by
    simp only [isLow, Bool.and_eq_false_iff, decide_eq_false_iff_not]
    omega
  have hsecond : isLow (0xDC00 + (n - 0x10000) % 1024) = true := by
    simp only [isLow, Bool.and_eq_true, decide_eq_true_eq]
    omega
  have hhigh : isHigh (0xD800 + (n - 0x10000) / 1024) = true := by
    simp only [isHigh, Bool.and_eq_true, decide_eq_true_eq]
    omega
  have hpushed : pushEscaped (0xD800 + (n - 0x10000) / 1024) s
      = (0xD800 + (n - 0x10000) / 1024) :: s :=
    pushEscaped_of_unpaired fun m _ hp => by rw [hfirst] at hp; cases hp.2
  rw [hpushed]
  simp only [pushEscaped, hsecond, hhigh, Bool.and_self, if_true,
    List.cons.injEq, and_true]
  omega

/-- A code point of a string is read back. -/
theorem read_escape {k : Bool} {s : List Nat} {n : Nat} (hn : n < 0x110000)
    (h : ∀ m ∈ s.head?, ¬ (isHigh m = true ∧ isLow n = true)) :
    read limit ⟨.string k .plain s, stack⟩ (escape n ++ cs)
      = read limit ⟨.string k .plain (n :: s), stack⟩ cs := by
  have hletter {x : Char} {m : Nat} (hx : letterEscape x = some m) (hu : x ≠ 'u') :
      read limit ⟨.string k .plain s, stack⟩ (['\\', x] ++ cs)
        = read limit ⟨.string k .plain (m :: s), stack⟩ cs := by
    have hslash : stepString .plain s '\\' = .ok (some (.backslash, s)) := rfl
    have hx : stepString .backslash s x = .ok (some (.plain, m :: s)) := by
      simp [stepString, hu, hx]
    rw [List.cons_append, List.cons_append, read_cons (step_string hslash),
      read_cons (step_string hx)]
    rfl
  unfold escape
  split
  · next h' => subst h'; exact hletter rfl (by decide)
  split
  · next h' => subst h'; exact hletter rfl (by decide)
  split
  · next h' => subst h'; exact hletter rfl (by decide)
  split
  · next h' => subst h'; exact hletter rfl (by decide)
  split
  · next h' => subst h'; exact hletter rfl (by decide)
  split
  · next h' => subst h'; exact hletter rfl (by decide)
  split
  · next h' => subst h'; exact hletter rfl (by decide)
  split
  · next hquote hback _ _ _ _ _ hprint =>
    have hto : (Char.ofNat n).toNat = n := by
      have hvalid : n.isValidChar := .inl (by omega)
      rw [Char.ofNat, dif_pos hvalid]
      rfl
    have hne (x : Char) (hx : n ≠ x.toNat) : Char.ofNat n ≠ x :=
      fun heq => hx (by rw [← heq, hto])
    have hstep : stepString .plain s (Char.ofNat n)
        = .ok (some (.plain, n :: s)) := by
      simp only [stepString, hto]
      rw [if_neg (hne '"' hquote), if_neg (hne '\\' hback), if_neg (by omega)]
    rw [List.cons_append, read_cons (step_string hstep)]
    rfl
  split
  · next hplane =>
    rw [read_hexEscape hplane, pushEscaped_of_unpaired h]
  · next hplane =>
    have hplane := Nat.not_lt.mp hplane
    rw [List.append_assoc, read_hexEscape (by omega), read_hexEscape (by omega),
      pushEscaped_pair hplane hn]

/-- The rest of a string is read up to its end. -/
theorem read_points {k : Bool} {s t : List Nat} (ht : Writable t)
    (h : ∀ m ∈ s.head?, ∀ n ∈ t.head?, ¬ (isHigh m = true ∧ isLow n = true)) :
    read limit ⟨.string k .plain s, stack⟩ (t.flatMap escape ++ cs)
      = read limit ⟨.string k .plain (t.reverse ++ s), stack⟩ cs := by
  induction t generalizing s with
  | nil => rfl
  | cons n t ih =>
      have htail : Writable t := by
        refine ⟨fun m hm => ht.points m (List.mem_cons_of_mem _ hm), ?_⟩
        have hun := ht.unpaired
        cases t with
        | nil => trivial
        | cons m t => exact hun.2
      have hnext : ∀ m ∈ (n :: s).head?, ∀ l ∈ t.head?,
          ¬ (isHigh m = true ∧ isLow l = true) := by
        intro m hm l hl
        cases hm
        have hun := ht.unpaired
        cases t with
        | nil => cases hl
        | cons l' t =>
            cases hl
            exact hun.1
      rw [List.flatMap_cons, List.append_assoc,
        read_escape (ht.points n (List.mem_cons_self ..))
          (fun m hm => h m hm n rfl), ih htail hnext]
      simp

theorem step_quote {k : Bool} {s : List Nat} :
    step limit ⟨.string k .plain s, stack⟩ '"'
      = .ok (closeString k s.reverse stack) := rfl

/-- A string is read up to its end. -/
theorem read_string {k : Bool} {s : List Nat} (hs : Writable s) :
    read limit ⟨.string k .plain [], stack⟩ (s.flatMap escape ++ '"' :: cs)
      = read limit (closeString k s stack) cs := by
  rw [read_points hs (fun m hm => by cases hm), read_cons step_quote,
    List.append_nil, List.reverse_reverse]

theorem read_quote {m : Mode} {s : List Nat} (hm : m.Opens)
    (hs : Writable s) :
    read limit ⟨m, stack⟩ (quote s ++ cs)
      = read limit (complete (.string s) stack) cs := by
  have hstep : step limit ⟨m, stack⟩ '"'
      = .ok ⟨.string false .plain [], stack⟩ := step_open hm (by decide) rfl
  have hclose : closeString false s stack = complete (.string s) stack := by
    unfold closeString
    split <;> rfl
  rw [quote, List.cons_append, List.append_assoc, read_cons hstep, ← hclose]
  exact read_string hs

theorem read_gap {m : Mode} {gap : List Char} (hm : m = .value ∨ m = .key)
    (hgap : gap.all isBlank = true) :
    read limit ⟨m, stack⟩ (gap ++ cs) = read limit ⟨m, stack⟩ cs := by
  induction gap with
  | nil => rfl
  | cons c gap ih =>
      rw [List.all_cons, Bool.and_eq_true] at hgap
      have hstep : step limit ⟨m, stack⟩ c = .ok ⟨m, stack⟩ := by
        obtain rfl | rfl := hm <;> simp [step, stepPlain, hgap.1]
      rw [List.cons_append, read_cons hstep, ih hgap.2]

/-- A key is read, with the colon and the gap after it. -/
theorem read_key {m : Mode} {fields : List (List Nat × JsonValue)}
    {key : List Nat} {gap : List Char} (hm : m = .key ∨ m = .firstKey)
    (hk : Writable key) (hgap : gap.all isBlank = true) :
    read limit ⟨m, .object fields :: stack⟩ (quote key ++ ':' :: (gap ++ cs))
      = read limit ⟨.value, .pair fields key :: stack⟩ cs := by
  have hstep : step limit ⟨m, .object fields :: stack⟩ '"'
      = .ok ⟨.string true .plain [], .object fields :: stack⟩ := by
    obtain rfl | rfl := hm <;> rfl
  have hcolon : step limit ⟨.colon, .pair fields key :: stack⟩ ':'
      = .ok ⟨.value, .pair fields key :: stack⟩ := rfl
  rw [quote, List.cons_append, List.append_assoc, read_cons hstep]
  refine (read_string hk).trans ?_
  rw [closeString, if_pos rfl]
  exact (read_cons hcolon).trans (read_gap (.inl rfl) hgap)

/-! ### Values -/

theorem putField_fresh {fields : List (List Nat × JsonValue)} {key : List Nat}
    {v : JsonValue} (h : key ∉ fields.map (·.1)) :
    putField fields key v = fields ++ [(key, v)] := by
  unfold putField
  rw [if_neg]
  intro hany
  obtain ⟨f, hf, hkey⟩ := List.any_eq_true.mp hany
  exact h (List.mem_map.mpr ⟨f, hf, of_decide_eq_true hkey⟩)

theorem delimited_cons (h : isBare c = false) : Delimited (c :: cs) := by
  intro c' hc'
  cases hc'
  exact h

variable {gap : List Char}

theorem delimited_items {items : List JsonValue} :
    Delimited (writeItems gap items ++ (']' :: cs)) := by
  cases items with
  | nil => exact delimited_cons rfl
  | cons v items => exact delimited_cons rfl

theorem delimited_fields {fields : List (List Nat × JsonValue)} :
    Delimited (writeFields gap fields ++ ('}' :: cs)) := by
  cases fields with
  | nil => exact delimited_cons rfl
  | cons f fields => exact delimited_cons rfl

theorem step_array {m : Mode} (hm : m.Opens) (h : stack.length < limit) :
    step limit ⟨m, stack⟩ '[' = .ok ⟨.firstItem, .array [] :: stack⟩ := by
  rw [step_open hm (by decide) rfl]
  simp [openValue, h]

theorem step_object {m : Mode} (hm : m.Opens) (h : stack.length < limit) :
    step limit ⟨m, stack⟩ '\x7b' = .ok ⟨.firstKey, .object [] :: stack⟩ := by
  rw [step_open hm (by decide) rfl]
  simp [openValue, h]

mutual

/-- The text of a value is read as that value. -/
theorem read_write (hgap : gap.all isBlank = true) :
    ∀ (v : JsonValue) {d : Nat} {m : Mode} {stack : List Frame}
      {cs : List Char}, Fits d v → stack.length + d ≤ limit → m.Opens →
      Delimited cs →
      read limit ⟨m, stack⟩ (write gap v ++ cs)
        = read limit (complete v stack) cs
  | .null, _, _, _, _, _, _, hm, hc => by
      rw [write]
      exact read_bare hm (by simp) (by decide) rfl hc
  | .bool true, _, _, _, _, _, _, hm, hc => by
      rw [write]
      exact read_bare hm (by simp) (by decide) rfl hc
  | .bool false, _, _, _, _, _, _, hm, hc => by
      rw [write]
      exact read_bare hm (by simp) (by decide) rfl hc
  | .number _, _, _, _, _, hv, _, hm, hc => by
      simp only [Fits] at hv
      exact read_bare hm hv.1 hv.2.1 hv.2.2 hc
  | .string _, _, _, _, _, hv, _, hm, _ => read_quote hm hv
  | .array [], _, _, _, _, hv, hd, hm, _ => by
      simp only [Fits] at hv
      rw [write, List.cons_append, read_cons (step_array hm (by omega))]
      exact read_cons rfl
  | .array (v :: items), _, _, stack, cs, hv, hd, hm, _ => by
      simp only [Fits, FitsItems] at hv
      rw [write, List.cons_append, read_cons (step_array hm (by omega))]
      simp only [List.append_assoc, List.cons_append, List.nil_append]
      rw [read_write hgap v hv.2.1 (by simp; omega) (.inr rfl) delimited_items]
      exact read_items hgap items [v] hv.2.2 (by omega)
  | .object [], _, _, _, _, hv, hd, hm, _ => by
      simp only [Fits] at hv
      rw [write, List.cons_append, read_cons (step_object hm (by omega))]
      exact read_cons rfl
  | .object ((key, v) :: fields), _, _, stack, cs, hv, hd, hm, _ => by
      simp only [Fits, FitsFields] at hv
      rw [write, List.cons_append, read_cons (step_object hm (by omega))]
      simp only [List.append_assoc, List.cons_append, List.nil_append]
      rw [read_key (.inr rfl) hv.2.2.1 hgap, read_write hgap v hv.2.2.2.1
        (by simp; omega) (.inl rfl) delimited_fields]
      exact read_fields hgap fields [(key, v)] hv.2.2.2.2 (by omega) hv.2.1

theorem read_items (hgap : gap.all isBlank = true) :
    ∀ (items done : List JsonValue) {d : Nat} {stack : List Frame}
      {cs : List Char}, FitsItems d items → stack.length + 1 + d ≤ limit →
      read limit ⟨.after, .array done :: stack⟩
          (writeItems gap items ++ (']' :: cs))
        = read limit (complete (.array (done ++ items)) stack) cs
  | [], done, _, _, _, _, _ => by
      rw [List.append_nil]
      exact read_cons rfl
  | v :: items, done, _, stack, cs, hv, hd => by
      simp only [FitsItems] at hv
      have hcomma : step limit ⟨.after, .array done :: stack⟩ ','
          = .ok ⟨.value, .array done :: stack⟩ := rfl
      rw [writeItems, List.cons_append, read_cons hcomma]
      simp only [List.append_assoc]
      rw [read_gap (.inl rfl) hgap, read_write hgap v hv.1 (by simp; omega)
        (.inl rfl) delimited_items]
      have hdone : done ++ v :: items = (done ++ [v]) ++ items := by simp
      rw [hdone]
      exact read_items hgap items (done ++ [v]) hv.2 hd

theorem read_fields (hgap : gap.all isBlank = true) :
    ∀ (fields done : List (List Nat × JsonValue)) {d : Nat}
      {stack : List Frame} {cs : List Char}, FitsFields d fields →
      stack.length + 1 + d ≤ limit → ((done ++ fields).map (·.1)).Nodup →
      read limit ⟨.after, .object done :: stack⟩
          (writeFields gap fields ++ ('}' :: cs))
        = read limit (complete (.object (done ++ fields)) stack) cs
  | [], done, _, _, _, _, _, _ => by
      rw [List.append_nil]
      exact read_cons rfl
  | (key, v) :: fields, done, _, stack, cs, hv, hd, hn => by
      simp only [FitsFields] at hv
      have hcomma : step limit ⟨.after, .object done :: stack⟩ ','
          = .ok ⟨.key, .object done :: stack⟩ := rfl
      have hfresh : key ∉ done.map (·.1) := by
        rw [List.map_append, List.map_cons, List.nodup_append] at hn
        intro hmem
        exact hn.2.2 key hmem key (List.mem_cons_self ..) rfl
      rw [writeFields, List.cons_append, read_cons hcomma]
      simp only [List.append_assoc, List.cons_append]
      rw [read_gap (.inr rfl) hgap, read_key (.inl rfl) hv.1 hgap,
        read_write hgap v hv.2.1 (by simp; omega) (.inl rfl) delimited_fields]
      rw [complete, putField_fresh hfresh]
      have hdone : done ++ (key, v) :: fields
          = (done ++ [(key, v)]) ++ fields := by simp
      rw [hdone] at hn ⊢
      exact read_fields hgap fields (done ++ [(key, v)]) hv.2.2 hd hn

end

/-- **The round trip.** What is written is read back. -/
theorem loads_write {v : JsonValue} (hgap : gap.all isBlank = true)
    (hv : Fits limit v) : loads limit (write gap v) = .ok v := by
  have h : read limit ⟨.value, []⟩ (write gap v ++ [])
      = read limit (complete v []) [] :=
    read_write hgap v hv (Nat.le_of_eq (Nat.zero_add _)) (.inl rfl)
      (fun c hc => by cases hc)
  rw [List.append_nil] at h
  rw [loads, h]
  rfl

/-! ### Integers -/

/-- `str(n)` -/
def natLiteral (n : Nat) : List Char := Nat.toDigits 10 n

theorem natLiteral_digits {n : Nat} :
    ∀ c ∈ natLiteral n, c.isDigit = true := fun _ hc =>
  Nat.isDigit_of_mem_toDigits (by decide) (Nat.le_refl 10) hc

/-- A literal is read as the number it was written for. -/
theorem natLiteral_injective {m n : Nat} (h : natLiteral m = natLiteral n) :
    m = n := by
  rw [← Nat.ofDigitChars_ten_toDigits (n := m),
    ← Nat.ofDigitChars_ten_toDigits (n := n)]
  exact congrArg (fun ds => Nat.ofDigitChars 10 ds 0) h

/-- No literal but the one of zero begins with a zero. -/
theorem natLiteral_head {n : Nat} (hn : n ≠ 0) :
    (natLiteral n).head? ≠ some '0' := by
  induction n using Nat.strongRecOn with
  | ind n ih =>
      by_cases h : n < 10
      · rw [natLiteral, Nat.toDigits_of_lt_base h]
        have hall : ∀ d < 10, d ≠ 0 → [Nat.digitChar d].head? ≠ some '0' := by
          decide
        exact hall n h hn
      · have hdiv : n / 10 ≠ 0 := by omega
        have hrest := ih (n / 10) (by omega) hdiv
        rw [natLiteral, Nat.toDigits_of_base_le (by decide) (by omega)]
        rw [natLiteral] at hrest
        rwa [List.head?_append_of_ne_nil _ Nat.toDigits_ne_nil]

theorem dropWhile_digits {ds : List Char} (h : ∀ c ∈ ds, c.isDigit = true) :
    ds.dropWhile Char.isDigit = [] :=
  List.dropWhile_eq_nil_iff.mpr h

theorem isUnsigned_natLiteral {n : Nat} : isUnsigned (natLiteral n) = true := by
  cases hn : natLiteral n with
  | nil => exact absurd hn Nat.toDigits_ne_nil
  | cons c ds =>
      have hdigits := natLiteral_digits (n := n)
      rw [hn] at hdigits
      by_cases hc : c = '0'
      · subst hc
        have hzero : n = 0 := by
          by_contra hne
          exact natLiteral_head hne (by rw [hn]; rfl)
        subst hzero
        have hnil : ds = [] := (List.cons.inj hn).2.symm
        rw [hnil]
        rfl
      · have hd := hdigits c (List.mem_cons_self ..)
        have hrest : ds.dropWhile Char.isDigit = [] :=
          dropWhile_digits fun x hx => hdigits x (List.mem_cons_of_mem _ hx)
        unfold isUnsigned
        split
        · next heq => exact absurd (List.cons.inj heq).1 hc
        · next heq =>
          obtain ⟨rfl, rfl⟩ := List.cons.inj heq
          rw [hd, hrest]
          rfl
        · next heq => cases heq

/-- An integer has a text, unless it has more than 4300 digits. -/
theorem fits_nat {d n : Nat} (h : (natLiteral n).length ≤ 4300) :
    Fits d (.number (natLiteral n)) := by
  have hdigits := natLiteral_digits (n := n)
  have hword (c : Char) (cs : List Char) (hc : c.isDigit = false) :
      natLiteral n ≠ c :: cs := by
    intro heq
    have hd := hdigits c (by rw [heq]; exact List.mem_cons_self ..)
    rw [hc] at hd
    cases hd
  have hnumber : isNumber (natLiteral n) = true := by
    unfold isNumber
    split
    · next heq => exact absurd heq (hword _ _ rfl)
    · exact isUnsigned_natLiteral
  have hmany : tooManyDigits (natLiteral n) = false := by
    rw [tooManyDigits, List.filter_eq_self.mpr hdigits,
      decide_eq_false (Nat.not_lt.mpr h), Bool.and_false]
  simp only [Fits]
  refine ⟨Nat.toDigits_ne_nil, List.all_eq_true.mpr fun c hc => ?_, ?_⟩
  · simp [isBare, hdigits c hc]
  · unfold bareValue
    rw [if_neg (hword _ _ rfl), if_neg (hword _ _ rfl), if_neg (hword _ _ rfl),
      if_neg, hnumber, hmany]
    · rfl
    · rintro (heq | heq | heq)
      · exact hword _ _ rfl heq
      · exact hword _ _ rfl heq
      · exact hword _ _ rfl heq

end

end JsonText

end CallingAgent.Lib
