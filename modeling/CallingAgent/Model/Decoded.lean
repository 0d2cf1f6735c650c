import CallingAgent.Lib.Text
import CallingAgent.Queue.Payload

/-!
# Decoded JSON — what `json.loads` answers

A decoded text may hold surrogates that stand alone, and a decoded number
need not be finite: the source language reads `"\ud800"`, `NaN` and
`Infinity`. Both matter where a body comes from somebody else.
-/

namespace CallingAgent

/-- A `str`: code points, lone surrogates among them. -/
def CodePoints : Type := List Nat
  deriving DecidableEq

instance : Append CodePoints := inferInstanceAs (Append (List Nat))

/-- A text written in the source. -/
def codePoints (s : String) : CodePoints := s.toList.map Char.toNat

namespace CodePoints

/-- `str.strip()`; no surrogate is a space. -/
def strip (s : CodePoints) : CodePoints :=
  let space := fun n => Lib.isSpace (Char.ofNat n)
  ((List.dropWhile space s).reverse.dropWhile space).reverse

/-- `needle in haystack` -/
def contains (haystack needle : CodePoints) : Bool :=
  (List.tails haystack).any (List.isPrefixOf needle)

/-- PostgreSQL stores the text: it has no NUL and no lone surrogate. -/
def storable (s : CodePoints) : Bool :=
  List.all s fun n => n != 0 && !(0xD800 ≤ n && n ≤ 0xDFFF)

end CodePoints

inductive PyFloat where
  | finite (q : Rat)
  | infinite
  | nan
  deriving DecidableEq

/-- A decoded value. The keys of an object are distinct. -/
inductive Decoded where
  | null
  | bool (b : Bool)
  | int (n : Int)
  | float (x : PyFloat)
  | string (s : CodePoints)
  | array (items : List Decoded)
  | object (fields : List (CodePoints × Decoded))

/-- What `int(value)` raises: a `ValueError` or `TypeError`, or the
`OverflowError` of an infinite float. -/
inductive ConversionError where
  | value
  | overflow
  deriving DecidableEq

namespace Decoded

/-- `bool(value)` -/
def truthy : Decoded → Bool
  | .null => false
  | .bool b => b
  | .int n => n != 0
  | .float (.finite q) => q.num != 0
  | .float _ => true
  | .string s => !List.isEmpty s
  | .array items => !items.isEmpty
  | .object fields => !fields.isEmpty

/-- `value.get(name)`, where the value is an object. -/
def field (name : String) : Decoded → Option Decoded
  | .object fields => fields.lookup (codePoints name)
  | _ => none

/-- `int(value)`; `intOfText` is `int` on a text, `none` where it raises. -/
def toInt (intOfText : CodePoints → Option Int) :
    Decoded → Except ConversionError Int
  | .bool b => .ok (if b then 1 else 0)
  | .int n => .ok n
  | .float (.finite q) => .ok (q.num.tdiv q.den)
  | .float .infinite => .error .overflow
  | .string s => (intOfText s).elim (.error .value) .ok
  | _ => .error .value

/-- `value == text` -/
def isText (text : CodePoints) : Decoded → Bool
  | .string s => s == text
  | _ => false

/-- Not an integer, although `int` may convert it. -/
def convertible : Decoded → Bool
  | .bool _ | .float _ | .string _ => true
  | _ => false

/-- Empty, but neither null nor an object. -/
def emptyOther : Decoded → Bool
  | .null | .object _ => false
  | v => !v.truthy

section

variable {f : CodePoints → Option Int} {v : Decoded} {n : Int}

/-- What `int` converts is an integer or convertible. -/
theorem of_toInt (h : v.toInt f = .ok n) :
    v = .int n ∨ v.convertible = true := by
  cases v with
  | int m => exact .inl (congrArg _ (Except.ok.inj h))
  | bool b => exact .inr rfl
  | float x => exact .inr rfl
  | string s => exact .inr rfl
  | _ => cases h

end

end Decoded

end CallingAgent
