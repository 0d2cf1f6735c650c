import Mathlib.Data.List.Infix

/-!
# Text — the string operations of the source language

Strings are worked on as lists of code points. What needs the Unicode
tables (`str.lower`, NFKC) is a parameter of the model; what does not is
defined here.
-/

namespace CallingAgent.Lib

/-- The code points `str.isspace` accepts, which are also the ones `\s`
matches in a text pattern. -/
def isSpace (c : Char) : Bool :=
  let n := c.toNat
  (9 ≤ n && n ≤ 13) || (28 ≤ n && n ≤ 32) || n == 0x85 || n == 0xa0
    || n == 0x1680 || (0x2000 ≤ n && n ≤ 0x200a) || n == 0x2028
    || n == 0x2029 || n == 0x202f || n == 0x205f || n == 0x3000

/-- Drop the code points satisfying `p` at both ends. -/
def stripChars (p : Char → Bool) (cs : List Char) : List Char :=
  ((cs.dropWhile p).reverse.dropWhile p).reverse

theorem stripChars_of_none {p : Char → Bool} {cs : List Char}
    (h : ∀ c ∈ cs, p c = false) : stripChars p cs = cs := by
  have hdrop : ∀ l : List Char, (∀ c ∈ l, p c = false) → l.dropWhile p = l := by
    intro l hl
    cases l with
    | nil => rfl
    | cons c l => simp [List.dropWhile, hl c (by simp)]
  unfold stripChars
  rw [hdrop cs h, hdrop cs.reverse (by simpa using h), List.reverse_reverse]

/-- `str.strip()`. -/
def strip (s : String) : String :=
  String.ofList (stripChars isSpace s.toList)

theorem strip_of_none {s : String}
    (h : ∀ c ∈ s.toList, isSpace c = false) : strip s = s := by
  unfold strip
  rw [stripChars_of_none h, String.ofList_toList]

/-- `needle in haystack`. -/
def contains (haystack needle : String) : Bool :=
  haystack.toList.tails.any fun t => needle.toList.isPrefixOf t

/-- `re.sub("[…]+", "_", ·)` for a class of code points: each maximal run
of the class becomes one underscore. -/
def collapse (p : Char → Bool) : List Char → List Char
  | [] => []
  | c :: cs =>
      if p c && (cs.head?.map p).getD false then collapse p cs
      else (if p c then '_' else c) :: collapse p cs

/-- The digits of `int(text)`: single underscores may stand between
digits. -/
def intDigits : List Char → Option Nat → Option Nat
  | [], acc => acc
  | '_' :: c :: cs, some n =>
      if c.isDigit then intDigits cs (some (10 * n + (c.toNat - 48))) else none
  | c :: cs, acc =>
      if c.isDigit then intDigits cs (some (10 * acc.getD 0 + (c.toNat - 48)))
      else none

/-- `int(text)` on ASCII digits; `none` when it raises. -/
def parseInt (s : String) : Option Int :=
  match stripChars isSpace s.toList with
  | '-' :: cs => (intDigits cs none).map fun n => -(n : Int)
  | '+' :: cs => (intDigits cs none).map fun n => (n : Int)
  | cs => (intDigits cs none).map fun n => (n : Int)

example : parseInt " -1_000 " = some (-1000) := by decide

example : strip "  no answer \t" = "no answer" := by decide

example : contains "please stop calling me" "stop calling" = true := by decide

end CallingAgent.Lib
