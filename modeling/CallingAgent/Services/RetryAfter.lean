import CallingAgent.Lib.MailDate
import CallingAgent.Model.Phone

/-!
# Retry-After — a delay that the provider names

A refusal with status 429 may carry seconds or a date. Either is untrusted:
what is unusable is no delay, and what is usable is kept below a cap. The
function says that it never raises. It catches what reading a date raises,
except the `OverflowError` of a number that no date field can hold.
-/

namespace CallingAgent

open Lib

/-- `n / d` rounded to the nearest integer, a half to the even one. -/
def roundHalfEven (n d : Nat) : Nat :=
  let q := n / d
  let r := n % d
  if d < 2 * r ∨ (d = 2 * r ∧ q % 2 = 1) then q + 1 else q

/-- `int(delta.total_seconds())`: the seconds are a float, which has 53 bits
for the quotient. -/
def wholeSeconds (micros : Nat) : Nat :=
  let scale := Nat.pow 2 (52 - Nat.log2 (micros / 1000000))
  roundHalfEven (micros * scale) 1000000 / scale

/-- `int(text)` of ASCII digits. -/
def digitsValue (text : List Char) : Nat :=
  text.foldl (fun n c => 10 * n + (c.toNat - 48)) 0

section

variable (T : TextTables)

/-- `parse_retry_after`, with the exceptions that escape it. `now` is the
clock, or the argument where one is given. -/
def parseRetryAfter (value : Option String) (maxSeconds : Int) (now : Instant) :
    Except DateError (Option Int) :=
  match value with
  | none => .ok none
  | some value =>
      let text := stripChars isSpace value.toList
      if text.isEmpty || 64 < text.length then .ok none
      else if text.all isAsciiDigit then
        .ok (some (min (digitsValue text : Int) maxSeconds))
      else
        match parsedateToDatetime T text with
        -- not among `TypeError`, `ValueError` and `IndexError`
        | .error .overflow => .error .overflow
        | .error _ => .ok none
        | .ok date =>
            let delta := date * second - now
            if delta < 0 then .ok none
            else .ok (some (min (wholeSeconds delta.toNat : Int) maxSeconds))

/-- It returns nothing, or seconds within the cap. -/
def BoundedDelay (maxSeconds : Int) (answer : Except DateError (Option Int)) :
    Prop :=
  ∃ delay, answer = .ok delay ∧ ∀ s ∈ delay, 0 ≤ s ∧ s ≤ maxSeconds

/-- The header is a date, of at most 64 characters, with a number that no
date field can hold. -/
def NamesOversizedDate (value : Option String) : Prop :=
  ∃ v ∈ value,
    let text := stripChars isSpace v.toList
    text ≠ [] ∧ text.length ≤ 64 ∧ text.all isAsciiDigit = false ∧
      ∃ f, parsedateTz T text = .ok f ∧ f.Oversized

end

section

variable {T : TextTables} {value : Option String} {maxSeconds : Int}
  {now : Instant}

theorem boundedDelay_none : BoundedDelay maxSeconds (.ok none) :=
  ⟨none, rfl, fun s hs => by cases hs⟩

/-- Seconds below a cap are within it. -/
theorem boundedDelay_min (h : 0 ≤ maxSeconds) (n : Nat) :
    BoundedDelay maxSeconds (.ok (some (min (n : Int) maxSeconds))) := by
  refine ⟨_, rfl, fun s hs => ?_⟩
  cases hs
  omega

theorem not_boundedDelay_error (e : DateError) :
    ¬ BoundedDelay maxSeconds (.error e) := by
  rintro ⟨delay, h, -⟩
  cases h

/-- **The delay is bounded unless the header names an oversized date.** -/
theorem parseRetryAfter_bounded_iff (T : TextTables) (value : Option String)
    (maxSeconds : Int) (now : Instant) (hcap : 0 ≤ maxSeconds) :
    BoundedDelay maxSeconds (parseRetryAfter T value maxSeconds now) ↔
      ¬ NamesOversizedDate T value := by
  cases value with
  | none =>
      refine ⟨fun _ ⟨v, hv, _⟩ => (by cases hv), fun _ => boundedDelay_none⟩
  | some v =>
      have hnames : NamesOversizedDate T (some v) ↔
          stripChars isSpace v.toList ≠ [] ∧
          (stripChars isSpace v.toList).length ≤ 64 ∧
          (stripChars isSpace v.toList).all isAsciiDigit = false ∧
          parsedateToDatetime T (stripChars isSpace v.toList)
            = .error .overflow := by
        rw [parsedateToDatetime_overflow_iff]
        simp [NamesOversizedDate]
      rw [hnames, parseRetryAfter]
      generalize stripChars isSpace v.toList = text
      simp only
      split
      · next hshape =>
          refine ⟨fun _ ⟨hne, hlen, _⟩ => ?_, fun _ => boundedDelay_none⟩
          rcases Bool.or_eq_true_iff.mp hshape with h | h
          · exact hne (List.isEmpty_iff.mp h)
          · exact absurd hlen (Nat.not_le.mpr (of_decide_eq_true h))
      · next hshape =>
          obtain ⟨hne, hlen⟩ : text ≠ [] ∧ text.length ≤ 64 := by
            simpa using hshape
          split
          · next hdigits =>
              refine ⟨fun _ ⟨_, _, hno, _⟩ => ?_,
                fun _ => boundedDelay_min hcap _⟩
              rw [hdigits] at hno
              cases hno
          · next hdigits =>
              have hno : text.all isAsciiDigit = false := by simpa using hdigits
              -- only the exception that is not caught tells the cases apart
              cases hdate : parsedateToDatetime T text with
              | error e =>
                  cases e with
                  | overflow =>
                      exact ⟨fun h => absurd h (not_boundedDelay_error _),
                        fun h => absurd ⟨hne, hlen, hno, rfl⟩ h⟩
                  | _ =>
                      exact ⟨fun _ ⟨_, _, _, h⟩ => (by cases h),
                        fun _ => boundedDelay_none⟩
              | ok date =>
                  refine ⟨fun _ ⟨_, _, _, h⟩ => (by cases h), fun _ => ?_⟩
                  simp only
                  split
                  · exact boundedDelay_none
                  · exact boundedDelay_min hcap _

end

theorem parseRetryAfter_http_date :
    BoundedDelay 3600 (parseRetryAfter asciiTables
      (some "Wed, 21 Oct 2015 07:28:00 GMT") 3600 (1445412000 * second)) :=
  (parseRetryAfter_bounded_iff asciiTables _ 3600 _ (by decide)).mpr <| by
    rintro ⟨v, hv, -, -, -, f, hf, hbig⟩
    cases hv
    have hfields : parsedateTz asciiTables (stripChars isSpace
        "Wed, 21 Oct 2015 07:28:00 GMT".toList)
          = .ok ⟨2015, 10, 21, 7, 28, 0, some 0⟩ := by decide +kernel
    rw [hfields] at hf
    cases hf
    revert hbig
    simp [DateFields.Oversized, FarZone, DateFields.numbers]

/-- A date eleven digits into the future is not refused but raised. -/
theorem parseRetryAfter_overflow :
    parseRetryAfter asciiTables (some "Fri, 01 Jan 99999999999 00:00:00 GMT")
        3600 0 = .error .overflow ∧
      ¬ BoundedDelay 3600 (parseRetryAfter asciiTables
        (some "Fri, 01 Jan 99999999999 00:00:00 GMT") 3600 0) := by
  have hraise : parseRetryAfter asciiTables
      (some "Fri, 01 Jan 99999999999 00:00:00 GMT") 3600 0
        = .error .overflow := by decide +kernel
  rw [hraise]
  exact ⟨rfl, not_boundedDelay_error _⟩

example : parseRetryAfter asciiTables (some " 120 ") 60 0 = .ok (some 60) := by
  decide +kernel

end CallingAgent
