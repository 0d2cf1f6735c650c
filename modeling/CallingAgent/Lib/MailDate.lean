import CallingAgent.Lib.Text
import Mathlib.Data.Int.Order.Basic

/-!
# Dates of mail headers — how `email.utils` reads one

The reader takes a text apart at white space, forgives a good deal, and hands
six numbers and perhaps an offset to the constructors of `datetime`. Those
refuse in two ways: a `ValueError` for a date that does not exist, and an
`OverflowError` for a number that the machine integer behind a field cannot
hold. What is read of the Unicode tables is a parameter.
-/

namespace CallingAgent.Lib

/-- What reading a text asks of the Unicode tables. -/
structure TextTables where
  /-- `str.lower` -/
  lower : List Char → List Char
  /-- `str.upper` -/
  upper : List Char → List Char
  /-- `str.isdigit`, of one code point -/
  isDigit : Char → Bool
  /-- the value of a decimal digit -/
  decimal : Char → Option Nat

/-- The tables of the ASCII range. -/
def asciiTables : TextTables where
  lower := List.map Char.toLower
  upper := List.map Char.toUpper
  isDigit := Char.isDigit
  decimal c := if c.isDigit then some (c.toNat - 48) else none

/-- `IndexError`, `ValueError` and `OverflowError`. -/
inductive DateError where
  | index
  | value
  | overflow
  deriving DecidableEq

/-- What `_parsedate_tz` returns, less its constants. -/
structure DateFields where
  year : Int
  month : Int
  day : Int
  hour : Int
  minute : Int
  second : Int
  /-- seconds east of Greenwich -/
  offset : Option Int
  deriving DecidableEq

/-! ## Reading the fields -/

/-- `_daynames` -/
def dayNames : List (List Char) :=
  ["mon".toList, "tue".toList, "wed".toList, "thu".toList, "fri".toList,
    "sat".toList, "sun".toList]

/-- `_monthnames` -/
def monthNames : List (List Char) :=
  ["jan".toList, "feb".toList, "mar".toList, "apr".toList, "may".toList,
    "jun".toList, "jul".toList, "aug".toList, "sep".toList, "oct".toList,
    "nov".toList, "dec".toList, "january".toList, "february".toList,
    "march".toList, "april".toList, "may".toList, "june".toList,
    "july".toList, "august".toList, "september".toList, "october".toList,
    "november".toList, "december".toList]

/-- `_timezones` -/
def timezones : List (List Char × Int) :=
  [("UT".toList, 0), ("UTC".toList, 0), ("GMT".toList, 0), ("Z".toList, 0),
    ("AST".toList, -400), ("ADT".toList, -300), ("EST".toList, -500),
    ("EDT".toList, -400), ("CST".toList, -600), ("CDT".toList, -500),
    ("MST".toList, -700), ("MDT".toList, -600), ("PST".toList, -800),
    ("PDT".toList, -700)]

/-- `text.split()` -/
def splitSpaces (text : List Char) : List (List Char) :=
  (text.splitOnP isSpace).filter (!·.isEmpty)

/-- A name of a day in front is dropped, with or without its comma. -/
def dropDayName (T : TextTables) : List (List Char) → List (List Char)
  | [] => []
  | d :: rest =>
      if d.getLast? == some ',' || dayNames.contains (T.lower d) then rest
      else (d.reverse.takeWhile (· != ',')).reverse :: rest

/-- `01-Jan-99` is three fields. -/
def splitDashes : List (List Char) → List (List Char)
  | [d, tm, tz] =>
      let stuff := d.splitOn '-'
      if stuff.length = 3 then stuff ++ [tm, tz] else [d, tm, tz]
  | data => data

/-- An offset may follow the time directly; without one there is a dummy. -/
def splitZone : List (List Char) → List (List Char)
  | [dd, mm, yy, s] =>
      let sign := (s.idxOf? '+').or (s.idxOf? '-')
      match sign with
      | some (i + 1) => [dd, mm, yy, s.take (i + 1), s.drop (i + 1)]
      | _ => [dd, mm, yy, s, []]
  | data => data

/-- The number of a month's name. -/
def monthIndex (name : List Char) : Option Int :=
  (monthNames.idxOf? name).map fun i =>
    if i + 1 > 12 then (i : Int) + 1 - 12 else (i : Int) + 1

/-- Month and day, in either order. -/
def monthAndDay (T : TextTables) (dd mm : List Char) :
    Except DateError (Int × List Char) :=
  match monthIndex (T.lower mm) with
  | some m => .ok (m, dd)
  | none =>
      match monthIndex (T.lower dd) with
      | some m => .ok (m, T.lower mm)
      | none => .error .value

/-- A comma at the end is dropped; of an empty text there is no end. -/
def dropComma (cs : List Char) : Except DateError (List Char) :=
  match cs.getLast? with
  | none => .error .index
  | some c => .ok (if c = ',' then cs.dropLast else cs)

/-- What does not hold of a date makes the text none. -/
def require (b : Bool) : Except DateError Unit :=
  if b then .ok () else .error .value

/-- Hour, minute and second; some write the time with dots. -/
def splitTime (tm : List Char) :
    Except DateError (List Char × List Char × List Char) :=
  match tm.splitOn ':' with
  | [thh, tmm] => .ok (thh, tmm, ['0'])
  | [thh, tmm, tss] => .ok (thh, tmm, tss)
  | [tm] =>
      match tm.splitOn '.' with
      | [thh, tmm] => .ok (thh, tmm, ['0'])
      | [thh, tmm, tss] => .ok (thh, tmm, tss)
      | _ => .error .value
  | _ => .error .value

/-- The digits of `int(text)`: single underscores may stand between them. -/
def TextTables.digits (T : TextTables) : List Char → Option Nat → Option Nat
  | [], acc => acc
  | '_' :: c :: cs, some n =>
      (T.decimal c).bind fun d => T.digits cs (some (10 * n + d))
  | c :: cs, acc =>
      (T.decimal c).bind fun d => T.digits cs (some (10 * acc.getD 0 + d))

/-- `int(text)` of a text without white space; `none` when it raises. -/
def TextTables.int (T : TextTables) : List Char → Option Int
  | '-' :: cs => (T.digits cs none).map fun n => -(n : Int)
  | '+' :: cs => (T.digits cs none).map fun n => (n : Int)
  | cs => (T.digits cs none).map fun n => (n : Int)

/-- `int(text)`, with what it raises. -/
def TextTables.toInt (T : TextTables) (cs : List Char) : Except DateError Int :=
  (T.int cs).elim (.error .value) .ok

/-- The seconds of a zone: a name, or hours and minutes as one number. An
offset `-0000` says that there is none. -/
def zoneOffset (T : TextTables) (tz : List Char) : Option Int :=
  let tz := T.upper tz
  let clock :=
    match timezones.lookup tz with
    | some z => some z
    | none =>
        match T.int tz with
        | some z => if z = 0 ∧ tz.head? = some '-' then none else some z
        | none => none
  clock.map fun z =>
    let seconds := Int.ofNat (z.natAbs / 100 * 3600 + z.natAbs % 100 * 60)
    if z < 0 then -seconds else seconds

/-- A year of two digits is one of 1969 to 2068. -/
def fullYear (yy : Int) : Int :=
  if yy < 100 then (if yy > 68 then yy + 1900 else yy + 2000) else yy

/-- `_parsedate_tz`, and the `ValueError` for what it does not recognise. -/
def parsedateTz (T : TextTables) (text : List Char) :
    Except DateError DateFields :=
  match splitZone (splitDashes (dropDayName T (splitSpaces text))) with
  | dd :: mm :: yy :: tm :: tz :: _ => do
      require (!dd.isEmpty && !mm.isEmpty && !yy.isEmpty)
      let (month, dd) ← monthAndDay T dd mm
      let dd ← dropComma dd
      -- year and time may stand the other way round
      let (yy, tm) := if 0 < (yy.idxOf? ':').getD 0 then (tm, yy) else (yy, tm)
      let yy ← dropComma yy
      require (!yy.isEmpty)
      -- so may year and zone
      let (yy, tz) := if yy.head?.any T.isDigit then (yy, tz) else (tz, yy)
      let tm ← dropComma tm
      let (thh, tmm, tss) ← splitTime tm
      let year ← T.toInt yy
      let day ← T.toInt dd
      let hour ← T.toInt thh
      let minute ← T.toInt tmm
      let second ← T.toInt tss
      .ok ⟨fullYear year, month, day, hour, minute, second, zoneOffset T tz⟩
  | _ => .error .value

/-! ## Making the date -/

/-- The number fits the machine integer of a field. -/
def fitsInt (n : Int) : Bool := -2147483648 ≤ n && n ≤ 2147483647

/-- `timezone(timedelta(seconds=z))` -/
def makeZone (z : Int) : Except DateError Int :=
  if z / 86400 < -999999999 ∨ 999999999 < z / 86400 then .error .overflow
  else if -86400 < z ∧ z < 86400 then .ok z
  else .error .value

def isLeap (y : Int) : Bool :=
  y % 4 == 0 && (y % 100 != 0 || y % 400 == 0)

/-- The days before each month of a common year. -/
def daysBefore (m : Int) : Int :=
  [0, 31, 59, 90, 120, 151, 181, 212, 243, 273, 304, 334, 365].getD
    (m - 1).toNat 0

def daysInMonth (y m : Int) : Int :=
  if m = 2 then (if isLeap y then 29 else 28)
  else daysBefore (m + 1) - daysBefore m

/-- Days since the first of January of 1970. -/
def epochDay (y m d : Int) : Int :=
  (y - 1) * 365 + (y - 1) / 4 - (y - 1) / 100 + (y - 1) / 400
    + daysBefore m + (if 2 < m && isLeap y then 1 else 0) + d - 719163

/-- There is such a date and such a time of day. -/
def DateFields.exists? (f : DateFields) : Bool :=
  1 ≤ f.year && f.year ≤ 9999 && 1 ≤ f.month && f.month ≤ 12
    && 1 ≤ f.day && f.day ≤ daysInMonth f.year f.month
    && 0 ≤ f.hour && f.hour ≤ 23 && 0 ≤ f.minute && f.minute ≤ 59
    && 0 ≤ f.second && f.second ≤ 59

/-- The fields that the constructor takes as machine integers. -/
def DateFields.numbers (f : DateFields) : List Int :=
  [f.year, f.month, f.day, f.hour, f.minute, f.second]

/-- `datetime(…, tzinfo=…)`, in seconds since 1970 began. The zone is made
first; a date without one is read in UTC. -/
def DateFields.datetime (f : DateFields) : Except DateError Int := do
  let offset ← f.offset.elim (.ok 0) makeZone
  if !f.numbers.all fitsInt then .error .overflow
  else if !f.exists? then .error .value
  else .ok (epochDay f.year f.month f.day * 86400
    + f.hour * 3600 + f.minute * 60 + f.second - offset)

/-- `parsedate_to_datetime` -/
def parsedateToDatetime (T : TextTables) (text : List Char) :
    Except DateError Int :=
  (parsedateTz T text).bind DateFields.datetime

/-! ## When a number does not fit -/

/-- A zone so far off that its days cannot be counted. -/
def FarZone (z : Int) : Prop := z / 86400 < -999999999 ∨ 999999999 < z / 86400

/-- The zone is so far off that its days cannot be counted, or it is within a
day and another number is beyond a machine integer. -/
def DateFields.Oversized (f : DateFields) : Prop :=
  (∃ z ∈ f.offset, FarZone z) ∨
    (∀ z ∈ f.offset, -86400 < z ∧ z < 86400) ∧
      ∃ n ∈ f.numbers, n < -2147483648 ∨ 2147483647 < n

/-- It may raise, but no `OverflowError`. -/
def NoOverflow {α : Type} (x : Except DateError α) : Prop := x ≠ .error .overflow

section

variable {α β : Type} {x : Except DateError α} {f : α → Except DateError β}
  {T : TextTables} {z : Int}

theorem noOverflow_ok (a : α) : NoOverflow (.ok a : Except DateError α) :=
  fun h => by cases h

theorem noOverflow_value : NoOverflow (.error .value : Except DateError α) :=
  fun h => by cases h

theorem noOverflow_index : NoOverflow (.error .index : Except DateError α) :=
  fun h => by cases h

theorem NoOverflow.bind (hx : NoOverflow x) (hf : ∀ a, NoOverflow (f a)) :
    NoOverflow (x >>= f) := by
  cases x with
  | ok a => exact hf a
  | error e => exact fun h => hx (by cases h; rfl)

theorem noOverflow_monthAndDay (dd mm : List Char) :
    NoOverflow (monthAndDay T dd mm) := by
  rw [monthAndDay]
  split
  · exact noOverflow_ok _
  · split
    · exact noOverflow_ok _
    · exact noOverflow_value

theorem noOverflow_dropComma (cs : List Char) : NoOverflow (dropComma cs) := by
  rw [dropComma]
  split
  · exact noOverflow_index
  · exact noOverflow_ok _

theorem noOverflow_splitTime (tm : List Char) : NoOverflow (splitTime tm) := by
  rw [splitTime]
  split
  · exact noOverflow_ok _
  · exact noOverflow_ok _
  · split
    · exact noOverflow_ok _
    · exact noOverflow_ok _
    · exact noOverflow_value
  · exact noOverflow_value

theorem noOverflow_toInt (cs : List Char) : NoOverflow (T.toInt cs) := by
  rw [TextTables.toInt]
  cases T.int cs with
  | none => exact noOverflow_value
  | some n => exact noOverflow_ok n

theorem noOverflow_require (b : Bool) : NoOverflow (require b) := by
  cases b with
  | false => exact noOverflow_value
  | true => exact noOverflow_ok ()

/-- **Reading the fields raises no `OverflowError`**: the integers of a text
are unbounded. -/
theorem noOverflow_parsedateTz (text : List Char) :
    NoOverflow (parsedateTz T text) := by
  rw [parsedateTz]
  split
  · refine (noOverflow_require _).bind fun _ => ?_
    refine (noOverflow_monthAndDay _ _).bind fun md => ?_
    refine (noOverflow_dropComma _).bind fun dd => ?_
    refine (noOverflow_dropComma _).bind fun yy => ?_
    refine (noOverflow_require _).bind fun _ => ?_
    refine (noOverflow_dropComma _).bind fun tm => ?_
    refine (noOverflow_splitTime _).bind fun hms => ?_
    refine (noOverflow_toInt _).bind fun year => ?_
    refine (noOverflow_toInt _).bind fun day => ?_
    refine (noOverflow_toInt _).bind fun hour => ?_
    refine (noOverflow_toInt _).bind fun minute => ?_
    exact (noOverflow_toInt _).bind fun second => noOverflow_ok _
  · exact noOverflow_value

theorem makeZone_overflow_iff : makeZone z = .error .overflow ↔ FarZone z := by
  rw [makeZone]
  split
  · next h => exact ⟨fun _ => h, fun _ => rfl⟩
  · next h =>
      refine ⟨fun heq => ?_, fun hz => absurd hz h⟩
      split at heq <;> cases heq

theorem makeZone_ok_iff {z' : Int} :
    makeZone z = .ok z' ↔ z' = z ∧ -86400 < z ∧ z < 86400 := by
  rw [makeZone]
  split
  · next h =>
      refine ⟨fun heq => (by cases heq), fun ⟨_, hlo, hhi⟩ => ?_⟩
      omega
  · split
    · next h =>
        exact ⟨fun heq => ⟨(Except.ok.inj heq).symm, h⟩, fun ⟨heq, _⟩ => by rw [heq]⟩
    · next h => exact ⟨fun heq => (by cases heq), fun ⟨_, hz⟩ => absurd hz h⟩

/-- A number that is too large is found when the zone was made. -/
theorem build_overflow_iff (f : DateFields) (offset : Int) :
    (if !f.numbers.all fitsInt then .error .overflow
      else if !f.exists? then .error .value
      else .ok (epochDay f.year f.month f.day * 86400
        + f.hour * 3600 + f.minute * 60 + f.second - offset) :
          Except DateError Int) = .error .overflow ↔
      ∃ n ∈ f.numbers, n < -2147483648 ∨ 2147483647 < n := by
  have hfits : f.numbers.all fitsInt = false ↔
      ∃ n ∈ f.numbers, n < -2147483648 ∨ 2147483647 < n := by
    simp only [List.all_eq_false, fitsInt, Bool.not_eq_true, Bool.and_eq_false_iff,
      decide_eq_false_iff_not, Int.not_le]
  cases hall : f.numbers.all fitsInt with
  | false => simpa using hfits.mp hall
  | true =>
      refine ⟨fun heq => ?_, fun hn => ?_⟩
      · cases he : f.exists? <;> simp [he] at heq
      · rw [hfits.mpr hn] at hall
        cases hall

/-- **The constructors overflow on oversized fields only.** -/
theorem DateFields.datetime_overflow_iff (f : DateFields) :
    f.datetime = .error .overflow ↔ f.Oversized := by
  rw [DateFields.datetime, DateFields.Oversized]
  cases hz : f.offset with
  | none =>
      refine (build_overflow_iff f 0).trans ⟨fun h => .inr ⟨by simp, h⟩, ?_⟩
      rintro (⟨z, hmem, -⟩ | ⟨-, h⟩)
      · cases hmem
      · exact h
  | some z =>
      have hfar : (∃ w ∈ some z, FarZone w) ↔ FarZone z := by simp
      have hnear : (∀ w ∈ some z, -86400 < w ∧ w < 86400) ↔ -86400 < z ∧ z < 86400 := by
        simp
      rw [hfar, hnear]
      change (makeZone z >>= _) = _ ↔ _
      cases hmake : makeZone z with
      | ok w =>
          obtain ⟨rfl, hday⟩ := makeZone_ok_iff.mp hmake
          have hnot : ¬ FarZone w := by
            rw [← makeZone_overflow_iff, hmake]
            exact fun h => by cases h
          exact (build_overflow_iff f w).trans
            ⟨fun h => .inr ⟨hday, h⟩, fun h => h.elim (absurd · hnot) (·.2)⟩
      | error e =>
          have hday : ¬ (-86400 < z ∧ z < 86400) := by
            intro hday
            rw [makeZone_ok_iff.mpr ⟨rfl, hday⟩] at hmake
            cases hmake
          rw [← makeZone_overflow_iff, hmake]
          exact ⟨.inl, fun h => h.elim id fun h => absurd h.1 hday⟩

/-- **When reading a date overflows**: the text has the fields of a date, and
they are oversized. -/
theorem parsedateToDatetime_overflow_iff {text : List Char} :
    parsedateToDatetime T text = .error .overflow ↔
      ∃ f, parsedateTz T text = .ok f ∧ f.Oversized := by
  rw [parsedateToDatetime]
  cases h : parsedateTz T text with
  | error e =>
      refine ⟨fun heq => absurd (?_ : parsedateTz T text = .error .overflow)
        (noOverflow_parsedateTz text), ?_⟩
      · rw [h]
        cases heq
        rfl
      · rintro ⟨f, hf, -⟩
        cases hf
  | ok f =>
      refine (DateFields.datetime_overflow_iff f).trans ⟨fun hf => ⟨f, rfl, hf⟩, ?_⟩
      rintro ⟨g, hg, hbig⟩
      cases hg
      exact hbig

end

end CallingAgent.Lib
