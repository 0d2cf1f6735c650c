import CallingAgent.Lib.WallClock
import CallingAgent.Model.Database
import Mathlib.Data.List.Sort

/-!
# Calling window — the one place a time of day is compared to a window

A window is half-open on the campaign's wall clock; `start > end` is an
overnight window. Dialing needs the campaign window and the global hard
bound to be open at once.
-/

namespace CallingAgent

open Lib

inductive WindowError where
  /-- `InvalidTimezoneError` -/
  | invalidTimezone
  /-- `NoDialableWindowError` -/
  | noDialableWindow
  /-- `ValueError("window start and end must differ")` -/
  | startEqualsEnd
  deriving DecidableEq, Repr

/-- What `zoneinfo` makes of a zone whose offset changes at finitely many
instants: `astimezone(tz)`, and `astimezone(UTC)` of a local time with
`fold=0`. -/
def Zone.ofClock (c : WallClock) : Zone where
  toLocal := c.read
  toUtc := c.instant

/-- `load_timezone` -/
def loadTimezone (env : Env) (name : String) : Except WindowError Zone :=
  if (strip name).toList = [] ∨ name.length > 64 then .error .invalidTimezone
  else
    match env.zoneInfo name with
    | none => .error .invalidTimezone
    | some tz => .ok tz

/-- A span of the day, `[start, end)`. -/
abbrev Interval := Nat × Nat

/-- `_intervals` -/
def intervals (start stop : TimeOfDay) : Except WindowError (List Interval) :=
  if start = stop then .error .startEqualsEnd
  else if start < stop then .ok [(start, stop)]
  else .ok ((start, dayMicros) :: if stop > 0 then [(0, stop)] else [])

/-- The overlap of two spans, when there is one. -/
def overlap (a b : Interval) : Option Interval :=
  if max a.1 b.1 < min a.2 b.2 then some (max a.1 b.1, min a.2 b.2) else none

/-- `_intersect` -/
def intersect (a b : List Interval) : List Interval :=
  (a.flatMap fun x => b.filterMap fun y => overlap x y).insertionSort
    fun x y => x.1 < y.1 ∨ (x.1 = y.1 ∧ x.2 ≤ y.2)

/-- The wall-clock time of day at an instant. -/
def localTime (tz : Zone) (now : Instant) : TimeOfDay :=
  (tz.toLocal now % dayMicros).toNat

/-- `is_within_calling_window` -/
def isWithinCallingWindow (now : Instant) (tz : Zone) (start stop : TimeOfDay) :
    Except WindowError Bool :=
  match intervals start stop with
  | .error e => .error e
  | .ok spans =>
      .ok (spans.any fun s =>
        s.1 ≤ localTime tz now && localTime tz now < s.2)

/-- `is_dialable_now`: the campaign window and the hard bound. The second
is only looked at when the first is open. -/
def isDialableNow (now : Instant) (tz : Zone)
    (start stop hardStart hardEnd : TimeOfDay) : Except WindowError Bool :=
  match isWithinCallingWindow now tz start stop with
  | .error e => .error e
  | .ok false => .ok false
  | .ok true => isWithinCallingWindow now tz hardStart hardEnd

/-- A spring-forward gap can land an opening just before the real window
start: up to `fuel` minutes are skipped until the window is open. -/
def skipClosed (tz : Zone) (start stop hardStart hardEnd : TimeOfDay) :
    Nat → Instant → Instant
  | 0, t => t
  | fuel + 1, t =>
      match isDialableNow t tz start stop hardStart hardEnd with
      | .ok true => t
      | _ => skipClosed tz start stop hardStart hardEnd fuel (t + 60 * second)

/-- The candidate openings of `next_window_open`: each open span today,
tomorrow and the day after. -/
def openings (now : Instant) (tz : Zone)
    (start stop hardStart hardEnd : TimeOfDay) (spans : List Interval) :
    List Instant :=
  let today := tz.toLocal now / dayMicros
  [0, 1, 2].flatMap fun day => spans.map fun span =>
    skipClosed tz start stop hardStart hardEnd 180
      (tz.toUtc ((today + day) * dayMicros + span.1))

/-- The earliest of the instants after `now`. -/
def earliestAfter (now : Instant) (ts : List Instant) : Option Instant :=
  (ts.filter (now < ·)).min?

/-- `next_window_open` -/
def nextWindowOpen (now : Instant) (tz : Zone)
    (start stop hardStart hardEnd : TimeOfDay) :
    Except WindowError Instant :=
  match isDialableNow now tz start stop hardStart hardEnd with
  | .error e => .error e
  | .ok true => .ok now
  | .ok false =>
      match intervals start stop, intervals hardStart hardEnd with
      | .ok a, .ok b =>
          match intersect a b with
          | [] => .error .noDialableWindow
          | spans =>
              match earliestAfter now
                  (openings now tz start stop hardStart hardEnd spans) with
              | none => .error .noDialableWindow
              | some t => .ok t
      | .error e, _ => .error e
      | _, .error e => .error e

/-! ## The window of a campaign -/

/-- `window_is_open` -/
def windowIsOpen (env : Env) (campaign : Campaign) (policy : RetryPolicy)
    (now : Instant) : Except WindowError Bool :=
  match loadTimezone env campaign.timezone with
  | .error e => .error e
  | .ok tz =>
      isDialableNow now tz policy.windowStart policy.windowEnd
        env.settings.hardCallingWindowStart env.settings.hardCallingWindowEnd

/-- `next_open_time` -/
def nextOpenTime (env : Env) (campaign : Campaign) (policy : RetryPolicy)
    (now : Instant) : Except WindowError Instant :=
  match loadTimezone env campaign.timezone with
  | .error e => .error e
  | .ok tz =>
      nextWindowOpen now tz policy.windowStart policy.windowEnd
        env.settings.hardCallingWindowStart env.settings.hardCallingWindowEnd

/-- Dialing is open only inside the hard bound, whatever the campaign's
own window is. -/
theorem isDialableNow_within {now : Instant} {tz : Zone}
    {start stop hardStart hardEnd : TimeOfDay}
    (h : isDialableNow now tz start stop hardStart hardEnd = .ok true) :
    isWithinCallingWindow now tz start stop = .ok true ∧
      isWithinCallingWindow now tz hardStart hardEnd = .ok true := by
  unfold isDialableNow at h
  split at h
  · cases h
  · cases h
  · next hw => exact ⟨hw, h⟩

/-- An opening is never in the past. -/
theorem nextWindowOpen_ge {now t : Instant} {tz : Zone}
    {start stop hardStart hardEnd : TimeOfDay}
    (h : nextWindowOpen now tz start stop hardStart hardEnd = .ok t) :
    now ≤ t := by
  unfold nextWindowOpen at h
  split at h
  · cases h
  · cases h; exact le_refl _
  · split at h
    · split at h
      · cases h
      · split at h
        · cases h
        · next hmin =>
          cases h
          have hm := List.mem_filter.mp (List.min?_mem hmin)
          exact le_of_lt (by simpa using hm.2)
    · cases h
    · cases h

end CallingAgent
