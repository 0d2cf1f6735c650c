import CallingAgent.Services.SpendCap

/-!
# Budget days — where the day of the budget begins and ends

The window of a budget day runs from one local midnight to the next. The
windows of all days cut time into pieces, and every instant is in the one
of its own date, as long as no change of the offset passes over a midnight.
-/

namespace CallingAgent

open Lib

/-- **Budget days partition time**: every instant is inside its own window,
consecutive windows abut, and every instant is in exactly one window. -/
structure BudgetDaysPartition (tz : Zone) : Prop where
  own : ∀ now, (budgetWindow now tz).start ≤ now ∧
    now < (budgetWindow now tz).stop
  abut : ∀ day, (dayWindow day tz).stop = (dayWindow (day + 1) tz).start
  unique : ∀ now, ∃! day, (dayWindow day tz).covers now = true

/-- The wall clock of `tz` is moved over a midnight, without showing it on
the way up or after having shown more on the way down. -/
def Zone.MidnightStraddled (tz : Zone) : Prop :=
  ∃ T day : Int, Straddles tz.toLocal T (day * dayMicros)

theorem dayWindow_covers {tz : Zone} {day now : Int} :
    (dayWindow day tz).covers now = true ↔
      tz.toUtc (day * dayMicros) ≤ now ∧
        now < tz.toUtc ((day + 1) * dayMicros) := by
  rw [BudgetWindow.covers, Bool.and_eq_true]
  exact and_congr decide_eq_true_iff decide_eq_true_iff

/-- The budget days of a zone partition time exactly when its wall clock is
never moved over a midnight. A midnight may be skipped or repeated as long as
the move begins or ends on it. -/
theorem budgetDays_partition_iff (c : WallClock) :
    BudgetDaysPartition (.ofClock c) ↔
      ¬ (Zone.ofClock c).MidnightStraddled := by
  have hday : (0 : Int) < dayMicros := by decide
  have hiff := days_iff c hday
  have hpart : Partitions (fun d => c.instant (d * dayMicros)) ↔
      ∀ now, ∃! day, (dayWindow day (.ofClock c)).covers now = true := by
    simp only [Partitions, dayWindow_covers]
    rfl
  constructor
  · rintro ⟨hown, -, hunique⟩ ⟨T, day, hstr⟩
    exact hiff.mp ⟨hown, hpart.mpr hunique⟩ T day hstr
  · intro hnone
    obtain ⟨hown, hunique⟩ := hiff.mpr fun T d h => hnone ⟨T, d, h⟩
    exact ⟨hown, fun _ => rfl, hpart.mp hunique⟩

/-! ## A repeated midnight -/

/-- St. John's, Newfoundland in 2006: on 29 October the clock went from
00:01 back to 23:01. -/
def stJohns : WallClock where
  initial := -9000 * second
  changes := [(1162089060 * second, -12600 * second)]
  ordered := List.pairwise_singleton _ _

/-- When the clock goes back, it is 28 October again, and the window of that
day is over for a minute already. -/
theorem stJohns_outside :
    localDate (1162089060 * second) (.ofClock stJohns) = 13449 ∧
      (budgetWindow (1162089060 * second) (.ofClock stJohns)).stop
        < 1162089060 * second ∧
      ¬ BudgetDaysPartition (.ofClock stJohns) := by
  have hdate : localDate (1162089060 * second) (.ofClock stJohns) = 13449 := by
    decide
  have hstop : (budgetWindow (1162089060 * second) (.ofClock stJohns)).stop
      < 1162089060 * second := by
    decide
  refine ⟨hdate, hstop, fun h => ?_⟩
  exact absurd (h.own (1162089060 * second)).2 (Int.not_lt.mpr (Int.le_of_lt hstop))

end CallingAgent
