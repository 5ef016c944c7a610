import Mathlib.Algebra.BigOperators.Group.List.Basic
import Mathlib.Algebra.GroupWithZero.Nat
import Std.Data.String.ToInt
import PageContext.Calendar.Label

/-!
# Days and their labels

The dates of the calendar are numbered without gaps: the date of a number has this number.  A later
instant never has an earlier local day.  The label of a distance in days determines the distance.
-/

namespace PageContext

namespace Date

/-- The month and the day of an index lie at this index. -/
theorem monthAndDay_sound (lengths : List Nat) (month index : Nat) :
    month ≤ (monthAndDay lengths month index).1 ∧ 1 ≤ (monthAndDay lengths month index).2 ∧
      (lengths.take ((monthAndDay lengths month index).1 - month)).sum +
        ((monthAndDay lengths month index).2 - 1) = index := by
  induction lengths generalizing month index with
  | nil => simp [monthAndDay]
  | cons length lengths hypothesis =>
      by_cases inMonth : index < length
      · simp [monthAndDay, inMonth]
      · have later := hypothesis (month + 1) (index - length)
        simp only [monthAndDay, inMonth, if_false]
        rcases later with ⟨notBefore, positive, located⟩
        refine ⟨by omega, positive, ?_⟩
        have oneMore : (monthAndDay lengths (month + 1) (index - length)).1 - month =
            ((monthAndDay lengths (month + 1) (index - length)).1 - (month + 1)) + 1 := by
          omega
        rw [oneMore, List.take_succ_cons, List.sum_cons]
        omega

theorem daysBeforeYear_cycles {cycles centuries fours ones : Int}
    (centuriesBound : 0 ≤ centuries ∧ centuries ≤ 3) (foursBound : 0 ≤ fours ∧ fours ≤ 24)
    (onesBound : 0 ≤ ones ∧ ones ≤ 3) :
    daysBeforeYear (400 * cycles + 100 * centuries + 4 * fours + ones + 1) =
      146097 * cycles + 36524 * centuries + 1461 * fours + 365 * ones := by
  rw [daysBeforeYear]
  omega

/-- The date with a number has this number. -/
theorem toDays_ofDays (number : Int) : (ofDays number).toDays = number := by
  unfold ofDays
  extract_lets days cycles inCycle centuries inCentury fours inFour ones inYear year
  rcases monthAndDay_sound (monthLengths (isLeapYear year)) 1 inYear.toNat with
    ⟨_, positive, located⟩
  have before : daysBeforeYear year =
      146097 * cycles + 36524 * centuries + 1461 * fours + 365 * ones := by
    apply daysBeforeYear_cycles <;> omega
  simp only [toDays, daysBeforeMonth, ← List.sum_eq_foldl, before]
  omega

theorem ofDays_injective : Function.Injective ofDays :=
  Function.LeftInverse.injective toDays_ofDays

end Date

/-- An instant given in milliseconds and moved by some hours lies in the second that is counted. -/
theorem Instant.seconds_of_addHours? {milliseconds hours : Int} {instant moved : Instant}
    (isInstant : Instant.ofMilliseconds? milliseconds = some instant)
    (isMoved : instant.addHours? hours = some moved) :
    moved.seconds = milliseconds / 1000 + 3600 * hours := by
  simp only [ofMilliseconds?, checked?, Option.ite_none_right_eq_some,
    Option.some.injEq] at isInstant
  rcases isInstant with ⟨_, rfl⟩
  have noLeap : ¬nanosecondsPerSecond ≤ (milliseconds % 1000).toNat * 1000000 := by
    rw [nanosecondsPerSecond]
    omega
  simp only [addHours?, addSeconds?, noLeap, decide_false, Bool.false_and, Bool.false_eq_true,
    if_false, checked?, Option.ite_none_right_eq_some, Option.some.injEq] at isMoved
  rcases isMoved with ⟨_, rfl⟩
  rfl

namespace TimeFrame

/-- The number of the local day of an instant. -/
def dayNumber (frame : TimeFrame) (instant : Instant) : Int :=
  (instant.seconds + frame.offset) / secondsPerDay

theorem localDate_eq_ofDays (frame : TimeFrame) (instant : Instant) :
    frame.localDate instant = Date.ofDays (frame.dayNumber instant) := rfl

/-- A later instant does not lie on an earlier day. -/
theorem dayNumber_mono (frame : TimeFrame) {earlier later : Instant}
    (order : earlier.seconds ≤ later.seconds) : frame.dayNumber earlier ≤ frame.dayNumber later := by
  simp only [dayNumber, secondsPerDay]
  omega

theorem timeAgoInDays_eq {frame : TimeFrame} {instant moved today : Instant} {hours : Int}
    (isToday : frame.now.addHours? hours = some today)
    (isMoved : instant.addHours? hours = some moved) (hasToday : frame.hasLocalDate today = true)
    (hasDay : frame.hasLocalDate moved = true) :
    frame.timeAgoInDays instant hours =
      .ok (relativeDayLabel (frame.dayNumber today - frame.dayNumber moved)) := by
  simp [timeAgoInDays, daysAgo, countedDay, isToday, isMoved, hasToday, hasDay,
    localDate_eq_ofDays, Date.toDays_ofDays, bind, Except.bind, pure, Except.pure, Except.map]

end TimeFrame

/-! ## Labels of distances -/

theorem relativeDayLabel_past {days : Int} (past : 1 < days) :
    relativeDayLabel days = toString days ++ " days ago" := by
  rw [relativeDayLabel]
  rw [if_neg (by omega), if_neg (by omega), if_neg (by omega), if_pos (by omega)]

theorem relativeDayLabel_future {days : Int} (future : days < -1) :
    relativeDayLabel days = "in " ++ toString (-days) ++ " days" := by
  rw [relativeDayLabel]
  rw [if_neg (by omega), if_neg (by omega), if_neg (by omega), if_neg (by omega)]

/-- The last character of a label, which tells the past, the future and the days around today
apart. -/
theorem relativeDayLabel_getLast? (days : Int) :
    (relativeDayLabel days).toList.getLast? =
      some (if 1 < days then 'o' else if days < -1 then 's'
        else if days = -1 then 'w' else 'y') := by
  by_cases past : 1 < days
  · rw [relativeDayLabel_past past, if_pos past, String.toList_append, List.getLast?_append]
    rfl
  by_cases future : days < -1
  · rw [relativeDayLabel_future future, if_neg past, if_pos future, String.toList_append,
      List.getLast?_append]
    rfl
  · have near : days = -1 ∨ days = 0 ∨ days = 1 := by omega
    rcases near with rfl | rfl | rfl <;> rfl

theorem relativeDayLabel_ne_empty (days : Int) : relativeDayLabel days ≠ "" := by
  intro empty
  have last := relativeDayLabel_getLast? days
  rw [empty] at last
  contradiction

/-- Different distances in days have different labels. -/
theorem relativeDayLabel_injective : Function.Injective relativeDayLabel := by
  intro first second same
  have sameLast := relativeDayLabel_getLast? first
  rw [same, relativeDayLabel_getLast? second, Option.some.injEq] at sameLast
  by_cases past : 1 < first
  · have otherPast : 1 < second := by
      grind
    rw [relativeDayLabel_past past, relativeDayLabel_past otherPast,
      String.append_left_inj] at same
    exact Int.repr_injective same
  by_cases future : first < -1
  · have otherFuture : second < -1 := by
      grind
    rw [relativeDayLabel_future future, relativeDayLabel_future otherFuture,
      String.append_left_inj, String.append_right_inj] at same
    exact neg_injective (Int.repr_injective same)
  · have otherPast : ¬1 < second := by
      grind
    have otherFuture : ¬second < -1 := by
      grind
    have near : first = -1 ∨ first = 0 ∨ first = 1 := by omega
    have otherNear : second = -1 ∨ second = 0 ∨ second = 1 := by omega
    rcases near with rfl | rfl | rfl <;> rcases otherNear with rfl | rfl | rfl <;>
      first | rfl | exact absurd same (by decide)

end PageContext
