import PageContext.Proofs.Calendar.Instants
import PageContext.Proofs.Calendar.Timelines

/-!
# Distances in time

A distance moves its base for every amount: one that 32 bits do not hold is refused, and it would lead
out of the representable range anyway.  So a distance in years is the distance in twelve times as many
months, and one in weeks is that in seven times as many days.
-/

namespace PageContext

namespace DistanceUnit

/-- The name of the unit as it stands behind an amount. -/
def plural : DistanceUnit → String
  | .day => "days"
  | .week => "weeks"
  | .month => "months"
  | .year => "years"

theorem ofText?_plural (unit : DistanceUnit) : ofText? unit.plural = some unit := by
  cases unit <;> decide

theorem plural_ne_empty (unit : DistanceUnit) : unit.plural ≠ "" := by
  cases unit <;> decide

theorem isWord_plural (unit : DistanceUnit) : unit.plural.toList.any Text.isBlank = false := by
  cases unit <;> decide

end DistanceUnit

namespace Direction

def opposite : Direction → Direction
  | .forwards => .backwards
  | .backwards => .forwards

theorem sign_opposite (direction : Direction) : direction.opposite.sign = -direction.sign := by
  cases direction <;> rfl

/-- A distance that 32 bits do not hold is far in its direction. -/
theorem far_of_beyond (direction : Direction) {amount : Nat} (beyond : 2 ^ 32 ≤ amount) :
    direction.sign * amount ≤ -(2 ^ 32) ∨ 2 ^ 32 ≤ direction.sign * (amount : Int) := by
  cases direction <;> simp only [sign] <;> omega

theorem sign_mul_mul (direction : Direction) (factor amount : Nat) :
    direction.sign * ((factor * amount : Nat) : Int) = factor * (direction.sign * amount) := by
  rw [Int.natCast_mul, Int.mul_left_comm]

/-- The text of a distance. -/
def distance (direction : Direction) (amount : Nat) (unit : DistanceUnit) : String :=
  direction.mark ++ toString amount ++ (" " ++ unit.plural)

example : forwards.distance 3 .month = "+3 months" := by decide

end Direction

/-! ## Instants some seconds apart -/

theorem Instant.addSeconds?_eq_some_iff {start finish : Instant} {amount : Int}
    (noLeap : start.nanoseconds < nanosecondsPerSecond) :
    start.addSeconds? amount = some finish ↔
      finish.isRepresentable = true ∧ finish = ⟨start.seconds + amount, start.nanoseconds⟩ := by
  have isFraction : ¬nanosecondsPerSecond ≤ start.nanoseconds := Nat.not_le_of_lt noLeap
  simp only [addSeconds?, isFraction, decide_false, Bool.false_and, Bool.false_eq_true, if_false,
    checked?_eq_some_iff]
  constructor
  · rintro ⟨isRepresentable, rfl⟩
    exact ⟨isRepresentable, rfl⟩
  · rintro ⟨isRepresentable, rfl⟩
    exact ⟨isRepresentable, rfl⟩

/-- The way back undoes the way there. -/
theorem Instant.addSeconds?_neg {start finish : Instant} {amount : Int}
    (isStart : start.isRepresentable = true) (noLeap : start.nanoseconds < nanosecondsPerSecond)
    (isThere : start.addSeconds? amount = some finish) : finish.addSeconds? (-amount) = some start := by
  rcases (addSeconds?_eq_some_iff noLeap).mp isThere with ⟨_, isFinish⟩
  have stillNoLeap : finish.nanoseconds < nanosecondsPerSecond := by
    rw [isFinish]
    exact noLeap
  rw [addSeconds?_eq_some_iff stillNoLeap, isFinish]
  refine ⟨isStart, ?_⟩
  simp only [Int.add_neg_cancel_right]

/-- As many seconds as there are in 2 ^ 32 days lead out of the representable range. -/
theorem Instant.addSeconds?_eq_none {start : Instant} (isStart : start.isRepresentable = true)
    {amount : Int} (far : amount ≤ -(2 ^ 32 * 86400) ∨ 2 ^ 32 * 86400 ≤ amount) :
    start.addSeconds? amount = none := by
  have bounds := isRepresentable_iff.mp isStart
  rw [addSeconds?]
  split <;> rw [checked?_eq_none_iff] <;> simp only [leastSeconds, greatestSeconds] at * <;> omega

namespace TimeFrame

variable {frame : TimeFrame} {start finish : Instant}

/-- The local year of a representable instant is not far from the representable ones. -/
theorem IsValid.year_bounds (isValid : frame.IsValid) (isStart : start.isRepresentable = true) :
    Date.leastYear - 2 ≤ (frame.localDate start).year ∧
      (frame.localDate start).year ≤ Date.greatestYear + 2 := by
  have dayBounds := Date.toDays_bounds (frame.exists_localDate start)
  have offsetBounds := isValid.offset_bounds
  have startBounds := Instant.isRepresentable_iff.mp isStart
  have isDay : (frame.localDate start).toDays = frame.dayNumber start := by
    rw [localDate_eq_ofDays, Date.toDays_ofDays]
  rw [isDay] at dayBounds
  simp only [dayNumber, Date.daysBeforeYear, Date.epochDays, secondsPerDay, Instant.leastSeconds,
    Instant.greatestSeconds, Date.leastYear, Date.greatestYear] at *
  omega

/-- Months that 32 bits do not hold lead out of the representable range. -/
theorem IsValid.addMonths?_eq_none (isValid : frame.IsValid)
    (isStart : start.isRepresentable = true) {months : Int}
    (far : months ≤ -(2 ^ 32) ∨ 2 ^ 32 ≤ months) : frame.addMonths? start months = none := by
  rw [Option.eq_none_iff_forall_ne_some]
  intro finish isFinish
  rcases addMonths?_eq_some_iff.mp isFinish with ⟨_, ⟨isDate, inRange, sameMonth, _⟩, _, _⟩
  have startBounds := isValid.year_bounds isStart
  have startMonth := (frame.exists_localDate start).month
  have finishMonth := isDate.month
  simp only [Date.monthIndex, Date.leastYear, Date.greatestYear] at *
  omega

theorem IsValid.move?_eq_none (isValid : frame.IsValid) (isStart : start.isRepresentable = true)
    {amount : Int} (far : amount ≤ -(2 ^ 32) ∨ 2 ^ 32 ≤ amount) (unit : DistanceUnit) :
    frame.move? start amount unit = none := by
  cases unit with
  | day => exact Instant.addSeconds?_eq_none isStart (by omega)
  | week => exact Instant.addSeconds?_eq_none isStart (by omega)
  | month => exact isValid.addMonths?_eq_none isStart far
  | year => exact isValid.addMonths?_eq_none isStart (by omega)

/-- A distance moves its base, whatever the amount is. -/
theorem IsValid.evaluate?_eq_move? (isValid : frame.IsValid)
    (isStart : start.isRepresentable = true) (direction : Direction) (amount : Nat)
    (unit : DistanceUnit) :
    frame.evaluate? (direction.distance amount unit) (some start) =
      frame.move? start (direction.sign * amount) unit := by
  by_cases fits : amount < Nat.pow 2 32
  · exact frame.evaluate?_distance start direction fits unit.ofText?_plural unit.plural_ne_empty
      unit.isWord_plural
  · have tooLarge : Nat.pow 2 32 ≤ amount := Nat.le_of_not_lt fits
    rw [isValid.move?_eq_none isStart (direction.far_of_beyond tooLarge)]
    exact frame.evaluate?_distance_eq_none start direction tooLarge unit.ofText?_plural
      unit.plural_ne_empty unit.isWord_plural

end TimeFrame

/-! ## Local times some months apart -/

/-- The month some months away has a day for every day, its last one for those beyond. -/
theorem Date.exists_monthsAway {start : Date} (isStart : start.Exists) (months : Int) :
    ∃ date : Date, date.Exists ∧ date.monthIndex = start.monthIndex + months ∧
      date.day = min start.day (monthLength date.year date.month) := by
  obtain ⟨year, month, isMonth, isIndex⟩ : ∃ (year : Int) (month : Nat),
      (1 ≤ month ∧ month ≤ 12) ∧ 12 * year + ((month : Int) - 1) = start.monthIndex + months :=
    ⟨(start.monthIndex + months) / 12, ((start.monthIndex + months) % 12).toNat + 1, by omega,
      by omega⟩
  have first := (exists_first year isMonth).day.2
  refine ⟨⟨year, month, min start.day (monthLength year month)⟩, ⟨isMonth, ?_, ?_⟩, isIndex, rfl⟩
  · exact Nat.le_min.mpr ⟨isStart.day.1, first⟩
  · exact Nat.min_le_right _ _

namespace LocalTime

/-- The local time some months away, in the calendar that goes on without an end: it lies in the
month so many months away, on the same day or on the last one of a shorter month, at the same time
of day. -/
structure IsMonthsFrom (months : Int) (start finish : LocalTime) : Prop where
  isDate : finish.date.Exists
  month : finish.date.monthIndex = start.date.monthIndex + months
  day : finish.date.day =
    min start.date.day (Date.monthLength finish.date.year finish.date.month)
  secondOfDay : finish.secondOfDay = start.secondOfDay
  nanoseconds : finish.nanoseconds = start.nanoseconds

theorem exists_isMonthsFrom {start : LocalTime} (isStart : start.date.Exists) (months : Int) :
    ∃ finish, IsMonthsFrom months start finish := by
  rcases Date.exists_monthsAway isStart months with ⟨date, isDate, month, day⟩
  exact ⟨{ start with date := date }, isDate, month, day, rfl, rfl⟩

theorem IsMonthsFrom.unique {months : Int} {start first second : LocalTime}
    (isFirst : IsMonthsFrom months start first) (isSecond : IsMonthsFrom months start second) :
    first = second := by
  rcases (Date.monthIndex_eq_iff isFirst.isDate isSecond.isDate).mp
    (isFirst.month.trans isSecond.month.symm) with ⟨sameYear, sameMonth⟩
  have sameDay : first.date.day = second.date.day := by
    rw [isFirst.day, isSecond.day, sameYear, sameMonth]
  have sameSecond := isFirst.secondOfDay.trans isSecond.secondOfDay.symm
  have sameFraction := isFirst.nanoseconds.trans isSecond.nanoseconds.symm
  rcases first with ⟨⟨_, _, _⟩, _, _⟩
  rcases second with ⟨⟨_, _, _⟩, _, _⟩
  simp_all

/-- The date of a local time is in the representable range of dates. -/
def InYears (time : LocalTime) : Prop :=
  Date.leastYear ≤ time.date.year ∧ time.date.year ≤ Date.greatestYear

end LocalTime

namespace TimeFrame

variable {frame : TimeFrame} {start finish : Instant} {months : Int} {shifted : LocalTime}

theorem isMonthsFrom_iff
    (isShifted : LocalTime.IsMonthsFrom months (frame.localTime start) shifted) :
    frame.IsMonthsFrom months start finish ↔
      (months = 0 ∨ shifted.InYears) ∧ finish.isRepresentable = true ∧
        frame.localTime finish = shifted := by
  constructor
  · intro isAway
    have isFinish : LocalTime.IsMonthsFrom months (frame.localTime start)
        (frame.localTime finish) :=
      ⟨isAway.date.isDate, isAway.date.month, isAway.date.day, isAway.secondOfDay,
        isAway.nanoseconds⟩
    have isSame := isFinish.unique isShifted
    refine ⟨?_, isAway.isRepresentable, isSame⟩
    rw [← isSame]
    exact isAway.date.inRange
  · rintro ⟨inRange, isRepresentable, rfl⟩
    exact ⟨isRepresentable, ⟨isShifted.isDate, inRange, isShifted.month, isShifted.day⟩,
      isShifted.secondOfDay, isShifted.nanoseconds⟩

/-- A distance in months is missing only when the date so many months away is not representable. -/
theorem addMonths?_eq_none_iff
    (isShifted : LocalTime.IsMonthsFrom months (frame.localTime start) shifted) :
    frame.addMonths? start months = none ↔
      (months ≠ 0 ∧ ¬shifted.InYears) ∨
        ∀ instant : Instant, instant.isRepresentable = true → frame.localTime instant ≠ shifted := by
  have isFinish (finish : Instant) : frame.addMonths? start months = some finish ↔
      (months = 0 ∨ shifted.InYears) ∧ finish.isRepresentable = true ∧
        frame.localTime finish = shifted :=
    addMonths?_eq_some_iff.trans (isMonthsFrom_iff isShifted)
  rw [Option.eq_none_iff_forall_ne_some]
  simp only [ne_eq, isFinish]
  by_cases inRange : months = 0 ∨ shifted.InYears
  · have notOut : ¬(months ≠ 0 ∧ ¬shifted.InYears) := by tauto
    simp [inRange, notOut]
  · have isOut : months ≠ 0 ∧ ¬shifted.InYears := by tauto
    simp [isOut]

end TimeFrame

/-! ## What distances lead to -/

/-- What the distances of some amount lead to from a base. -/
structure Direction.IsExact (direction : Direction) (frame : TimeFrame) (base : Instant)
    (amount : Nat) : Prop where
  /-- A distance in months leads to the instant at which the local clock shows the same time of the
  same day, or of the last one, of the month so many months away.  There is none only if this date
  is not representable or no representable instant has this local time. -/
  months : ∃ shifted,
    LocalTime.IsMonthsFrom (direction.sign * amount) (frame.localTime base) shifted ∧
      (∀ finish, frame.evaluate? (direction.distance amount .month) (some base) = some finish →
        finish.isRepresentable = true ∧ frame.localTime finish = shifted) ∧
      (frame.evaluate? (direction.distance amount .month) (some base) = none ↔
        (amount ≠ 0 ∧ ¬shifted.InYears) ∨
          ∀ instant : Instant, instant.isRepresentable = true → frame.localTime instant ≠ shifted)
  years : frame.evaluate? (direction.distance amount .year) (some base) =
    frame.evaluate? (direction.distance (12 * amount) .month) (some base)
  weeks : frame.evaluate? (direction.distance amount .week) (some base) =
    frame.evaluate? (direction.distance (7 * amount) .day) (some base)
  /-- There is nothing where 32 bits do not hold the number of months or days. -/
  beyond : (2 ^ 32 ≤ 12 * amount →
      frame.evaluate? (direction.distance amount .year) (some base) = none) ∧
    (2 ^ 32 ≤ 7 * amount → frame.evaluate? (direction.distance amount .week) (some base) = none)
  /-- The way back in days undoes the way there. -/
  back {finish : Instant}
    (isThere : frame.evaluate? (direction.distance amount .day) (some base) = some finish) :
    frame.evaluate? (direction.opposite.distance amount .day) (some finish) = some base

namespace TimeFrame.IsValid

variable {frame : TimeFrame} (isValid : frame.IsValid) {base : Instant}
  (isBase : base.isRepresentable = true) (direction : Direction) (amount : Nat)

include isValid isBase

theorem evaluate?_months {shifted : LocalTime}
    (isShifted : LocalTime.IsMonthsFrom (direction.sign * amount) (frame.localTime base) shifted) :
    (∀ finish, frame.evaluate? (direction.distance amount .month) (some base) = some finish →
      finish.isRepresentable = true ∧ frame.localTime finish = shifted) ∧
    (frame.evaluate? (direction.distance amount .month) (some base) = none ↔
      (amount ≠ 0 ∧ ¬shifted.InYears) ∨
        ∀ instant : Instant, instant.isRepresentable = true → frame.localTime instant ≠ shifted) := by
  have isHere : direction.sign * (amount : Int) ≠ 0 ↔ amount ≠ 0 := by
    cases direction <;> simp [Direction.sign]
  rw [isValid.evaluate?_eq_move? isBase, move?, addMonths?_eq_none_iff isShifted, isHere]
  refine ⟨?_, Iff.rfl⟩
  intro finish isFinish
  exact ((isMonthsFrom_iff isShifted).mp (addMonths?_eq_some_iff.mp isFinish)).2

theorem evaluate?_years :
    frame.evaluate? (direction.distance amount .year) (some base) =
      frame.evaluate? (direction.distance (12 * amount) .month) (some base) := by
  rw [isValid.evaluate?_eq_move? isBase, isValid.evaluate?_eq_move? isBase, direction.sign_mul_mul]
  rfl

theorem evaluate?_weeks :
    frame.evaluate? (direction.distance amount .week) (some base) =
      frame.evaluate? (direction.distance (7 * amount) .day) (some base) := by
  rw [isValid.evaluate?_eq_move? isBase, isValid.evaluate?_eq_move? isBase, direction.sign_mul_mul,
    move?, move?]
  congr 1
  omega

/-- An amount that 32 bits do not hold leads nowhere. -/
theorem evaluate?_eq_none (unit : DistanceUnit) (beyond : 2 ^ 32 ≤ amount) :
    frame.evaluate? (direction.distance amount unit) (some base) = none := by
  rw [isValid.evaluate?_eq_move? isBase]
  exact isValid.move?_eq_none isBase (direction.far_of_beyond beyond) unit

theorem evaluate?_back (noLeap : base.nanoseconds < nanosecondsPerSecond) {finish : Instant}
    (isThere : frame.evaluate? (direction.distance amount .day) (some base) = some finish) :
    frame.evaluate? (direction.opposite.distance amount .day) (some finish) = some base := by
  rw [isValid.evaluate?_eq_move? isBase, move?] at isThere
  have isFinish := ((Instant.addSeconds?_eq_some_iff noLeap).mp isThere).1
  rw [isValid.evaluate?_eq_move? isFinish, move?, direction.sign_opposite, Int.neg_mul, Int.mul_neg]
  exact Instant.addSeconds?_neg isBase noLeap isThere

end TimeFrame.IsValid

/-- Distances do exact calendar arithmetic, for every amount. -/
theorem TimeFrame.distances_exact {frame : TimeFrame} (isValid : frame.IsValid) {milliseconds : Int}
    {base : Instant} (isBase : Instant.ofMilliseconds? milliseconds = some base)
    (direction : Direction) (amount : Nat) : direction.IsExact frame base amount := by
  have isRepresentable := Instant.isRepresentable_of_ofMilliseconds? isBase
  have noLeap := Instant.nanoseconds_of_ofMilliseconds? isBase
  have years := isValid.evaluate?_years isRepresentable direction amount
  have weeks := isValid.evaluate?_weeks isRepresentable direction amount
  refine ⟨?_, years, weeks, ⟨?_, ?_⟩, isValid.evaluate?_back isRepresentable direction amount noLeap⟩
  · rcases LocalTime.exists_isMonthsFrom (frame.exists_localDate base) (direction.sign * amount)
      with ⟨shifted, isShifted⟩
    exact ⟨shifted, isShifted, isValid.evaluate?_months isRepresentable direction amount isShifted⟩
  · intro beyond
    rw [years]
    exact isValid.evaluate?_eq_none isRepresentable direction _ .month beyond
  · intro beyond
    rw [weeks]
    exact isValid.evaluate?_eq_none isRepresentable direction _ .day beyond

/-- Twelve times the years of this distance are more months than 32 bits hold. -/
theorem TimeFrame.distances_exact_beyond_bits :
    (TimeFrame.mk (-21600) ⟨0, 0⟩).IsValid ∧
      Instant.ofMilliseconds? 1580535000000 = some ⟨1580535000, 0⟩ ∧
      Direction.forwards.IsExact ⟨-21600, ⟨0, 0⟩⟩ ⟨1580535000, 0⟩ 357913942 := by
  have isValid : (TimeFrame.mk (-21600) ⟨0, 0⟩).IsValid := ⟨by decide, by decide⟩
  have isBase : Instant.ofMilliseconds? 1580535000000 = some ⟨1580535000, 0⟩ := by decide
  exact ⟨isValid, isBase, distances_exact isValid isBase .forwards 357913942⟩

end PageContext
