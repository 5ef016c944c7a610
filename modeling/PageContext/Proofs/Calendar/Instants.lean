import PageContext.Proofs.Calendar.Shifts

/-!
# Instants and time frames

Instants are ordered by their seconds and within a second by its fraction.  A time frame is one of a
clock when its offset is less than a day and its now is representable; then the local days of
representable instants are not far from the representable range, and a local time of the years with
four digits is the local time of an instant.
-/

namespace PageContext

namespace Instant

/-- The order in time; a leap second comes after the second with which it is written. -/
instance : LE Instant where
  le earlier later := earlier.seconds < later.seconds ∨
    earlier.seconds = later.seconds ∧ earlier.nanoseconds ≤ later.nanoseconds

theorem le_iff {earlier later : Instant} :
    earlier ≤ later ↔ earlier.seconds < later.seconds ∨
      earlier.seconds = later.seconds ∧ earlier.nanoseconds ≤ later.nanoseconds :=
  Iff.rfl

theorem ofMilliseconds?_eq_some_iff {milliseconds : Int} {instant : Instant} :
    ofMilliseconds? milliseconds = some instant ↔
      (leastSeconds ≤ milliseconds / 1000 ∧ milliseconds / 1000 ≤ greatestSeconds) ∧
        instant = ⟨milliseconds / 1000, (milliseconds % 1000).toNat * 1000000⟩ := by
  simp only [ofMilliseconds?, checked?, isRepresentable, Option.ite_none_right_eq_some,
    Bool.and_eq_true, decide_eq_true_iff, Option.some.injEq]
  exact and_congr_right' eq_comm

/-- More milliseconds do not lead to an earlier instant. -/
theorem ofMilliseconds?_mono {fewer more : Int} {earlier later : Instant} (order : fewer ≤ more)
    (isEarlier : ofMilliseconds? fewer = some earlier)
    (isLater : ofMilliseconds? more = some later) : earlier ≤ later := by
  rcases ofMilliseconds?_eq_some_iff.mp isEarlier with ⟨_, rfl⟩
  rcases ofMilliseconds?_eq_some_iff.mp isLater with ⟨_, rfl⟩
  rw [le_iff]
  dsimp only
  omega

theorem isRepresentable_iff {instant : Instant} :
    instant.isRepresentable = true ↔
      leastSeconds ≤ instant.seconds ∧ instant.seconds ≤ greatestSeconds := by
  rw [isRepresentable, Bool.and_eq_true, decide_eq_true_iff, decide_eq_true_iff]

theorem isRepresentable_of_ofMilliseconds? {milliseconds : Int} {instant : Instant}
    (isInstant : ofMilliseconds? milliseconds = some instant) : instant.isRepresentable = true := by
  rcases ofMilliseconds?_eq_some_iff.mp isInstant with ⟨inRange, rfl⟩
  exact isRepresentable_iff.mpr inRange

/-- No leap second is given in milliseconds. -/
theorem nanoseconds_of_ofMilliseconds? {milliseconds : Int} {instant : Instant}
    (isInstant : ofMilliseconds? milliseconds = some instant) :
    instant.nanoseconds < nanosecondsPerSecond := by
  rcases ofMilliseconds?_eq_some_iff.mp isInstant with ⟨_, rfl⟩
  dsimp only [nanosecondsPerSecond]
  omega

end Instant

namespace Date

/-- The days before the first one of a month are days of its year. -/
theorem daysBeforeMonth_le (year : Int) (month : Nat) : daysBeforeMonth year month ≤ 366 := by
  have isPart := List.take_append_drop (month - 1) (monthLengths (isLeapYear year))
  have isSum := congrArg List.sum isPart
  rw [List.sum_append, sum_monthLengths] at isSum
  rw [daysBeforeMonth, ← List.sum_eq_foldl]
  split at isSum <;> omega

/-- A date lies less than 400 days behind the beginning of its year. -/
theorem toDays_bounds {date : Date} (isDate : date.Exists) :
    daysBeforeYear date.year - epochDays ≤ date.toDays ∧
      date.toDays < daysBeforeYear date.year - epochDays + 400 := by
  have before := daysBeforeMonth_le date.year date.month
  have short := monthLength_le date.year date.month
  have isDay := isDate.day
  rw [toDays]
  omega

/-- Dates are ordered by year, month and day. -/
theorem toDays_lt_of_before {first second : Date} (firstExists : first.Exists)
    (secondExists : second.Exists)
    (before : first.year < second.year ∨ first.year = second.year ∧
      (first.month < second.month ∨ first.month = second.month ∧ first.day < second.day)) :
    first.toDays < second.toDays := by
  by_contra notBefore
  have order : second.toDays ≤ first.toDays := Int.not_lt.mp notBefore
  have years := year_le_of_toDays_le secondExists firstExists order
  have months := fun sameYear => month_le_of_toDays_le secondExists firstExists sameYear order
  rcases before with lessYear | ⟨sameYear, lessMonth | ⟨sameMonth, lessDay⟩⟩
  · omega
  · have := months sameYear.symm
    omega
  · have firstDay := firstExists.day
    simp only [toDays, sameYear, sameMonth] at order
    omega

end Date

/-- The instant at which a clock with the given offset shows a local time of a year with four digits
is representable. -/
theorem LocalTime.exists_instant {time : LocalTime} {offset : Int} (isDate : time.date.Exists)
    (inDay : (time.secondOfDay : Int) < secondsPerDay)
    (inYears : 0 ≤ time.date.year ∧ time.date.year ≤ 9999)
    (isOffset : -secondsPerDay < offset ∧ offset < secondsPerDay) :
    ∃ instant, time.toInstant? offset = some instant ∧ instant.isRepresentable = true ∧
      instant.toLocal offset = time := by
  have bounds := Date.toDays_bounds isDate
  have isRead : time.toInstant? offset =
      some ⟨time.date.toDays * secondsPerDay + time.secondOfDay - offset, time.nanoseconds⟩ := by
    rw [LocalTime.toInstant?, Instant.checked?_eq_some_iff, Instant.isRepresentable_iff]
    refine ⟨?_, rfl⟩
    simp only [Date.daysBeforeYear, Date.epochDays, secondsPerDay, Instant.leastSeconds,
      Instant.greatestSeconds] at *
    omega
  exact ⟨_, isRead, (LocalTime.toInstant?_eq_some_iff time isDate inDay).mp isRead⟩

namespace TimeFrame

/-- A frame of a clock: its offset is less than a day, and what counts as now is representable. -/
structure IsValid (frame : TimeFrame) : Prop where
  offset : offsetOfSeconds? frame.offset = some frame.offset
  now : frame.now.isRepresentable = true

theorem offsetOfSeconds?_eq_some_iff {seconds offset : Int} :
    offsetOfSeconds? seconds = some offset ↔
      (-secondsPerDay < seconds ∧ seconds < secondsPerDay) ∧ seconds = offset := by
  simp [offsetOfSeconds?]

theorem IsValid.offset_bounds {frame : TimeFrame} (isValid : frame.IsValid) :
    -secondsPerDay < frame.offset ∧ frame.offset < secondsPerDay :=
  (offsetOfSeconds?_eq_some_iff.mp isValid.offset).1

end TimeFrame

end PageContext
