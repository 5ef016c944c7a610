import Mathlib.Algebra.Order.Group.Unbundled.Int
import PageContext.Proofs.Calendar.Instants

/-!
# Distances in calendar days

Instants and now are moved by some hours before their local days are counted.  The distance in
days stays within a day of the time that elapsed, and moving by hours counts like an offset that is
larger by these hours.  Both are off by a second where now is a leap second, which is not among the
86400 seconds of its day and moves back to the second after the one it is written with.
-/

namespace PageContext

namespace Instant

/-- The time from one instant to another in nanoseconds. -/
def nanosecondsSince (later earlier : Instant) : Int :=
  (later.seconds - earlier.seconds) * nanosecondsPerSecond +
    (later.nanoseconds - earlier.nanoseconds)

/-- A leap second is written with the second before it and a whole second as its fraction. -/
def IsLeap (instant : Instant) : Prop :=
  nanosecondsPerSecond ≤ instant.nanoseconds

instance (instant : Instant) : Decidable instant.IsLeap :=
  inferInstanceAs (Decidable (_ ≤ _))

theorem movedSeconds_eq_ite (instant : Instant) (hours : Int) :
    instant.movedSeconds hours =
      instant.seconds + 3600 * hours + if instant.IsLeap ∧ hours < 0 then 1 else 0 := rfl

theorem movedSeconds_eq {instant : Instant} (noLeap : instant.nanoseconds < nanosecondsPerSecond)
    (hours : Int) : instant.movedSeconds hours = instant.seconds + 3600 * hours := by
  have isFraction : ¬(instant.IsLeap ∧ hours < 0) := fun isLeap => by
    have := isLeap.1
    rw [IsLeap] at this
    omega
  rw [movedSeconds_eq_ite, if_neg isFraction, Int.add_zero]

@[simp] theorem movedSeconds_zero (instant : Instant) : instant.movedSeconds 0 = instant.seconds := by
  simp [movedSeconds]

theorem not_leavesRange_zero {instant : Instant} (isInstant : instant.isRepresentable = true) :
    ¬instant.LeavesRange 0 := by
  simpa [LeavesRange] using isRepresentable_iff.mp isInstant

end Instant

namespace TimeFrame

variable {frame : TimeFrame} {hours : Int} {instant : Instant} {days : Int}

/-- The number of the local day of an instant that is moved by some hours. -/
def dayAfter (frame : TimeFrame) (instant : Instant) (hours : Int) : Int :=
  (instant.movedSeconds hours + frame.offset) / secondsPerDay

theorem toDays_of_countedDay {day : Date} (isDay : frame.countedDay instant hours = .ok day) :
    day.toDays = frame.dayAfter instant hours := by
  rcases Option.map_eq_some_iff.mp (countedDay_eq_ok_iff.mp isDay).1 with ⟨moved, isMoved, rfl⟩
  rw [localDate_eq_ofDays, Date.toDays_ofDays, dayNumber, dayAfter,
    Instant.seconds_eq_movedSeconds isMoved]

theorem daysAgo?_eq_some_iff :
    frame.daysAgo? instant hours = some days ↔
      (frame.HasDay hours frame.now ∧ frame.HasDay hours instant) ∧
        days = frame.dayAfter frame.now hours - frame.dayAfter instant hours := by
  rw [daysAgo?, Except.toOption_eq_some_iff, daysAgo_eq_ok_iff]
  constructor
  · rintro ⟨today, day, isToday, isDay, rfl⟩
    rw [toDays_of_countedDay isToday, toDays_of_countedDay isDay]
    exact ⟨⟨(countedDay_eq_ok_iff.mp isToday).2, (countedDay_eq_ok_iff.mp isDay).2⟩, rfl⟩
  · rintro ⟨⟨hasToday, hasDay⟩, rfl⟩
    rcases exists_countedDay_iff.mpr hasToday with ⟨today, isToday⟩
    rcases exists_countedDay_iff.mpr hasDay with ⟨day, isDay⟩
    refine ⟨today, day, isToday, isDay, ?_⟩
    rw [toDays_of_countedDay isToday, toDays_of_countedDay isDay]

/-- Now is a leap second, which some hours move back to the first second of a local day. -/
def LeapsToMidnight (frame : TimeFrame) (hours : Int) : Prop :=
  (frame.now.IsLeap ∧ hours < 0) ∧
    secondsPerDay ∣ frame.now.movedSeconds hours + frame.offset

end TimeFrame

/-- What is known of distances in calendar days after instants and now are moved by some hours. -/
structure TimeFrame.CountsDays (frame : TimeFrame) (hours : Int) : Prop where
  lacks (instant : Instant) (stop : Stop DateError) :
    frame.daysAgo instant hours = .error stop ↔ frame.LacksDistance hours instant stop
  /-- No distance is missing but for the range of instants if no local date lies beyond the dates that
  can be counted. -/
  missing {instant : Instant}
    (areDates : ∀ moment ∈ [frame.now, instant],
      ¬moment.LeavesRange hours → ¬frame.LeavesDates moment hours) :
    frame.daysAgo? instant hours = none ↔
      frame.now.LeavesRange hours ∨ instant.LeavesRange hours
  /-- A later instant is not farther in the past. -/
  antitone {fewer more : Int} {earlier later : Instant} {earlierDays laterDays : Int}
    (order : fewer ≤ more) (isEarlier : Instant.ofMilliseconds? fewer = some earlier)
    (isLater : Instant.ofMilliseconds? more = some later)
    (isEarlierDays : frame.daysAgo? earlier hours = some earlierDays)
    (isLaterDays : frame.daysAgo? later hours = some laterDays) : laterDays ≤ earlierDays
  today {days : Int} (isDays : frame.daysAgo? frame.now hours = some days) : days = 0
  dayBefore {milliseconds : Int} {instant before : Instant} {days daysBefore : Int}
    (isInstant : Instant.ofMilliseconds? milliseconds = some instant)
    (isBefore : Instant.ofMilliseconds? (milliseconds - 86400000) = some before)
    (isDays : frame.daysAgo? instant hours = some days)
    (isDaysBefore : frame.daysAgo? before hours = some daysBefore) : daysBefore = days + 1
  /-- The days differ by less than one from the time that elapsed, which can be longer by a second
  when now is a leap second. -/
  elapsed {milliseconds : Int} {instant : Instant} {days : Int}
    (isInstant : Instant.ofMilliseconds? milliseconds = some instant)
    (isDays : frame.daysAgo? instant hours = some days) :
    |86400 * nanosecondsPerSecond * days - frame.now.nanosecondsSince instant| <
      86400 * nanosecondsPerSecond +
        if frame.now.IsLeap ∧ 0 ≤ hours then nanosecondsPerSecond else 0
  /-- Moving by hours counts like an offset that is larger by these hours, unless it moves a leap
  second on to the next day. -/
  offset {milliseconds : Int} {instant : Instant} {days offset : Int}
    (staysInDay : ¬frame.LeapsToMidnight hours)
    (isInstant : Instant.ofMilliseconds? milliseconds = some instant)
    (isDays : frame.daysAgo? instant hours = some days)
    (isOffset : TimeFrame.offsetOfSeconds? (frame.offset + 3600 * hours) = some offset) :
    TimeFrame.daysAgo? { frame with offset := offset } instant 0 = some days

namespace TimeFrame

section

variable {frame : TimeFrame} {milliseconds hours : Int} {instant : Instant} {days : Int}

theorem daysAgo?_eq_none_iff
    (areDates : ∀ moment ∈ [frame.now, instant],
      ¬moment.LeavesRange hours → ¬frame.LeavesDates moment hours) :
    frame.daysAgo? instant hours = none ↔
      frame.now.LeavesRange hours ∨ instant.LeavesRange hours := by
  have nowCounts := areDates frame.now (by simp)
  have counts := areDates instant (by simp)
  rw [← not_iff_not, ← ne_eq, Option.ne_none_iff_exists']
  simp only [daysAgo?_eq_some_iff, HasDay, exists_and_left, exists_eq, and_true]
  tauto

/-- The day of now under an offset that is larger by some hours. -/
theorem dayAfter_now_of_offset (staysInDay : ¬frame.LeapsToMidnight hours) :
    (frame.now.seconds + (frame.offset + 3600 * hours)) / secondsPerDay =
      frame.dayAfter frame.now hours := by
  rw [LeapsToMidnight, Instant.movedSeconds_eq_ite] at staysInDay
  rw [dayAfter, Instant.movedSeconds_eq_ite]
  by_cases isLeap : frame.now.IsLeap ∧ hours < 0
  · simp only [isLeap, and_self, if_true, true_and, secondsPerDay] at *
    omega
  · rw [if_neg isLeap, Int.add_zero, Int.add_right_comm, Int.add_assoc]

/-- A leap second whose day goes on can be counted under an offset that is larger by some hours. -/
theorem hasDay_now_of_offset (isValid : frame.IsValid)
    (staysInDay : ¬frame.LeapsToMidnight hours) (hasToday : frame.HasDay hours frame.now) :
    HasDay { frame with offset := frame.offset + 3600 * hours } 0 frame.now := by
  refine ⟨Instant.not_leavesRange_zero isValid.now, ?_⟩
  have counts := hasToday.2
  rw [LeapsToMidnight, Instant.movedSeconds_eq_ite] at staysInDay
  simp only [LeavesDates, Instant.movedSeconds_zero, not_not]
  rw [LeavesDates, Instant.movedSeconds_eq_ite, not_not] at counts
  by_cases isLeap : frame.now.IsLeap ∧ hours < 0
  · simp only [isLeap, and_self, if_true, true_and, secondsPerDay, Instant.leastSeconds,
      Instant.greatestSeconds] at *
    omega
  · rw [if_neg isLeap] at counts
    omega

variable (isInstant : Instant.ofMilliseconds? milliseconds = some instant)
  (isDays : frame.daysAgo? instant hours = some days)

include isInstant

theorem dayAfter_of_milliseconds (frame : TimeFrame) (hours : Int) :
    frame.dayAfter instant hours =
      (milliseconds / 1000 + 3600 * hours + frame.offset) / secondsPerDay := by
  have noLeap := Instant.nanoseconds_of_ofMilliseconds? isInstant
  rcases Instant.ofMilliseconds?_eq_some_iff.mp isInstant with ⟨_, rfl⟩
  rw [dayAfter, Instant.movedSeconds_eq noLeap]

/-- An instant given in milliseconds can be counted under an offset that is larger by some hours. -/
theorem hasDay_of_offset (hasDay : frame.HasDay hours instant) :
    HasDay { frame with offset := frame.offset + 3600 * hours } 0 instant := by
  have isRepresentable := Instant.isRepresentable_of_ofMilliseconds? isInstant
  refine ⟨Instant.not_leavesRange_zero isRepresentable, ?_⟩
  have counts := hasDay.2
  rw [LeavesDates, Instant.movedSeconds_eq (Instant.nanoseconds_of_ofMilliseconds? isInstant)]
    at counts
  simp only [LeavesDates, Instant.movedSeconds_zero]
  omega

include isDays

theorem daysAgo?_elapsed (inSecond : frame.now.nanoseconds < 2 * nanosecondsPerSecond) :
    |86400 * nanosecondsPerSecond * days - frame.now.nanosecondsSince instant| <
      86400 * nanosecondsPerSecond +
        if frame.now.IsLeap ∧ 0 ≤ hours then nanosecondsPerSecond else 0 := by
  have isDifference := (daysAgo?_eq_some_iff.mp isDays).2
  rw [frame.dayAfter_of_milliseconds isInstant, dayAfter, Instant.movedSeconds_eq_ite]
    at isDifference
  rcases Instant.ofMilliseconds?_eq_some_iff.mp isInstant with ⟨_, rfl⟩
  rw [abs_lt, Instant.nanosecondsSince]
  simp only [secondsPerDay, nanosecondsPerSecond, Instant.IsLeap] at isDifference inSecond ⊢
  by_cases isLeap : 1000000000 ≤ frame.now.nanoseconds
  · by_cases isBack : hours < 0
    · have notForth : ¬0 ≤ hours := by omega
      simp only [isLeap, isBack, notForth, and_true, and_false, if_true, if_false] at isDifference ⊢
      omega
    · have isForth : 0 ≤ hours := by omega
      simp only [isLeap, isBack, isForth, and_true, and_false, if_true, if_false] at isDifference ⊢
      omega
  · simp only [isLeap, false_and, if_false] at isDifference ⊢
    omega

theorem daysAgo?_offset (isValid : frame.IsValid) (staysInDay : ¬frame.LeapsToMidnight hours)
    {offset : Int} (isOffset : offsetOfSeconds? (frame.offset + 3600 * hours) = some offset) :
    daysAgo? { frame with offset := offset } instant 0 = some days := by
  rcases daysAgo?_eq_some_iff.mp isDays with ⟨⟨hasToday, hasDay⟩, isDifference⟩
  obtain rfl := (offsetOfSeconds?_eq_some_iff.mp isOffset).2
  rw [daysAgo?_eq_some_iff]
  refine ⟨⟨hasDay_now_of_offset isValid staysInDay hasToday,
    hasDay_of_offset isInstant hasDay⟩, ?_⟩
  rw [isDifference, dayAfter_of_milliseconds isInstant, dayAfter_of_milliseconds isInstant,
    ← dayAfter_now_of_offset staysInDay, dayAfter, Instant.movedSeconds_zero]
  have isLater : milliseconds / 1000 + 3600 * 0 + (frame.offset + 3600 * hours) =
      milliseconds / 1000 + 3600 * hours + frame.offset := by
    omega
  rw [isLater]

end

/-- Distances in calendar days are sound, whatever the hours are. -/
theorem counts_days {frame : TimeFrame} (isValid : frame.IsValid)
    (inSecond : frame.now.nanoseconds < 2 * nanosecondsPerSecond) (hours : Int) :
    frame.CountsDays hours where
  lacks := fun _ _ => daysAgo_eq_error_iff
  missing := fun areDates => daysAgo?_eq_none_iff areDates
  antitone := by
    intro fewer more earlier later earlierDays laterDays order isEarlier isLater isEarlierDays
      isLaterDays
    rw [(daysAgo?_eq_some_iff.mp isEarlierDays).2, (daysAgo?_eq_some_iff.mp isLaterDays).2,
      frame.dayAfter_of_milliseconds isEarlier, frame.dayAfter_of_milliseconds isLater]
    simp only [secondsPerDay]
    omega
  today := by
    intro days isDays
    rw [(daysAgo?_eq_some_iff.mp isDays).2, Int.sub_self]
  dayBefore := by
    intro milliseconds instant before days daysBefore isInstant isBefore isDays isDaysBefore
    rw [(daysAgo?_eq_some_iff.mp isDays).2, (daysAgo?_eq_some_iff.mp isDaysBefore).2,
      frame.dayAfter_of_milliseconds isInstant, frame.dayAfter_of_milliseconds isBefore]
    simp only [secondsPerDay]
    omega
  elapsed := fun isInstant isDays => daysAgo?_elapsed isInstant isDays inSecond
  offset := fun staysInDay isInstant isDays => daysAgo?_offset isInstant isDays isValid staysInDay

/-- A second before local midnight is today an hour later, as under an offset larger by an hour. -/
theorem counts_days_around_midnight :
    (TimeFrame.mk (-21600) ⟨21600, 0⟩).IsValid ∧
      Instant.ofMilliseconds? 21599000 = some ⟨21599, 0⟩ ∧
      (TimeFrame.mk (-21600) ⟨21600, 0⟩).daysAgo? ⟨21599, 0⟩ 1 = some 0 ∧
      offsetOfSeconds? (-21600 + 3600 * 1) = some (-18000) ∧
      (TimeFrame.mk (-18000) ⟨21600, 0⟩).daysAgo? ⟨21599, 0⟩ 0 = some 0 := by
  have isValid : (TimeFrame.mk (-21600) ⟨21600, 0⟩).IsValid := ⟨by decide, by decide⟩
  have isInstant : Instant.ofMilliseconds? 21599000 = some ⟨21599, 0⟩ := by decide
  have isToday : (TimeFrame.mk (-21600) ⟨21600, 0⟩).daysAgo? ⟨21599, 0⟩ 1 = some 0 := by decide
  have isOffset : offsetOfSeconds? (-21600 + 3600 * 1) = some (-18000) := by decide
  have staysInDay : ¬(TimeFrame.mk (-21600) ⟨21600, 0⟩).LeapsToMidnight 1 :=
    fun leaps => absurd leaps.1.2 (by decide)
  exact ⟨isValid, isInstant, isToday, isOffset,
    (counts_days isValid (by decide) 1).offset staysInDay isInstant isToday isOffset⟩

/-- The days can differ by a day and half a second from the time that elapsed: now is a leap second
at the end of the day that begins with the instant. -/
theorem not_forall_elapsed :
    ¬∀ (frame : TimeFrame) (hours milliseconds : Int) (instant : Instant) (days : Int),
      frame.IsValid → frame.now.nanoseconds < 2 * nanosecondsPerSecond →
      Instant.ofMilliseconds? milliseconds = some instant →
      frame.daysAgo? instant hours = some days →
      |86400 * nanosecondsPerSecond * days - frame.now.nanosecondsSince instant| <
        86400 * nanosecondsPerSecond := by
  intro isNear
  have isNearHere := isNear ⟨0, ⟨86399, 1500000000⟩⟩ 0 0 ⟨0, 0⟩ 0 ⟨by decide, by decide⟩
    (by decide) (by decide) (by decide)
  contradiction

end TimeFrame

end PageContext
