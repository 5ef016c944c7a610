import PageContext.Proofs.Calendar.Months
import PageContext.Proofs.Success

/-!
# Moved instants

Moving an instant by some hours fails exactly when it leads out of the representable range.  The
local date or month of a moved instant is missing for this reason and for no other.  A distance in
days is also missing, by a crash, where a local date lies beyond the dates that can be counted.
-/

namespace PageContext

namespace Instant

/-- The second to which an instant is moved by some hours.  A leap second counts as the second it
is written with on the way forward and as the next one on the way back. -/
def movedSeconds (instant : Instant) (hours : Int) : Int :=
  instant.seconds + 3600 * hours +
    if nanosecondsPerSecond ≤ instant.nanoseconds ∧ hours < 0 then 1 else 0

/-- Some hours lead an instant out of the representable range. -/
def LeavesRange (instant : Instant) (hours : Int) : Prop :=
  ¬(leastSeconds ≤ instant.movedSeconds hours ∧ instant.movedSeconds hours ≤ greatestSeconds)

theorem checked?_eq_none_iff (instant : Instant) :
    instant.checked? = none ↔
      ¬(leastSeconds ≤ instant.seconds ∧ instant.seconds ≤ greatestSeconds) := by
  simp [checked?, isRepresentable]

theorem addHours?_eq_none_iff (instant : Instant) (hours : Int) :
    instant.addHours? hours = none ↔ instant.LeavesRange hours := by
  have sameSign : 3600 * hours < 0 ↔ hours < 0 := by omega
  have sameZero : 3600 * hours = 0 ↔ hours = 0 := by omega
  simp only [addHours?, addSeconds?, LeavesRange, movedSeconds]
  by_cases isLeap : nanosecondsPerSecond ≤ instant.nanoseconds
  · by_cases stays : hours = 0
    · simp [checked?_eq_none_iff, stays]
    · simp [checked?_eq_none_iff, isLeap, stays, sameSign, sameZero]
  · simp [checked?_eq_none_iff, isLeap]

theorem seconds_eq_movedSeconds {instant moved : Instant} {hours : Int}
    (isMoved : instant.addHours? hours = some moved) :
    moved.seconds = instant.movedSeconds hours := by
  have sameSign : 3600 * hours < 0 ↔ hours < 0 := by omega
  simp only [addHours?, addSeconds?, Bool.and_eq_true, decide_eq_true_iff] at isMoved
  rw [movedSeconds]
  split at isMoved
  · next isLeap =>
    rcases checked?_eq_some_iff.mp isMoved with ⟨_, rfl⟩
    simp only [isLeap.1, true_and, sameSign]
  · next stays =>
    rcases checked?_eq_some_iff.mp isMoved with ⟨_, rfl⟩
    have noLeap : ¬(nanosecondsPerSecond ≤ instant.nanoseconds ∧ hours < 0) := by omega
    rw [if_neg noLeap, Int.add_zero]

theorem exists_addHours? {instant : Instant} {hours : Int} (inRange : ¬instant.LeavesRange hours) :
    ∃ moved, instant.addHours? hours = some moved := by
  rwa [← addHours?_eq_none_iff, ← ne_eq, Option.ne_none_iff_exists'] at inRange

end Instant

namespace TimeFrame

/-- The local date of an instant moved by some hours. -/
def dateAfter? (frame : TimeFrame) (instant : Instant) (hours : Int) : Option Date :=
  (instant.addHours? hours).map frame.localDate

theorem exists_of_dateAfter? {frame : TimeFrame} {instant : Instant} {hours : Int} {date : Date}
    (isDate : frame.dateAfter? instant hours = some date) : date.Exists := by
  rcases Option.map_eq_some_iff.mp isDate with ⟨moved, _, rfl⟩
  exact frame.exists_localDate moved

theorem monthAfter?_eq_map (frame : TimeFrame) (instant : Instant) (hours : Int) :
    frame.monthAfter? instant hours = (frame.dateAfter? instant hours).map YearMonth.ofDate := by
  simp only [monthAfter?, dateAfter?, Option.map_map]
  rfl

/-! ## Days that can be counted -/

/-- The local date of an instant, moved by some hours, lies beyond the dates that can be counted. -/
def LeavesDates (frame : TimeFrame) (instant : Instant) (hours : Int) : Prop :=
  ¬(Instant.leastSeconds ≤ instant.movedSeconds hours + frame.offset ∧
    instant.movedSeconds hours + frame.offset ≤ Instant.greatestSeconds)

/-- A moved instant has a day to count from. -/
def HasDay (frame : TimeFrame) (hours : Int) (instant : Instant) : Prop :=
  ¬instant.LeavesRange hours ∧ ¬frame.LeavesDates instant hours

/-- Why a moved instant has no day to count from. -/
inductive LosesDay (frame : TimeFrame) (hours : Int) (instant : Instant) :
    Stop DateError → Prop where
  | leaves (leaves : instant.LeavesRange hours) :
      LosesDay frame hours instant (.failure .outOfRange)
  | crashes (stays : ¬instant.LeavesRange hours) (noDate : frame.LeavesDates instant hours) :
      LosesDay frame hours instant .crash

/-- Why the distance of an instant from now cannot be told; now is looked at first. -/
inductive LacksDistance (frame : TimeFrame) (hours : Int) (instant : Instant) :
    Stop DateError → Prop where
  | now {stop : Stop DateError} (loses : frame.LosesDay hours frame.now stop) :
      LacksDistance frame hours instant stop
  | instant {stop : Stop DateError} (hasToday : frame.HasDay hours frame.now)
      (loses : frame.LosesDay hours instant stop) : LacksDistance frame hours instant stop

variable {frame : TimeFrame} {hours : Int} {instant : Instant} {stop : Stop DateError}

/-- Where no instant leaves the representable range, a distance is missing only by a crash. -/
theorem lacksDistance_iff (todayStays : ¬frame.now.LeavesRange hours)
    (stays : ¬instant.LeavesRange hours) :
    frame.LacksDistance hours instant stop ↔
      stop = .crash ∧ (frame.LeavesDates frame.now hours ∨ frame.LeavesDates instant hours) := by
  constructor
  · rintro ((⟨leaves⟩ | ⟨_, noDate⟩) | ⟨_, (⟨leaves⟩ | ⟨_, noDate⟩)⟩)
    · exact absurd leaves todayStays
    · exact ⟨rfl, .inl noDate⟩
    · exact absurd leaves stays
    · exact ⟨rfl, .inr noDate⟩
  · rintro ⟨rfl, noDates⟩
    by_cases noToday : frame.LeavesDates frame.now hours
    · exact .now (.crashes todayStays noToday)
    · exact .instant ⟨todayStays, noToday⟩ (.crashes stays (noDates.resolve_left noToday))

theorem hasLocalDate_iff {moved : Instant} (isMoved : instant.addHours? hours = some moved) :
    frame.hasLocalDate moved = true ↔ ¬frame.LeavesDates instant hours := by
  simp [hasLocalDate, Instant.isRepresentable, LeavesDates,
    Instant.seconds_eq_movedSeconds isMoved]

theorem countedDay_eq_ok_iff {date : Date} :
    frame.countedDay instant hours = .ok date ↔
      frame.dateAfter? instant hours = some date ∧ frame.HasDay hours instant := by
  rw [countedDay, dateAfter?, HasDay, ← Instant.addHours?_eq_none_iff]
  cases isMoved : instant.addHours? hours with
  | none => simp
  | some moved =>
      rw [← hasLocalDate_iff isMoved]
      cases hasDate : frame.hasLocalDate moved <;> simp [hasDate]

theorem countedDay_eq_error_iff :
    frame.countedDay instant hours = .error stop ↔ frame.LosesDay hours instant stop := by
  rw [countedDay]
  cases isMoved : instant.addHours? hours with
  | none =>
      have leaves := (Instant.addHours?_eq_none_iff instant hours).mp isMoved
      constructor
      · rintro ⟨⟩
        exact .leaves leaves
      · intro loses
        cases loses with
        | leaves _ => rfl
        | crashes stays _ => exact absurd leaves stays
  | some moved =>
      have stays : ¬instant.LeavesRange hours := by
        simp [← Instant.addHours?_eq_none_iff, isMoved]
      have hasDate := frame.hasLocalDate_iff isMoved
      by_cases noDate : frame.LeavesDates instant hours
      · have isFalse : frame.hasLocalDate moved = false := by simpa [noDate] using hasDate
        simp only [isFalse, Bool.false_eq_true, if_false, Except.error.injEq]
        constructor
        · rintro rfl
          exact .crashes stays noDate
        · intro loses
          cases loses with
          | leaves leaves => exact absurd leaves stays
          | crashes _ _ => rfl
      · simp only [hasDate.mpr noDate, if_true, reduceCtorEq, false_iff]
        intro loses
        cases loses with
        | leaves leaves => exact stays leaves
        | crashes _ noDate' => exact noDate noDate'

theorem exists_countedDay_iff :
    (∃ date, frame.countedDay instant hours = .ok date) ↔ frame.HasDay hours instant := by
  simp only [countedDay_eq_ok_iff, exists_and_right, and_iff_right_iff_imp]
  intro hasDay
  rcases Instant.exists_addHours? hasDay.1 with ⟨moved, isMoved⟩
  exact ⟨_, by rw [dateAfter?, isMoved]; rfl⟩

theorem daysAgo_eq_error_iff :
    frame.daysAgo instant hours = .error stop ↔ frame.LacksDistance hours instant stop := by
  simp only [daysAgo, Except.bind_eq_error_iff, countedDay_eq_error_iff, Except.pure_ne_error,
    and_false, exists_false, or_false]
  constructor
  · rintro (loses | ⟨today, isToday, loses⟩)
    · exact .now loses
    · exact .instant (exists_countedDay_iff.mp ⟨today, isToday⟩) loses
  · intro lacks
    cases lacks with
    | now loses => exact .inl loses
    | instant hasToday loses =>
        rcases exists_countedDay_iff.mpr hasToday with ⟨today, isToday⟩
        exact .inr ⟨today, isToday, loses⟩

theorem daysAgo_eq_ok_iff {days : Int} :
    frame.daysAgo instant hours = .ok days ↔
      ∃ today day, frame.countedDay frame.now hours = .ok today ∧
        frame.countedDay instant hours = .ok day ∧ today.toDays - day.toDays = days := by
  simp only [daysAgo, Except.bind_eq_ok_iff, Except.pure_eq_ok_iff]
  constructor
  · rintro ⟨today, isToday, day, isDay, isDays⟩
    exact ⟨today, day, isToday, isDay, isDays⟩
  · rintro ⟨today, day, isToday, isDay, isDays⟩
    exact ⟨today, isToday, day, isDay, isDays⟩

end TimeFrame

end PageContext
