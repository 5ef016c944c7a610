import PageContext.Proofs.Calendar.Instants
import PageContext.Proofs.Calendar.Notations

/-!
# Local dates read back

A local date in a notation is read as the instant at which the calendar of the time frame shows this
date and this time of day, whatever the offset.  Texts in one notation are ordered like the instants
that they stand for, and a date that does not exist in the calendar is not read.
-/

namespace PageContext

/-- A time of day on a clock of twelve hours, on which midnight and noon are twelve. -/
def twelveHourText (hour minute : Nat) : String :=
  (if hour = 0 then "12" else if hour ≤ 12 then toString hour else toString (hour - 12)) ++ ":" ++
    Text.padded 2 minute ++ (if hour < 12 then " AM" else " PM")

theorem LocalTime.clockText_eq {date : Date} {hour minute nanoseconds : Nat} (isHour : hour < 24)
    (isMinute : minute < 60) :
    (LocalTime.mk date (hour * 3600 + minute * 60) nanoseconds).clockText =
      twelveHourText hour minute := by
  have hourOf : (hour * 3600 + minute * 60) / 3600 = hour := by omega
  have minuteOf : (hour * 3600 + minute * 60) / 60 % 60 = minute := by omega
  have onDial : toString (if hour % 12 = 0 then 12 else hour % 12) =
      if hour = 0 then "12" else if hour ≤ 12 then toString hour else toString (hour - 12) := by
    have inTable : ∀ hour < 24, toString (if hour % 12 = 0 then 12 else hour % 12) =
        if hour = 0 then "12" else if hour ≤ 12 then toString hour else toString (hour - 12) := by
      decide
    exact inTable hour isHour
  simp only [LocalTime.clockText, LocalTime.hour, LocalTime.minute, hourOf, minuteOf, onDial,
    twelveHourText]

example : twelveHourText 0 0 = "12:00 AM" := by decide

theorem Date.ofParts?_eq_some_iff {year : Int} {month day : Nat} {date : Date}
    (inYears : 0 ≤ year ∧ year ≤ 9999) :
    ofParts? year month day = some date ↔
      (Date.mk year month day).Exists ∧ Date.mk year month day = date := by
  simp only [ofParts?, isValid, Option.ite_none_right_eq_some, Option.some.injEq, Bool.and_eq_true,
    decide_eq_true_eq]
  constructor
  · rintro ⟨⟨⟨_, positive⟩, inMonth⟩, isDate⟩
    exact ⟨exists_of_day positive inMonth, isDate⟩
  · rintro ⟨isDate, rfl⟩
    refine ⟨⟨⟨⟨?_, ?_⟩, isDate.day.1⟩, isDate.day.2⟩, rfl⟩
    · rw [leastYear]
      omega
    · rw [greatestYear]
      omega

namespace DateFields

/-- The fields are a date of the calendar with a time of day. -/
structure Exist (fields : DateFields) : Prop where
  date : (Date.mk fields.year fields.month fields.day).Exists
  hour : fields.hour < 24
  minute : fields.minute < 60

/-- The parts in which a calendar lists a date with a time of day. -/
def parts (fields : DateFields) : CalendarParts where
  year := toString fields.year
  month := Date.monthName fields.month
  day := Text.padded 2 fields.day
  time := twelveHourText fields.hour fields.minute

/-- The local time of a date with a time of day, at the beginning of the minute. -/
def localTime (fields : DateFields) : LocalTime :=
  ⟨⟨fields.year, fields.month, fields.day⟩, fields.hour * 3600 + fields.minute * 60, 0⟩

/-- Earlier by the first field in which two dates with times differ. -/
def IsBefore (first second : DateFields) : Prop :=
  first.year < second.year ∨ first.year = second.year ∧
    (first.month < second.month ∨ first.month = second.month ∧
      (first.day < second.day ∨ first.day = second.day ∧
        (first.hour < second.hour ∨ first.hour = second.hour ∧ first.minute < second.minute)))

theorem toLocalTime?_eq_some_iff {fields : DateFields}
    (inYears : 0 ≤ fields.year ∧ fields.year ≤ 9999) (noSecond : fields.second = 0)
    (noFraction : fields.nanoseconds = 0) {time : LocalTime} :
    fields.toLocalTime? = some time ↔ fields.Exist ∧ fields.localTime = time := by
  have isClock : fields.hour < 24 ∧ fields.minute < 60 ↔
      (decide (fields.hour < 24) && decide (fields.minute < 60) &&
        decide (fields.second ≤ 60)) = true := by
    simp [noSecond]
  simp only [toLocalTime?, Option.bind_eq_bind, Option.bind_eq_some_iff,
    Date.ofParts?_eq_some_iff inYears, Option.ite_none_right_eq_some, ← isClock]
  constructor
  · rintro ⟨_, ⟨isDate, rfl⟩, ⟨isHour, isMinute⟩, isTime⟩
    refine ⟨⟨isDate, isHour, isMinute⟩, ?_⟩
    simpa [localTime, noSecond, noFraction] using isTime
  · rintro ⟨⟨isDate, isHour, isMinute⟩, rfl⟩
    refine ⟨_, ⟨isDate, rfl⟩, ⟨isHour, isMinute⟩, ?_⟩
    simp [localTime, noSecond, noFraction]

end DateFields

namespace DateNotation

variable {frame : TimeFrame} {fields : DateFields} {style : DateNotation}

theorem shown_year (fields : DateFields) (style : DateNotation) :
    (style.shown fields).year = fields.year := by
  cases style <;> rfl

/-- What a date in a notation stands for: the instant of the fields that it shows. -/
theorem instant?_text_eq_some_iff (fit : fields.FitNotations) {instant : Instant} :
    frame.instant? (.string (style.text fields)) = some instant ↔
      (style.shown fields).Exist ∧
        (style.shown fields).localTime.toInstant? frame.offset = some instant := by
  have inYears : 0 ≤ (style.shown fields).year ∧ (style.shown fields).year ≤ 9999 := by
    rw [shown_year]
    exact fit.year
  have noSecond : (style.shown fields).second = 0 := by cases style <;> rfl
  have noFraction : (style.shown fields).nanoseconds = 0 := by cases style <;> rfl
  rw [TimeFrame.instant?, trim_text fit, readMoment?_text fit, Option.bind_eq_some_iff]
  simp only [DateFields.toLocalTime?_eq_some_iff inYears noSecond noFraction]
  constructor
  · rintro ⟨_, ⟨exist, rfl⟩, isInstant⟩
    exact ⟨exist, isInstant⟩
  · rintro ⟨exist, isInstant⟩
    exact ⟨_, ⟨exist, rfl⟩, isInstant⟩

/-- Texts in one notation are ordered by the fields that they show. -/
theorem text_lt_iff (style : DateNotation) {others : DateFields} (fit : fields.FitNotations)
    (othersFit : others.FitNotations) :
    style.text fields < style.text others ↔
      (style.shown fields).IsBefore (style.shown others) := by
  have year := fit.isYear.append_lt_iff othersFit.isYear
  have month := (Text.isFixedWidth_field fit.month).append_lt_iff
    (Text.isFixedWidth_field othersFit.month)
  have day := (Text.isFixedWidth_field fit.day).append_lt_iff
    (Text.isFixedWidth_field othersFit.day)
  have hour := (Text.isFixedWidth_field fit.hour).append_lt_iff
    (Text.isFixedWidth_field othersFit.hour)
  have minute := (Text.isFixedWidth_field fit.minute).append_lt_iff
    (Text.isFixedWidth_field othersFit.minute)
  have lessYear : fields.year.natAbs < others.year.natAbs ↔ fields.year < others.year := by
    have := fit.year
    have := othersFit.year
    omega
  have sameYear : fields.year.natAbs = others.year.natAbs ↔ fields.year = others.year := by
    have := fit.year
    have := othersFit.year
    omega
  rw [String.lt_iff_toList_lt, DateFields.IsBefore]
  cases style with
  | year =>
      simp only [toList_year, year, lessYear, List.not_lt_nil]
      simp [shown]
  | month =>
      simp only [toList_month, year, lessYear, sameYear, Text.cons_lt_cons_self_iff, month,
        List.not_lt_nil]
      simp [shown]
  | day =>
      simp only [toList_day, year, lessYear, sameYear, Text.cons_lt_cons_self_iff, month, day,
        List.not_lt_nil]
      simp [shown]
  | minute =>
      simp only [toList_minute, year, lessYear, sameYear, Text.cons_lt_cons_self_iff, month, day,
        hour, minute, List.not_lt_nil]
      simp [shown]
  | second =>
      simp only [toList_second, year, lessYear, sameYear, Text.cons_lt_cons_self_iff, month, day,
        hour, minute]
      simp [shown]

end DateNotation

namespace DateFields

theorem localTime_inDay {fields : DateFields} (exist : fields.Exist) :
    (fields.localTime.secondOfDay : Int) < secondsPerDay := by
  have isHour := exist.hour
  have isMinute := exist.minute
  simp only [localTime, secondsPerDay]
  omega

/-- The instant of a date with a time of day, counted in seconds. -/
def seconds (fields : DateFields) (offset : Int) : Int :=
  fields.localTime.date.toDays * secondsPerDay + fields.localTime.secondOfDay - offset

variable {first second : DateFields} (firstExist : first.Exist) (secondExist : second.Exist)

include firstExist secondExist

theorem seconds_lt_of_isBefore (before : first.IsBefore second) (offset : Int) :
    first.seconds offset < second.seconds offset := by
  have firstInDay := localTime_inDay firstExist
  have secondInDay := localTime_inDay secondExist
  have firstMinute := firstExist.minute
  have days : first.localTime.date.toDays < second.localTime.date.toDays ∨
      first.localTime.date.toDays = second.localTime.date.toDays ∧
        first.localTime.secondOfDay < second.localTime.secondOfDay := by
    have earlier := Date.toDays_lt_of_before firstExist.date secondExist.date
    rcases before with lessYear | ⟨sameYear, lessMonth | ⟨sameMonth, lessDay | ⟨sameDay, lessTime⟩⟩⟩
    · exact .inl (earlier (.inl lessYear))
    · exact .inl (earlier (.inr ⟨sameYear, .inl lessMonth⟩))
    · exact .inl (earlier (.inr ⟨sameYear, .inr ⟨sameMonth, lessDay⟩⟩))
    · right
      refine ⟨?_, ?_⟩
      · simp only [localTime, sameYear, sameMonth, sameDay]
      · simp only [localTime]
        omega
  simp only [seconds, secondsPerDay] at *
  omega

/-- Dates with times are ordered like their instants. -/
theorem seconds_lt_iff (offset : Int) :
    first.seconds offset < second.seconds offset ↔ first.IsBefore second := by
  refine ⟨fun less => ?_, fun before => seconds_lt_of_isBefore firstExist secondExist before offset⟩
  by_contra notBefore
  have cases : second.IsBefore first ∨ first.localTime = second.localTime := by
    simp only [IsBefore, localTime, LocalTime.mk.injEq, Date.mk.injEq, and_true] at notBefore ⊢
    omega
  rcases cases with before | same
  · have := seconds_lt_of_isBefore secondExist firstExist before offset
    omega
  · simp [seconds, same] at less

end DateFields

namespace DateNotation

variable {frame : TimeFrame} {fields : DateFields} {style : DateNotation}

/-- A date of the calendar is read as the instant at which a local clock shows it. -/
theorem exists_instant?_text (isValid : frame.IsValid) (fit : fields.FitNotations)
    (exist : (style.shown fields).Exist) :
    ∃ instant, frame.instant? (.string (style.text fields)) = some instant ∧
      frame.localTime instant = (style.shown fields).localTime := by
  have inYears : 0 ≤ (style.shown fields).year ∧ (style.shown fields).year ≤ 9999 := by
    rw [shown_year]
    exact fit.year
  rcases LocalTime.exists_instant exist.date (DateFields.localTime_inDay exist) inYears
    isValid.offset_bounds with ⟨instant, isInstant, _, isLocal⟩
  exact ⟨instant, (instant?_text_eq_some_iff fit).mpr ⟨exist, isInstant⟩, isLocal⟩

/-- What is read from the dates in a notation. -/
structure ReadsBack (frame : TimeFrame) (style : DateNotation) : Prop where
  /-- A date of the calendar is read, and the calendar shows it. -/
  parts {fields : DateFields} (fit : fields.FitNotations) (exist : (style.shown fields).Exist) :
    ∃ instant, frame.instant? (.string (style.text fields)) = some instant ∧
      frame.calendarParts instant = (style.shown fields).parts
  /-- Texts are ordered like their instants. -/
  ordered {fields others : DateFields} (fit : fields.FitNotations) (othersFit : others.FitNotations)
    {first second : Instant} (isFirst : frame.instant? (.string (style.text fields)) = some first)
    (isSecond : frame.instant? (.string (style.text others)) = some second) :
    style.text fields ≤ style.text others ↔ first ≤ second
  /-- Any other date is not read. -/
  missing {fields : DateFields} (fit : fields.FitNotations) (missing : ¬(style.shown fields).Exist) :
    frame.instant? (.string (style.text fields)) = none

/-- Local dates are read back as the calendar shows them. -/
theorem dates_read_back (isValid : frame.IsValid) (style : DateNotation) :
    style.ReadsBack frame where
  parts := by
    intro fields fit exist
    rcases exists_instant?_text isValid fit exist with ⟨instant, isRead, isTime⟩
    refine ⟨instant, isRead, ?_⟩
    simp only [TimeFrame.calendarParts, isTime, DateFields.parts, DateFields.localTime,
      LocalTime.clockText_eq exist.hour exist.minute]
  ordered := by
    intro fields others fit othersFit first second isFirst isSecond
    rcases (instant?_text_eq_some_iff fit).mp isFirst with ⟨exist, isInstant⟩
    rcases (instant?_text_eq_some_iff othersFit).mp isSecond with ⟨othersExist, isOtherInstant⟩
    rcases Instant.checked?_eq_some_iff.mp isInstant with ⟨_, rfl⟩
    rcases Instant.checked?_eq_some_iff.mp isOtherInstant with ⟨_, rfl⟩
    have order := DateFields.seconds_lt_iff othersExist exist frame.offset
    have textOrder := text_lt_iff style othersFit fit
    rw [← String.not_lt, textOrder, ← order, Instant.le_iff]
    simp only [DateFields.seconds, DateFields.localTime]
    omega
  missing := by
    intro fields fit missing
    rw [Option.eq_none_iff_forall_ne_some]
    intro instant isInstant
    exact missing ((instant?_text_eq_some_iff fit).mp isInstant).1

theorem dates_read_back_leap_day :
    (TimeFrame.mk (-21600) ⟨0, 0⟩).IsValid ∧
      ∃ instant, (TimeFrame.mk (-21600) ⟨0, 0⟩).instant? (.string "2020-02-29T23:59") = some instant ∧
        (TimeFrame.mk (-21600) ⟨0, 0⟩).calendarParts instant =
          ⟨"2020", "February", "29", "11:59 PM"⟩ := by
  have isValid : (TimeFrame.mk (-21600) ⟨0, 0⟩).IsValid := ⟨by decide, by decide⟩
  have fit : DateFields.FitNotations
      { year := 2020, month := 2, day := 29, hour := 23, minute := 59 } :=
    ⟨by decide, by decide, by decide, by decide, by decide⟩
  have exist : (DateNotation.minute.shown
      { year := 2020, month := 2, day := 29, hour := 23, minute := 59 }).Exist :=
    ⟨⟨by decide, by decide⟩, by decide, by decide⟩
  rcases (dates_read_back isValid .minute).parts fit exist with ⟨instant, isRead, isShown⟩
  exact ⟨isValid, instant, isRead, isShown⟩

end DateNotation

end PageContext
