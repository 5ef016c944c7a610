import Mathlib.Algebra.BigOperators.Group.List.Basic
import PageContext.Calendar.Expression
import PageContext.Proofs.Calendar.Days

/-!
# Months and local times

Every number of a day has a date that exists, and a date that exists has no other number, so an
instant and the local time a clock shows at it determine each other.  An instant some months away
from another one is known by its local time: the month that many months away, the same day or the
last one of a shorter month, and the same time of day.
-/

namespace PageContext

namespace Date

/-- A date exists when its month is one of the year and its day one of the month, in whatever year. -/
structure Exists (date : Date) : Prop where
  month : 1 ≤ date.month ∧ date.month ≤ 12
  day : 1 ≤ date.day ∧ date.day ≤ monthLength date.year date.month

theorem length_monthLengths (leap : Bool) : (monthLengths leap).length = 12 := by
  cases leap <;> rfl

theorem sum_monthLengths (leap : Bool) :
    (monthLengths leap).sum = if leap then 366 else 365 := by
  cases leap <;> rfl

theorem monthLength_eq_zero {year : Int} {month : Nat} (beyond : ¬(1 ≤ month ∧ month ≤ 12)) :
    monthLength year month = 0 := by
  rw [monthLength]
  split
  · rfl
  · rw [List.getElem?_eq_none (by rw [length_monthLengths]; omega)]
    rfl

theorem monthLength_le (year : Int) (month : Nat) : monthLength year month ≤ 31 := by
  have inTable : ∀ leap : Bool, ∀ month < 13,
      (if month = 0 then 0 else ((monthLengths leap)[month - 1]?).getD 0) ≤ 31 := by
    decide
  by_cases isMonth : 1 ≤ month ∧ month ≤ 12
  · exact inTable (isLeapYear year) month (by omega)
  · rw [monthLength_eq_zero isMonth]
    exact Nat.zero_le 31

/-- A day of a month lies in a month that exists. -/
theorem exists_of_day {date : Date} (positive : 1 ≤ date.day)
    (inMonth : date.day ≤ monthLength date.year date.month) : date.Exists := by
  refine ⟨?_, positive, inMonth⟩
  by_contra beyond
  rw [monthLength_eq_zero beyond] at inMonth
  omega

/-- Every month has a first day. -/
theorem exists_first (year : Int) {month : Nat} (isMonth : 1 ≤ month ∧ month ≤ 12) :
    (mk year month 1).Exists := by
  have inTable : ∀ leap : Bool, ∀ month < 13, 1 ≤ month →
      1 ≤ if month = 0 then 0 else ((monthLengths leap)[month - 1]?).getD 0 := by
    decide
  exact ⟨isMonth, Nat.le_refl 1, inTable (isLeapYear year) month (by omega) isMonth.1⟩

/-! ## Dates and their numbers -/

/-- An index within some months leads to one of them and to one of its days. -/
theorem monthAndDay_bounds {lengths : List Nat} {index : Nat} (inside : index < lengths.sum)
    (month : Nat) :
    (monthAndDay lengths month index).1 < month + lengths.length ∧
      (monthAndDay lengths month index).2 ≤
        (lengths[(monthAndDay lengths month index).1 - month]?).getD 0 := by
  induction lengths generalizing month index with
  | nil => simp at inside
  | cons length lengths hypothesis =>
      by_cases inMonth : index < length
      · simp only [monthAndDay, inMonth, if_true, Nat.sub_self, List.getElem?_cons_zero,
          Option.getD_some, List.length_cons]
        omega
      · rw [List.sum_cons] at inside
        have insideLater : index - length < lengths.sum := by omega
        rcases hypothesis insideLater (month + 1) with ⟨before, inLater⟩
        have notBefore := (monthAndDay_sound lengths (month + 1) (index - length)).1
        simp only [monthAndDay, inMonth, if_false, List.length_cons]
        refine ⟨by omega, ?_⟩
        have oneMore : (monthAndDay lengths (month + 1) (index - length)).1 - month =
            ((monthAndDay lengths (month + 1) (index - length)).1 - (month + 1)) + 1 := by
          omega
        rwa [oneMore, List.getElem?_cons_succ]

/-- The last year of four is a leap year, except the last one of a century that is not the last
one of four. -/
theorem isLeapYear_cycles {cycles centuries fours ones : Int}
    (centuriesBound : 0 ≤ centuries ∧ centuries ≤ 3) (foursBound : 0 ≤ fours ∧ fours ≤ 24)
    (onesBound : 0 ≤ ones ∧ ones ≤ 3) :
    isLeapYear (400 * cycles + 100 * centuries + 4 * fours + ones + 1) = true ↔
      ones = 3 ∧ (fours < 24 ∨ centuries = 3) := by
  simp only [isLeapYear, Bool.and_eq_true, Bool.or_eq_true, beq_iff_eq, bne_iff_ne]
  omega

theorem exists_ofDays (number : Int) : (ofDays number).Exists := by
  unfold ofDays
  extract_lets days cycles inCycle centuries inCentury fours inFour ones inYear year
  have leap : isLeapYear year = true ↔ ones = 3 ∧ (fours < 24 ∨ centuries = 3) := by
    apply isLeapYear_cycles <;> omega
  have inside : inYear.toNat < (monthLengths (isLeapYear year)).sum := by
    rw [sum_monthLengths]
    by_cases isLast : ones = 3 ∧ (fours < 24 ∨ centuries = 3)
    · rw [if_pos (leap.mpr isLast)]
      omega
    · rw [if_neg (mt leap.mp isLast)]
      omega
  rcases monthAndDay_sound (monthLengths (isLeapYear year)) 1 inYear.toNat with
    ⟨notBefore, positive, _⟩
  rcases monthAndDay_bounds inside 1 with ⟨before, inMonth⟩
  apply exists_of_day positive
  have notFirst : (monthAndDay (monthLengths (isLeapYear year)) 1 inYear.toNat).1 ≠ 0 :=
    Nat.ne_of_gt notBefore
  rw [monthLength, if_neg notFirst]
  exact inMonth

/-- A year has as many days as its months together. -/
theorem daysBeforeYear_add_one (year : Int) :
    daysBeforeYear (year + 1) = daysBeforeYear year + (monthLengths (isLeapYear year)).sum := by
  rw [sum_monthLengths, isLeapYear, daysBeforeYear, daysBeforeYear]
  simp only [Bool.and_eq_true, Bool.or_eq_true, beq_iff_eq, bne_iff_ne]
  split <;> omega

theorem daysBeforeYear_mono {earlier later : Int} (order : earlier ≤ later) :
    daysBeforeYear earlier ≤ daysBeforeYear later := by
  rw [daysBeforeYear, daysBeforeYear]
  omega

/-- A month ends before every later month of the year. -/
theorem daysBeforeMonth_add_monthLength_le (year : Int) {earlier later : Nat}
    (order : 1 ≤ earlier ∧ earlier < later ∧ later ≤ 12) :
    daysBeforeMonth year earlier + monthLength year earlier ≤ daysBeforeMonth year later := by
  have inTable : ∀ leap : Bool, ∀ later < 13, ∀ earlier < later, 1 ≤ earlier →
      ((monthLengths leap).take (earlier - 1)).foldl (· + ·) 0 +
          (if earlier = 0 then 0 else ((monthLengths leap)[earlier - 1]?).getD 0) ≤
        ((monthLengths leap).take (later - 1)).foldl (· + ·) 0 := by
    decide
  exact inTable (isLeapYear year) later (by omega) earlier order.2.1 order.1

/-- A month ends within the year. -/
theorem daysBeforeMonth_add_monthLength_le_year (year : Int) {month : Nat}
    (isMonth : 1 ≤ month ∧ month ≤ 12) :
    daysBeforeMonth year month + monthLength year month ≤
      (monthLengths (isLeapYear year)).sum := by
  have inTable : ∀ leap : Bool, ∀ month < 13, 1 ≤ month →
      ((monthLengths leap).take (month - 1)).foldl (· + ·) 0 +
          (if month = 0 then 0 else ((monthLengths leap)[month - 1]?).getD 0) ≤
        (monthLengths leap).sum := by
    decide
  exact inTable (isLeapYear year) month (by omega) isMonth.1

/-- Every day of an earlier year has a smaller number. -/
theorem year_le_of_toDays_le {first second : Date} (firstExists : first.Exists)
    (secondExists : second.Exists) (order : first.toDays ≤ second.toDays) :
    first.year ≤ second.year := by
  by_contra later
  have yearEnd := daysBeforeMonth_add_monthLength_le_year second.year secondExists.month
  have nextYear := daysBeforeYear_add_one second.year
  have notBefore : daysBeforeYear (second.year + 1) ≤ daysBeforeYear first.year :=
    daysBeforeYear_mono (by omega)
  have firstDay := firstExists.day
  have secondDay := secondExists.day
  simp only [toDays] at order
  omega

/-- Every day of an earlier month of a year has a smaller number. -/
theorem month_le_of_toDays_le {first second : Date} (firstExists : first.Exists)
    (secondExists : second.Exists) (sameYear : first.year = second.year)
    (order : first.toDays ≤ second.toDays) : first.month ≤ second.month := by
  by_contra later
  have monthEnd := daysBeforeMonth_add_monthLength_le second.year
    ⟨secondExists.month.1, Nat.lt_of_not_le later, firstExists.month.2⟩
  have firstDay := firstExists.day
  have secondDay := secondExists.day
  simp only [toDays, sameYear] at order
  omega

/-- A date that exists is the date of its number. -/
theorem ofDays_toDays {date : Date} (isDate : date.Exists) : ofDays date.toDays = date := by
  have isDate' := exists_ofDays date.toDays
  have sameNumber := toDays_ofDays date.toDays
  generalize ofDays date.toDays = found at *
  have sameYear : found.year = date.year := Int.le_antisymm
    (year_le_of_toDays_le isDate' isDate (Int.le_of_eq sameNumber))
    (year_le_of_toDays_le isDate isDate' (Int.le_of_eq sameNumber.symm))
  have sameMonth : found.month = date.month := Nat.le_antisymm
    (month_le_of_toDays_le isDate' isDate sameYear (Int.le_of_eq sameNumber))
    (month_le_of_toDays_le isDate isDate' sameYear.symm (Int.le_of_eq sameNumber.symm))
  have foundDay := isDate'.day
  have day := isDate.day
  have sameDay : found.day = date.day := by
    simp only [toDays, sameYear, sameMonth] at sameNumber
    omega
  cases found
  cases date
  simp_all

/-! ## Months apart -/

theorem monthIndex_eq_iff {first second : Date} (firstExists : first.Exists)
    (secondExists : second.Exists) :
    first.monthIndex = second.monthIndex ↔
      first.year = second.year ∧ first.month = second.month := by
  have firstMonth := firstExists.month
  have secondMonth := secondExists.month
  simp only [monthIndex]
  omega

/-- The date some months from another one: it lies in the month so many months away, on the same
day or on the last one of a shorter month.  It is in the representable range unless it is the same
date. -/
structure IsMonthsFrom (months : Int) (start finish : Date) : Prop where
  isDate : finish.Exists
  inRange : months = 0 ∨ (leastYear ≤ finish.year ∧ finish.year ≤ greatestYear)
  month : finish.monthIndex = start.monthIndex + months
  day : finish.day = min start.day (monthLength finish.year finish.month)

theorem isMonthsFrom_zero_iff {start finish : Date} (isDate : start.Exists) :
    IsMonthsFrom 0 start finish ↔ finish = start := by
  constructor
  · rintro ⟨finishExists, _, sameMonth, sameDay⟩
    rw [Int.add_zero, monthIndex_eq_iff finishExists isDate] at sameMonth
    rcases sameMonth with ⟨sameYear, sameMonth⟩
    rw [sameYear, sameMonth, Nat.min_eq_left isDate.day.2] at sameDay
    cases start
    cases finish
    simp_all
  · rintro rfl
    exact ⟨isDate, .inl rfl, (Int.add_zero _).symm, (Nat.min_eq_left isDate.day.2).symm⟩

theorem addMonths?_eq_some_iff {start finish : Date} {months : Int} (isDate : start.Exists) :
    start.addMonths? months = some finish ↔ IsMonthsFrom months start finish := by
  by_cases isHere : months = 0
  · rw [isHere, isMonthsFrom_zero_iff isDate, addMonths?, if_pos rfl, Option.some.injEq]
    exact eq_comm
  simp only [addMonths?, isHere, if_false, ofParts?, isValid, Bool.and_eq_true, decide_eq_true_eq,
    Option.ite_none_right_eq_some, Option.some.injEq, and_assoc]
  constructor
  · rintro ⟨notBefore, notAfter, positive, inMonth, rfl⟩
    refine ⟨exists_of_day positive inMonth, .inr ⟨notBefore, notAfter⟩, ?_, rfl⟩
    simp only [monthIndex]
    omega
  · rintro ⟨finishExists, inRange, month, day⟩
    have isMonth := finishExists.month
    have isDay := finishExists.day
    have inYears := inRange.resolve_left isHere
    have isYear : (start.monthIndex + months) / 12 = finish.year := by
      rw [← month, monthIndex]
      omega
    have isMonthOfYear : ((start.monthIndex + months) % 12).toNat + 1 = finish.month := by
      rw [← month, monthIndex]
      omega
    rw [isYear, isMonthOfYear, ← day]
    exact ⟨inYears.1, inYears.2, isDay.1, isDay.2, rfl⟩

end Date

/-! ## Instants and local times -/

theorem Instant.checked?_eq_some_iff {instant result : Instant} :
    instant.checked? = some result ↔ instant.isRepresentable = true ∧ instant = result := by
  rw [checked?, Option.ite_none_right_eq_some, Option.some.injEq]

theorem Instant.secondOfDay_toLocal_lt (instant : Instant) (offset : Int) :
    ((instant.toLocal offset).secondOfDay : Int) < secondsPerDay := by
  simp only [toLocal, secondsPerDay]
  omega

/-- A local time whose date exists is what the clock shows at its instant, and at no other. -/
theorem LocalTime.toInstant?_eq_some_iff (time : LocalTime) {offset : Int} {instant : Instant}
    (isDate : time.date.Exists) (inDay : (time.secondOfDay : Int) < secondsPerDay) :
    time.toInstant? offset = some instant ↔
      instant.isRepresentable = true ∧ instant.toLocal offset = time := by
  rw [toInstant?, Instant.checked?_eq_some_iff]
  constructor
  · rintro ⟨isRepresentable, rfl⟩
    refine ⟨isRepresentable, ?_⟩
    have isDay : (time.date.toDays * secondsPerDay + time.secondOfDay - offset + offset) /
        secondsPerDay = time.date.toDays := by
      simp only [secondsPerDay] at inDay ⊢
      omega
    have isSecond : ((time.date.toDays * secondsPerDay + time.secondOfDay - offset + offset) %
        secondsPerDay).toNat = time.secondOfDay := by
      simp only [secondsPerDay] at inDay ⊢
      omega
    rw [Instant.toLocal, isDay, isSecond, Date.ofDays_toDays isDate]
  · rintro ⟨isRepresentable, rfl⟩
    have sameInstant : (Date.ofDays ((instant.seconds + offset) / secondsPerDay)).toDays *
        secondsPerDay + ((instant.seconds + offset) % secondsPerDay).toNat - offset =
          instant.seconds := by
      rw [Date.toDays_ofDays, secondsPerDay]
      omega
    simp only [Instant.toLocal, sameInstant]
    exact ⟨isRepresentable, trivial⟩

namespace TimeFrame

theorem exists_localDate (frame : TimeFrame) (instant : Instant) :
    (frame.localDate instant).Exists :=
  Date.exists_ofDays _

/-- The instant some months from another one: its local date is so many months away, its local time
of day is the same. -/
structure IsMonthsFrom (frame : TimeFrame) (months : Int) (start finish : Instant) : Prop where
  isRepresentable : finish.isRepresentable = true
  date : Date.IsMonthsFrom months (frame.localDate start) (frame.localDate finish)
  secondOfDay : (frame.localTime finish).secondOfDay = (frame.localTime start).secondOfDay
  nanoseconds : finish.nanoseconds = start.nanoseconds

theorem addMonths?_eq_some_iff {frame : TimeFrame} {start finish : Instant} {months : Int} :
    frame.addMonths? start months = some finish ↔ frame.IsMonthsFrom months start finish := by
  have inDay := start.secondOfDay_toLocal_lt frame.offset
  have atSameTime (date : Date) (isDate : date.Exists) :
      LocalTime.toInstant? ⟨date, (frame.localTime start).secondOfDay, start.nanoseconds⟩
          frame.offset = some finish ↔
        finish.isRepresentable = true ∧ finish.toLocal frame.offset =
          ⟨date, (frame.localTime start).secondOfDay, start.nanoseconds⟩ :=
    LocalTime.toInstant?_eq_some_iff _ isDate inDay
  simp only [addMonths?, Option.bind_eq_bind, Option.bind_eq_some_iff]
  constructor
  · rintro ⟨date, isDate, isInstant⟩
    have isMonths := (Date.addMonths?_eq_some_iff (frame.exists_localDate start)).mp isDate
    rcases (atSameTime date isMonths.isDate).mp isInstant with ⟨isRepresentable, isLocal⟩
    have isLocalDate : frame.localDate finish = date := by
      rw [localDate, localTime, isLocal]
    refine ⟨isRepresentable, ?_, ?_, ?_⟩
    · rw [isLocalDate]
      exact isMonths
    · rw [localTime, isLocal]
    · exact congrArg LocalTime.nanoseconds isLocal
  · rintro ⟨isRepresentable, isMonths, sameSecond, sameFraction⟩
    refine ⟨frame.localDate finish,
      (Date.addMonths?_eq_some_iff (frame.exists_localDate start)).mpr isMonths, ?_⟩
    refine (atSameTime _ isMonths.isDate).mpr ⟨isRepresentable, ?_⟩
    rw [← sameSecond, ← sameFraction]
    rfl

end TimeFrame

end PageContext
