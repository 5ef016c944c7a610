import PageContext.Proofs.Calendar.Shifts
import PageContext.Proofs.Text.Decimal

/-!
# Display dates

A display date is a function of two days, the one that it stands for and the one that counts as
today.  If years are shown, two days have different texts: a label relative to today does not end
with a digit, a date in words does, and it can be cut into its month, its day and its year.
-/

namespace PageContext

/-! ## Dates in words -/

/-- A date in words, with or without its year. -/
def Date.words (short withYear : Bool) (date : Date) : String :=
  monthLabel short date.month ++ " " ++ toString date.day ++
    if withYear then ", " ++ toString date.year else ""

/-- A text ends with a year behind a comma. -/
def PrintsYear (year : Int) (text : String) : Prop :=
  ∃ front, text = front ++ ", " ++ toString year

theorem monthLabel_plain (short : Bool) {month : Nat} (isMonth : month ≤ 12) :
    ' ' ∉ (monthLabel short month).toList ∧ ',' ∉ (monthLabel short month).toList := by
  have inTable : ∀ short : Bool, ∀ month < 13,
      ' ' ∉ (monthLabel short month).toList ∧ ',' ∉ (monthLabel short month).toList := by
    decide
  exact inTable short month (by omega)

theorem monthLabel_inj {short : Bool} {first second : Nat} (isFirst : 1 ≤ first ∧ first ≤ 12)
    (isSecond : 1 ≤ second ∧ second ≤ 12) (same : monthLabel short first = monthLabel short second) :
    first = second := by
  have inTable : ∀ short : Bool, ∀ first < 13, ∀ second < 13, 1 ≤ first → 1 ≤ second →
      monthLabel short first = monthLabel short second → first = second := by
    decide
  exact inTable short first (by omega) second (by omega) isFirst.1 isSecond.1 same

theorem areDigits_toString (number : Nat) :
    (toString number).toList ≠ [] ∧
      ∀ character ∈ (toString number).toList, character.isDigit = true := by
  have isNumber := Text.digits?_eq_some_iff.mp (Text.digits?_toString number)
  exact ⟨isNumber.1, isNumber.2.1⟩

theorem comma_notMem_toString (number : Nat) : ',' ∉ (toString number).toList := by
  intro member
  have isDigit := (areDigits_toString number).2 _ member
  contradiction

namespace Date

theorem cut_words (short withYear : Bool) {date : Date} (isDate : date.Exists) :
    Text.cut ' ' (date.words short withYear) = some (monthLabel short date.month,
      toString date.day ++ if withYear then ", " ++ toString date.year else "") := by
  apply Text.cut_eq_some_iff.mpr
  constructor
  · exact (monthLabel_plain short isDate.month.2).1
  · simp [words]

theorem comma_notMem_words (short : Bool) {date : Date} (isDate : date.Exists) :
    ',' ∉ (date.words short false).toList := by
  have noComma := (monthLabel_plain short isDate.month.2).2
  have noCommaBehind := comma_notMem_toString date.day
  simp only [words, String.toList_append, List.mem_append, not_or]
  exact ⟨⟨⟨noComma, by decide⟩, noCommaBehind⟩, by simp⟩

theorem cut_day (day : Nat) (withYear : Bool) (year : Int) :
    Text.cut ',' (toString day ++ if withYear then ", " ++ toString year else "") =
      if withYear then some (toString day, " " ++ toString year) else none := by
  have noComma := comma_notMem_toString day
  cases withYear with
  | true =>
      apply Text.cut_eq_some_iff.mpr
      exact ⟨noComma, by simp⟩
  | false =>
      apply (Text.cut_eq_none_iff ',' _).mpr
      simpa using noComma

theorem printsYear_words_iff (short withYear : Bool) {date : Date} (isDate : date.Exists) :
    PrintsYear date.year (date.words short withYear) ↔ withYear = true := by
  cases withYear with
  | true =>
      simp only [iff_true]
      exact ⟨monthLabel short date.month ++ " " ++ toString date.day, by
        simp [words, String.append_assoc]⟩
  | false =>
      simp only [Bool.false_eq_true, iff_false]
      rintro ⟨front, isText⟩
      apply comma_notMem_words short isDate
      rw [isText]
      simp

theorem words_inj {short firstYear secondYear : Bool} {first second : Date}
    (isFirst : first.Exists) (isSecond : second.Exists)
    (same : first.words short firstYear = second.words short secondYear) :
    first.month = second.month ∧ first.day = second.day ∧ firstYear = secondYear ∧
      (firstYear = true → first.year = second.year) := by
  have sameCut := congrArg (Text.cut ' ') same
  simp only [cut_words, isFirst, isSecond, Option.some.injEq, Prod.mk.injEq] at sameCut
  rcases sameCut with ⟨sameMonth, sameRest⟩
  have isMonth := monthLabel_inj isFirst.month isSecond.month sameMonth
  have sameParts := congrArg (Text.cut ',') sameRest
  rw [cut_day, cut_day] at sameParts
  cases firstYear <;> cases secondYear
  · have sameDay : toString first.day = toString second.day := by simpa using sameRest
    exact ⟨isMonth, Nat.repr_injective sameDay, rfl, by simp⟩
  · simp at sameParts
  · simp at sameParts
  · simp only [if_true, Option.some.injEq, Prod.mk.injEq, String.append_right_inj] at sameParts
    rcases sameParts with ⟨sameDay, sameYear⟩
    refine ⟨isMonth, Nat.repr_injective sameDay, rfl, ?_⟩
    intro _
    exact Int.repr_injective sameYear

end Date

/-! ## Display dates -/

/-- The last character is a digit. -/
def EndsWithDigit (text : String) : Prop :=
  ∃ last ∈ text.toList.getLast?, last.isDigit = true

theorem EndsWithDigit.append {text : String} (ends : EndsWithDigit text) (front : String) :
    EndsWithDigit (front ++ text) := by
  rcases ends with ⟨last, isLast, isDigit⟩
  refine ⟨last, ?_, isDigit⟩
  rw [Option.mem_def] at isLast ⊢
  simp [isLast]

theorem endsWithDigit_nat (number : Nat) : EndsWithDigit (toString number) := by
  rcases areDigits_toString number with ⟨notEmpty, areDigits⟩
  have isLast := List.getLast?_eq_getLast_of_ne_nil notEmpty
  exact ⟨_, isLast, areDigits _ (List.getLast_mem notEmpty)⟩

theorem endsWithDigit_int (number : Int) : EndsWithDigit (toString number) := by
  cases number with
  | ofNat magnitude => exact endsWithDigit_nat magnitude
  | negSucc magnitude => exact (endsWithDigit_nat (magnitude + 1)).append "-"

theorem Date.endsWithDigit_words (short withYear : Bool) (date : Date) :
    EndsWithDigit (date.words short withYear) := by
  rw [words]
  cases withYear with
  | true => exact ((endsWithDigit_int date.year).append ", ").append _
  | false => simpa using (endsWithDigit_nat date.day).append _

theorem not_endsWithDigit_relativeDayLabel (days : Int) :
    ¬EndsWithDigit (relativeDayLabel days) := by
  rintro ⟨last, isLast, isDigit⟩
  rw [relativeDayLabel_getLast?, Option.mem_some] at isLast
  have letters : last = 'o' ∨ last = 's' ∨ last = 'w' ∨ last = 'y' := by grind
  rcases letters with rfl | rfl | rfl | rfl <;> contradiction

theorem relativeDayLabel_ne_words (days : Int) (short withYear : Bool) (date : Date) :
    relativeDayLabel days ≠ date.words short withYear := by
  intro same
  apply not_endsWithDigit_relativeDayLabel days
  rw [same]
  exact date.endsWithDigit_words short withYear

/-- A day is near enough to today to have a label relative to it. -/
def DisplayStyle.IsRecent (style : DisplayStyle) (today day : Date) : Prop :=
  0 ≤ today.toDays - day.toDays ∧ today.toDays - day.toDays < style.relativeDays

instance (style : DisplayStyle) (today day : Date) : Decidable (style.IsRecent today day) :=
  inferInstanceAs (Decidable (_ ∧ _))

namespace TimeFrame

/-- Whether a date of a year shows it. -/
def showsYearOf (frame : TimeFrame) (mode : YearMode) (year : Int) : Bool :=
  match mode with
  | .always => true
  | .never => false
  | .whenDifferent => year != (frame.localDate frame.now).year

/-- The label of a day, seen from the day that counts as today. -/
def dayText (frame : TimeFrame) (style : DisplayStyle) (today day : Date) : String :=
  if style.IsRecent today day then relativeDayLabel (today.toDays - day.toDays)
  else day.words style.shortMonth (frame.showsYearOf style.year day.year)

theorem showsYear_eq (frame : TimeFrame) (mode : YearMode) (instant : Instant) :
    frame.showsYear mode instant = frame.showsYearOf mode (frame.localDate instant).year := by
  cases mode <;> rfl

theorem dateText_eq (frame : TimeFrame) (moved : Instant) {style : DateStyle}
    (noWeekday : style.dayOfWeek = false) :
    frame.dateText moved style = (frame.localDate moved).words style.shortMonth
      (frame.showsYearOf style.year (frame.localDate moved).year) := by
  simp [dateText, noWeekday, Date.words, showsYear_eq]

/-- A display date is a function of the day it stands for and of the day that counts as today. -/
theorem displayDate_eq (frame : TimeFrame) (instant : Instant) (style : DisplayStyle) :
    frame.displayDate instant style = do
      let today ← frame.countedDay frame.now style.hoursOffset
      let day ← frame.countedDay instant style.hoursOffset
      return frame.dayText style today day := by
  rw [displayDate, daysAgo]
  cases frame.countedDay frame.now style.hoursOffset with
  | error stop => rfl
  | ok today =>
      cases isDay : frame.countedDay instant style.hoursOffset with
      | error stop => rfl
      | ok day =>
          rcases Option.map_eq_some_iff.mp (countedDay_eq_ok_iff.mp isDay).1 with
            ⟨moved, isMoved, rfl⟩
          have isWritten := frame.dateText_eq moved
            (show (DateStyle.mk style.year style.shortMonth false).dayOfWeek = false from rfl)
          simp only [isMoved, isWritten, bind, Except.bind, pure, Except.pure, Bool.and_eq_true,
            decide_eq_true_eq, dayText]
          split
          · next near => rw [if_pos (show style.IsRecent today _ from near)]
          · next far => rw [if_neg (show ¬style.IsRecent today _ from far)]

theorem displayDate_eq_error_iff {frame : TimeFrame} {instant : Instant} {style : DisplayStyle}
    {stop : Stop DateError} :
    frame.displayDate instant style = .error stop ↔
      frame.LacksDistance style.hoursOffset instant stop := by
  rw [← daysAgo_eq_error_iff, displayDate_eq, daysAgo]
  simp only [Except.bind_eq_error_iff, Except.pure_ne_error, and_false, exists_false, or_false]

theorem displayDate?_eq_some_iff {frame : TimeFrame} {instant : Instant} {style : DisplayStyle}
    {text : String} :
    frame.displayDate? instant style = some text ↔
      ∃ today day, frame.countedDay frame.now style.hoursOffset = .ok today ∧
        frame.countedDay instant style.hoursOffset = .ok day ∧
        frame.dayText style today day = text := by
  simp only [displayDate?, Except.toOption_eq_some_iff, displayDate_eq, Except.bind_eq_ok_iff,
    Except.pure_eq_ok_iff]
  constructor
  · rintro ⟨today, isToday, day, isDay, isText⟩
    exact ⟨today, day, isToday, isDay, isText⟩
  · rintro ⟨today, day, isToday, isDay, isText⟩
    exact ⟨today, isToday, day, isDay, isText⟩

/-! ### Days and their texts -/

/-- Two dates that both show their years, or both leave out the current one, differ in what is
shown if they differ in their years. -/
theorem year_eq_of_shown {frame : TimeFrame} {mode : YearMode} {first second : Int}
    (showsYears : mode ≠ .never)
    (sameShown : frame.showsYearOf mode first = frame.showsYearOf mode second)
    (sameYear : frame.showsYearOf mode first = true → first = second) : first = second := by
  cases mode with
  | never => exact absurd rfl showsYears
  | always => exact sameYear rfl
  | whenDifferent =>
      simp only [showsYearOf, bne_iff_ne] at sameYear sameShown
      by_cases isCurrent : first = (frame.localDate frame.now).year
      · have otherIsCurrent : second = (frame.localDate frame.now).year := by
          simpa [isCurrent] using sameShown.symm
        exact isCurrent.trans otherIsCurrent.symm
      · exact sameYear isCurrent

theorem dayText_inj {frame : TimeFrame} {style : DisplayStyle} {today first second : Date}
    (showsYears : style.year ≠ .never) (isFirst : first.Exists) (isSecond : second.Exists)
    (same : frame.dayText style today first = frame.dayText style today second) :
    first = second := by
  by_cases firstRecent : style.IsRecent today first <;>
    by_cases secondRecent : style.IsRecent today second <;>
    simp only [dayText, firstRecent, secondRecent, if_true, if_false] at same
  · have sameDistance := relativeDayLabel_injective same
    have sameNumber : first.toDays = second.toDays := by omega
    rw [← Date.ofDays_toDays isFirst, sameNumber, Date.ofDays_toDays isSecond]
  · exact absurd same (relativeDayLabel_ne_words _ _ _ _)
  · exact absurd same.symm (relativeDayLabel_ne_words _ _ _ _)
  · rcases Date.words_inj isFirst isSecond same with ⟨sameMonth, sameDay, sameShown, sameYear⟩
    have isYear := year_eq_of_shown showsYears sameShown sameYear
    cases first
    cases second
    simp only [Date.mk.injEq]
    exact ⟨isYear, sameMonth, sameDay⟩

/-- Two instants have the same display date exactly if they lie on the same day, both moved by the
hours offset. -/
theorem text_eq_iff_dateAfter?_eq {frame : TimeFrame} {style : DisplayStyle}
    {first second : Instant} {firstText secondText : String} (showsYears : style.year ≠ .never)
    (isFirst : frame.displayDate? first style = some firstText)
    (isSecond : frame.displayDate? second style = some secondText) :
    firstText = secondText ↔
      frame.dateAfter? first style.hoursOffset = frame.dateAfter? second style.hoursOffset := by
  rcases displayDate?_eq_some_iff.mp isFirst with ⟨today, firstDay, isToday, isFirstDay, rfl⟩
  rcases displayDate?_eq_some_iff.mp isSecond with ⟨other, secondDay, isOther, isSecondDay, rfl⟩
  rw [isToday, Except.ok.injEq] at isOther
  replace isFirstDay := (countedDay_eq_ok_iff.mp isFirstDay).1
  replace isSecondDay := (countedDay_eq_ok_iff.mp isSecondDay).1
  rw [← isOther, isFirstDay, isSecondDay, Option.some.injEq]
  constructor
  · intro same
    exact dayText_inj showsYears (exists_of_dateAfter? isFirstDay)
      (exists_of_dateAfter? isSecondDay) same
  · intro sameDay
    rw [sameDay]

/-! ### The current year -/

/-- The year is compared with that of now, which is not moved by the hours offset. -/
theorem printsYear_dayText_iff {frame : TimeFrame} {style : DisplayStyle} {today day : Date}
    (isDefault : style.year = .whenDifferent) (isDay : day.Exists)
    (writtenOut : ¬style.IsRecent today day) :
    PrintsYear day.year (frame.dayText style today day) ↔
      day.year ≠ (frame.localDate frame.now).year := by
  simp [dayText, writtenOut, Date.printsYear_words_iff, isDay, showsYearOf, isDefault]

/-- A date that is written out shows its year where this is not the year of now.  This is where it
is not the current year, for which now is moved by the hours offset as the date is, unless the
offset moves now into another year and the date lies in one of these two years. -/
theorem prints_year_iff {frame : TimeFrame} {instant : Instant} {style : DisplayStyle}
    {text : String} (isDefault : style.year = .whenDifferent)
    (isText : frame.displayDate? instant style = some text)
    (writtenOut : ∀ days ∈ frame.daysAgo? instant style.hoursOffset,
      ¬(0 ≤ days ∧ days < style.relativeDays)) :
    ∃ month current, frame.monthAfter? instant style.hoursOffset = some month ∧
      frame.currentMonthAfter? style.hoursOffset = some current ∧
      (PrintsYear month.year text ↔ month.year ≠ (frame.localDate frame.now).year) ∧
      ((PrintsYear month.year text ↔ month.year ≠ current.year) ↔
        (frame.localDate frame.now).year = current.year ∨
          (month.year ≠ (frame.localDate frame.now).year ∧ month.year ≠ current.year)) := by
  rcases displayDate?_eq_some_iff.mp isText with ⟨today, day, isToday, isDay, rfl⟩
  have notRecent : ¬style.IsRecent today day := by
    apply writtenOut
    exact Except.toOption_eq_some_iff.mpr
      (daysAgo_eq_ok_iff.mpr ⟨today, day, isToday, isDay, rfl⟩)
  replace isToday := (countedDay_eq_ok_iff.mp isToday).1
  replace isDay := (countedDay_eq_ok_iff.mp isDay).1
  have isMonth : frame.monthAfter? instant style.hoursOffset = some (.ofDate day) := by
    simp [monthAfter?_eq_map, isDay]
  have isCurrent : frame.currentMonthAfter? style.hoursOffset = some (.ofDate today) := by
    simp [currentMonthAfter?, monthAfter?_eq_map, isToday]
  have printed : PrintsYear day.year (frame.dayText style today day) ↔
      day.year ≠ (frame.localDate frame.now).year :=
    printsYear_dayText_iff isDefault (exists_of_dateAfter? isDay) notRecent
  refine ⟨_, _, isMonth, isCurrent, printed, ?_⟩
  simp only [YearMonth.ofDate, printed]
  omega

/-- The conclusion for a date of the next year, into which the hours offset moves now. -/
theorem prints_year_iff_next_year :
    let frame : TimeFrame := ⟨0, ⟨1609455600, 0⟩⟩
    let style : DisplayStyle := { hoursOffset := 2 }
    style.year = .whenDifferent ∧
      frame.displayDate? ⟨1609804800, 0⟩ style = some "January 5, 2021" ∧
      (∀ days ∈ frame.daysAgo? ⟨1609804800, 0⟩ 2, ¬(0 ≤ days ∧ days < 2)) ∧
      ∃ month current, frame.monthAfter? ⟨1609804800, 0⟩ 2 = some month ∧
        frame.currentMonthAfter? 2 = some current ∧
        (PrintsYear month.year "January 5, 2021" ↔
          month.year ≠ (frame.localDate frame.now).year) ∧
        ((PrintsYear month.year "January 5, 2021" ↔ month.year ≠ current.year) ↔
          (frame.localDate frame.now).year = current.year ∨
            (month.year ≠ (frame.localDate frame.now).year ∧ month.year ≠ current.year)) := by
  intro frame style
  have isText : frame.displayDate? ⟨1609804800, 0⟩ style = some "January 5, 2021" := by decide
  have writtenOut : ∀ days ∈ frame.daysAgo? ⟨1609804800, 0⟩ 2, ¬(0 ≤ days ∧ days < 2) := by
    decide
  exact ⟨rfl, isText, writtenOut, prints_year_iff rfl isText writtenOut⟩

/-- The year need not be shown exactly where it is not the current one. -/
theorem not_forall_prints_year_iff :
    ¬∀ (frame : TimeFrame) (instant : Instant) (style : DisplayStyle) (text : String)
      (month current : YearMonth), style.year = .whenDifferent →
      frame.displayDate? instant style = some text →
      (∀ days ∈ frame.daysAgo? instant style.hoursOffset,
        ¬(0 ≤ days ∧ days < style.relativeDays)) →
      frame.monthAfter? instant style.hoursOffset = some month →
      frame.currentMonthAfter? style.hoursOffset = some current →
      (PrintsYear month.year text ↔ month.year ≠ current.year) := by
  intro agrees
  have printed : PrintsYear 2021 "January 5, 2021" := ⟨"January 5", rfl⟩
  have agreesHere := agrees ⟨0, ⟨1609455600, 0⟩⟩ ⟨1609804800, 0⟩ { hoursOffset := 2 }
    "January 5, 2021" ⟨2021, 1⟩ ⟨2021, 1⟩ rfl (by decide) (by decide) (by decide) (by decide)
  exact agreesHere.mp printed rfl

end TimeFrame

end PageContext
