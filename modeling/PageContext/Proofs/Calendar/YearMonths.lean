import PageContext.Proofs.Calendar.Shifts

/-!
# Months and their references

A month of the calendar is known by its number among all months and by its reference.  An instant
that is not earlier than another one does not lie in an earlier local month.
-/

namespace PageContext

namespace YearMonth

/-- The month is one of the twelve of its year. -/
def IsMonth (yearMonth : YearMonth) : Prop :=
  1 ≤ yearMonth.month ∧ yearMonth.month ≤ 12

variable {first second : YearMonth} (isFirst : first.IsMonth) (isSecond : second.IsMonth)

include isFirst isSecond

theorem index_inj (same : first.index = second.index) : first = second := by
  rcases isFirst with ⟨firstLow, firstHigh⟩
  rcases isSecond with ⟨secondLow, secondHigh⟩
  have sameYear : first.year = second.year := by
    simp only [index] at same
    omega
  have sameMonth : first.month = second.month := by
    simp only [index] at same
    omega
  cases first
  cases second
  simp only [mk.injEq]
  exact ⟨sameYear, sameMonth⟩

theorem year_le_of_index_le (order : first.index ≤ second.index) : first.year ≤ second.year := by
  rcases isFirst with ⟨firstLow, firstHigh⟩
  rcases isSecond with ⟨secondLow, secondHigh⟩
  simp only [index] at order
  omega

/-- The year and the month can be read off a reference, of which the month takes two digits. -/
theorem reference_inj (same : first.reference = second.reference) : first = second := by
  have length (month : Nat) (isMonth : month ≤ 12) : (Text.padded 2 month).toList.length = 2 := by
    have inTable : ∀ month < 13, (Text.padded 2 month).toList.length = 2 := by decide
    exact inTable month (by omega)
  have inTable : ∀ month < 13, ∀ other < 13,
      (Text.padded 2 month).toList = (Text.padded 2 other).toList → month = other := by
    decide
  have sameList := congrArg String.toList same
  simp only [reference, String.toList_append] at sameList
  rcases List.append_inj' sameList
    ((length _ isFirst.2).trans (length _ isSecond.2).symm) with ⟨sameFront, sameBack⟩
  have sameMonth := inTable _ (Nat.lt_succ_of_le isFirst.2) _ (Nat.lt_succ_of_le isSecond.2) sameBack
  have sameYear : first.year = second.year :=
    Int.repr_injective (String.toList_injective (List.append_cancel_right sameFront))
  cases first
  cases second
  simp only [mk.injEq]
  exact ⟨sameYear, sameMonth⟩

end YearMonth

namespace TimeFrame

theorem isMonth_localMonth (frame : TimeFrame) (instant : Instant) :
    (frame.localMonth instant).IsMonth :=
  (frame.exists_localDate instant).month

theorem isMonth_of_monthAfter? {frame : TimeFrame} {instant : Instant} {hours : Int}
    {month : YearMonth} (isMonth : frame.monthAfter? instant hours = some month) :
    month.IsMonth := by
  rcases Option.map_eq_some_iff.mp isMonth with ⟨moved, _, rfl⟩
  exact frame.isMonth_localMonth moved

theorem monthAfter?_eq_none_iff (frame : TimeFrame) (instant : Instant) (hours : Int) :
    frame.monthAfter? instant hours = none ↔ instant.LeavesRange hours := by
  simp [monthAfter?, Instant.addHours?_eq_none_iff]

/-- A later instant does not lie in an earlier month. -/
theorem index_localMonth_mono (frame : TimeFrame) {earlier later : Instant}
    (order : earlier.seconds ≤ later.seconds) :
    (frame.localMonth earlier).index ≤ (frame.localMonth later).index := by
  have earlierExists := frame.exists_localDate earlier
  have laterExists := frame.exists_localDate later
  have days : (frame.localDate earlier).toDays ≤ (frame.localDate later).toDays := by
    rw [localDate_eq_ofDays, localDate_eq_ofDays, Date.toDays_ofDays, Date.toDays_ofDays]
    exact frame.dayNumber_mono order
  have years := Date.year_le_of_toDays_le earlierExists laterExists days
  have months := Date.month_le_of_toDays_le earlierExists laterExists
  have earlierMonth := earlierExists.month
  have laterMonth := laterExists.month
  simp only [localMonth, YearMonth.ofDate, YearMonth.index]
  rcases Int.lt_or_eq_of_le years with less | same
  · omega
  · have ordered := months same days
    omega

/-- Instants in milliseconds that are moved by the same hours keep their order by months. -/
theorem index_monthAfter?_mono {frame : TimeFrame} {fewer more hours : Int}
    {earlier later : Instant} {earlierMonth laterMonth : YearMonth} (order : fewer ≤ more)
    (isEarlier : Instant.ofMilliseconds? fewer = some earlier)
    (isLater : Instant.ofMilliseconds? more = some later)
    (isEarlierMonth : frame.monthAfter? earlier hours = some earlierMonth)
    (isLaterMonth : frame.monthAfter? later hours = some laterMonth) :
    earlierMonth.index ≤ laterMonth.index := by
  rcases Option.map_eq_some_iff.mp isEarlierMonth with ⟨earlierMoved, earlierIsMoved, rfl⟩
  rcases Option.map_eq_some_iff.mp isLaterMonth with ⟨laterMoved, laterIsMoved, rfl⟩
  apply frame.index_localMonth_mono
  rw [Instant.seconds_of_addHours? isEarlier earlierIsMoved,
    Instant.seconds_of_addHours? isLater laterIsMoved]
  omega

end TimeFrame

end PageContext
