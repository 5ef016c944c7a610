import PageContext.Calendar.Timeline
import PageContext.Proofs.Calendar.Months
import PageContext.Proofs.Text.Decimal

/-!
# Timelines with a relative end

The end of a timeline may be written as a distance from its start.  A timeline of months whose end
is some months away has one month more than the distance, from the local month of the start onwards
or backwards; a timeline of years whose end is some years away has one year more.
-/

namespace PageContext

/-- The direction of a distance in time. -/
inductive Direction where
  | forwards
  | backwards
deriving DecidableEq, Repr

namespace Direction

def sign : Direction → Int
  | .forwards => 1
  | .backwards => -1

/-- The character in front of a distance. -/
def mark : Direction → String
  | .forwards => "+"
  | .backwards => "-"

end Direction

/-! ## Months in sequence -/

namespace YearMonth

/-- The month some months later, or earlier for a negative number. -/
def addMonths (yearMonth : YearMonth) (months : Int) : YearMonth :=
  ofIndex (yearMonth.index + months)

theorem ofIndex_index {yearMonth : YearMonth}
    (isMonth : 1 ≤ yearMonth.month ∧ yearMonth.month ≤ 12) : ofIndex yearMonth.index = yearMonth := by
  have isYear : yearMonth.index / 12 = yearMonth.year := by
    rw [index]
    omega
  have isMonthOfYear : (yearMonth.index % 12).toNat + 1 = yearMonth.month := by
    rw [index]
    omega
  rw [ofIndex, isYear, isMonthOfYear]

end YearMonth

/-- A stretch from a number to another one some steps away holds the numbers of all these steps. -/
theorem stretch_of_distance (direction : Direction) (first : Int) (amount : Nat) :
    stretch first (first + direction.sign * amount) =
      (List.range (amount + 1)).map fun step : Nat => first + direction.sign * step := by
  cases direction with
  | forwards =>
      have notBefore : first ≤ first + 1 * (amount : Int) := by omega
      have isAmount : (first + 1 * (amount : Int) - first).toNat = amount := by omega
      rw [stretch, Direction.sign, if_pos notBefore, isAmount]
      simp only [Int.one_mul]
  | backwards =>
      cases amount with
      | zero =>
          -- A stretch that ends where it starts runs forwards.
          simp [stretch, Direction.sign]
      | succ amount =>
          have before : ¬first ≤ first + -1 * ((amount + 1 : Nat) : Int) := by omega
          have isAmount : (first - (first + -1 * ((amount + 1 : Nat) : Int))).toNat = amount + 1 := by
            omega
          rw [stretch, Direction.sign, if_neg before, isAmount]
          apply List.map_congr_left
          intro step _
          omega

namespace TimeFrame

/-- The marker of a month on a timeline: its name, in full or short, and its year. -/
def monthMarker (current : YearMonth) (short : Bool) (yearMonth : YearMonth) : Marker :=
  .ofMonth current (monthLabel short yearMonth.month ++ " " ++ toString yearMonth.year) yearMonth

/-- Beside the markers of years a timeline of months has one marker for each month. -/
theorem filter_monthMarkers (current : YearMonth) (short : Bool) (lastYear : Option Int)
    (months : List YearMonth) :
    (monthMarkers current short lastYear months).filter (fun marker => marker.kind = .month) =
      months.map (monthMarker current short) := by
  induction months generalizing lastYear with
  | nil => rfl
  | cons yearMonth rest hypothesis =>
      rw [monthMarkers]
      split <;> simp [hypothesis, Marker.ofMonth, Marker.ofYear, monthMarker]

/-! ## Distances -/

theorem isDistance_amount (amount : Nat) (rest : List Char) :
    isDistance ((toString amount).toList ++ ' ' :: rest) = true := by
  have isNumber := Text.digits?_eq_some_iff.mp (Text.digits?_toString amount)
  cases digits : (toString amount).toList with
  | nil => exact absurd digits isNumber.1
  | cons first others =>
      have isDigit : first.isDigit = true := by
        apply isNumber.2.1
        rw [digits]
        exact List.mem_cons_self
      simp [isDistance, isDigit]

variable {name : String} {unit : DistanceUnit} {amount : Nat}

/-- The text behind the sign of a distance is read word by word. -/
theorem moveBy?_words (frame : TimeFrame) (start : Instant) (sign : Int) (amount : Nat)
    (isUnit : DistanceUnit.ofText? name = some unit) (nonempty : name ≠ "")
    (noBlank : ∀ character ∈ name.toList, Text.isBlank character = false) :
    frame.moveBy? start sign (toString amount ++ " " ++ name) =
      (Text.unsigned? 32 (toString amount)).bind fun amount =>
        frame.move? start (sign * amount) unit := by
  have isNumber := Text.digits?_eq_some_iff.mp (Text.digits?_toString amount)
  have isWord : toString amount ≠ "" := by
    intro empty
    exact isNumber.1 (by rw [empty]; rfl)
  have noBlankDigit : ∀ character ∈ (toString amount).toList, Text.isBlank character = false :=
    fun character member => Text.isBlank_of_isDigit (isNumber.2.1 character member)
  rw [moveBy?, Text.words_append isWord noBlankDigit, Text.words_of_noBlank nonempty noBlank]
  simp only [isUnit, Option.bind_eq_bind, Option.bind_some]

theorem noBlank_of_isWord (isWord : name.toList.any Text.isBlank = false) :
    ∀ character ∈ name.toList, Text.isBlank character = false := by
  intro character member
  simpa using List.any_eq_false.mp isWord character member

theorem toList_singleton_append (first : Char) (rest : String) :
    (String.singleton first ++ rest).toList = first :: rest.toList := by
  simp

/-- A sign in front and a name at the end leave nothing to trim. -/
theorem trim_distance (sign : Char) (noBlankSign : Text.isBlank sign = false) (middle : String)
    (nonempty : name ≠ "") (noBlank : ∀ character ∈ name.toList, Text.isBlank character = false) :
    Text.trim (String.singleton sign ++ (middle ++ name)) =
      String.singleton sign ++ (middle ++ name) := by
  rw [Text.trim_eq_self_iff]
  refine ⟨?_, ?_⟩
  · intro character first
    rw [toList_singleton_append, List.head?_cons, Option.mem_some_iff] at first
    rwa [← first]
  · intro character last
    rw [toList_singleton_append, String.toList_append, ← List.cons_append,
      List.getLast?_append_of_ne_nil _ (by simpa using nonempty)] at last
    exact noBlank character (List.mem_of_getLast? last)

theorem lowerAscii_ne_now {sign : Char} (noLetter : sign.toLower ≠ 'n') (rest : String) :
    Text.lowerAscii (String.singleton sign ++ rest) ≠ "now" := by
  intro same
  have sameList := congrArg String.toList same
  rw [Text.lowerAscii, String.toList_ofList, toList_singleton_append, List.map_cons] at sameList
  exact noLetter (List.cons.inj sameList).1

/-- A sign, an amount and the name of a unit are a distance from the base. -/
theorem evaluate?_moveBy (frame : TimeFrame) (start : Instant) (direction : Direction)
    (amount : Nat) (nonempty : name ≠ "")
    (noBlank : ∀ character ∈ name.toList, Text.isBlank character = false) :
    frame.evaluate? (direction.mark ++ toString amount ++ (" " ++ name)) (some start) =
      frame.moveBy? start direction.sign (toString amount ++ " " ++ name) := by
  have isText : direction.mark ++ toString amount ++ (" " ++ name) =
      direction.mark ++ (toString amount ++ " " ++ name) := by
    simp only [String.append_assoc]
  rw [isText]
  cases direction with
  | forwards =>
      have trimmed := trim_distance '+' (by decide) (toString amount ++ " ") nonempty noBlank
      have noNow := lowerAscii_ne_now (by decide : '+'.toLower ≠ 'n') (toString amount ++ " " ++ name)
      have isMark : Direction.forwards.mark = String.singleton '+' := rfl
      rw [isMark, evaluate?, trimmed]
      simp only [noNow, if_false, toList_singleton_append, String.ofList_toList,
        Option.getD_some]
      rfl
  | backwards =>
      -- Behind a minus a distance needs its digit; any other text is read as a date.
      have trimmed := trim_distance '-' (by decide) (toString amount ++ " ") nonempty noBlank
      have noNow := lowerAscii_ne_now (by decide : '-'.toLower ≠ 'n') (toString amount ++ " " ++ name)
      have isDistance : isDistance (toString amount ++ " " ++ name).toList = true := by
        have startsWithDigit := isDistance_amount amount name.toList
        rwa [← List.singleton_append, ← String.toList_singleton, ← List.append_assoc,
          ← String.toList_append, ← String.toList_append] at startsWithDigit
      have isMark : Direction.backwards.mark = String.singleton '-' := rfl
      rw [isMark, evaluate?, trimmed]
      simp only [noNow, if_false, toList_singleton_append, isDistance, if_true,
        String.ofList_toList, Option.getD_some]
      rfl

/-- A sign, an amount of 32 bits and the name of a unit move the base. -/
theorem evaluate?_distance (frame : TimeFrame) (start : Instant) (direction : Direction)
    (fits : amount < Nat.pow 2 32) (isUnit : DistanceUnit.ofText? name = some unit)
    (nonempty : name ≠ "") (isWord : name.toList.any Text.isBlank = false) :
    frame.evaluate? (direction.mark ++ toString amount ++ (" " ++ name)) (some start) =
      frame.move? start (direction.sign * amount) unit := by
  have noBlank := noBlank_of_isWord isWord
  rw [frame.evaluate?_moveBy start direction amount nonempty noBlank,
    frame.moveBy?_words start _ amount isUnit nonempty noBlank, Text.unsigned?_toString fits]
  rfl

/-- An amount of more than 32 bits is refused. -/
theorem evaluate?_distance_eq_none (frame : TimeFrame) (start : Instant) (direction : Direction)
    (tooLarge : Nat.pow 2 32 ≤ amount) (isUnit : DistanceUnit.ofText? name = some unit)
    (nonempty : name ≠ "") (isWord : name.toList.any Text.isBlank = false) :
    frame.evaluate? (direction.mark ++ toString amount ++ (" " ++ name)) (some start) = none := by
  have noBlank := noBlank_of_isWord isWord
  rw [frame.evaluate?_moveBy start direction amount nonempty noBlank,
    frame.moveBy?_words start _ amount isUnit nonempty noBlank,
    Text.unsigned?_toString_eq_none tooLarge]
  rfl

theorem evaluate?_months (frame : TimeFrame) (start : Instant) (direction : Direction)
    (fits : amount < Nat.pow 2 32) :
    frame.evaluate? (direction.mark ++ toString amount ++ " months") (some start) =
      frame.addMonths? start (direction.sign * amount) := by
  have isName : " months" = " " ++ "months" := rfl
  have isUnit : DistanceUnit.ofText? "months" = some .month := by decide
  rw [isName, frame.evaluate?_distance start direction fits isUnit (by decide) (by decide)]
  rfl

theorem evaluate?_years (frame : TimeFrame) (start : Instant) (direction : Direction)
    (fits : amount < Nat.pow 2 32) :
    frame.evaluate? (direction.mark ++ toString amount ++ " years") (some start) =
      frame.addMonths? start (12 * (direction.sign * amount)) := by
  have isName : " years" = " " ++ "years" := rfl
  have isUnit : DistanceUnit.ofText? "years" = some .year := by decide
  rw [isName, frame.evaluate?_distance start direction fits isUnit (by decide) (by decide)]
  rfl

/-! ## Timelines between instants -/

variable {frame : TimeFrame} {start finish : Instant} {months : Int}

theorem IsMonthsFrom.index_localMonth (isAway : frame.IsMonthsFrom months start finish) :
    (frame.localMonth finish).index = (frame.localMonth start).index + months :=
  isAway.date.month

/-- An instant some years away lies in the year so many years away. -/
theorem IsMonthsFrom.year_localMonth {years : Int}
    (isAway : frame.IsMonthsFrom (12 * years) start finish) :
    (frame.localMonth finish).year = (frame.localMonth start).year + years := by
  have sameMonth := isAway.date.month
  have startMonth := (frame.exists_localDate start).month
  have finishMonth := (frame.exists_localDate finish).month
  simp only [Date.monthIndex] at sameMonth
  simp only [localMonth, YearMonth.ofDate]
  omega

theorem timeline_months_of_distance {direction : Direction} (short : Bool)
    (isAway : frame.IsMonthsFrom (direction.sign * amount) start finish) :
    (frame.timeline start finish .month short).filter (fun marker => marker.kind = .month) =
      (List.range (amount + 1)).map fun step : Nat =>
        monthMarker (frame.localMonth frame.now) short
          ((frame.localMonth start).addMonths (direction.sign * step)) := by
  rw [timeline, isAway.index_localMonth, stretch_of_distance, filter_monthMarkers, List.map_map,
    List.map_map]
  rfl

theorem timeline_years_of_distance {direction : Direction} (short : Bool)
    (isAway : frame.IsMonthsFrom (12 * (direction.sign * amount)) start finish) :
    frame.timeline start finish .year short =
      (List.range (amount + 1)).map fun step : Nat =>
        Marker.ofYear (frame.localMonth frame.now)
          ((frame.localMonth start).year + direction.sign * step) := by
  rw [timeline, isAway.year_localMonth, stretch_of_distance, List.map_map]
  rfl

end TimeFrame

/-! ## Timelines of a start and a relative end -/

namespace TimelineRange

variable {frame : TimeFrame} {params : Params} {text : String} {start : Instant}

/-- The markers of a range whose end lies some months from its start are those of the timeline up to
there; there are none if this end is not representable. -/
theorem markers_of_months_away (isGiven : params.value? "startDate" = some text)
    (isRead : frame.evaluate? text none = some start) {ending : String}
    (isEnd : params.value? "endDate" = some ending) {months : Int}
    (isDistance : frame.evaluate? ending (some start) = frame.addMonths? start months)
    (unit : MarkerKind) :
    (∀ finish, frame.IsMonthsFrom months start finish →
      (ofParams frame unit params).markers frame =
        frame.timeline start finish unit (ofParams frame unit params).shortMonth) ∧
    ((¬∃ finish, frame.IsMonthsFrom months start finish) →
      (ofParams frame unit params).markers frame = []) := by
  have isStart : (ofParams frame unit params).start = some start := by
    simp only [ofParams, isGiven, Option.getD_some, isRead]
  have isFinish : (ofParams frame unit params).finish = frame.addMonths? start months := by
    simp only [ofParams, isGiven, isEnd, Option.getD_some, isRead, Option.bind_some, isDistance]
  refine ⟨?_, ?_⟩
  · intro finish isAway
    rw [markers, isStart, isFinish, TimeFrame.addMonths?_eq_some_iff.mpr isAway]
    rfl
  · intro noEnd
    have noFinish : frame.addMonths? start months = none := by
      rw [Option.eq_none_iff_forall_ne_some]
      intro finish isAway
      exact noEnd ⟨finish, TimeFrame.addMonths?_eq_some_iff.mp isAway⟩
    rw [markers, isStart, isFinish, noFinish]

section RelativeEnd

variable (isGiven : params.value? "startDate" = some text)
  (isRead : frame.evaluate? text none = some start) (direction : Direction) {amount : Nat}
  (fits : amount < Nat.pow 2 32)

include isGiven isRead fits

/-- A timeline of months whose end is some months away has one month more, from the local month of
the start on. -/
theorem months_of_relative_end
    (isEnd : params.value? "endDate" =
      some (direction.mark ++ toString amount ++ " months")) :
    (∀ finish, frame.IsMonthsFrom (direction.sign * amount) start finish →
      ((ofParams frame .month params).markers frame).filter (fun marker => marker.kind = .month) =
        (List.range (amount + 1)).map fun step : Nat =>
          TimeFrame.monthMarker (frame.localMonth frame.now)
            (ofParams frame .month params).shortMonth
            ((frame.localMonth start).addMonths (direction.sign * step))) ∧
    ((¬∃ finish, frame.IsMonthsFrom (direction.sign * amount) start finish) →
      (ofParams frame .month params).markers frame = []) := by
  rcases markers_of_months_away isGiven isRead isEnd
    (frame.evaluate?_months start direction fits) .month with ⟨upToEnd, noEnd⟩
  refine ⟨?_, noEnd⟩
  intro finish isAway
  rw [upToEnd finish isAway]
  exact TimeFrame.timeline_months_of_distance (ofParams frame .month params).shortMonth isAway

/-- A timeline of years whose end is some years away has one year more, from the local year of the
start on. -/
theorem years_of_relative_end
    (isEnd : params.value? "endDate" =
      some (direction.mark ++ toString amount ++ " years")) :
    (∀ finish, frame.IsMonthsFrom (12 * (direction.sign * amount)) start finish →
      (ofParams frame .year params).markers frame =
        (List.range (amount + 1)).map fun step : Nat =>
          Marker.ofYear (frame.localMonth frame.now)
            ((frame.localMonth start).year + direction.sign * step)) ∧
    ((¬∃ finish, frame.IsMonthsFrom (12 * (direction.sign * amount)) start finish) →
      (ofParams frame .year params).markers frame = []) := by
  rcases markers_of_months_away isGiven isRead isEnd
    (frame.evaluate?_years start direction fits) .year with ⟨upToEnd, noEnd⟩
  refine ⟨?_, noEnd⟩
  intro finish isAway
  rw [upToEnd finish isAway]
  exact TimeFrame.timeline_years_of_distance (ofParams frame .year params).shortMonth isAway

/-- A timeline whose end is a distance of months or years from its start has one marker more than
the distance has steps: from the local month or year of the start on, one month or one year after
the other in the direction of the distance.  It is empty where the distance leads out of the
representable range. -/
theorem markers_of_relative_end :
    (unit? "months" = some .month ∧
      (params.value? "endDate" = some (direction.mark ++ toString amount ++ " months") →
        (∀ finish, frame.IsMonthsFrom (direction.sign * amount) start finish →
          ((ofParams frame .month params).markers frame).filter
              (fun marker => marker.kind = .month) =
            (List.range (amount + 1)).map fun step : Nat =>
              TimeFrame.monthMarker (frame.localMonth frame.now)
                (ofParams frame .month params).shortMonth
                ((frame.localMonth start).addMonths (direction.sign * step))) ∧
        ((¬∃ finish, frame.IsMonthsFrom (direction.sign * amount) start finish) →
          (ofParams frame .month params).markers frame = []))) ∧
    (unit? "years" = some .year ∧
      (params.value? "endDate" = some (direction.mark ++ toString amount ++ " years") →
        (∀ finish, frame.IsMonthsFrom (12 * (direction.sign * amount)) start finish →
          (ofParams frame .year params).markers frame =
            (List.range (amount + 1)).map fun step : Nat =>
              Marker.ofYear (frame.localMonth frame.now)
                ((frame.localMonth start).year + direction.sign * step)) ∧
        ((¬∃ finish, frame.IsMonthsFrom (12 * (direction.sign * amount)) start finish) →
          (ofParams frame .year params).markers frame = []))) := by
  refine ⟨⟨by decide, ?_⟩, ⟨by decide, ?_⟩⟩
  · exact months_of_relative_end isGiven isRead direction fits
  · exact years_of_relative_end isGiven isRead direction fits

end RelativeEnd

/-- One month after the last evening of January, which is a day of February in universal time,
comes the last evening of February: two months, although the short one has no such day. -/
theorem markers_one_month_later :
    ((ofParams ⟨-21600, ⟨0, 0⟩⟩ .month
        [("startDate", some "2020-01-31T23:30"), ("endDate", some "+1 months")]).markers
          ⟨-21600, ⟨0, 0⟩⟩).filter (fun marker => marker.kind = .month) =
      [⟨"January 2020", "2020-01", .month, false⟩, ⟨"February 2020", "2020-02", .month, false⟩] := by
  have isGiven : Params.value? "startDate"
      [("startDate", some "2020-01-31T23:30"), ("endDate", some "+1 months")] =
        some "2020-01-31T23:30" := by
    decide
  have isRead : (⟨-21600, ⟨0, 0⟩⟩ : TimeFrame).evaluate? "2020-01-31T23:30" none =
      some ⟨1580535000, 0⟩ := by
    decide +kernel
  have fits : 1 < Nat.pow 2 32 := by decide
  have isAway : (⟨-21600, ⟨0, 0⟩⟩ : TimeFrame).IsMonthsFrom (Direction.forwards.sign * (1 : Nat))
      ⟨1580535000, 0⟩ ⟨1583040600, 0⟩ :=
    TimeFrame.addMonths?_eq_some_iff.mp (by decide +kernel)
  rw [((markers_of_relative_end isGiven isRead .forwards fits).1.2 (by decide)).1 _ isAway]
  decide +kernel

end TimelineRange

end PageContext
