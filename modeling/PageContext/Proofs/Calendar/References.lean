import PageContext.Proofs.Calendar.DateTexts
import PageContext.Proofs.Calendar.TimelineMarkers

/-!
# References of markers

The reference of a marker is a date expression: the year or the month of the marker in the notation of
local dates.  A timeline from such a reference to itself consists of the marker alone, behind the
marker of its year if it stands for a month.
-/

namespace PageContext

namespace TimeFrame

/-- An expression that starts with a digit is no word and no distance; it is read as a date. -/
theorem evaluate?_of_isDigit (frame : TimeFrame) {text : String} {first : Char} {rest : List Char}
    (isText : text.toList = first :: rest) (isDigit : first.isDigit = true)
    (isTrimmed : Text.trim text = text) (base : Option Instant) :
    frame.evaluate? text base = frame.instant? (.string text) := by
  have noWord : Text.lowerAscii text ≠ "now" := by
    intro isNow
    have letters := congrArg String.toList isNow
    rw [Text.lowerAscii, String.toList_ofList, isText, List.map_cons, toLower_of_isDigit isDigit]
      at letters
    obtain ⟨rfl, _⟩ := List.cons.inj letters
    contradiction
  rw [evaluate?, instant?, isTrimmed]
  simp only [noWord, if_false]
  split
  · next isPlus =>
    obtain ⟨rfl, _⟩ := List.cons.inj (isText.symm.trans isPlus)
    contradiction
  · next isMinus =>
    obtain ⟨rfl, _⟩ := List.cons.inj (isText.symm.trans isMinus)
    contradiction
  · rfl

theorem evaluate?_text (frame : TimeFrame) {fields : DateFields} (fit : fields.FitNotations)
    (style : DateNotation) (base : Option Instant) :
    frame.evaluate? (style.text fields) base = frame.instant? (.string (style.text fields)) := by
  rcases DateNotation.exists_behindYear fields style with ⟨rest, isText⟩
  rcases fit.isYear.exists_cons with ⟨first, others, isYear, isDigit⟩
  rw [isYear, List.cons_append] at isText
  exact frame.evaluate?_of_isDigit isText isDigit (DateNotation.trim_text fit style) base

end TimeFrame

/-! ## References as dates -/

/-- The notation in which a marker refers to its year or month. -/
def MarkerKind.style : MarkerKind → DateNotation
  | .year => .year
  | .month => .month

/-- The fields that references show. -/
def YearMonth.fields (month : YearMonth) : DateFields :=
  { year := month.year, month := month.month }

namespace YearMonth

variable {month : YearMonth} (isMonth : month.IsMonth)
  (inYears : 1000 ≤ month.year ∧ month.year ≤ 9999)

include inYears in
theorem referenceOf_eq_text (kind : MarkerKind) :
    kind.referenceOf month = kind.style.text month.fields := by
  have isYear : Text.padded 4 month.year.natAbs = toString month.year := by
    have isNumber : ((month.year.natAbs : Nat) : Int) = month.year := by omega
    have enough : Nat.pow 10 3 ≤ month.year.natAbs := by
      simp
      omega
    rw [Text.padded_eq_toString (by decide) enough, ← isNumber]
    rfl
  cases kind with
  | year => exact isYear.symm
  | month =>
      simp only [MarkerKind.referenceOf, MarkerKind.style, reference, DateNotation.text,
        DateNotation.monthText, DateNotation.yearText, fields, isYear]

include isMonth inYears in
theorem fitNotations : month.fields.FitNotations where
  year := ⟨by simp only [fields]; omega, inYears.2⟩
  month := by
    have := isMonth.2
    simp only [fields]
    omega
  day := by simp [fields]
  hour := by simp [fields]
  minute := by simp [fields]

end YearMonth

namespace TimeFrame

variable {frame : TimeFrame} {month : YearMonth}

/-! ## Timelines of one year or month -/

theorem stretch_self (number : Int) : stretch number number = [number] := by
  simp [stretch]

theorem timeline_year_self (frame : TimeFrame) (instant : Instant) (short : Bool) :
    frame.timeline instant instant .year short =
      [.ofYear (frame.localMonth frame.now) (frame.localMonth instant).year] := by
  rw [timeline, stretch_self]
  rfl

theorem timeline_month_self (frame : TimeFrame) (instant : Instant) (short : Bool) :
    frame.timeline instant instant .month short =
      [.ofYear (frame.localMonth frame.now) (frame.localMonth instant).year,
        monthMarker (frame.localMonth frame.now) short (frame.localMonth instant)] := by
  have isMonth := YearMonth.ofIndex_index (frame.isMonth_localMonth instant)
  rw [timeline, stretch_self, List.map_singleton, isMonth]
  rfl

/-- The reference of a month or of its year is read as an instant of this month or this year. -/
theorem exists_evaluate?_reference (isValid : frame.IsValid) (isMonth : month.IsMonth)
    (inYears : 1000 ≤ month.year ∧ month.year ≤ 9999) (kind : MarkerKind) :
    ∃ instant, (∀ base, frame.evaluate? (kind.referenceOf month) base = some instant) ∧
      (frame.localMonth instant).year = month.year ∧
        (kind = .month → frame.localMonth instant = month) := by
  have fit := YearMonth.fitNotations isMonth inYears
  have exist : (kind.style.shown month.fields).Exist := by
    refine ⟨?_, ?_, ?_⟩
    · cases kind with
      | year => exact Date.exists_first month.year (YearMonth.isMonth_first month.year)
      | month => exact Date.exists_first month.year isMonth
    · cases kind <;> exact Nat.zero_lt_succ 23
    · cases kind <;> exact Nat.zero_lt_succ 59
  rcases DateNotation.exists_instant?_text isValid fit exist with ⟨instant, isRead, isLocal⟩
  refine ⟨instant, ?_, ?_⟩
  · intro base
    rw [YearMonth.referenceOf_eq_text inYears, frame.evaluate?_text fit, isRead]
  · rw [localMonth, localDate, isLocal]
    cases kind with
    | year => exact ⟨rfl, fun isOther => MarkerKind.noConfusion isOther⟩
    | month => exact ⟨rfl, fun _ => rfl⟩

end TimeFrame

/-- What the reference of a marker leads to when it is fed back. -/
structure Marker.FeedsBack (frame : TimeFrame) (short : Bool) (month : YearMonth)
    (marker : Marker) : Prop where
  /-- As an expression the reference is an instant of the local year or month it refers to. -/
  date : ∃ instant, (∀ base, frame.evaluate? marker.reference base = some instant) ∧
    (frame.localMonth instant).year = month.year ∧
      (marker.kind = .month → frame.localMonth instant = month)
  /-- The kind of the marker is a unit of timelines. -/
  unit : TimelineRange.unit? (Marker.kindName marker.kind) = some marker.kind
  /-- The timeline from the reference to itself is the marker, behind that of its year if it stands
  for a month. -/
  timeline {params : Params} (isStart : params.value? "startDate" = some marker.reference)
    (isEnd : params.value? "endDate" = some marker.reference)
    (sameStyle : marker.kind = .month →
      ((params.value? "shortMonth" = some "true" ∨ params.value? "shortMonth" = some "1") ↔
        short = true)) :
    (TimelineRange.ofParams frame marker.kind params).markers frame =
      match marker.kind with
      | .year => [marker]
      | .month => [.ofYear (frame.localMonth frame.now) month.year, marker]

/-- References of markers can be fed back. -/
theorem TimeFrame.references_feed_back {frame : TimeFrame} (isValid : frame.IsValid)
    {first last : Instant} {unit : MarkerKind} {short : Bool} {marker : Marker}
    (emitted : marker ∈ frame.timeline first last unit short) :
    ∃ month : YearMonth, month.IsMonth ∧
      (marker = .ofYear (frame.localMonth frame.now) month.year ∨
        marker = monthMarker (frame.localMonth frame.now) short month) ∧
      (1000 ≤ month.year ∧ month.year ≤ 9999 →
        .ofYear (frame.localMonth frame.now) month.year ∈ frame.timeline first last unit short ∧
          marker.FeedsBack frame short month) := by
  rcases exists_month_of_mem_timeline emitted with ⟨month, isMonth, yearMarker, isMarker⟩
  refine ⟨month, isMonth, isMarker, ?_⟩
  intro inYears
  have isReference : marker.reference = marker.kind.referenceOf month := by
    rcases isMarker with rfl | rfl <;> rfl
  rcases exists_evaluate?_reference isValid isMonth inYears marker.kind with
    ⟨instant, isRead, sameYear, sameMonth⟩
  rw [← isReference] at isRead
  refine ⟨yearMarker, ⟨instant, isRead, sameYear, sameMonth⟩, ?_, ?_⟩
  · cases marker.kind <;> decide
  · intro params isStart isEnd sameStyle
    have isRange : (TimelineRange.ofParams frame marker.kind params).markers frame =
        frame.timeline instant instant marker.kind
          (TimelineRange.ofParams frame marker.kind params).shortMonth := by
      simp only [TimelineRange.markers, TimelineRange.ofParams, isStart, isEnd, Option.getD_some,
        isRead, Option.bind_some]
    rw [isRange]
    rcases isMarker with rfl | rfl
    · rw [← sameYear]
      exact timeline_year_self frame instant _
    · have isShort : (TimelineRange.ofParams frame .month params).shortMonth = short := by
        rw [Bool.eq_iff_iff, ← sameStyle rfl]
        simp [TimelineRange.ofParams]
      obtain rfl : frame.localMonth instant = month := sameMonth rfl
      have isTimeline := timeline_month_self frame instant short
      rw [← isShort] at isTimeline ⊢
      exact isTimeline

theorem TimeFrame.references_feed_back_december :
    (TimeFrame.mk (-21600) ⟨0, 0⟩).IsValid ∧
      monthMarker ⟨1969, 12⟩ true ⟨1969, 12⟩ ∈
        (TimeFrame.mk (-21600) ⟨0, 0⟩).timeline ⟨0, 0⟩ ⟨0, 0⟩ .month true ∧
      (monthMarker ⟨1969, 12⟩ true ⟨1969, 12⟩).FeedsBack (TimeFrame.mk (-21600) ⟨0, 0⟩) true
        ⟨1969, 12⟩ := by
  have isValid : (TimeFrame.mk (-21600) ⟨0, 0⟩).IsValid := ⟨by decide, by decide⟩
  have emitted : monthMarker ⟨1969, 12⟩ true ⟨1969, 12⟩ ∈
      (TimeFrame.mk (-21600) ⟨0, 0⟩).timeline ⟨0, 0⟩ ⟨0, 0⟩ .month true := by
    decide
  refine ⟨isValid, emitted, ?_⟩
  rcases references_feed_back isValid emitted with ⟨month, isMonth, isMarker | isMarker, feedsBack⟩
  · exact MarkerKind.noConfusion (congrArg Marker.kind isMarker)
  · obtain rfl : (YearMonth.mk 1969 12) = month :=
      YearMonth.reference_inj ⟨by decide, by decide⟩ isMonth (congrArg Marker.reference isMarker)
    exact (feedsBack (by decide)).2

end PageContext
