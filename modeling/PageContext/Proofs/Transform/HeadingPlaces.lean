import PageContext.Proofs.Transform.Arrangement

/-!
# Places of headings

The block of a record is the record alone, or the record behind the heading of its month, or both
behind the heading of its year.  So a heading of a year is followed by that of a month of the year,
and this one by a record of the month.
-/

namespace PageContext

theorem Marker.field?_current_toJson (marker : Marker) :
    marker.toJson.field? "current" = some (.bool true) ↔ marker.current = true := by
  rcases marker with ⟨label, reference, kind, current⟩
  cases current <;> simp [toJson, Json.field?, Entries.get?]

namespace Transform

/-- Records of an array with headings exactly where they belong. -/
structure AreHeaded (frame : TimeFrame) (rule : HeadingRule) (current : YearMonth)
    (records : List Json) (headed : List Headed) : Prop where
  /-- No record is lost or moved. -/
  records : headed.filterMap Headed.record? = records
  /-- A record stands under the month of its date and the year of this month. -/
  under {before after : List Headed} {record : Json} {instant : Instant} :
    headed = before ++ .record record :: after → HeadedAt frame record instant →
      ∃ month, frame.monthAfter? instant rule.hoursOffset = some month ∧ StandsUnder before month
  /-- Behind the heading of a year stand that of a month of the year and a record of the month. -/
  years {before after : List Headed} {marker : Marker} :
    headed = before ++ .heading marker :: after → marker.kind = .year →
      ∃ month next record rest, after = .heading next :: .record record :: rest ∧
        marker.reference = MarkerKind.year.referenceOf month ∧
        next.kind = .month ∧ next.reference = MarkerKind.month.referenceOf month ∧
        LiesIn frame rule record month
  /-- Behind the heading of a month stands a record of the month. -/
  months {before after : List Headed} {marker : Marker} :
    headed = before ++ .heading marker :: after → marker.kind = .month →
      ∃ month record rest, after = .record record :: rest ∧
        marker.reference = MarkerKind.month.referenceOf month ∧ LiesIn frame rule record month
  /-- No two headings of a kind in succession have the same reference. -/
  apart (kind : MarkerKind) : (references kind headed).IsChain (· ≠ ·)
  /-- The headings of the current year and the current month are those marked as current. -/
  current {kind : MarkerKind} {marker : Marker} :
    marker ∈ headings kind headed →
      (marker.toJson.field? "current" = some (.bool true) ↔
        marker.reference = kind.referenceOf current)

/-- What stands behind a heading, up to the record of its block. -/
def behindHeading (rule : HeadingRule) (current month : YearMonth) (record : Json) :
    MarkerKind → List Headed
  | .year => [.heading (headingOf rule current .month month), .record record]
  | .month => [.record record]

section

variable {frame : TimeFrame} {rule : HeadingRule} {current : YearMonth}

theorem current_headingOf {month : YearMonth} (isMonth : month.IsMonth)
    (currentIsMonth : current.IsMonth) (kind : MarkerKind) :
    (headingOf rule current kind month).current = true ↔
      kind.referenceOf month = kind.referenceOf current := by
  rw [MarkerKind.referenceOf_eq_iff isMonth currentIsMonth]
  cases kind <;> simp [headingOf, Marker.ofYear, Marker.ofMonth, MarkerKind.Agree]

variable (frame rule current) in
theorem block_cases (earlier : Option YearMonth) (record : Json) :
    block frame rule current earlier record = [.record record] ∨
      ∃ month, LiesIn frame rule record month ∧
        (block frame rule current earlier record =
            [.heading (headingOf rule current .month month), .record record] ∨
          block frame rule current earlier record =
            [.heading (headingOf rule current .year month),
              .heading (headingOf rule current .month month), .record record]) := by
  cases lies : headedMonth? frame rule record with
  | none => exact .inl (by simp [block, headingsOf, lies])
  | some month =>
      have isMonth := headedMonth?_eq_some_iff.mp lies
      cases earlier with
      | none => exact .inr ⟨month, isMonth, .inr (by simp [block, headingsOf, lies])⟩
      | some last =>
          by_cases sameMonth : last = month
          · refine .inl ?_
            simp [block, headingsOf, lies, MarkerKind.Agree, sameMonth]
          · by_cases sameYear : last.year = month.year
            · refine .inr ⟨month, isMonth, .inl ?_⟩
              simp [block, headingsOf, lies, MarkerKind.Agree, sameMonth, sameYear]
            · refine .inr ⟨month, isMonth, .inr ?_⟩
              simp [block, headingsOf, lies, MarkerKind.Agree, sameMonth, sameYear]

theorem exists_of_heading_block {earlier : Option YearMonth} {record : Json} {marker : Marker}
    {inFront behind : List Headed}
    (isBlock : block frame rule current earlier record = inFront ++ .heading marker :: behind) :
    ∃ month kind, LiesIn frame rule record month ∧ marker = headingOf rule current kind month ∧
      behind = behindHeading rule current month record kind := by
  rcases block_cases frame rule current earlier record with
    alone | ⟨month, isMonth, monthly | yearly⟩
  · simp [alone, List.cons_eq_append_iff] at isBlock
  · cases inFront with
    | nil =>
        cases monthly.symm.trans isBlock
        exact ⟨month, .month, isMonth, rfl, rfl⟩
    | cons first rest => simp [monthly, List.cons_eq_append_iff] at isBlock
  · rcases inFront with _ | ⟨first, _ | ⟨second, rest⟩⟩
    · cases yearly.symm.trans isBlock
      exact ⟨month, .year, isMonth, rfl, rfl⟩
    · cases yearly.symm.trans isBlock
      exact ⟨month, .month, isMonth, rfl, rfl⟩
    · simp [yearly, List.cons_eq_append_iff] at isBlock

/-- A block ends with its only record. -/
theorem eq_of_record_block {earlier : Option YearMonth} {record other : Json}
    {inFront behind : List Headed}
    (isBlock : block frame rule current earlier record = inFront ++ .record other :: behind) :
    other = record ∧ behind = [] := by
  rcases append_eq_append_cons_iff.mp isBlock with
    ⟨reached, _, isRecord⟩ | ⟨others, inHeadings, _⟩
  · cases reached with
    | nil =>
        cases isRecord
        exact ⟨rfl, rfl⟩
    | cons first rest => simp at isRecord
  · have member : Headed.record other ∈
        (headingsOf frame rule current earlier record).map Headed.heading := by
      simp [inHeadings]
    simp at member

variable {records : List Json} {before after : List Headed}

/-- A record of a month stands under this month. -/
theorem standsUnder_of_liesIn {record : Json} {month : YearMonth}
    (split : arrange frame rule current none records = before ++ .record record :: after)
    (lies : LiesIn frame rule record month) : StandsUnder before month := by
  rcases exists_of_arrange_eq split with
    ⟨front, other, back, inFront, behind, rfl, isBlock, rfl, isAfter⟩
  rcases eq_of_record_block isBlock with ⟨rfl, rfl⟩
  -- all that stands in front of the record is the arrangement up to it, without the record itself
  have upToRecord : arrange frame rule current none (front ++ [record]) =
      (arrange frame rule current none front ++ inFront) ++ [.record record] := by
    rw [arrange_append, arrange, isBlock, arrange, List.append_nil, List.append_assoc]
  have isLast : lastMonth? frame rule none (front ++ [record]) = some month := by
    rw [lastMonth?_concat, headedMonth?_eq_some_iff.mpr lies, Option.some_or]
  intro kind
  have nearest := getLast?_references_arrange frame rule current none (front ++ [record]) kind
  rw [upToRecord, isLast, references_append] at nearest
  simpa only [references_record, List.append_nil, Option.map_none, Option.or_none,
    Option.map_some] using nearest

theorem exists_standsUnder (stay : ∀ record ∈ records, ¬LeavesRange frame rule record)
    {record : Json} {instant : Instant}
    (split : arrange frame rule current none records = before ++ .record record :: after)
    (isHeaded : HeadedAt frame record instant) :
    ∃ month, frame.monthAfter? instant rule.hoursOffset = some month ∧
      StandsUnder before month := by
  have member : record ∈ records := by
    rw [← filterMap_record?_arrange frame rule current none records, split]
    simp [Headed.record?]
  cases isMonth : frame.monthAfter? instant rule.hoursOffset with
  | none =>
      have leaves := (frame.monthAfter?_eq_none_iff instant rule.hoursOffset).mp isMonth
      exact absurd ⟨instant, isHeaded, leaves⟩ (stay record member)
  | some month => exact ⟨month, rfl, standsUnder_of_liesIn split ⟨instant, isHeaded, isMonth⟩⟩

theorem exists_of_heading_arrange {marker : Marker}
    (split : arrange frame rule current none records = before ++ .heading marker :: after) :
    ∃ month kind record rest, LiesIn frame rule record month ∧
      marker = headingOf rule current kind month ∧
      after = behindHeading rule current month record kind ++ rest := by
  rcases exists_of_arrange_eq split with
    ⟨front, record, back, inFront, behind, rfl, isBlock, rfl, rfl⟩
  rcases exists_of_heading_block isBlock with ⟨month, kind, isMonth, rfl, rfl⟩
  exact ⟨month, kind, record, _, isMonth, rfl, rfl⟩

theorem exists_of_mem_headings {kind : MarkerKind} {marker : Marker}
    (member : marker ∈ headings kind (arrange frame rule current none records)) :
    ∃ month, month.IsMonth ∧ marker = headingOf rule current kind month := by
  rcases List.mem_filter.mp member with ⟨isHeading, isKind⟩
  rcases List.mem_filterMap.mp isHeading with ⟨item, inArrangement, isMarker⟩
  cases item with
  | record value => cases isMarker
  | heading other =>
      cases isMarker
      rcases List.append_of_mem inArrangement with ⟨before, after, split⟩
      rcases exists_of_heading_arrange split with ⟨month, other, _, _, isMonth, rfl, _⟩
      simp only [kind_headingOf, decide_eq_true_eq] at isKind
      subst isKind
      exact ⟨month, isMonth.isMonth, rfl⟩

theorem areHeaded_arrange (currentIsMonth : current.IsMonth)
    (stay : ∀ record ∈ records, ¬LeavesRange frame rule record) :
    AreHeaded frame rule current records (arrange frame rule current none records) where
  records := filterMap_record?_arrange frame rule current none records
  under := exists_standsUnder stay
  years := by
    intro before after marker split isYear
    rcases exists_of_heading_arrange split with ⟨month, kind, record, rest, isMonth, rfl, isAfter⟩
    simp only [kind_headingOf] at isYear
    subst isYear
    exact ⟨month, _, record, rest, isAfter, by simp, by simp, by simp, isMonth⟩
  months := by
    intro before after marker split isMonthly
    rcases exists_of_heading_arrange split with ⟨month, kind, record, rest, isMonth, rfl, isAfter⟩
    simp only [kind_headingOf] at isMonthly
    subst isMonthly
    exact ⟨month, record, rest, isAfter, by simp, isMonth⟩
  apart := by
    intro kind
    rw [references_arrange]
    exact List.isChain_destutter _ _
  current := by
    intro kind marker member
    rcases exists_of_mem_headings member with ⟨month, isMonth, rfl⟩
    rw [Marker.field?_current_toJson, current_headingOf isMonth currentIsMonth,
      reference_headingOf]

/-- Headings cannot be put among the records of an array exactly if the hours offset moves the
present or the date of a record out of range.  Otherwise they are put where they belong. -/
theorem headings_where_due (frame : TimeFrame) (rule : HeadingRule) (records : List Json) :
    (apply frame (.array records) (.addYearMonthHeadings rule) =
        .error (outOfRange "AddYearMonthHeadings") ↔
      frame.now.LeavesRange rule.hoursOffset ∨
        ∃ record ∈ records, LeavesRange frame rule record) ∧
    (apply frame (.array records) (.addYearMonthHeadings rule) =
        .error (outOfRange "AddYearMonthHeadings") ∨
      ∃ current headed, frame.currentMonthAfter? rule.hoursOffset = some current ∧
        headedRecords? frame rule records = some headed ∧
        apply frame (.array records) (.addYearMonthHeadings rule) =
          .ok (.array (headed.map Headed.toJson)) ∧
        AreHeaded frame rule current records headed) := by
  rw [← headedRecords?_eq_none_iff, insertHeadings_array]
  cases isHeaded : headedRecords? frame rule records with
  | none => exact ⟨by simp, .inl rfl⟩
  | some headed =>
      rcases headedRecords?_eq_some_iff.mp isHeaded with ⟨current, isCurrent, stay, rfl⟩
      have isMonth := TimeFrame.isMonth_of_monthAfter? isCurrent
      refine ⟨by simp, .inr ⟨current, _, isCurrent, rfl, rfl, areHeaded_arrange isMonth stay⟩⟩

end

end Transform

end PageContext
