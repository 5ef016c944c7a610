import PageContext.Proofs.Transform.HeadingPlaces
import PageContext.Proofs.Transform.LabelRuns

/-!
# Headings of own dates

Labels are given by the date under the `TS` of a record, and headings by the same date where this
`TS` is truthy.  The only value that is not and yet stands for a date is the number zero, the
beginning of 1970: a record with it is placed by its first item.
-/

namespace PageContext.Transform

/-- A zero number stands under `TS`. -/
def HasZeroTime (record : Json) : Prop :=
  ∃ number : Number, record.field? "TS" = some (.number number) ∧ number.isZero = true

/-- The instant under the first item of a record. -/
def FirstItemAt (frame : TimeFrame) (record : Json) (instant : Instant) : Prop :=
  ∃ first rest value, record.field? "items" = some (.array (first :: rest)) ∧
    first.field? "TS" = some value ∧ frame.instant? value = some instant

section

variable {frame : TimeFrame} {rule : HeadingRule}

theorem exists_zero_of_not_truthy {value : Json} {instant : Instant}
    (isInstant : frame.instant? value = some instant) (falsy : value.isTruthy = false) :
    ∃ number : Number, value = .number number ∧ number.isZero = true := by
  cases value with
  | number number => exact ⟨number, rfl, by simpa [Json.isTruthy] using falsy⟩
  | string text =>
      have isEmpty : text = "" := by simpa [Json.isTruthy] using falsy
      have noInstant : frame.instant? (.string "") = none := rfl
      rw [isEmpty, noInstant] at isInstant
      contradiction
  | _ => simp [TimeFrame.instant?] at isInstant

/-- A date under `TS` places its record unless it is zero. -/
theorem headedAt_of_datedAt? {record : Json} {instant : Instant}
    (isDate : datedAt? frame record = some instant) (noZero : ¬HasZeroTime record) :
    HeadedAt frame record instant := by
  rcases Option.bind_eq_some_iff.mp isDate with ⟨value, isOwn, isInstant⟩
  refine ⟨value, .own isOwn ?_, isInstant⟩
  rw [← Bool.not_eq_false]
  intro falsy
  rcases exists_zero_of_not_truthy isInstant falsy with ⟨number, rfl, isZero⟩
  exact noZero ⟨number, isOwn, isZero⟩

theorem headedAt_iff_of_hasZeroTime {record : Json} (zero : HasZeroTime record)
    (instant : Instant) : HeadedAt frame record instant ↔ FirstItemAt frame record instant := by
  rcases zero with ⟨number, isZeroTime, isZero⟩
  have falsy : (Json.number number).isTruthy = false := by simp [Json.isTruthy, isZero]
  have notOwn : ∀ own, record.field? "TS" = some own → own.isTruthy = false := by
    intro own isOwn
    rwa [← Option.some.inj (isZeroTime.symm.trans isOwn)]
  constructor
  · rintro ⟨value, ⟨isOwn, truthy⟩ | ⟨_, areItems, isFirst⟩, isInstant⟩
    · simp [notOwn value isOwn] at truthy
    · exact ⟨_, _, value, areItems, isFirst, isInstant⟩
  · rintro ⟨first, rest, value, areItems, isFirst, isInstant⟩
    exact ⟨value, .firstItem notOwn areItems isFirst, isInstant⟩

/-- Directly before a record without a date stands no heading. -/
theorem no_heading_before_undated {current : YearMonth} {records : List Json}
    {before after : List Headed} {record : Json}
    (split : arrange frame rule current none records = before ++ .record record :: after)
    (undated : ∀ instant, ¬HeadedAt frame record instant) (marker : Marker) :
    before.getLast? ≠ some (.heading marker) := by
  have noMonth : headedMonth? frame rule record = none := by
    rw [Option.eq_none_iff_forall_ne_some]
    intro month lies
    rcases headedMonth?_eq_some_iff.mp lies with ⟨instant, isHeaded, _⟩
    exact undated instant isHeaded
  rcases exists_of_arrange_eq split with
    ⟨front, other, back, inFront, behind, rfl, isBlock, rfl, isAfter⟩
  rcases eq_of_record_block isBlock with ⟨rfl, rfl⟩
  have alone : inFront = [] := by
    simpa [block, headingsOf, noMonth, List.cons_eq_append_iff] using isBlock
  rw [alone, List.append_nil, getLast?_arrange]
  simp

/-- A record with a date under `TS` stands under the month of this date, unless this is zero.  Then
it stands under the month of its first item or, if this has no date, without a heading of its
own. -/
theorem own_month_unless_zero {records : List Json} {result : Json}
    (succeeds : apply frame (.array records) (.addYearMonthHeadings rule) = .ok result) :
    ∃ headed, headedRecords? frame rule records = some headed ∧
      result = .array (headed.map Headed.toJson) ∧
      ∀ before record after instant, headed = before ++ .record record :: after →
        datedAt? frame record = some instant →
          (¬HasZeroTime record → ∃ month,
            frame.monthAfter? instant rule.hoursOffset = some month ∧ StandsUnder before month) ∧
          (HasZeroTime record →
            (∀ other, FirstItemAt frame record other → ∃ month,
              frame.monthAfter? other rule.hoursOffset = some month ∧ StandsUnder before month) ∧
            ((∀ other, ¬FirstItemAt frame record other) →
              ∀ marker, before.getLast? ≠ some (.heading marker))) := by
  rcases exists_arrange_of_apply succeeds with ⟨current, isHeaded, isResult, stay⟩
  refine ⟨_, isHeaded, isResult, ?_⟩
  intro before record after instant split isDate
  refine ⟨?_, ?_⟩
  · intro noZero
    exact exists_standsUnder stay split (headedAt_of_datedAt? isDate noZero)
  · intro zero
    refine ⟨?_, ?_⟩
    · intro other isFirst
      exact exists_standsUnder stay split ((headedAt_iff_of_hasZeroTime zero other).mpr isFirst)
    · intro noFirst
      apply no_heading_before_undated split
      intro other isHeaded
      exact noFirst other ((headedAt_iff_of_hasZeroTime zero other).mp isHeaded)

/-- The conclusion for a date behind a zero with a dated first item. -/
theorem own_month_of_zero_and_date :
    let frame : TimeFrame := ⟨0, ⟨0, 0⟩⟩
    let records : List Json :=
      [.object [("TS", .int 0), ("items", .array [.object [("TS", .int 1593432000000)]])],
        .object [("TS", .int 1577800000000)]]
    ∃ result, apply frame (.array records) (.addYearMonthHeadings {}) = .ok result ∧
      ∃ headed, headedRecords? frame {} records = some headed ∧
        result = .array (headed.map Headed.toJson) ∧
        ∀ before record after instant, headed = before ++ .record record :: after →
          datedAt? frame record = some instant →
            (¬HasZeroTime record → ∃ month,
              frame.monthAfter? instant 0 = some month ∧ StandsUnder before month) ∧
            (HasZeroTime record →
              (∀ other, FirstItemAt frame record other → ∃ month,
                frame.monthAfter? other 0 = some month ∧ StandsUnder before month) ∧
              ((∀ other, ¬FirstItemAt frame record other) →
                ∀ marker, before.getLast? ≠ some (.heading marker))) := by
  intro frame records
  have isHeaded : (headedRecords? frame {} records).isSome := by decide
  rcases exists_apply_of_isSome isHeaded with ⟨result, succeeds⟩
  exact ⟨result, succeeds, own_month_unless_zero succeeds⟩

/-- A zero under `TS` stands for January 1970, but the record with it stands under the month of its
first item. -/
theorem not_forall_own_month :
    ¬∀ (frame : TimeFrame) (rule : HeadingRule) (records : List Json) (headed : List Headed),
      headedRecords? frame rule records = some headed →
        ∀ before record after instant, headed = before ++ .record record :: after →
          datedAt? frame record = some instant → ∃ month,
            frame.monthAfter? instant rule.hoursOffset = some month ∧
              StandsUnder before month := by
  intro claim
  let frame : TimeFrame := ⟨0, ⟨0, 0⟩⟩
  let record : Json :=
    .object [("TS", .int 0), ("items", .array [.object [("TS", .int 1593432000000)]])]
  have isSome : (headedRecords? frame {} [record]).isSome := by decide
  rcases Option.isSome_iff_exists.mp isSome with ⟨headed, isHeaded⟩
  rcases headedRecords?_eq_some_iff.mp isHeaded with ⟨current, _, _, rfl⟩
  have ofFirst : headedMonth? frame {} record = some ⟨2020, 6⟩ := by decide
  have split : arrange frame {} current none [record] =
      [.heading (headingOf {} current .year ⟨2020, 6⟩),
        .heading (headingOf {} current .month ⟨2020, 6⟩)] ++ .record record :: [] := by
    simp [arrange, block, headingsOf, ofFirst]
  rcases claim frame {} [record] _ isHeaded _ record [] ⟨0, 0⟩ split rfl with
    ⟨month, isMonth, under⟩
  have ofOwn : frame.monthAfter? ⟨0, 0⟩ 0 = some ⟨1970, 1⟩ := by decide
  cases ofOwn.symm.trans isMonth
  have differ : MarkerKind.month.referenceOf ⟨2020, 6⟩ ≠ MarkerKind.month.referenceOf ⟨1970, 1⟩ := by
    decide +kernel
  exact differ (Option.some.inj (under .month))

end

end PageContext.Transform
