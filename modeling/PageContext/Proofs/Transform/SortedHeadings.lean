import PageContext.Proofs.Transform.Arrangement
import PageContext.Proofs.Transform.Runs

/-!
# Headings of sorted records

Records in the order of their times lie in months in the same order.  A heading stands only where
the month or the year changes, so no month and no year has two headings.
-/

namespace PageContext

namespace SortOrder

/-- Numbers that follow each other in an order, without going back. -/
def Allows : SortOrder → Int → Int → Prop
  | .ascending, first, second => first ≤ second
  | .descending, first, second => second ≤ first

/-- Numbers that follow each other in an order and differ. -/
def Advances : SortOrder → Int → Int → Prop
  | .ascending, first, second => first < second
  | .descending, first, second => second < first

variable {order : SortOrder} {first second : Int}

theorem advances_of_allows (allowed : order.Allows first second) (different : first ≠ second) :
    order.Advances first second := by
  cases order <;> simp only [Allows, Advances] at allowed ⊢ <;> omega

theorem ne_of_advances (advances : order.Advances first second) : first ≠ second := by
  cases order <;> simp only [Advances] at advances <;> omega

instance (order : SortOrder) : Trans order.Advances order.Advances order.Advances where
  trans := by cases order <;> simp only [Advances] <;> omega

end SortOrder

namespace MarkerKind

/-- The number of what a heading of a kind for a month stands for. -/
def number : MarkerKind → YearMonth → Int
  | .year, yearMonth => yearMonth.year
  | .month, yearMonth => yearMonth.index

variable {kind : MarkerKind} {order : SortOrder} {first second : YearMonth}

theorem agree_of_number_eq (isFirst : first.IsMonth) (isSecond : second.IsMonth)
    (same : kind.number first = kind.number second) : kind.Agree first second := by
  cases kind with
  | year => exact same
  | month => exact YearMonth.index_inj isFirst isSecond same

theorem number_eq_of_agree (agree : kind.Agree first second) :
    kind.number first = kind.number second := by
  cases kind with
  | year => exact agree
  | month => exact congrArg YearMonth.index agree

theorem allows_number (isFirst : first.IsMonth) (isSecond : second.IsMonth)
    (allowed : order.Allows first.index second.index) :
    order.Allows (kind.number first) (kind.number second) := by
  cases kind with
  | month => exact allowed
  | year =>
      cases order with
      | ascending => exact YearMonth.year_le_of_index_le isFirst isSecond allowed
      | descending => exact YearMonth.year_le_of_index_le isSecond isFirst allowed

end MarkerKind

namespace Transform

/-- A value that can be read as a date dates a record. -/
def Dates (frame : TimeFrame) (record value : Json) : Prop :=
  Represents record value ∧ (frame.instant? value).isSome

/-- Records that are dated by numbers, in an order of their whole milliseconds. -/
structure IsFeed (frame : TimeFrame) (order : SortOrder) (records : List Json) : Prop where
  numbers : ∀ record ∈ records, ∀ value, Dates frame record value → ∃ number, value = .number number
  inOrder : records.Pairwise fun earlier later => ∀ first second : Number,
    Dates frame earlier (.number first) → Dates frame later (.number second) →
      order.Allows first.toSigned second.toSigned

section

variable {frame : TimeFrame} {rule : HeadingRule} {order : SortOrder} {records : List Json}

theorem isFeed_of_representatives {numbers : List Number}
    (areNumbers : records.filterMap representative? = numbers.map Json.number)
    (inOrder : numbers.Pairwise fun first second => order.Allows first.toSigned second.toSigned) :
    IsFeed frame order records where
  numbers := by
    intro record member value dates
    have isNumber : value ∈ records.filterMap representative? :=
      List.mem_filterMap.mpr ⟨record, member, representative?_eq_some_iff.mpr dates.1⟩
    rw [areNumbers] at isNumber
    rcases List.mem_map.mp isNumber with ⟨number, _, rfl⟩
    exact ⟨number, rfl⟩
  inOrder := by
    have ordered : (numbers.map Json.number).Pairwise fun earlier later => ∀ first second : Number,
        earlier = .number first → later = .number second →
          order.Allows first.toSigned second.toSigned := by
      rw [List.pairwise_map]
      refine inOrder.imp ?_
      rintro _ _ allowed first second ⟨⟩ ⟨⟩
      exact allowed
    rw [← areNumbers, List.pairwise_filterMap] at ordered
    refine ordered.imp ?_
    intro earlier later allowed first second isFirst isSecond
    exact allowed _ (representative?_eq_some_iff.mpr isFirst.1) _
      (representative?_eq_some_iff.mpr isSecond.1) first second rfl rfl

theorem IsFeed.exists_number (feed : IsFeed frame order records) {record : Json} {month : YearMonth}
    (member : record ∈ records) (lies : LiesIn frame rule record month) :
    ∃ number instant, Dates frame record (.number number) ∧
      Instant.ofMilliseconds? number.toSigned = some instant ∧
      frame.monthAfter? instant rule.hoursOffset = some month := by
  rcases lies with ⟨instant, ⟨value, represents, isInstant⟩, isMonth⟩
  have dates : Dates frame record value := ⟨represents, by simp [isInstant]⟩
  rcases feed.numbers record member value dates with ⟨number, rfl⟩
  exact ⟨number, instant, dates, isInstant, isMonth⟩

/-- The months of the records of a feed are in its order. -/
theorem IsFeed.months_inOrder (feed : IsFeed frame order records) (rule : HeadingRule) :
    (records.filterMap (headedMonth? frame rule)).Pairwise fun first second =>
      order.Allows first.index second.index := by
  rw [List.pairwise_filterMap]
  refine feed.inOrder.imp_of_mem ?_
  intro earlier later earlierMember laterMember ordered first isFirst second isSecond
  rcases feed.exists_number earlierMember (headedMonth?_eq_some_iff.mp isFirst) with
    ⟨number, instant, dates, isInstant, isMonth⟩
  rcases feed.exists_number laterMember (headedMonth?_eq_some_iff.mp isSecond) with
    ⟨otherNumber, otherInstant, otherDates, isOtherInstant, isOtherMonth⟩
  have allowed := ordered number otherNumber dates otherDates
  cases order with
  | ascending =>
      exact TimeFrame.index_monthAfter?_mono allowed isInstant isOtherInstant isMonth isOtherMonth
  | descending =>
      exact TimeFrame.index_monthAfter?_mono allowed isOtherInstant isInstant isOtherMonth isMonth

/-- Months in an order without two in succession that agree are strictly in this order. -/
theorem pairwise_advances_destutter {months : List YearMonth} (kind : MarkerKind)
    (areMonths : ∀ month ∈ months, month.IsMonth)
    (inOrder : months.Pairwise fun first second => order.Allows first.index second.index) :
    (months.destutter fun first second => ¬kind.Agree first second).Pairwise fun first second =>
      order.Advances (kind.number first) (kind.number second) := by
  have kept := List.destutter_sublist (fun first second => ¬kind.Agree first second) months
  rw [← List.pairwise_map]
  refine pairwise_of_isChain_ne (fun _ _ => SortOrder.advances_of_allows) ?_ ?_
  · rw [List.pairwise_map]
    refine (inOrder.sublist kept).imp_of_mem ?_
    intro first second isFirst isSecond allowed
    exact MarkerKind.allows_number (areMonths first (kept.subset isFirst))
      (areMonths second (kept.subset isSecond)) allowed
  · rw [List.isChain_map]
    refine List.IsChain.imp_of_mem_imp ?_ (List.isChain_destutter _ months)
    intro first second isFirst isSecond apart same
    exact apart (MarkerKind.agree_of_number_eq (areMonths first (kept.subset isFirst))
      (areMonths second (kept.subset isSecond)) same)

theorem isMonth_of_mem_filterMap {month : YearMonth}
    (member : month ∈ records.filterMap (headedMonth? frame rule)) : month.IsMonth := by
  rcases List.mem_filterMap.mp member with ⟨record, _, lies⟩
  exact (headedMonth?_eq_some_iff.mp lies).isMonth

theorem references_arrange_eq_map (current : YearMonth) (records : List Json) (kind : MarkerKind) :
    references kind (arrange frame rule current none records) =
      ((records.filterMap (headedMonth? frame rule)).destutter fun first second =>
        ¬kind.Agree first second).map kind.referenceOf := by
  rw [references_arrange]
  refine (List.map_destutter ?_).symm
  intro first isFirst second isSecond
  exact not_congr (MarkerKind.referenceOf_eq_iff (isMonth_of_mem_filterMap isFirst)
    (isMonth_of_mem_filterMap isSecond)).symm

/-- Among the records of a feed no heading of a month or of a year comes twice, and the headings of
months run through time in the order of the feed. -/
theorem headings_unique_of_sorted {result : Json} (feed : IsFeed frame order records)
    (succeeds : apply frame (.array records) (.addYearMonthHeadings rule) = .ok result) :
    ∃ headed, headedRecords? frame rule records = some headed ∧
      result = .array (headed.map Headed.toJson) ∧
      (∀ kind, (references kind headed).Nodup) ∧
      ∃ months : List YearMonth, references .month headed = months.map YearMonth.reference ∧
        (∀ month ∈ months, month.IsMonth) ∧
        months.Pairwise fun first second => order.Advances first.index second.index := by
  rcases exists_arrange_of_apply succeeds with ⟨current, isHeaded, isResult, _⟩
  have areMonths : ∀ month ∈ records.filterMap (headedMonth? frame rule), month.IsMonth :=
    fun month member => isMonth_of_mem_filterMap member
  have kept (kind : MarkerKind) := (List.destutter_sublist
    (fun first second => ¬kind.Agree first second)
    (records.filterMap (headedMonth? frame rule))).subset
  have advance (kind : MarkerKind) := pairwise_advances_destutter kind areMonths
    (feed.months_inOrder rule)
  refine ⟨_, isHeaded, isResult, ?_, ?_⟩
  · intro kind
    rw [references_arrange_eq_map, List.Nodup, List.pairwise_map]
    refine (advance kind).imp_of_mem ?_
    intro first second isFirst isSecond advances same
    have agree := (MarkerKind.referenceOf_eq_iff (areMonths first (kept kind isFirst))
      (areMonths second (kept kind isSecond))).mp same
    exact SortOrder.ne_of_advances advances (MarkerKind.number_eq_of_agree agree)
  · refine ⟨_, references_arrange_eq_map current records .month, ?_, advance .month⟩
    intro month member
    exact areMonths month (kept .month member)

/-- The conclusion for a group and a record without a date between two records. -/
theorem headings_unique_of_newest_first :
    let frame : TimeFrame := ⟨3600, ⟨1596283200, 0⟩⟩
    let records : List Json := [.object [("TS", .int 1596283200000)],
      .object [("items", .array [.object [("TS", .int 1593432000000)]])],
      .object [("id", .string "a")], .object [("TS", .int 1577800000000)]]
    IsFeed frame .descending records ∧
      ∃ result headed, apply frame (.array records) (.addYearMonthHeadings {}) = .ok result ∧
        headedRecords? frame {} records = some headed ∧
        result = .array (headed.map Headed.toJson) ∧
        (∀ kind, (references kind headed).Nodup) ∧
        ∃ months : List YearMonth, references .month headed = months.map YearMonth.reference ∧
          (∀ month ∈ months, month.IsMonth) ∧
          months.Pairwise fun first second =>
            SortOrder.descending.Advances first.index second.index := by
  intro frame records
  have feed : IsFeed frame .descending records := by
    have areNumbers : records.filterMap representative? =
        [.integer 1596283200000, .integer 1593432000000, .integer 1577800000000].map .number := rfl
    refine isFeed_of_representatives areNumbers ?_
    simp [SortOrder.Allows, Number.toSigned]
  have isHeaded : (headedRecords? frame {} records).isSome := by decide
  rcases exists_apply_of_isSome isHeaded with ⟨result, succeeds⟩
  rcases headings_unique_of_sorted feed succeeds with ⟨headed, unique⟩
  exact ⟨feed, result, headed, succeeds, unique⟩

end

end Transform

end PageContext
