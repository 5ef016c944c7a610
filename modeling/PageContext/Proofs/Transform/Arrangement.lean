import Mathlib.Data.List.Destutter
import PageContext.Proofs.Calendar.YearMonths
import PageContext.Proofs.Transform.Provenance

/-!
# Arrangements of records under headings

Where no record is moved out of range, the result with headings is a sequence of blocks.  The block
of a record ends with this record, and the headings before it depend only on its month and on the
month of the last record with a date before it.  So the headings of one kind are those of the months
of all records, where each is left out that would repeat the one before.
-/

namespace PageContext

namespace MarkerKind

/-- The reference of the heading of a kind for a month: that of its year or its own. -/
def referenceOf : MarkerKind → YearMonth → String
  | .year, yearMonth => toString yearMonth.year
  | .month, yearMonth => yearMonth.reference

/-- Two months have one heading of a kind. -/
def Agree : MarkerKind → YearMonth → YearMonth → Prop
  | .year, first, second => first.year = second.year
  | .month, first, second => first = second

instance (kind : MarkerKind) (first second : YearMonth) : Decidable (kind.Agree first second) :=
  match kind with
  | .year => inferInstanceAs (Decidable (_ = _))
  | .month => inferInstanceAs (Decidable (_ = _))

theorem referenceOf_congr {kind : MarkerKind} {first second : YearMonth}
    (agree : kind.Agree first second) : kind.referenceOf first = kind.referenceOf second := by
  cases kind with
  | year => exact congrArg toString agree
  | month => exact congrArg YearMonth.reference agree

theorem referenceOf_eq_iff {kind : MarkerKind} {first second : YearMonth} (isFirst : first.IsMonth)
    (isSecond : second.IsMonth) :
    kind.referenceOf first = kind.referenceOf second ↔ kind.Agree first second := by
  refine ⟨fun same => ?_, referenceOf_congr⟩
  cases kind with
  | year => exact Int.repr_injective same
  | month => exact YearMonth.reference_inj isFirst isSecond same

end MarkerKind

namespace Transform

/-! ## Dates of records -/

/-- The value that dates a record: its own `TS` if that is truthy, else that of its first item. -/
inductive Represents (record value : Json) : Prop where
  | own (isOwn : record.field? "TS" = some value) (truthy : value.isTruthy = true)
  | firstItem {first : Json} {rest : List Json}
      (notOwn : ∀ own, record.field? "TS" = some own → own.isTruthy = false)
      (areItems : record.field? "items" = some (.array (first :: rest)))
      (isFirst : first.field? "TS" = some value)

/-- The instant by which a record is placed under headings. -/
def HeadedAt (frame : TimeFrame) (record : Json) (instant : Instant) : Prop :=
  ∃ value, Represents record value ∧ frame.instant? value = some instant

/-- A record lies in the month of its date, moved by the hours offset. -/
def LiesIn (frame : TimeFrame) (rule : HeadingRule) (record : Json) (month : YearMonth) : Prop :=
  ∃ instant, HeadedAt frame record instant ∧
    frame.monthAfter? instant rule.hoursOffset = some month

def headedAt? (frame : TimeFrame) (record : Json) : Option Instant :=
  (representative? record).bind frame.instant?

def headedMonth? (frame : TimeFrame) (rule : HeadingRule) (record : Json) : Option YearMonth :=
  (headedAt? frame record).bind fun instant => frame.monthAfter? instant rule.hoursOffset

theorem items?_eq_some_iff {value : Json} {items : List Json} :
    value.items? = some items ↔ value = .array items := by
  cases value <;> simp [Json.items?]

theorem representative?_eq_some_iff {record value : Json} :
    representative? record = some value ↔ Represents record value := by
  by_cases hasOwn : ∃ own, record.field? "TS" = some own ∧ own.isTruthy = true
  · rcases hasOwn with ⟨own, isOwn, truthy⟩
    have isRepresentative : representative? record = some own := by
      simp [representative?, isOwn, Option.filter_some, truthy]
    rw [isRepresentative, Option.some.injEq]
    constructor
    · rintro rfl
      exact .own isOwn truthy
    · rintro (⟨isOther, _⟩ | ⟨notOwn, _, _⟩)
      · exact Option.some.inj (isOwn.symm.trans isOther)
      · simp [notOwn own isOwn] at truthy
  · have notOwn : ∀ own, record.field? "TS" = some own → own.isTruthy = false := by
      intro own isOwn
      rw [Bool.eq_false_iff]
      intro truthy
      exact hasOwn ⟨own, isOwn, truthy⟩
    have noOwn : (record.field? "TS").filter Json.isTruthy = none := by
      rw [Option.filter_eq_none_iff]
      intro own isOwn
      simp [notOwn own isOwn]
    simp only [representative?, noOwn, Option.bind_eq_bind, Option.bind_eq_some_iff,
      items?_eq_some_iff, List.head?_eq_some_iff]
    constructor
    · rintro ⟨_, areItems, _, rfl, first, ⟨rest, rfl⟩, isFirst⟩
      exact .firstItem notOwn areItems isFirst
    · rintro (⟨isOwn, truthy⟩ | ⟨_, areItems, isFirst⟩)
      · exact absurd ⟨_, isOwn, truthy⟩ hasOwn
      · exact ⟨_, areItems, _, rfl, _, ⟨_, rfl⟩, isFirst⟩

theorem headedAt?_eq_some_iff {frame : TimeFrame} {record : Json} {instant : Instant} :
    headedAt? frame record = some instant ↔ HeadedAt frame record instant := by
  simp only [headedAt?, Option.bind_eq_some_iff, representative?_eq_some_iff, HeadedAt]

theorem headedMonth?_eq_some_iff {frame : TimeFrame} {rule : HeadingRule} {record : Json}
    {month : YearMonth} :
    headedMonth? frame rule record = some month ↔ LiesIn frame rule record month := by
  simp only [headedMonth?, Option.bind_eq_some_iff, headedAt?_eq_some_iff, LiesIn]

theorem LiesIn.isMonth {frame : TimeFrame} {rule : HeadingRule} {record : Json}
    {month : YearMonth} (lies : LiesIn frame rule record month) : month.IsMonth := by
  rcases lies with ⟨_, _, isMonth⟩
  exact TimeFrame.isMonth_of_monthAfter? isMonth

/-! ## Headings -/

/-- The heading among records, if it is one. -/
def Headed.heading? : Headed → Option Marker
  | .heading marker => some marker
  | .record _ => none

def headings (kind : MarkerKind) (headed : List Headed) : List Marker :=
  (headed.filterMap Headed.heading?).filter fun marker => marker.kind = kind

/-- The references of the headings of a kind. -/
def references (kind : MarkerKind) (headed : List Headed) : List String :=
  (headings kind headed).map Marker.reference

/-- The nearest headings in front are those of a month and of its year. -/
def StandsUnder (before : List Headed) (month : YearMonth) : Prop :=
  ∀ kind, (references kind before).getLast? = some (kind.referenceOf month)

@[simp] theorem headings_append (kind : MarkerKind) (before after : List Headed) :
    headings kind (before ++ after) = headings kind before ++ headings kind after := by
  simp [headings]

@[simp] theorem references_append (kind : MarkerKind) (before after : List Headed) :
    references kind (before ++ after) = references kind before ++ references kind after := by
  simp [references]

@[simp] theorem references_record (kind : MarkerKind) (record : Json) :
    references kind [.record record] = [] :=
  rfl

section

variable (frame : TimeFrame) (rule : HeadingRule) (current : YearMonth)

/-- The heading of a kind for a month. -/
def headingOf : MarkerKind → YearMonth → Marker
  | .year, month => .ofYear current month.year
  | .month, month => .ofMonth current (headingLabel rule month) month

@[simp] theorem kind_headingOf (kind : MarkerKind) (month : YearMonth) :
    (headingOf rule current kind month).kind = kind := by
  cases kind <;> rfl

@[simp] theorem reference_headingOf (kind : MarkerKind) (month : YearMonth) :
    (headingOf rule current kind month).reference = kind.referenceOf month := by
  cases kind <;> rfl

/-- The headings of a kind that are due before a record of a month, behind an earlier month. -/
def headingsDue (earlier : Option YearMonth) (month : YearMonth) (kind : MarkerKind) : List Marker :=
  if earlier.any fun last => kind.Agree last month then [] else [headingOf rule current kind month]

/-- The headings in front of a record, behind an earlier month. -/
def headingsOf (earlier : Option YearMonth) (record : Json) : List Marker :=
  (headedMonth? frame rule record).elim [] fun month =>
    headingsDue rule current earlier month .year ++ headingsDue rule current earlier month .month

/-- A record with the headings in front of it. -/
def block (earlier : Option YearMonth) (record : Json) : List Headed :=
  (headingsOf frame rule current earlier record).map .heading ++ [.record record]

/-- The last month among records, or an earlier one if they have none. -/
def lastMonth? (earlier : Option YearMonth) (records : List Json) : Option YearMonth :=
  (records.filterMap (headedMonth? frame rule)).getLast?.or earlier

/-- The blocks of all records, behind an earlier month. -/
def arrange (earlier : Option YearMonth) : List Json → List Headed
  | [] => []
  | record :: rest => block frame rule current earlier record ++
      arrange ((headedMonth? frame rule record).or earlier) rest

end

section

variable {frame : TimeFrame} {rule : HeadingRule} {current : YearMonth}

@[simp] theorem headingsDue_none (month : YearMonth) (kind : MarkerKind) :
    headingsDue rule current none month kind = [headingOf rule current kind month] :=
  rfl

@[simp] theorem headingsDue_some (last month : YearMonth) (kind : MarkerKind) :
    headingsDue rule current (some last) month kind =
      if kind.Agree last month then [] else [headingOf rule current kind month] := by
  simp [headingsDue]

theorem headingsBefore_eq (earlier : Option YearMonth) (month : YearMonth) :
    headingsBefore rule current (earlier.map YearMonth.year) earlier month =
      headingsDue rule current earlier month .year ++
        headingsDue rule current earlier month .month := by
  cases earlier with
  | none => rfl
  | some last =>
      simp only [headingsBefore, Option.map_some, Option.some.injEq, headingsDue_some]
      rfl

/-- The hours offset moves the date of a record out of range. -/
def LeavesRange (frame : TimeFrame) (rule : HeadingRule) (record : Json) : Prop :=
  ∃ instant, HeadedAt frame record instant ∧ instant.LeavesRange rule.hoursOffset

/-- Where no record is moved out of range, the records with their headings are arranged. -/
theorem withHeadings_eq_some_iff {earlier : Option YearMonth} {records : List Json}
    {headed : List Headed} :
    withHeadings frame rule current (earlier.map YearMonth.year) earlier records = some headed ↔
      (∀ record ∈ records, ¬LeavesRange frame rule record) ∧
        arrange frame rule current earlier records = headed := by
  induction records generalizing earlier headed with
  | nil => simp [withHeadings, arrange]
  | cons record rest hypothesis =>
      cases isDate : headedAt? frame record with
      | none =>
          have undated : headedMonth? frame rule record = none := by simp [headedMonth?, isDate]
          have stays : ¬LeavesRange frame rule record := by
            rintro ⟨instant, isHeaded, _⟩
            simp [headedAt?_eq_some_iff.mpr isHeaded] at isDate
          rw [headedAt?] at isDate
          simp [withHeadings, isDate, Option.bind_eq_some_iff, hypothesis, arrange, block,
            headingsOf, undated, stays, and_assoc]
      | some instant =>
          have leaves : LeavesRange frame rule record ↔
              frame.monthAfter? instant rule.hoursOffset = none := by
            simp [LeavesRange, ← headedAt?_eq_some_iff, isDate, TimeFrame.monthAfter?_eq_none_iff]
          have isMonth : headedMonth? frame rule record =
              frame.monthAfter? instant rule.hoursOffset := by
            simp [headedMonth?, isDate]
          rw [headedAt?] at isDate
          cases moved : frame.monthAfter? instant rule.hoursOffset with
          | none => simp [withHeadings, isDate, moved, leaves]
          | some month =>
              -- the year behind this record is that of its month, as the statement below wants it
              have below := @hypothesis (some month)
              simp only [Option.map_some] at below
              simp [withHeadings, isDate, moved, leaves, Option.bind_eq_some_iff, below, arrange,
                block, headingsOf, isMonth, headingsBefore_eq, and_assoc]

/-! ## Headings of arrangements -/

theorem headings_block (earlier : Option YearMonth) (record : Json) (kind : MarkerKind) :
    headings kind (block frame rule current earlier record) =
      (headedMonth? frame rule record).elim [] fun month =>
        headingsDue rule current earlier month kind := by
  have ofKind (month : YearMonth) (other : MarkerKind) :
      (headingsDue rule current earlier month other).filter (fun marker => marker.kind = kind) =
        if other = kind then headingsDue rule current earlier month other else [] := by
    unfold headingsDue
    split <;> simp [List.filter_cons]
  have areHeadings : headings kind (block frame rule current earlier record) =
      (headingsOf frame rule current earlier record).filter fun marker => marker.kind = kind := by
    simp [headings, block, List.filterMap_map, Function.comp_def, Headed.heading?]
  rw [areHeadings, headingsOf]
  cases headedMonth? frame rule record with
  | none => rfl
  | some month =>
      simp only [Option.elim_some, List.filter_append, ofKind]
      cases kind <;> simp

theorem references_block (earlier : Option YearMonth) (record : Json) (kind : MarkerKind) :
    references kind (block frame rule current earlier record) =
      (headedMonth? frame rule record).elim [] fun month =>
        if earlier.any fun last => kind.Agree last month then [] else [kind.referenceOf month] := by
  rw [references, headings_block]
  cases headedMonth? frame rule record with
  | none => rfl
  | some month => simp [headingsDue, apply_ite (List.map Marker.reference)]

theorem lastMonth?_cons (earlier : Option YearMonth) (record : Json) (rest : List Json) :
    lastMonth? frame rule earlier (record :: rest) =
      lastMonth? frame rule ((headedMonth? frame rule record).or earlier) rest := by
  cases isMonth : headedMonth? frame rule record with
  | none => simp [lastMonth?, isMonth]
  | some month => simp [lastMonth?, isMonth, List.getLast?_cons]

theorem lastMonth?_concat (earlier : Option YearMonth) (records : List Json) (last : Json) :
    lastMonth? frame rule earlier (records ++ [last]) =
      (headedMonth? frame rule last).or (lastMonth? frame rule earlier records) := by
  cases isMonth : headedMonth? frame rule last with
  | none => simp [lastMonth?, isMonth]
  | some month => simp [lastMonth?, isMonth]

theorem arrange_append (earlier : Option YearMonth) (front back : List Json) :
    arrange frame rule current earlier (front ++ back) =
      arrange frame rule current earlier front ++
        arrange frame rule current (lastMonth? frame rule earlier front) back := by
  induction front generalizing earlier with
  | nil => rfl
  | cons record rest hypothesis =>
      simp [arrange, hypothesis, lastMonth?_cons]

variable (frame rule current) in
theorem filterMap_record?_arrange (earlier : Option YearMonth) (records : List Json) :
    (arrange frame rule current earlier records).filterMap Headed.record? = records := by
  have noRecord : Headed.record? ∘ Headed.heading = fun _ => none := rfl
  induction records generalizing earlier with
  | nil => rfl
  | cons record rest hypothesis =>
      simp [arrange, block, Headed.record?, noRecord, hypothesis]

variable (frame rule current) in
/-- Behind an arrangement the nearest headings are those of the last month. -/
theorem getLast?_references_arrange (earlier : Option YearMonth) (records : List Json)
    (kind : MarkerKind) :
    (references kind (arrange frame rule current earlier records)).getLast?.or
        (earlier.map kind.referenceOf) =
      (lastMonth? frame rule earlier records).map kind.referenceOf := by
  induction records generalizing earlier with
  | nil => rfl
  | cons record rest hypothesis =>
      -- the nearest headings behind a block are those of its month, or else the earlier ones
      have behind : (references kind (block frame rule current earlier record)).getLast?.or
          (earlier.map kind.referenceOf) =
            ((headedMonth? frame rule record).or earlier).map kind.referenceOf := by
        rw [references_block]
        cases headedMonth? frame rule record with
        | none => rfl
        | some month =>
            cases earlier with
            | none => rfl
            | some last =>
                by_cases agree : kind.Agree last month
                · simp [agree, MarkerKind.referenceOf_congr agree]
                · simp [agree]
      rw [arrange, references_append, List.getLast?_append, Option.or_assoc, behind, hypothesis,
        lastMonth?_cons]

/-- An element of two lists together is in the second or in the first one. -/
theorem append_eq_append_cons_iff {α : Type*} {first second before after : List α} {item : α} :
    first ++ second = before ++ item :: after ↔
      (∃ reached, before = first ++ reached ∧ second = reached ++ item :: after) ∨
        ∃ behind, first = before ++ item :: behind ∧ after = behind ++ second := by
  rw [List.append_eq_append_iff]
  simp only [List.cons_eq_append_iff]
  grind

/-- Each element of an arrangement is in the block of a record. -/
theorem exists_of_arrange_eq {earlier : Option YearMonth} {records : List Json}
    {before after : List Headed} {item : Headed}
    (split : arrange frame rule current earlier records = before ++ item :: after) :
    ∃ front record back inFront behind, records = front ++ record :: back ∧
      block frame rule current (lastMonth? frame rule earlier front) record =
        inFront ++ item :: behind ∧
      before = arrange frame rule current earlier front ++ inFront ∧
      after = behind ++
        arrange frame rule current (lastMonth? frame rule earlier (front ++ [record])) back := by
  induction records generalizing earlier before with
  | nil => simp [arrange] at split
  | cons record rest hypothesis =>
      rcases append_eq_append_cons_iff.mp split with
        ⟨reached, rfl, inRest⟩ | ⟨behind, inBlock, isRest⟩
      · rcases hypothesis inRest with ⟨front, other, back, inFront, behind, rfl, isBlock, rfl, isRest⟩
        refine ⟨record :: front, other, back, inFront, behind, rfl, ?_, ?_, ?_⟩
        · rw [lastMonth?_cons, isBlock]
        · rw [arrange, List.append_assoc]
        · rw [isRest, List.cons_append, lastMonth?_cons]
      · refine ⟨[], record, rest, before, behind, rfl, inBlock, rfl, ?_⟩
        rw [isRest, List.nil_append, lastMonth?_cons]
        rfl

/-- An arrangement ends with a record. -/
theorem getLast?_arrange (earlier : Option YearMonth) (records : List Json) :
    (arrange frame rule current earlier records).getLast? = records.getLast?.map .record := by
  induction records generalizing earlier with
  | nil => rfl
  | cons record rest hypothesis =>
      rw [arrange, List.getLast?_append, hypothesis, List.getLast?_cons]
      cases rest.getLast? with
      | none => simp [block]
      | some last => rfl

/-! ## References of arrangements -/

variable (frame rule current) in
/-- The reference in front is that of the last month, which is the one that later months must
differ from. -/
theorem references_arrange_some {last : YearMonth} (isMonth : last.IsMonth) (records : List Json)
    (kind : MarkerKind) :
    kind.referenceOf last :: references kind (arrange frame rule current (some last) records) =
      ((records.filterMap (headedMonth? frame rule)).map kind.referenceOf).destutter' (· ≠ ·)
        (kind.referenceOf last) := by
  induction records generalizing last with
  | nil => rfl
  | cons record rest hypothesis =>
      rw [arrange, references_append, references_block]
      cases lies : headedMonth? frame rule record with
      | none => simp [lies, hypothesis isMonth]
      | some month =>
          have monthIsMonth := (headedMonth?_eq_some_iff.mp lies).isMonth
          have following := hypothesis monthIsMonth
          rw [List.filterMap_cons_some lies, List.map_cons]
          -- months that agree have one reference, so it does not matter which of them is carried on
          by_cases agree : kind.Agree last month
          · have same := MarkerKind.referenceOf_congr agree
            rw [List.destutter'_cons_neg _ (not_not.mpr same), same, ← following]
            simp [agree]
          · have different := mt (MarkerKind.referenceOf_eq_iff isMonth monthIsMonth).mp agree
            rw [List.destutter'_cons_pos _ different, ← following]
            simp [agree]

/-- The references of a kind are those of all months, without repetitions in succession. -/
theorem references_arrange (records : List Json) (kind : MarkerKind) :
    references kind (arrange frame rule current none records) =
      ((records.filterMap (headedMonth? frame rule)).map kind.referenceOf).destutter (· ≠ ·) := by
  induction records with
  | nil => rfl
  | cons record rest hypothesis =>
      rw [arrange, references_append, references_block]
      cases lies : headedMonth? frame rule record with
      | none => simp [lies, hypothesis]
      | some month =>
          have isMonth := (headedMonth?_eq_some_iff.mp lies).isMonth
          rw [List.filterMap_cons_some lies, List.map_cons, List.destutter_cons',
            ← references_arrange_some frame rule current isMonth]
          simp

/-! ## Records of an array -/

/-- The records of an array with their headings, if no date is moved out of range. -/
def headedRecords? (frame : TimeFrame) (rule : HeadingRule) (records : List Json) :
    Option (List Headed) :=
  (frame.currentMonthAfter? rule.hoursOffset).bind fun current =>
    withHeadings frame rule current none none records

theorem headedRecords?_eq_some_iff {records : List Json} {headed : List Headed} :
    headedRecords? frame rule records = some headed ↔
      ∃ current, frame.currentMonthAfter? rule.hoursOffset = some current ∧
        (∀ record ∈ records, ¬LeavesRange frame rule record) ∧
          arrange frame rule current none records = headed := by
  rw [headedRecords?, Option.bind_eq_some_iff]
  refine exists_congr fun current => and_congr_right fun _ => ?_
  rw [← withHeadings_eq_some_iff, Option.map_none]

theorem headedRecords?_eq_none_iff {records : List Json} :
    headedRecords? frame rule records = none ↔
      frame.now.LeavesRange rule.hoursOffset ∨ ∃ record ∈ records, LeavesRange frame rule record := by
  rw [← frame.monthAfter?_eq_none_iff, ← not_iff_not, ← ne_eq, Option.ne_none_iff_exists']
  simp only [headedRecords?_eq_some_iff, TimeFrame.currentMonthAfter?]
  cases frame.monthAfter? frame.now rule.hoursOffset <;> simp

theorem insertHeadings_array (records : List Json) :
    apply frame (.array records) (.addYearMonthHeadings rule) =
      (headedRecords? frame rule records).elim (.error (outOfRange "AddYearMonthHeadings"))
        fun headed => .ok (.array (headed.map Headed.toJson)) := by
  cases isHeaded : headedRecords? frame rule records <;>
    rw [headedRecords?] at isHeaded <;>
    simp [apply, insertHeadings, arrayFor, isHeaded, Transform.name, bind, Except.bind, throw,
      throwThe, MonadExceptOf.throw, pure, Except.pure]

theorem exists_apply_of_isSome {records : List Json}
    (isHeaded : (headedRecords? frame rule records).isSome) :
    ∃ result, apply frame (.array records) (.addYearMonthHeadings rule) = .ok result := by
  rcases Option.isSome_iff_exists.mp isHeaded with ⟨headed, isSome⟩
  exact ⟨_, by rw [insertHeadings_array, isSome, Option.elim_some]⟩

theorem exists_arrange_of_apply {records : List Json} {result : Json}
    (succeeds : apply frame (.array records) (.addYearMonthHeadings rule) = .ok result) :
    ∃ current, headedRecords? frame rule records = some (arrange frame rule current none records) ∧
      result = .array ((arrange frame rule current none records).map Headed.toJson) ∧
        ∀ record ∈ records, ¬LeavesRange frame rule record := by
  rw [insertHeadings_array] at succeeds
  cases isHeaded : headedRecords? frame rule records with
  | none => simp [isHeaded] at succeeds
  | some headed =>
      rcases headedRecords?_eq_some_iff.mp isHeaded with ⟨current, _, stay, rfl⟩
      rw [isHeaded] at succeeds
      exact ⟨current, rfl, (Except.ok.inj succeeds).symm, stay⟩

end

end Transform

end PageContext
