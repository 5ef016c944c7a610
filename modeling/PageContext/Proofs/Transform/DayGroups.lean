import Mathlib.Data.List.Nodup
import PageContext.Proofs.Transform.LabelRuns
import PageContext.Proofs.Transform.Runs

/-!
# Groups of days

Records that are labelled by their distance from today in days and then grouped by their labels come
out in the runs of their local days.  Where the records are sorted by time, each day has one group.
All of this crashes where the local date of a record or of now is beyond the dates that can be counted.
-/

namespace PageContext.Transform

/-- The milliseconds under `TS`, where a number stands there. -/
def milliseconds? (record : Json) : Option Int :=
  match record.field? "TS" with
  | some (.number number) => some number.toSigned
  | _ => none

/-- Records in the order of their times, the newest first. -/
def NewestFirst (records : List Json) : Prop :=
  records.Pairwise fun first second =>
    ∀ time ∈ milliseconds? first, ∀ otherTime ∈ milliseconds? second, otherTime ≤ time

/-- The local day of a record without a date: a number stands for the time of the record, and the
day is that of this time after it is moved by some hours. -/
inductive LiesOn (frame : TimeFrame) (hours : Int) : Json → Date → Prop where
  | record {entries : List (String × Json)} {number : Number} {instant moved : Instant}
      (noDate : Entries.get? "date" entries = none)
      (hasTime : Entries.get? "TS" entries = some (.number number))
      (isInstant : frame.instant? (.number number) = some instant)
      (isMoved : instant.addHours? hours = some moved) :
      LiesOn frame hours (.object entries) (frame.localDate moved)

/-- The longest runs of consecutive records of one day, each with this day. -/
structure AreDayRuns (frame : TimeFrame) (hours : Int) (records : List Json)
    (runs : List (Date × List Json)) : Prop where
  joined : runs.flatMap Prod.snd = records
  nonempty : ∀ run ∈ runs, run.2 ≠ []
  sameDay : ∀ run ∈ runs, ∀ record ∈ run.2, LiesOn frame hours record run.1
  apart : (runs.map Prod.fst).IsChain (· ≠ ·)

/-- The local date of now or of a record, both moved by some hours, lies beyond the dates that can be
counted. -/
def LiesBeyond (frame : TimeFrame) (hours : Int) (record : Json) : Prop :=
  frame.LeavesDates frame.now hours ∨
    ∃ instant, datedAt? frame record = some instant ∧ frame.LeavesDates instant hours

def dayLabel (today day : Date) : String :=
  relativeDayLabel (today.toDays - day.toDays)

/-! ## Numbers of days -/

theorem LiesOn.exists_moved {frame : TimeFrame} {hours : Int} {record : Json} {day : Date}
    (lies : LiesOn frame hours record day) :
    ∃ time moved, milliseconds? record = some time ∧
      moved.seconds = time / 1000 + 3600 * hours ∧ day = frame.localDate moved := by
  cases lies with
  | @record entries number instant moved noDate hasTime isInstant isMoved =>
      refine ⟨number.toSigned, moved, ?_, ?_, rfl⟩
      · simp [milliseconds?, Json.field?, hasTime]
      · exact Instant.seconds_of_addHours? isInstant isMoved

/-- A record lies on the day with a number. -/
def HasDayNumber (frame : TimeFrame) (hours : Int) (item : Int × Json) : Prop :=
  LiesOn frame hours item.2 (Date.ofDays item.1)

/-- Records that lie on days can be numbered by their days. -/
theorem exists_numbered {frame : TimeFrame} {hours : Int} {records : List Json}
    (dated : ∀ record ∈ records, ∃ day, LiesOn frame hours record day) :
    ∃ items : List (Int × Json), items.map Prod.snd = records ∧
      ∀ item ∈ items, HasDayNumber frame hours item := by
  induction records with
  | nil => exact ⟨[], rfl, by simp⟩
  | cons record rest hypothesis =>
      rcases dated record List.mem_cons_self with ⟨day, lies⟩
      rcases lies.exists_moved with ⟨_, moved, _, _, rfl⟩
      have restDated : ∀ other ∈ rest, ∃ day, LiesOn frame hours other day := by
        intro other member
        exact dated other (List.mem_cons_of_mem _ member)
      rcases hypothesis restDated with ⟨items, rfl, each⟩
      exact ⟨(frame.dayNumber moved, record) :: items, rfl,
        List.forall_mem_cons.mpr ⟨lies, each⟩⟩

theorem HasDayNumber.labelled {frame : TimeFrame} {hours : Int} {today : Instant}
    (isToday : frame.now.addHours? hours = some today) {item : Int × Json}
    (numbered : HasDayNumber frame hours item) (inDates : ¬LiesBeyond frame hours item.2) :
    Labelled frame (fun instant => frame.timeAgoInDays instant hours)
      (fun number => relativeDayLabel (frame.dayNumber today - number)) item := by
  rcases item with ⟨number, record⟩
  rw [HasDayNumber] at numbered
  generalize isDay : Date.ofDays number = day at numbered
  cases numbered with
  | @record entries _ instant moved noDate hasTime isInstant isMoved =>
      rw [TimeFrame.localDate_eq_ofDays] at isDay
      have isLabelled : labelledInstant? frame entries = some instant :=
        Option.bind_eq_some_iff.mpr ⟨_, hasTime, isInstant⟩
      have hasDay : ¬frame.LeavesDates instant hours :=
        fun leaves => inDates (.inr ⟨instant, isLabelled, leaves⟩)
      refine .record noDate isLabelled ?_
      rw [TimeFrame.timeAgoInDays_eq isToday isMoved
        ((TimeFrame.hasLocalDate_iff isToday).mpr fun leaves => inDates (.inl leaves))
        ((TimeFrame.hasLocalDate_iff isMoved).mpr hasDay), Date.ofDays_injective isDay]

theorem HasDayNumber.le_of_times {frame : TimeFrame} {hours : Int} {first second : Int × Json}
    (firstNumbered : HasDayNumber frame hours first)
    (secondNumbered : HasDayNumber frame hours second)
    (order : ∀ time ∈ milliseconds? first.2, ∀ otherTime ∈ milliseconds? second.2,
      otherTime ≤ time) : second.1 ≤ first.1 := by
  rcases firstNumbered.exists_moved with ⟨time, moved, isTime, seconds, isDay⟩
  rcases secondNumbered.exists_moved with
    ⟨otherTime, otherMoved, isOtherTime, otherSeconds, isOtherDay⟩
  rw [TimeFrame.localDate_eq_ofDays] at isDay isOtherDay
  rw [Date.ofDays_injective isDay, Date.ofDays_injective isOtherDay]
  have ordered := order time isTime otherTime isOtherTime
  apply TimeFrame.dayNumber_mono
  omega

theorem areDayRuns_runsAfter {frame : TimeFrame} {hours : Int} {items : List (Int × Json)}
    (numbered : ∀ item ∈ items, HasDayNumber frame hours item) :
    AreDayRuns frame hours (items.map Prod.snd)
      ((runsAfter none items).2.map fun run => (Date.ofDays run.1, run.2)) := by
  refine ⟨?_, ?_, ?_, ?_⟩
  · have joined := runsAfter_joined none items
    have noLeading := runsAfter_none_leading items
    rw [noLeading, List.nil_append] at joined
    rw [← joined, List.flatMap_map]
  · intro run member
    rcases List.mem_map.mp member with ⟨numberedRun, inside, rfl⟩
    exact (runsAfter_inside inside).1
  · intro run member record isRecord
    rcases List.mem_map.mp member with ⟨numberedRun, inside, rfl⟩
    exact numbered _ ((runsAfter_inside inside).2 record isRecord)
  · have apart := runsAfter_apart none items
    rw [List.map_map]
    simp only [Option.toList_none, List.nil_append, List.isChain_map] at apart ⊢
    apply apart.imp
    intro first second differ same
    exact differ (Date.ofDays_injective same)

/-! ## Labelling and grouping by days -/

section

variable {frame : TimeFrame} {hours : Int} {daySpec groupSpec : Json} {records : List Json}
  {today : Instant} (isDaySpec : ofSpec daySpec = .ok (.timeAgoInDays hours))
  (isGroupSpec : ofSpec groupSpec = .ok .groupByDate)
  (isToday : frame.now.addHours? hours = some today)
  (dated : ∀ record ∈ records, ∃ day, LiesOn frame hours record day)

include isDaySpec

theorem applySpec_daySpec :
    applySpec frame (.array records) daySpec =
      ((labelRuns frame (fun instant => frame.timeAgoInDays instant hours) none records).mapError
        (dateStop "TimeAgoInDays")).map .array := by
  rw [applySpec, isDaySpec]
  cases isResult : labelRuns frame (fun instant => frame.timeAgoInDays instant hours) none records <;>
    simp [apply, labelled, arrayFor, isResult, name, bind, Except.bind, pure, Except.pure,
      Except.map]

include isToday in
omit isDaySpec in
/-- Where no instant is moved out of range, the only records without a label are those that crash. -/
theorem lacks_iff_liesBeyond {record : Json} {day : Date} {stop : Stop DateError}
    (lies : LiesOn frame hours record day) :
    Lacks frame (fun instant => frame.timeAgoInDays instant hours) record stop ↔
      stop = .crash ∧ LiesBeyond frame hours record := by
  cases lies with
  | @record entries number instant moved noDate hasTime isInstant isMoved =>
      have isDate : datedAt? frame (.object entries) = some instant :=
        Option.bind_eq_some_iff.mpr ⟨_, hasTime, isInstant⟩
      have todayStays : ¬frame.now.LeavesRange hours := by
        simp [← Instant.addHours?_eq_none_iff, isToday]
      have stays : ¬instant.LeavesRange hours := by
        simp [← Instant.addHours?_eq_none_iff, isMoved]
      simp [lacks_iff isDate, TimeFrame.timeAgoInDays, TimeFrame.daysAgo_eq_error_iff,
        TimeFrame.lacksDistance_iff todayStays stays, LiesBeyond, isDate]

include isToday dated in
/-- Labelling crashes where a day cannot be counted. -/
theorem runChain_eq_crash (beyond : ∃ record ∈ records, LiesBeyond frame hours record) :
    runChain frame [daySpec, groupSpec] (.array records) = .error .crash := by
  have onlyCrash : ∀ record ∈ records, ∀ stop,
      Lacks frame (fun instant => frame.timeAgoInDays instant hours) record stop ↔
        stop = .crash ∧ LiesBeyond frame hours record := by
    intro record member stop
    rcases dated record member with ⟨day, lies⟩
    exact lacks_iff_liesBeyond isToday lies
  rcases beyond with ⟨record, member, isBeyond⟩
  rcases exists_firstLacks ⟨record, member, .crash, (onlyCrash record member _).mpr ⟨rfl, isBeyond⟩⟩
    with ⟨stop, first⟩
  rcases first.exists_mem with ⟨other, isMember, isLacking⟩
  obtain rfl := ((onlyCrash other isMember stop).mp isLacking).1
  rw [runChain, applySpec_daySpec isDaySpec, labelRuns_eq_error_iff.mpr first]
  rfl

include isGroupSpec isToday dated in
theorem exists_dayRuns (inDates : ∀ record ∈ records, ¬LiesBeyond frame hours record) :
    ∃ runs, AreDayRuns frame hours records runs ∧
      runChain frame [daySpec, groupSpec] (.array records) =
        .ok (.array (runs.map fun run =>
          .object [("date", .string (dayLabel (frame.localDate today) run.1)),
            ("items", .array run.2)])) ∧
      (runs.map fun run => dayLabel (frame.localDate today) run.1).IsChain (· ≠ ·) ∧
      (NewestFirst records →
        (runs.map fun run => dayLabel (frame.localDate today) run.1).Nodup) := by
  rcases exists_numbered dated with ⟨items, rfl, numbered⟩
  have injective : Function.Injective fun number : Int =>
      relativeDayLabel (frame.dayNumber today - number) := by
    intro first second same
    have sameDistance := relativeDayLabel_injective same
    omega
  have sameLabels : ∀ runs : List (Int × List Json),
      (runs.map fun run => (Date.ofDays run.1, run.2)).map
          (fun run => dayLabel (frame.localDate today) run.1) =
        (runs.map Prod.fst).map fun number =>
          relativeDayLabel (frame.dayNumber today - number) := by
    intro runs
    simp [dayLabel, TimeFrame.localDate_eq_ofDays, Date.toDays_ofDays]
  have apart := runsAfter_apart none items
  rw [Option.toList_none, List.nil_append] at apart
  refine ⟨_, areDayRuns_runsAfter numbered, ?_, ?_, ?_⟩
  · have each := fun item member => (numbered item member).labelled isToday
      (inDates _ (List.mem_map_of_mem member))
    rcases groups_labelRuns injective (fun _ => relativeDayLabel_ne_empty _) each with
      ⟨events, isLabelled, isGrouped⟩
    have isGroups : applySpec frame (.array events) groupSpec =
        .ok (.array ((groups events).map Group.toJson)) := by
      rw [applySpec, isGroupSpec]
      rfl
    rw [runChain, applySpec_daySpec isDaySpec, isLabelled]
    simp only [Except.mapError_ok, Except.map, bind, Except.bind, runChain, isGroups, isGrouped]
    simp [Group.toJson, Group.ofRun, dayLabel, TimeFrame.localDate_eq_ofDays, Date.toDays_ofDays]
  · rw [sameLabels, List.isChain_map]
    apply apart.imp
    intro first second differ same
    exact differ (injective same)
  · intro newestFirst
    rw [sameLabels]
    refine List.Nodup.map injective (nodup_of_descending ?_ apart)
    have descending : items.Pairwise fun first second => second.1 ≤ first.1 := by
      refine (List.pairwise_map.mp newestFirst).imp_of_mem ?_
      intro first second firstMember secondMember order
      exact (numbered first firstMember).le_of_times (numbered second secondMember) order
    exact (List.pairwise_map.mpr descending).sublist (runsAfter_keys_sublist none items)

end

/-- Records that are labelled by their days and grouped by their labels come out in the runs of
their days, unless a day cannot be counted, which crashes.  Each group has the label of its day and the
records of the run as they were before, neighbouring groups have different labels, and records in the
order of time give one group to each day. -/
theorem runChain_dayGroups {frame : TimeFrame} {hours : Int} {daySpec groupSpec : Json}
    {records : List Json} {today : Instant} (isDaySpec : ofSpec daySpec = .ok (.timeAgoInDays hours))
    (isGroupSpec : ofSpec groupSpec = .ok .groupByDate)
    (isToday : frame.now.addHours? hours = some today)
    (dated : ∀ record ∈ records, ∃ day, LiesOn frame hours record day) :
    (runChain frame [daySpec, groupSpec] (.array records) = .error .crash ↔
      ∃ record ∈ records, LiesBeyond frame hours record) ∧
    (runChain frame [daySpec, groupSpec] (.array records) ≠ .error .crash →
      ∃ runs, AreDayRuns frame hours records runs ∧
        runChain frame [daySpec, groupSpec] (.array records) =
          .ok (.array (runs.map fun run =>
            .object [("date", .string (dayLabel (frame.localDate today) run.1)),
              ("items", .array run.2)])) ∧
        (runs.map fun run => dayLabel (frame.localDate today) run.1).IsChain (· ≠ ·) ∧
        (NewestFirst records →
          (runs.map fun run => dayLabel (frame.localDate today) run.1).Nodup)) := by
  by_cases beyond : ∃ record ∈ records, LiesBeyond frame hours record
  · have crashes : runChain frame [daySpec, groupSpec] (.array records) = .error .crash :=
      runChain_eq_crash isDaySpec isToday dated beyond
    exact ⟨iff_of_true crashes beyond, fun survives => absurd crashes survives⟩
  · have inDates : ∀ record ∈ records, ¬LiesBeyond frame hours record := by
      simpa using beyond
    rcases exists_dayRuns isDaySpec isGroupSpec isToday dated inDates with
      ⟨runs, areRuns, isResult, apart, distinct⟩
    exact ⟨iff_of_false (by simp [isResult]) beyond,
      fun _ => ⟨runs, areRuns, isResult, apart, distinct⟩⟩

/-- The conclusion for two records of one day before a record of the day before. -/
theorem runChain_dayGroups_two_days :
    let frame : TimeFrame := ⟨3600, ⟨1596283200, 0⟩⟩
    let daySpec : Json := .object [("action", .string "TimeAgoInDays"), ("hoursOffset", .int 2)]
    let groupSpec : Json := .string "GroupByDate"
    let records : List Json := [.object [("TS", .int 1596283200000), ("id", .string "a")],
      .object [("id", .string "b"), ("TS", .int 1596279600000)],
      .object [("TS", .int 1596196800000)]]
    ofSpec daySpec = .ok (.timeAgoInDays 2) ∧ ofSpec groupSpec = .ok .groupByDate ∧
      frame.now.addHours? 2 = some ⟨1596290400, 0⟩ ∧
      (∀ record ∈ records, ∃ day, LiesOn frame 2 record day) ∧ NewestFirst records ∧
      ∃ runs : List (Date × List Json), AreDayRuns frame 2 records runs ∧
        (runs.map fun run =>
          dayLabel (frame.localDate ⟨1596290400, 0⟩) run.1).Nodup := by
  intro frame daySpec groupSpec records
  have isDaySpec : ofSpec daySpec = .ok (.timeAgoInDays 2) := rfl
  have isGroupSpec : ofSpec groupSpec = .ok .groupByDate := rfl
  have isToday : frame.now.addHours? 2 = some ⟨1596290400, 0⟩ := rfl
  have dated : ∀ record ∈ records, ∃ day, LiesOn frame 2 record day := by
    simp only [records, List.forall_mem_cons, List.not_mem_nil, false_implies, implies_true,
      and_true]
    exact ⟨⟨_, .record rfl rfl rfl rfl⟩, ⟨_, .record rfl rfl rfl rfl⟩,
      ⟨_, .record rfl rfl rfl rfl⟩⟩
  have newestFirst : NewestFirst records := by
    unfold NewestFirst
    decide
  have survives : runChain frame [daySpec, groupSpec] (.array records) ≠ .error .crash := nofun
  rcases (runChain_dayGroups isDaySpec isGroupSpec isToday dated).2 survives with
    ⟨runs, areRuns, _, _, distinctLabels⟩
  exact ⟨isDaySpec, isGroupSpec, isToday, dated, newestFirst, runs, areRuns,
    distinctLabels newestFirst⟩

/-- Labelling and grouping need not succeed where no date and not now either is moved out of range. -/
theorem not_forall_dayGroups :
    ¬∀ (frame : TimeFrame) (hours : Int) (daySpec groupSpec : Json) (records : List Json)
      (today : Instant), frame.IsValid → ofSpec daySpec = .ok (.timeAgoInDays hours) →
      ofSpec groupSpec = .ok .groupByDate → frame.now.addHours? hours = some today →
      (∀ record ∈ records, ∃ day, LiesOn frame hours record day) →
      ∃ groups, runChain frame [daySpec, groupSpec] (.array records) = .ok groups := by
  intro succeeds
  have dated : ∀ record ∈ firstOfAll, ∃ day, LiesOn ⟨-21600, ⟨0, 0⟩⟩ 0 record day := by
    simp only [firstOfAll, List.forall_mem_singleton]
    exact ⟨_, .record rfl rfl rfl rfl⟩
  rcases succeeds ⟨-21600, ⟨0, 0⟩⟩ 0 (.string "TimeAgoInDays") (.string "GroupByDate") firstOfAll
    ⟨0, 0⟩ ⟨by decide, by decide⟩ rfl rfl rfl dated with ⟨groups, isResult⟩
  contradiction

end PageContext.Transform
