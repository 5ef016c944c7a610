import PageContext.Proofs.Transform.LabelRuns

/-!
# Stale labels

Where a label is skipped because the element before has the same one, the record keeps whatever
stands under `date`.  Labelling leaves no label but the right ones exactly if no such record comes
with a `date` of its own.
-/

namespace PageContext.Transform

/-- A property of all elements, each with the instant of the nearest element with a date before
it. -/
def Throughout (frame : TimeFrame) (property : Option Instant → Json → Prop)
    (events : List Json) : Prop :=
  ∀ (index : Nat) (event : Json), events[index]? = some event →
    property (lastDated? frame (events.take index)) event

section

variable (frame : TimeFrame) (labelling : Labelling)

/-- An element with a date has no label or the one of its date. -/
def HasNoOtherLabel (record : Json) : Prop :=
  ∀ instant ∈ datedAt? frame record, ∀ value ∈ record.field? "date",
    (labelling.label? frame instant).map Json.string = some value

/-- An element with a date has the same label as the element with a date before it. -/
def GoesOn (earlier : Option Instant) (event : Json) : Prop :=
  ∃ instant, datedAt? frame event = some instant ∧
    earlier.map (labelling.label? frame) = some (labelling.label? frame instant)

/-- The first element of a run of elements with the same label has this label, and the others have
none. -/
inductive LabelledOnce (earlier : Option Instant) (record : Json) : Prop where
  | undated (noDate : datedAt? frame record = none)
  | first {instant : Instant} {text : String} (isDate : datedAt? frame record = some instant)
      (isLabel : labelling.label? frame instant = some text)
      (isNew : ¬GoesOn frame labelling earlier record)
      (isLabelled : record.field? "date" = some (.string text))
  | later (isOld : GoesOn frame labelling earlier record) (unlabelled : record.field? "date" = none)

end

section

variable {frame : TimeFrame} {labelling : Labelling} {earlier : Option Instant}
  {event result : Json}

theorem goesOn_iff {instant : Instant} (isDate : datedAt? frame event = some instant) :
    GoesOn frame labelling earlier event ↔
      earlier.map (labelling.label? frame) = some (labelling.label? frame instant) := by
  simp [GoesOn, isDate]

theorem datedAt?_insert_date (entries : List (String × Json)) (value : Json) :
    datedAt? frame (.object (Entries.insert "date" value entries)) =
      datedAt? frame (.object entries) := by
  have otherKey : "TS" ≠ "date" := by decide
  simp [datedAt?, Json.field?, Entries.get?_insert_of_ne otherKey]

theorem Relabels.datedAt?_eq {κ : Type} {label? : Instant → Option String} {key : Instant → κ}
    (relabels : Relabels frame label? key earlier event result) :
    datedAt? frame result = datedAt? frame event := by
  cases relabels with
  | undated noDate => rfl
  | begins isDate isLabel isNew => exact datedAt?_insert_date _ _
  | continues isDate isOld => rfl

theorem Relabels.hasNoOtherLabel_iff
    (relabels : Relabels frame (labelling.label? frame) (labelling.label? frame) earlier event
      result) :
    HasNoOtherLabel frame labelling result ↔
      (GoesOn frame labelling earlier event → HasNoOtherLabel frame labelling event) := by
  cases relabels with
  | undated noDate => simp [HasNoOtherLabel, noDate]
  | @begins entries instant text isDate isLabel isNew =>
      have notOld := mt (goesOn_iff isDate).mp isNew
      simp [HasNoOtherLabel, datedAt?_insert_date, isDate, isLabel, Json.field?, notOld]
  | @continues _ instant isDate isOld =>
      have goesOn := (goesOn_iff isDate).mpr isOld
      simp [goesOn]

theorem Relabels.labelledOnce_iff
    (relabels : Relabels frame (labelling.label? frame) (labelling.label? frame) earlier event
      result) :
    LabelledOnce frame labelling earlier result ↔
      (GoesOn frame labelling earlier event → event.field? "date" = none) := by
  have sameDate := relabels.datedAt?_eq
  have sameRun : GoesOn frame labelling earlier result ↔ GoesOn frame labelling earlier event := by
    simp [GoesOn, sameDate]
  cases relabels with
  | undated noDate =>
      have notOld : ¬GoesOn frame labelling earlier event := by simp [GoesOn, noDate]
      simp [notOld, LabelledOnce.undated noDate]
  | @begins entries instant text isDate isLabel isNew =>
      have notOld := mt (goesOn_iff isDate).mp isNew
      have first := LabelledOnce.first (sameDate.trans isDate) isLabel (mt sameRun.mp notOld)
        (Entries.get?_insert_self _ _ _)
      simp [notOld, first]
  | @continues _ instant isDate isOld =>
      have goesOn := (goesOn_iff isDate).mpr isOld
      simp only [goesOn, true_implies]
      constructor
      · intro labelledOnce
        cases labelledOnce with
        | undated noDate => simp [noDate] at isDate
        | first _ _ isNew _ => exact absurd goesOn isNew
        | later _ unlabelled => exact unlabelled
      · exact .later goesOn

end

section

variable {κ : Type} {frame : TimeFrame} {label? : Instant → Option String} {key : Instant → κ}
  {earlier : Option Instant} {events results : List Json} {index : Nat}

theorem AreRuns.exists_result {event : Json}
    (runs : AreRuns frame label? key earlier events results) (isEvent : events[index]? = some event) :
    ∃ result, results[index]? = some result ∧
      Relabels frame label? key ((lastDated? frame (events.take index)).or earlier) event result := by
  have inEvents := (List.getElem?_eq_some_iff.mp isEvent).1
  have isResult := List.getElem?_eq_getElem (runs.length ▸ inEvents)
  exact ⟨_, isResult, runs.each index _ _ isEvent isResult⟩

theorem AreRuns.exists_event {result : Json}
    (runs : AreRuns frame label? key earlier events results)
    (isResult : results[index]? = some result) :
    ∃ event, events[index]? = some event ∧
      Relabels frame label? key ((lastDated? frame (events.take index)).or earlier) event result := by
  have inResults := (List.getElem?_eq_some_iff.mp isResult).1
  have isEvent := List.getElem?_eq_getElem (runs.length ▸ inResults)
  exact ⟨_, isEvent, runs.each index _ _ isEvent isResult⟩

theorem AreRuns.map_datedAt? (runs : AreRuns frame label? key earlier events results) :
    results.map (datedAt? frame) = events.map (datedAt? frame) := by
  apply List.ext_getElem?
  intro index
  rw [List.getElem?_map, List.getElem?_map]
  cases isEvent : events[index]? with
  | none =>
      have behind := List.getElem?_eq_none_iff.mp isEvent
      simp [List.getElem?_eq_none (runs.length ▸ behind)]
  | some event =>
      rcases runs.exists_result isEvent with ⟨result, isResult, relabels⟩
      simp [isResult, relabels.datedAt?_eq]

theorem AreRuns.lastDated?_take (runs : AreRuns frame label? key earlier events results)
    (index : Nat) :
    lastDated? frame (results.take index) = lastDated? frame (events.take index) := by
  have byDates : ∀ records : List Json, lastDated? frame records =
      ((records.map (datedAt? frame)).filterMap id).getLast? := by
    intro records
    rw [List.filterMap_map, lastDated?]
    rfl
  rw [byDates, byDates, List.map_take, List.map_take, runs.map_datedAt?]

theorem AreRuns.throughout_iff (runs : AreRuns frame label? key none events results)
    {before after : Option Instant → Json → Prop}
    (each : ∀ {earlier event result}, Relabels frame label? key earlier event result →
      (after earlier result ↔ before earlier event)) :
    Throughout frame after results ↔ Throughout frame before events := by
  constructor
  · intro holds index event isEvent
    rcases runs.exists_result isEvent with ⟨result, isResult, relabels⟩
    rw [Option.or_none] at relabels
    have holdsHere := holds index result isResult
    rw [runs.lastDated?_take] at holdsHere
    exact (each relabels).mp holdsHere
  · intro holds index result isResult
    rcases runs.exists_event isResult with ⟨event, isEvent, relabels⟩
    rw [Option.or_none] at relabels
    rw [runs.lastDated?_take]
    exact (each relabels).mpr (holds index event isEvent)

end

theorem throughout_const_iff (frame : TimeFrame) (property : Json → Prop) (records : List Json) :
    Throughout frame (fun _ => property) records ↔ ∀ record ∈ records, property record := by
  simp only [Throughout, List.mem_iff_getElem?]
  constructor
  · rintro holds record ⟨index, isRecord⟩
    exact holds index record isRecord
  · intro holds index record isRecord
    exact holds record ⟨index, isRecord⟩

/-- After labelling each record has its own label or none exactly if this was so for the records
whose label is skipped, and each run has its label on its first record alone exactly if the records
whose label is skipped came without a `date`. -/
theorem fresh_labels_iff {frame : TimeFrame} {labelling : Labelling} {events results : List Json}
    (isResult : apply frame (.array events) labelling.transform = .ok (.array results)) :
    ((∀ record ∈ results, HasNoOtherLabel frame labelling record) ↔
      Throughout frame (fun earlier event => GoesOn frame labelling earlier event →
        HasNoOtherLabel frame labelling event) events) ∧
    (Throughout frame (LabelledOnce frame labelling) results ↔
      Throughout frame (fun earlier event => GoesOn frame labelling earlier event →
        event.field? "date" = none) events) := by
  have runs := areRuns_of_apply isResult
  rw [← throughout_const_iff frame]
  exact ⟨runs.throughout_iff Relabels.hasNoOtherLabel_iff,
    runs.throughout_iff Relabels.labelledOnce_iff⟩

/-- Two records of one day, the second of which comes with another label. -/
def staleRun : List Json :=
  [.object [("TS", .int 0)], .object [("TS", .int 0), ("date", .string "Yesterday")]]

theorem apply_staleRun :
    apply ⟨0, ⟨0, 0⟩⟩ (.array staleRun) (Labelling.inDays 0).transform =
      .ok (.array [.object [("TS", .int 0), ("date", .string "Today")],
        .object [("TS", .int 0), ("date", .string "Yesterday")]]) := rfl

/-- The conclusion for a record with another label that is not overwritten. -/
theorem fresh_labels_iff_staleRun :
    ∃ results, apply ⟨0, ⟨0, 0⟩⟩ (.array staleRun) (Labelling.inDays 0).transform =
        .ok (.array results) ∧
      ((∀ record ∈ results, HasNoOtherLabel ⟨0, ⟨0, 0⟩⟩ (.inDays 0) record) ↔
        Throughout ⟨0, ⟨0, 0⟩⟩ (fun earlier event => GoesOn ⟨0, ⟨0, 0⟩⟩ (.inDays 0) earlier event →
          HasNoOtherLabel ⟨0, ⟨0, 0⟩⟩ (.inDays 0) event) staleRun) ∧
      (Throughout ⟨0, ⟨0, 0⟩⟩ (LabelledOnce ⟨0, ⟨0, 0⟩⟩ (.inDays 0)) results ↔
        Throughout ⟨0, ⟨0, 0⟩⟩ (fun earlier event => GoesOn ⟨0, ⟨0, 0⟩⟩ (.inDays 0) earlier event →
          event.field? "date" = none) staleRun) :=
  ⟨_, apply_staleRun, fresh_labels_iff apply_staleRun⟩

/-- A record may be left with a label that is not the one of its date. -/
theorem not_forall_hasNoOtherLabel :
    ¬∀ (frame : TimeFrame) (labelling : Labelling) (events results : List Json),
      apply frame (.array events) labelling.transform = .ok (.array results) →
      ∀ record ∈ results, HasNoOtherLabel frame labelling record := by
  intro noOther
  have noOtherHere := noOther _ _ _ _ apply_staleRun
    (.object [("TS", .int 0), ("date", .string "Yesterday")]) (by simp) ⟨0, 0⟩ rfl _ rfl
  have own : (Labelling.inDays 0).label? ⟨0, ⟨0, 0⟩⟩ ⟨0, 0⟩ = some "Today" := rfl
  simp [own] at noOtherHere

end PageContext.Transform
