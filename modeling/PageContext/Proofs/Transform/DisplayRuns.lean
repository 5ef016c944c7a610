import PageContext.Proofs.Transform.LabelRuns

/-!
# Runs of days

Where display dates show their years, a label stands for one day.  The runs that they cut a list of
records into are the runs of its days: no two days are in one run, and no day is in two runs that
follow each other.
-/

namespace PageContext.Transform

section

variable {κ ι : Type} {frame : TimeFrame} {label? : Instant → Option String} {key : Instant → κ}
  {other : Instant → ι} {earlier : Option Instant} {events results : List Json}

theorem mem_of_lastDated? {instant : Instant} {index : Nat}
    (isLast : lastDated? frame (events.take index) = some instant) :
    instant ∈ events.filterMap (datedAt? frame) := by
  have inFront := List.mem_of_getLast? isLast
  have isSublist := (List.take_sublist index events).filterMap (datedAt? frame)
  exact isSublist.subset inFront

/-- Runs by one key are runs by another one that tells the same instants apart. -/
theorem AreRuns.of_key (runs : AreRuns frame label? key none events results)
    (tellsSame : ∀ first ∈ events.filterMap (datedAt? frame),
      ∀ second ∈ events.filterMap (datedAt? frame),
        (key first = key second ↔ other first = other second)) :
    AreRuns frame label? other none events results where
  length := runs.length
  each := by
    intro index event result isEvent isResult
    have relabels := runs.each index event result isEvent isResult
    rw [Option.or_none] at relabels ⊢
    have sameKey : ∀ instant, datedAt? frame event = some instant →
        ((lastDated? frame (events.take index)).map key = some (key instant) ↔
          (lastDated? frame (events.take index)).map other = some (other instant)) := by
      intro instant isDate
      cases isLast : lastDated? frame (events.take index) with
      | none => simp
      | some last =>
          have inEvents : instant ∈ events.filterMap (datedAt? frame) :=
            List.mem_filterMap.mpr ⟨event, List.mem_of_getElem? isEvent, isDate⟩
          simpa using tellsSame last (mem_of_lastDated? isLast) instant inEvents
    cases relabels with
    | undated noDate => exact .undated noDate
    | begins isDate isLabel isNew => exact .begins isDate isLabel (mt (sameKey _ isDate).mpr isNew)
    | continues isDate isOld => exact .continues isDate ((sameKey _ isDate).mp isOld)

end

/-- Where years are shown, the texts of two display dates are the same exactly if their days are,
and so the labels that display dates write open the runs of days. -/
theorem display_labels_tell_days {frame : TimeFrame} {style : DisplayStyle}
    (showsYears : style.year ≠ .never) :
    (∀ (first second : Instant) (firstText secondText : String),
      frame.displayDate? first style = some firstText →
      frame.displayDate? second style = some secondText →
      (firstText = secondText ↔
        frame.dateAfter? first style.hoursOffset = frame.dateAfter? second style.hoursOffset)) ∧
    ∀ events results : List Json,
      apply frame (.array events) (.displayDate style) = .ok (.array results) →
      AreRuns frame (fun instant => frame.displayDate? instant style)
        (fun instant => frame.dateAfter? instant style.hoursOffset) none events results := by
  constructor
  · intro first second firstText secondText isFirst isSecond
    exact TimeFrame.text_eq_iff_dateAfter?_eq showsYears isFirst isSecond
  · intro events results isResult
    have isLabelled : labelRuns frame (Labelling.label frame (.byDate style)) none events =
        .ok results := apply_eq_ok_iff.mp isResult
    have exists_text : ∀ instant ∈ events.filterMap (datedAt? frame),
        ∃ text, frame.displayDate? instant style = some text := by
      intro instant isDated
      rcases exists_label_of_labelRuns isLabelled isDated with ⟨text, isText⟩
      exact ⟨text, Except.toOption_eq_some_iff.mpr isText⟩
    have areRuns : AreRuns frame (Labelling.label? frame (.byDate style))
        (Labelling.label? frame (.byDate style)) none events results := areRuns_of_apply isResult
    apply AreRuns.of_key areRuns
    intro first isFirst second isSecond
    rcases exists_text first isFirst with ⟨firstText, isFirstText⟩
    rcases exists_text second isSecond with ⟨secondText, isSecondText⟩
    rw [show Labelling.label? frame (.byDate style) first = some firstText from isFirstText,
      show Labelling.label? frame (.byDate style) second = some secondText from isSecondText,
      Option.some.injEq]
    exact TimeFrame.text_eq_iff_dateAfter?_eq showsYears isFirstText isSecondText

/-- The conclusion for one day of two years, and for two records in the first of them. -/
theorem display_labels_tell_days_of_years :
    let frame : TimeFrame := ⟨0, ⟨1609459200, 0⟩⟩
    let style : DisplayStyle := { shortMonth := true }
    let events : List Json := [.object [("TS", .int 1593432000000)],
      .object [("TS", .int 1593435600000)]]
    style.year ≠ .never ∧
      frame.displayDate? ⟨1593432000, 0⟩ style = some "Jun 29, 2020" ∧
      frame.displayDate? ⟨1624968000, 0⟩ style = some "Jun 29" ∧
      ("Jun 29, 2020" = "Jun 29" ↔
        frame.dateAfter? ⟨1593432000, 0⟩ 0 = frame.dateAfter? ⟨1624968000, 0⟩ 0) ∧
      ∃ results, apply frame (.array events) (.displayDate style) = .ok (.array results) ∧
        AreRuns frame (fun instant => frame.displayDate? instant style)
          (fun instant => frame.dateAfter? instant 0) none events results := by
  intro frame style events
  have showsYears : style.year ≠ .never := by decide
  have isFirst : frame.displayDate? ⟨1593432000, 0⟩ style = some "Jun 29, 2020" := by decide
  have isSecond : frame.displayDate? ⟨1624968000, 0⟩ style = some "Jun 29" := by decide
  have isNext : frame.displayDate? ⟨1593435600, 0⟩ style = some "Jun 29, 2020" := by decide
  have firstDate : labelledInstant? frame [("TS", .int 1593432000000)] = some ⟨1593432000, 0⟩ := rfl
  have nextDate : labelledInstant? frame [("TS", .int 1593435600000)] = some ⟨1593435600, 0⟩ := rfl
  have areLabelled : labelRuns frame (fun instant => frame.displayDate instant style) none events =
      .ok [.object [("TS", .int 1593432000000), ("date", .string "Jun 29, 2020")],
        .object [("TS", .int 1593435600000)]] := by
    simp [events, labelRuns, firstDate, nextDate, Except.toOption_eq_some_iff.mp isFirst,
      Except.toOption_eq_some_iff.mp isNext, writeChanged, writeText, Entries.insert, bind,
      Except.bind, pure, Except.pure]
  have isResult : apply frame (.array events) (.displayDate style) = .ok (.array _) :=
    labelled_eq_ok_iff.mpr ⟨events, _, rfl, areLabelled, rfl⟩
  exact ⟨showsYears, isFirst, isSecond,
    (display_labels_tell_days showsYears).1 _ _ _ _ isFirst isSecond, _, isResult,
    (display_labels_tell_days showsYears).2 _ _ isResult⟩

end PageContext.Transform
