import PageContext.Proofs.Calendar.DisplayDates
import PageContext.Proofs.Calendar.Instants
import PageContext.Proofs.Transform.Provenance

/-!
# Runs of labels

Three transforms label records.  Each of them goes through the elements of an array, and an element
with a date gets its label unless the element with a date before it has the same one.  Elements
without a date stay as they are and do not end a run.
-/

namespace PageContext.Transform

/-- The ways of labelling records: by their distance from now in words or in days, or by a display
date. -/
inductive Labelling where
  | inWords
  | inDays (hoursOffset : Int)
  | byDate (style : DisplayStyle)
deriving DecidableEq, Repr

namespace Labelling

def transform : Labelling → Transform
  | inWords => .timeAgo
  | inDays hoursOffset => .timeAgoInDays hoursOffset
  | byDate style => .displayDate style

def label (frame : TimeFrame) : Labelling → Instant → Except (Stop DateError) String
  | inWords, instant => .ok (frame.timeAgo instant)
  | inDays hoursOffset, instant => frame.timeAgoInDays instant hoursOffset
  | byDate style, instant => frame.displayDate instant style

def label? (frame : TimeFrame) (labelling : Labelling) (instant : Instant) : Option String :=
  (labelling.label frame instant).toOption

/-- The hours by which now and all dates are moved; a distance in words is not moved. -/
def hoursOffset? : Labelling → Option Int
  | inWords => none
  | inDays hoursOffset => some hoursOffset
  | byDate style => some style.hoursOffset

theorem label_eq_error_iff {frame : TimeFrame} {labelling : Labelling} {instant : Instant}
    {stop : Stop DateError} :
    labelling.label frame instant = .error stop ↔
      ∃ hours ∈ labelling.hoursOffset?, frame.LacksDistance hours instant stop := by
  cases labelling with
  | inWords => simp [label, hoursOffset?]
  | inDays hoursOffset =>
      simp [label, hoursOffset?, TimeFrame.timeAgoInDays, TimeFrame.daysAgo_eq_error_iff]
  | byDate style => simp [label, hoursOffset?, TimeFrame.displayDate_eq_error_iff]

theorem apply_eq (frame : TimeFrame) (labelling : Labelling) (input : Json) :
    apply frame input labelling.transform =
      labelled labelling.transform.name frame (labelling.label frame) input := by
  cases labelling <;> rfl

end Labelling

/-! ## Dated elements -/

/-- The instant of an element with a date: of an object with a moment under `TS`. -/
def datedAt? (frame : TimeFrame) (event : Json) : Option Instant :=
  (event.field? "TS").bind frame.instant?

/-- The instant of the last element with a date. -/
def lastDated? (frame : TimeFrame) (events : List Json) : Option Instant :=
  (events.filterMap (datedAt? frame)).getLast?

theorem datedAt?_of_not_object (frame : TimeFrame) {event : Json}
    (noObject : ∀ entries, event ≠ .object entries) : datedAt? frame event = none := by
  cases event with
  | object entries => exact absurd rfl (noObject entries)
  | _ => rfl

theorem getLast?_filterMap_cons {α β : Type*} (choose : α → Option β) (first : α) (rest : List α) :
    ((first :: rest).filterMap choose).getLast? =
      ((rest.filterMap choose).getLast?).or (choose first) := by
  rw [List.filterMap_cons]
  cases choose first with
  | none => simp
  | some value =>
      rw [List.getLast?_cons]
      cases (rest.filterMap choose).getLast? <;> rfl

theorem lastDated?_cons (frame : TimeFrame) (event : Json) (rest : List Json) :
    lastDated? frame (event :: rest) = (lastDated? frame rest).or (datedAt? frame event) :=
  getLast?_filterMap_cons (datedAt? frame) event rest

section

variable {κ : Type} (frame : TimeFrame) (label? : Instant → Option String) (key : Instant → κ)

/-- What becomes of an element behind an element with a date, if there is one: it gets its label
where a new key begins, and stays as it is where the key goes on or where it has no date. -/
inductive Relabels (earlier : Option Instant) : Json → Json → Prop where
  | undated {event : Json} (noDate : datedAt? frame event = none) : Relabels earlier event event
  | begins {entries : List (String × Json)} {instant : Instant} {text : String}
      (isDate : datedAt? frame (.object entries) = some instant)
      (isLabel : label? instant = some text)
      (isNew : earlier.map key ≠ some (key instant)) :
      Relabels earlier (.object entries) (.object (Entries.insert "date" (.string text) entries))
  | continues {event : Json} {instant : Instant} (isDate : datedAt? frame event = some instant)
      (isOld : earlier.map key = some (key instant)) : Relabels earlier event event

/-- Each element is relabelled behind the nearest element with a date before it, or behind an earlier
one if there is none. -/
structure AreRuns (earlier : Option Instant) (events results : List Json) : Prop where
  length : results.length = events.length
  each : ∀ (index : Nat) (event result : Json), events[index]? = some event →
    results[index]? = some result →
    Relabels frame label? key ((lastDated? frame (events.take index)).or earlier) event result

variable {frame label? key} {earlier : Option Instant} {events results : List Json}

theorem AreRuns.nil : AreRuns frame label? key earlier [] [] where
  length := rfl
  each := by simp

theorem AreRuns.cons {event result : Json} (first : Relabels frame label? key earlier event result)
    (rest : AreRuns frame label? key ((datedAt? frame event).or earlier) events results) :
    AreRuns frame label? key earlier (event :: events) (result :: results) where
  length := congrArg (· + 1) rest.length
  each := by
    intro index other otherResult isEvent isResult
    cases index with
    | zero =>
        simp only [List.getElem?_cons_zero, Option.some.injEq] at isEvent isResult
        rw [← isEvent, ← isResult]
        exact first
    | succ index =>
        simp only [List.getElem?_cons_succ] at isEvent isResult
        rw [List.take_succ_cons, lastDated?_cons, Option.or_assoc]
        exact rest.each index other otherResult isEvent isResult

end

/-! ## Elements without a label -/

section

variable {ε : Type}

/-- An element with a date that has no label. -/
def Lacks (frame : TimeFrame) (label : Instant → Except ε String) (event : Json) (stop : ε) : Prop :=
  ∃ instant, datedAt? frame event = some instant ∧ label instant = .error stop

/-- The first element that lacks something, and why it does. -/
inductive FirstLacks (lacks : Json → ε → Prop) : List Json → ε → Prop where
  | here {event : Json} {rest : List Json} {stop : ε} (isLacking : lacks event stop) :
      FirstLacks lacks (event :: rest) stop
  | later {event : Json} {rest : List Json} {stop : ε} (complete : ∀ other, ¬lacks event other)
      (isLacking : FirstLacks lacks rest stop) : FirstLacks lacks (event :: rest) stop

theorem FirstLacks.exists_mem {lacks : Json → ε → Prop} {events : List Json} {stop : ε}
    (first : FirstLacks lacks events stop) : ∃ event ∈ events, lacks event stop := by
  induction first with
  | here isLacking => exact ⟨_, List.mem_cons_self, isLacking⟩
  | later _ _ hypothesis =>
      rcases hypothesis with ⟨event, member, isLacking⟩
      exact ⟨event, List.mem_cons_of_mem _ member, isLacking⟩

theorem exists_firstLacks {lacks : Json → ε → Prop} {events : List Json}
    (some : ∃ event ∈ events, ∃ stop, lacks event stop) : ∃ stop, FirstLacks lacks events stop := by
  induction events with
  | nil => simp at some
  | cons event rest hypothesis =>
      by_cases here : ∃ stop, lacks event stop
      · rcases here with ⟨stop, isLacking⟩
        exact ⟨stop, .here isLacking⟩
      · have below : ∃ other ∈ rest, ∃ stop, lacks other stop := by
          simpa [here] using some
        rcases hypothesis below with ⟨stop, first⟩
        exact ⟨stop, .later (not_exists.mp here) first⟩

variable {frame : TimeFrame} {label : Instant → Except ε String}

theorem lacks_iff {event : Json} {instant : Instant} {stop : ε}
    (isDate : datedAt? frame event = some instant) :
    Lacks frame label event stop ↔ label instant = .error stop := by
  simp [Lacks, isDate]

theorem not_lacks {event : Json} {stop : ε} (noDate : datedAt? frame event = none) :
    ¬Lacks frame label event stop := by
  simp [Lacks, noDate]

theorem firstLacks_cons_iff {lacks : Json → ε → Prop} {event : Json} {rest : List Json} {stop : ε} :
    FirstLacks lacks (event :: rest) stop ↔
      lacks event stop ∨ (∀ other, ¬lacks event other) ∧ FirstLacks lacks rest stop := by
  constructor
  · intro first
    cases first with
    | here isLacking => exact .inl isLacking
    | later complete isLacking => exact .inr ⟨complete, isLacking⟩
  · rintro (isLacking | ⟨complete, isLacking⟩)
    · exact .here isLacking
    · exact .later complete isLacking

theorem labelRuns_eq_error_iff {previous : Option String} {events : List Json} {stop : ε} :
    labelRuns frame label previous events = .error stop ↔
      FirstLacks (Lacks frame label) events stop := by
  fun_induction labelRuns frame label previous events with
  | case1 previous =>
      simp only [reduceCtorEq, false_iff]
      intro lacks
      cases lacks
  | case2 previous entries rest instant isInstant hypothesis =>
      have isDate : datedAt? frame (.object entries) = some instant := isInstant
      simp only [firstLacks_cons_iff, lacks_iff isDate, Except.bind_eq_error_iff,
        Except.pure_ne_error, and_false, exists_false, or_false, hypothesis]
      cases label instant <;> simp
  | case3 previous entries rest noInstant hypothesis =>
      have noDate : datedAt? frame (.object entries) = none := noInstant
      simp [firstLacks_cons_iff, not_lacks noDate, ← hypothesis, Except.map_eq_error_iff]
  | case4 previous event rest noObject hypothesis =>
      have noDate := datedAt?_of_not_object frame noObject
      simp [firstLacks_cons_iff, not_lacks noDate, ← hypothesis, Except.map_eq_error_iff]

theorem exists_label_of_labelRuns {previous : Option String} {events results : List Json}
    {instant : Instant} (isResult : labelRuns frame label previous events = .ok results)
    (isDated : instant ∈ events.filterMap (datedAt? frame)) : ∃ text, label instant = .ok text := by
  rcases List.mem_filterMap.mp isDated with ⟨event, member, isDate⟩
  cases isLabel : label instant with
  | ok text => exact ⟨text, rfl⟩
  | error stop =>
      rcases exists_firstLacks ⟨event, member, stop, (lacks_iff isDate).mpr isLabel⟩ with
        ⟨firstStop, first⟩
      rw [labelRuns_eq_error_iff.mpr first] at isResult
      contradiction

theorem areRuns_labelRuns {earlier : Option Instant} {events results : List Json}
    (isResult : labelRuns frame label
      (earlier.bind fun instant => (label instant).toOption) events = .ok results) :
    AreRuns frame (fun instant => (label instant).toOption)
      (fun instant => (label instant).toOption) earlier events results := by
  -- Behind an element with a date its own instant is the earlier one, so `earlier` has to vary.
  generalize isPrevious : (earlier.bind fun instant => (label instant).toOption) = previous
    at isResult
  fun_induction labelRuns frame label previous events generalizing earlier results with
  | case1 previous =>
      cases isResult
      exact .nil
  | case2 previous entries rest instant isInstant hypothesis =>
      simp only [Except.bind_eq_ok_iff, Except.pure_eq_ok_iff] at isResult
      rcases isResult with ⟨current, isLabel, following, isFollowing, rfl⟩
      have isText : (label instant).toOption = some current :=
        Except.toOption_eq_some_iff.mpr isLabel
      have isDate : datedAt? frame (.object entries) = some instant := isInstant
      have goesOn : (earlier.map fun instant => (label instant).toOption) =
          some (label instant).toOption ↔ previous = some current := by
        rw [← isPrevious, isText]
        cases earlier <;> simp
      apply AreRuns.cons
      · rw [writeChanged]
        split
        · next isOld => exact .continues isDate (goesOn.mpr isOld)
        · next isNew => exact .begins isDate isText (mt goesOn.mp isNew)
      · apply hypothesis current _ isFollowing
        simp [isDate, isText]
  | case3 previous entries rest noInstant hypothesis =>
      rcases Except.map_eq_ok_iff.mp isResult with ⟨following, isFollowing, rfl⟩
      have noDate : datedAt? frame (.object entries) = none := noInstant
      apply AreRuns.cons (.undated noDate)
      apply hypothesis _ isFollowing
      simp [noDate, isPrevious]
  | case4 previous event rest noObject hypothesis =>
      rcases Except.map_eq_ok_iff.mp isResult with ⟨following, isFollowing, rfl⟩
      have noDate := datedAt?_of_not_object frame noObject
      apply AreRuns.cons (.undated noDate)
      apply hypothesis _ isFollowing
      simp [noDate, isPrevious]

end

section

variable {frame : TimeFrame} {labelling : Labelling} {events : List Json}

theorem apply_eq_ok_iff {results : List Json} :
    apply frame (.array events) labelling.transform = .ok (.array results) ↔
      labelRuns frame (labelling.label frame) none events = .ok results := by
  rw [labelling.apply_eq, labelled_eq_ok_iff]
  constructor
  · rintro ⟨_, _, isArray, isResult, isResults⟩
    cases isArray
    cases isResults
    exact isResult
  · intro isResult
    exact ⟨events, results, rfl, isResult, rfl⟩

theorem dateStop_injective (action : String) : Function.Injective (dateStop action) := by
  intro first second same
  cases first <;> cases second <;> simp_all [dateStop, outOfRange]

theorem apply_eq_error_iff {stop : Stop DateError} :
    apply frame (.array events) labelling.transform =
        .error (dateStop labelling.transform.name stop) ↔
      labelRuns frame (labelling.label frame) none events = .error stop := by
  rw [labelling.apply_eq]
  cases isResult : labelRuns frame (labelling.label frame) none events <;>
    simp [labelled, arrayFor, isResult, bind, Except.bind, pure, Except.pure,
      (dateStop_injective _).eq_iff]

theorem areRuns_of_apply {results : List Json}
    (isResult : apply frame (.array events) labelling.transform = .ok (.array results)) :
    AreRuns frame (labelling.label? frame) (labelling.label? frame) none events results :=
  areRuns_labelRuns (apply_eq_ok_iff.mp isResult)

end

/-- An element with a date that has no label because the distance of its date, moved by the hours
offset as now is, cannot be told. -/
def LacksLabel (frame : TimeFrame) (labelling : Labelling) (event : Json)
    (stop : Stop DateError) : Prop :=
  ∃ instant, datedAt? frame event = some instant ∧
    ∃ hours ∈ labelling.hoursOffset?, frame.LacksDistance hours instant stop

/-- Labelling stops exactly at the first element with a date that has no label.  It fails if the
hours offset moves this date or now out of the representable range, and crashes if it does not and
the local date is beyond the dates that can be counted; neither ever happens to distances in words.
Otherwise each element with a date gets its label unless the nearest one before has the same label,
and all other elements stay as they are. -/
theorem labels_each_run (frame : TimeFrame) (labelling : Labelling) (events : List Json) :
    (apply frame (.array events) labelling.transform =
        .error (outOfRange labelling.transform.name) ↔
      FirstLacks (LacksLabel frame labelling) events (.failure .outOfRange)) ∧
    (apply frame (.array events) labelling.transform = .error .crash ↔
      FirstLacks (LacksLabel frame labelling) events .crash) ∧
    (∀ event stop, ¬LacksLabel frame .inWords event stop) ∧
    ((∃ stop, FirstLacks (LacksLabel frame labelling) events stop) ∨
      ∃ results, apply frame (.array events) labelling.transform = .ok (.array results) ∧
        AreRuns frame (labelling.label? frame) (labelling.label? frame) none events results) := by
  have lacksLabel : LacksLabel frame labelling = Lacks frame (labelling.label frame) := by
    funext event stop
    simp only [LacksLabel, Lacks, Labelling.label_eq_error_iff]
  have stops : ∀ stop, apply frame (.array events) labelling.transform =
      .error (dateStop labelling.transform.name stop) ↔
        FirstLacks (LacksLabel frame labelling) events stop := by
    intro stop
    rw [apply_eq_error_iff, labelRuns_eq_error_iff, lacksLabel]
  have wordsNeverLack : ∀ event stop, ¬LacksLabel frame .inWords event stop := by
    simp [LacksLabel, Labelling.hoursOffset?]
  refine ⟨stops (.failure .outOfRange), stops .crash, wordsNeverLack, ?_⟩
  cases isResult : labelRuns frame (labelling.label frame) none events with
  | error stop => exact .inl ⟨stop, (stops stop).mp (apply_eq_error_iff.mpr isResult)⟩
  | ok results => exact .inr ⟨results, apply_eq_ok_iff.mpr isResult, areRuns_labelRuns isResult⟩

/-- A record whose time is the first of all instants. -/
def firstOfAll : List Json :=
  [.object [("TS", .int (-8334601228800000))]]

/-- Labelling need not succeed where no date and not now either is moved out of range. -/
theorem not_forall_labels :
    ¬∀ (frame : TimeFrame) (labelling : Labelling) (events : List Json), frame.IsValid →
      (∀ instant ∈ events.filterMap (datedAt? frame), ∀ hours ∈ labelling.hoursOffset?,
        ¬frame.now.LeavesRange hours ∧ ¬instant.LeavesRange hours) →
      ∃ results, apply frame (.array events) labelling.transform = .ok results := by
  intro succeeds
  have isDate : firstOfAll.filterMap (datedAt? ⟨-21600, ⟨0, 0⟩⟩) = [⟨-8334601228800, 0⟩] := rfl
  rcases succeeds ⟨-21600, ⟨0, 0⟩⟩ (.inDays 0) firstOfAll ⟨by decide, by decide⟩ (by
    simp [isDate, Labelling.hoursOffset?, Instant.LeavesRange, Instant.movedSeconds,
      Instant.leastSeconds, Instant.greatestSeconds]) with ⟨results, isResult⟩
  contradiction

end PageContext.Transform
