import Mathlib.Data.List.Forall2
import Mathlib.Data.List.Perm.Subperm
import PageContext.Proofs.Success
import PageContext.Proofs.Transform.Grouping
import PageContext.Transform.Chain

/-!
# Where records come from

Projections aside, each record of a result is a record of the input.  It may have moved to another
place, and a transform that dates or completes records writes some fields into it: a field that was
there keeps its place, and a new one comes behind all others.
-/

namespace PageContext.Transform

/-! ## Written fields -/

/-- Entries in which some fields are written, each in its place or behind all others. -/
structure Writes (fields : List String) (before after : List (String × Json)) : Prop where
  keys : ∃ new, Entries.keys after = Entries.keys before ++ new ∧
    ∀ key ∈ new, key ∉ Entries.keys before
  others : ∀ key ∉ fields, Entries.get? key after = Entries.get? key before

/-- A record in which some fields are written; any other value stays as it is. -/
inductive Written (fields : List String) : Json → Json → Prop where
  | record {before after : List (String × Json)} (writes : Writes fields before after) :
      Written fields (.object before) (.object after)
  | same (value : Json) : Written fields value value

section

variable {fields : List String} {before after : List (String × Json)}

theorem Writes.refl (fields : List String) (entries : List (String × Json)) :
    Writes fields entries entries where
  keys := ⟨[], (List.append_nil _).symm, nofun⟩
  others := fun _ _ => rfl

theorem Writes.insert (writes : Writes fields before after) {key : String} (isField : key ∈ fields)
    (value : Json) : Writes fields before (Entries.insert key value after) where
  keys := by
    rcases writes.keys with ⟨new, isAppended, areNew⟩
    rw [Entries.keys_insert]
    by_cases present : key ∈ Entries.keys after
    · exact ⟨new, by rw [if_pos present, isAppended], areNew⟩
    · refine ⟨new ++ [key], by rw [if_neg present, isAppended, List.append_assoc], ?_⟩
      intro other member
      rcases List.mem_append.mp member with inNew | isKey
      · exact areNew other inNew
      · rw [List.mem_singleton.mp isKey]
        intro inBefore
        exact present (isAppended ▸ List.mem_append_left new inBefore)
  others := by
    intro other noField
    have different : other ≠ key := fun same => noField (same ▸ isField)
    rw [Entries.get?_insert_of_ne different, writes.others other noField]

theorem Writes.writeText (writes : Writes fields before after) {key : String}
    (isField : key ∈ fields) (text : String) : Writes fields before (writeText key text after) :=
  writes.insert isField (.string text)

theorem Writes.writeChanged (writes : Writes fields before after) {key : String}
    (isField : key ∈ fields) (text : String) (previous : Option String) :
    Writes fields before (writeChanged key text previous after) := by
  unfold Transform.writeChanged
  split
  · exact writes
  · exact writes.writeText isField text

theorem Written.writes (written : Written fields (.object before) (.object after)) :
    Writes fields before after := by
  cases written with
  | record writes => exact writes
  | same => exact .refl fields before

theorem Written.forall₂_same (fields : List String) (records : List Json) :
    List.Forall₂ (Written fields) records records :=
  List.forall₂_same.mpr fun record _ => .same record

end

/-! ## Dates -/

/-- The fields that the calendar writes. -/
def calendarFields : List String :=
  ["year", "month", "day", "time"]

theorem writes_writeParts (parts : CalendarParts) (previous : Option CalendarParts)
    (entries : List (String × Json)) :
    Writes calendarFields entries (writeParts parts previous entries) :=
  ((((Writes.refl calendarFields entries).writeChanged (by simp [calendarFields]) _ _).writeChanged
    (by simp [calendarFields]) _ _).writeChanged (by simp [calendarFields]) _ _).writeText
    (by simp [calendarFields]) _

theorem written_decompose (frame : TimeFrame) (previous : Option CalendarParts)
    (events : List Json) :
    List.Forall₂ (Written calendarFields) events (decompose frame previous events) := by
  fun_induction decompose frame previous events with
  | case1 => exact .nil
  | case2 previous entries rest instant isInstant parts hypothesis =>
      exact .cons (.record (writes_writeParts parts previous entries)) hypothesis
  | case3 previous entries rest noInstant hypothesis => exact .cons (.same _) hypothesis
  | case4 previous event rest noObject hypothesis => exact .cons (.same _) hypothesis

theorem written_labelRuns {ε : Type} {frame : TimeFrame} {label : Instant → Except ε String}
    {previous : Option String} {events results : List Json}
    (isResult : labelRuns frame label previous events = .ok results) :
    List.Forall₂ (Written ["date"]) events results := by
  fun_induction labelRuns frame label previous events generalizing results with
  | case1 previous =>
      cases isResult
      exact .nil
  | case2 previous entries rest instant isInstant hypothesis =>
      simp only [Except.bind_eq_ok_iff, Except.pure_eq_ok_iff] at isResult
      rcases isResult with ⟨current, _, following, isFollowing, rfl⟩
      exact .cons (.record ((Writes.refl _ entries).writeChanged (by simp) current previous))
        (hypothesis current isFollowing)
  | case3 previous entries rest noInstant hypothesis =>
      rcases Except.map_eq_ok_iff.mp isResult with ⟨following, isFollowing, rfl⟩
      exact .cons (.same _) (hypothesis isFollowing)
  | case4 previous event rest noObject hypothesis =>
      rcases Except.map_eq_ok_iff.mp isResult with ⟨following, isFollowing, rfl⟩
      exact .cons (.same _) (hypothesis isFollowing)

theorem written_withArticleDate (frame : TimeFrame) (rule : ArticleDateRule) (record : Json) :
    Written [rule.shortDateField, rule.fullDateField] record
      (withArticleDate frame rule record) := by
  unfold withArticleDate
  split
  · next entries =>
    split
    · exact .record (((Writes.refl _ entries).writeText (by simp) _).writeText (by simp) _)
    · exact .same _
  · exact .same _

/-! ## Images -/

theorem Written.addImage {fields : List String} {source record : Json}
    (written : Written fields source record) {field : String} (isField : field ∈ fields) :
    Written fields source (addImage record field) := by
  unfold Transform.addImage
  split
  · next entries =>
    split
    · exact written
    · split
      · next value _ =>
        cases written with
        | record writes => exact .record (writes.insert isField value)
        | same => exact .record ((Writes.refl fields entries).insert isField value)
      · exact written
  · exact written

theorem written_withImages (fields : List String) (record : Json) :
    Written fields record (withImages fields record) := by
  have each : ∀ (some : List String) (result : Json), some ⊆ fields →
      Written fields record result → Written fields record (some.foldl addImage result) := by
    intro some
    induction some with
    | nil => exact fun result _ written => written
    | cons field rest hypothesis =>
        intro result areFields written
        rcases List.cons_subset.mp areFields with ⟨isField, restAreFields⟩
        exact hypothesis _ restAreFields (written.addImage isField)
  exact each fields record (List.Subset.refl fields) (.same record)

/-! ## Headings -/

/-- The record among headings, if it is one. -/
def Headed.record? : Headed → Option Json
  | .heading _ => none
  | .record value => some value

theorem filterMap_record?_withHeadings {frame : TimeFrame} {rule : HeadingRule}
    {current : YearMonth} {lastYear : Option Int} {lastMonth : Option YearMonth}
    {records : List Json} {headed : List Headed}
    (isHeaded : withHeadings frame rule current lastYear lastMonth records = some headed) :
    headed.filterMap Headed.record? = records := by
  fun_induction withHeadings frame rule current lastYear lastMonth records generalizing headed with
  | case1 lastYear lastMonth =>
      cases isHeaded
      rfl
  | case2 lastYear lastMonth record rest noInstant hypothesis =>
      simp only [Option.bind_eq_bind, Option.bind_eq_some_iff, Option.pure_def,
        Option.some.injEq] at isHeaded
      rcases isHeaded with ⟨following, isFollowing, rfl⟩
      simp [Headed.record?, hypothesis isFollowing]
  | case3 lastYear lastMonth record rest instant isInstant hypothesis =>
      simp only [Option.bind_eq_bind, Option.bind_eq_some_iff, Option.pure_def,
        Option.some.injEq] at isHeaded
      rcases isHeaded with ⟨yearMonth, _, following, isFollowing, rfl⟩
      have noRecord : Headed.record? ∘ Headed.heading = fun _ => none := rfl
      simp [Headed.record?, noRecord, hypothesis yearMonth isFollowing]

/-! ## Selections -/

theorem survivors_sublist (earlier candidates : List Candidate) :
    (survivors earlier candidates).Sublist candidates := by
  induction candidates generalizing earlier with
  | nil => exact .slnil
  | cons current later hypothesis =>
      rw [survivors]
      split
      · exact (hypothesis _).cons current
      · exact (hypothesis _).cons_cons current

theorem withoutDuplicates_sublist (rule : DedupRule) (records : List Json) :
    (withoutDuplicates rule records).Sublist records := by
  have isSublist := (survivors_sublist [] (records.map (candidate rule))).map Candidate.record
  have unchanged : Candidate.record ∘ candidate rule = id := rfl
  rwa [List.map_map, unchanged, List.map_id] at isSublist

/-! ## Records of results -/

/-- Two arrays with related items. -/
inductive OnArrays (related : List Json → List Json → Prop) : Json → Json → Prop where
  | array {records results : List Json} (areRelated : related records results) :
      OnArrays related (.array records) (.array results)

/-- Two arrays with the same number of items, or two sole values, that are related one by one. -/
inductive OnEach (kept : Json → Json → Prop) : Json → Json → Prop where
  | items {records results : List Json} (each : List.Forall₂ kept records results) :
      OnEach kept (.array records) (.array results)
  | sole {record result : Json} (noArray : record.items? = none) (isKept : kept record result) :
      OnEach kept record result

/-- The first item of an array, or a sole value, or else a default. -/
inductive OnFirst (kept : Json → Json → Prop) (default : Json) : Json → Json → Prop where
  | item {record result : Json} {rest : List Json} (isKept : kept record result) :
      OnFirst kept default (.array (record :: rest)) result
  | sole {record result : Json} (noArray : record.items? = none) (isKept : kept record result) :
      OnFirst kept default record result
  | default {input : Json} : OnFirst kept default input default

/-- Each result is related to a record of a list, and no two results to the same one. -/
def Selects (kept : Json → Json → Prop) (records results : List Json) : Prop :=
  ∃ sources : List Json, sources.Subperm records ∧ List.Forall₂ kept sources results

/-- Each record of a result is related to the record of the input from which it comes, and so is
each record in a group; the relation is given the fields that the transform may write or remove.
Projections make new records, of which nothing is said. -/
def Traced (kept : List String → Json → Json → Prop) : Transform → Json → Json → Prop
  | .calendarEvents => OnArrays (List.Forall₂ (kept calendarFields))
  | .timeAgo | .timeAgoInDays _ | .displayDate _ => OnArrays (List.Forall₂ (kept ["date"]))
  | .articleDate rule => OnEach (kept [rule.shortDateField, rule.fullDateField])
  | .groupByDate => OnArrays fun records results => ∃ groups : List Group,
      results = groups.map Group.toJson ∧
        List.Forall₂ (kept ["date"]) records (groups.flatMap Group.items)
  | .addYearMonthHeadings _ => OnArrays fun records results => ∃ headed : List Headed,
      results = headed.map Headed.toJson ∧
        List.Forall₂ (kept []) records (headed.filterMap Headed.record?)
  | .limit _ | .removeDuplicates _ | .sort _ => OnArrays (Selects (kept []))
  | .removeDuplicatesFromGroups _ | .sortEachGroup _ => OnArrays (List.Forall₂ fun group result =>
      kept ["items"] group result ∧ RevisesItems (Selects (kept [])) group result)
  | .project _ => fun _ _ => True
  | .firstItem default => OnFirst (kept []) default
  | .normalizeImages fields => OnEach (kept fields)

theorem arrayFor_eq_ok_iff {action : String} {input : Json} {records : List Json} :
    arrayFor action input = .ok records ↔ input = .array records := by
  cases input <;> simp [arrayFor]

theorem labelled_eq_ok_iff {action : String} {frame : TimeFrame}
    {label : Instant → Except (Stop DateError) String} {input output : Json} :
    labelled action frame label input = .ok output ↔
      ∃ events results, input = .array events ∧ labelRuns frame label none events = .ok results ∧
        output = .array results := by
  simp only [labelled, Except.bind_eq_ok_iff, arrayFor_eq_ok_iff, Except.mapError_eq_ok_iff,
    Except.pure_eq_ok_iff]
  constructor
  · rintro ⟨events, isArray, results, areLabelled, rfl⟩
    exact ⟨events, results, isArray, areLabelled, rfl⟩
  · rintro ⟨events, results, isArray, areLabelled, rfl⟩
    exact ⟨events, isArray, results, areLabelled, rfl⟩

theorem exists_of_insertHeadings {frame : TimeFrame} {rule : HeadingRule} {input output : Json}
    (isResult : insertHeadings frame rule input = .ok output) :
    ∃ (records : List Json) (headed : List Headed), input = .array records ∧
      output = .array (headed.map Headed.toJson) ∧
      headed.filterMap Headed.record? = records := by
  simp only [insertHeadings, Except.bind_eq_ok_iff, arrayFor_eq_ok_iff] at isResult
  rcases isResult with ⟨records, isArray, isResult⟩
  split at isResult
  · next headed isHeaded =>
    simp only [Option.bind_eq_bind, Option.bind_eq_some_iff] at isHeaded
    rcases isHeaded with ⟨current, _, isHeaded⟩
    exact ⟨records, headed, isArray, (Except.pure_eq_ok_iff.mp isResult).symm,
      filterMap_record?_withHeadings isHeaded⟩
  · simp at isResult

theorem onArrays_map {related : List Json → List Json → Prop} {action : String}
    {function : List Json → List Json} {input output : Json}
    (isResult : (arrayFor action input).map (fun records => .array (function records)) = .ok output)
    (each : ∀ records, related records (function records)) : OnArrays related input output := by
  rcases Except.map_eq_ok_iff.mp isResult with ⟨records, isArray, rfl⟩
  rw [arrayFor_eq_ok_iff.mp isArray]
  exact .array (each records)

theorem items?_eq_none {value : Json} (noArray : ∀ items, value ≠ .array items) :
    value.items? = none := by
  cases value with
  | array items => exact absurd rfl (noArray items)
  | _ => rfl

theorem onEach_onEach {kept : Json → Json → Prop} {function : Json → Json}
    (each : ∀ record, kept record (function record)) (input : Json) :
    OnEach kept input (onEach function input) := by
  unfold onEach
  split
  · next records =>
    refine .items (List.forall₂_map_right_iff.mpr ?_)
    exact List.forall₂_same.mpr fun record _ => each record
  · next noArray => exact .sole (items?_eq_none noArray) (each input)

theorem RevisesItems.written {revises : List Json → List Json → Prop} {group result : Json}
    (revised : RevisesItems revises group result) : Written ["items"] group result := by
  cases revised with
  | @items before after items results first _ _ =>
      rw [← Entries.insert_append first (.array items) (.array results) after]
      exact .record ((Writes.refl _ _).insert (by simp) _)
  | noItems => exact .same group

section

variable {kept : List String → Json → Json → Prop}
  (keeps : ∀ {fields source result}, Written fields source result → kept fields source result)
include keeps

theorem selects_of_subperm {records results : List Json} (subperm : results.Subperm records) :
    Selects (kept []) records results :=
  ⟨results, subperm, (Written.forall₂_same [] results).imp fun _ _ => keeps⟩

theorem onFirst_firstOr (default input : Json) :
    OnFirst (kept []) default input (firstOr default input) := by
  unfold firstOr
  split
  · next records =>
    cases records with
    | nil => exact .default
    | cons record rest =>
        by_cases truthy : record.isTruthy
        · simpa [Option.filter, truthy] using .item (keeps (.same record))
        · simpa [Option.filter, truthy] using .default
  · next noArray =>
    have noItems := items?_eq_none noArray
    by_cases truthy : input.isTruthy
    · simpa [Option.filter, truthy] using .sole noItems (keeps (.same input))
    · simpa [Option.filter, truthy] using .default

theorem onArrays_onItemsOfGroups {action : String} {function : List Json → List Json}
    (subperm : ∀ items, (function items).Subperm items) {input output : Json}
    (isResult : onItemsOfGroups action function input = .ok output) :
    OnArrays (List.Forall₂ fun group result =>
      kept ["items"] group result ∧ RevisesItems (Selects (kept [])) group result)
      input output := by
  refine onArrays_map isResult fun groups => ?_
  rw [List.forall₂_map_right_iff, List.forall₂_same]
  intro group _
  have revised := revisesItems_onItems function group
  refine ⟨keeps revised.written, revised.imp fun items results isRevised => ?_⟩
  exact selects_of_subperm keeps (isRevised ▸ subperm items)

/-- Records of the input are related to those of the result if records are that stay as they are or
have fields written. -/
theorem traced_apply {frame : TimeFrame} {transform : Transform} {input output : Json}
    (isResult : apply frame input transform = .ok output) (ungrouped : transform ≠ .groupByDate) :
    Traced kept transform input output := by
  have labels : ∀ {action label}, labelled action frame label input = .ok output →
      OnArrays (List.Forall₂ (kept ["date"])) input output := by
    intro action label isLabelled
    rcases labelled_eq_ok_iff.mp isLabelled with ⟨events, results, rfl, areLabelled, rfl⟩
    exact .array ((written_labelRuns areLabelled).imp fun _ _ => keeps)
  cases transform with
  | calendarEvents =>
      exact onArrays_map isResult fun events =>
        (written_decompose frame none events).imp fun _ _ => keeps
  | timeAgo => exact labels isResult
  | timeAgoInDays hoursOffset => exact labels isResult
  | displayDate style => exact labels isResult
  | articleDate rule =>
      cases isResult
      exact onEach_onEach (fun record => keeps (written_withArticleDate frame rule record)) input
  | groupByDate => exact absurd rfl ungrouped
  | addYearMonthHeadings rule =>
      rcases exists_of_insertHeadings isResult with ⟨records, headed, rfl, rfl, areRecords⟩
      refine .array ⟨headed, rfl, ?_⟩
      rw [areRecords]
      exact (Written.forall₂_same [] records).imp fun _ _ => keeps
  | limit size =>
      exact onArrays_map isResult fun records =>
        selects_of_subperm keeps (List.take_sublist size records).subperm
  | removeDuplicates rule =>
      exact onArrays_map isResult fun records =>
        selects_of_subperm keeps (withoutDuplicates_sublist rule records).subperm
  | removeDuplicatesFromGroups rule =>
      exact onArrays_onItemsOfGroups keeps
        (fun items => (withoutDuplicates_sublist rule items).subperm) isResult
  | sort rule =>
      exact onArrays_map isResult fun records =>
        selects_of_subperm keeps (List.mergeSort_perm records _).subperm
  | sortEachGroup rule =>
      exact onArrays_onItemsOfGroups keeps
        (fun items => (List.mergeSort_perm items _).subperm) isResult
  | project projection => trivial
  | firstItem default =>
      cases isResult
      exact onFirst_firstOr keeps default input
  | normalizeImages fields =>
      cases isResult
      exact onEach_onEach (fun record => keeps (written_withImages fields record)) input

end

end PageContext.Transform
