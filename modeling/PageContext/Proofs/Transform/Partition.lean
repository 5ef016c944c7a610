import PageContext.Proofs.Transform.FieldOrder

/-!
# Groups as a partition

Grouping cuts a list of events in front of each event with a label.  Each part becomes a group: its
first event gives the group its label and loses it, and nothing else changes.  Only events in front
of the first label are in a group without one.
-/

namespace PageContext.Transform

/-- The label of an event: a truthy value under `date`. -/
def label? (event : Json) : Option Json :=
  (event.field? "date").filter Json.isTruthy

/-- An event without its label, the order of the other fields aside. -/
inductive LosesLabel : Json → Json → Prop where
  | labelled {entries rest : List (String × Json)} {label : Json}
      (isLabel : label? (.object entries) = some label)
      (taken : entries.Perm (("date", label) :: rest)) :
      LosesLabel (.object entries) (.object rest)
  | unlabelled {event : Json} (noLabel : label? event = none) : LosesLabel event event

/-- Consecutive events that become a group: a labelled one and those behind it up to the next label,
or those in front of the first label. -/
inductive Gathers : List Json → Group → Prop where
  | labelled {first : Json} {rest items : List Json} {label : Json}
      (isLabel : label? first = some label) (unlabelled : ∀ event ∈ rest, label? event = none)
      (areItems : List.Forall₂ LosesLabel (first :: rest) items) :
      Gathers (first :: rest) ⟨label, items⟩
  | leading {events : List Json} (nonempty : events ≠ [])
      (unlabelled : ∀ event ∈ events, label? event = none) : Gathers events ⟨.null, events⟩

/-- The first event, if there is one, has no label. -/
def StartsUnlabelled (events : List Json) : Prop :=
  ∃ event ∈ events.head?, label? event = none

instance (events : List Json) : Decidable (StartsUnlabelled events) :=
  inferInstanceAs (Decidable (∃ event ∈ events.head?, label? event = none))

/-- Groups that hold all events, in their order and each in one of them. -/
structure ArePartition (events : List Json) (groups : List Group) : Prop where
  parts : ∃ parts : List (List Json), parts.flatten = events ∧ List.Forall₂ Gathers parts groups
  items : List.Forall₂ LosesLabel events (groups.flatMap Group.items)
  nonempty : ∀ group ∈ groups, group.items ≠ []
  labelledTail : ∀ group ∈ groups.tail, group.label ≠ .null
  unlabelledHead : (∃ group ∈ groups.head?, group.label = .null) ↔ StartsUnlabelled events
  length : groups.length =
    (events.filterMap label?).length + if StartsUnlabelled events then 1 else 0

/-! ## One event -/

theorem label?_isTruthy {event label : Json} (isLabel : label? event = some label) :
    label.isTruthy = true :=
  (Option.filter_eq_some_iff.mp isLabel).2

theorem label?_of_label {before after : List (String × Json)} {label : Json}
    (first : "date" ∉ Entries.keys before) (truthy : label.isTruthy) :
    label? (.object (before ++ ("date", label) :: after)) = some label := by
  have isLabel : Entries.get? "date" (before ++ ("date", label) :: after) = some label := by
    simp [Entries.get?_append, (Entries.get?_eq_none_iff _ _).mpr first, Entries.get?]
  simp [label?, Json.field?, isLabel, Option.filter, truthy]

theorem takeLabel_fst (event : Json) : (takeLabel event).1 = label? event := by
  cases event with
  | object entries =>
      cases isLabel : Entries.get? "date" entries with
      | none => simp [takeLabel, label?, Json.field?, isLabel]
      | some label =>
          by_cases truthy : label.isTruthy = true
          · simp [takeLabel, label?, Json.field?, isLabel, truthy, Option.filter]
          · simp [takeLabel, label?, Json.field?, isLabel, truthy, Option.filter]
  | _ => rfl

theorem losesLabel_takeLabel (event : Json) : LosesLabel event (takeLabel event).2 := by
  rcases takeLabel_eq_or_exists event with unlabelled | ⟨before, label, after, rfl, first, truthy⟩
  · have noLabel : label? event = none := by
      rw [← takeLabel_fst, unlabelled]
    rw [unlabelled]
    exact .unlabelled noLabel
  · rw [takeLabel_of_label first truthy]
    apply LosesLabel.labelled (label?_of_label first truthy)
    calc (before ++ ("date", label) :: after).Perm (("date", label) :: (before ++ after)) :=
          List.perm_middle
      _ |>.Perm (("date", label) :: (before ++ (after.getLast?.toList ++ after.dropLast))) :=
          removed_perm.symm.cons _

/-! ## All events -/

theorem takeLabel_of_unlabelled {event : Json} (noLabel : label? event = none) :
    takeLabel event = (none, event) := by
  rcases takeLabel_eq_or_exists event with unlabelled | ⟨before, label, after, rfl, first, truthy⟩
  · exact unlabelled
  · rw [label?_of_label first truthy] at noLabel
    contradiction

theorem forall₂_losesLabel_same {events : List Json}
    (unlabelled : ∀ event ∈ events, label? event = none) :
    List.Forall₂ LosesLabel events events := by
  apply List.forall₂_same.mpr
  intro event member
  exact .unlabelled (unlabelled event member)

/-- Each label opens a group of its event and the unlabelled ones behind it. -/
theorem exists_parts_openGroups (events : List Json) :
    (∀ event ∈ (openGroups events).1, label? event = none) ∧
      ∃ parts : List (List Json), (openGroups events).1 ++ parts.flatten = events ∧
        List.Forall₂ Gathers parts (openGroups events).2 := by
  induction events with
  | nil => exact ⟨by simp [openGroups], [], rfl, .nil⟩
  | cons event rest hypothesis =>
      rcases hypothesis with ⟨unlabelled, parts, joined, gathered⟩
      cases isLabel : label? event with
      | none =>
          have opened : openGroups (event :: rest) =
              (event :: (openGroups rest).1, (openGroups rest).2) := by
            simp [openGroups, takeLabel_of_unlabelled isLabel]
          rw [opened]
          refine ⟨List.forall_mem_cons.mpr ⟨isLabel, unlabelled⟩, parts, ?_, gathered⟩
          rw [List.cons_append, joined]
      | some label =>
          have taken : takeLabel event = (some label, (takeLabel event).2) := by
            rw [← isLabel, ← takeLabel_fst]
          have opened : openGroups (event :: rest) =
              ([], ⟨label, (takeLabel event).2 :: (openGroups rest).1⟩ :: (openGroups rest).2) := by
            rw [openGroups, taken]
          rw [opened]
          refine ⟨by simp, (event :: (openGroups rest).1) :: parts, ?_, ?_⟩
          · rw [List.nil_append, List.flatten_cons, List.cons_append, joined]
          · apply List.Forall₂.cons _ gathered
            apply Gathers.labelled isLabel unlabelled
            exact .cons (losesLabel_takeLabel event) (forall₂_losesLabel_same unlabelled)

theorem labels_openGroups (events : List Json) :
    (openGroups events).2.map Group.label = events.filterMap label? := by
  induction events with
  | nil => rfl
  | cons event rest hypothesis =>
      have isLabel := takeLabel_fst event
      rcases taken : takeLabel event with ⟨_ | label, record⟩
      · simp [openGroups, taken, hypothesis, ← isLabel]
      · simp [openGroups, taken, hypothesis, ← isLabel]

theorem openGroups_fst_eq_nil_iff (events : List Json) :
    (openGroups events).1 = [] ↔ ¬StartsUnlabelled events := by
  cases events with
  | nil => simp [openGroups, StartsUnlabelled]
  | cons event rest =>
      have isLabel := takeLabel_fst event
      rcases taken : takeLabel event with ⟨_ | label, record⟩
      · simp [openGroups, taken, StartsUnlabelled, ← isLabel]
      · simp [openGroups, taken, StartsUnlabelled, ← isLabel]

/-- The labels of the groups are those of the events, behind null if the first event has none. -/
theorem labels_groups (events : List Json) :
    (groups events).map Group.label =
      (if StartsUnlabelled events then [.null] else []) ++ events.filterMap label? := by
  have noLeading := openGroups_fst_eq_nil_iff events
  rw [← labels_openGroups]
  rcases opened : openGroups events with ⟨_ | ⟨first, leading⟩, following⟩
  · rw [opened] at noLeading
    simp [groups, opened, noLeading.mp rfl]
  · rw [opened] at noLeading
    have unlabelled : StartsUnlabelled events := by
      by_contra labelled
      exact List.cons_ne_nil _ _ (noLeading.mpr labelled)
    simp [groups, opened, unlabelled]

theorem exists_parts_groups (events : List Json) :
    ∃ parts : List (List Json), parts.flatten = events ∧
      List.Forall₂ Gathers parts (groups events) := by
  rcases exists_parts_openGroups events with ⟨unlabelled, parts, joined, gathered⟩
  rcases opened : openGroups events with ⟨_ | ⟨first, leading⟩, following⟩
  · rw [opened] at joined gathered
    refine ⟨parts, by simpa using joined, ?_⟩
    simpa [groups, opened] using gathered
  · rw [opened] at unlabelled joined gathered
    refine ⟨(first :: leading) :: parts, by simpa using joined, ?_⟩
    simpa [groups, opened] using
      List.Forall₂.cons (Gathers.leading (List.cons_ne_nil first leading) unlabelled) gathered

theorem Gathers.items_ne_nil {events : List Json} {group : Group} (gathers : Gathers events group) :
    group.items ≠ [] := by
  cases gathers with
  | labelled isLabel unlabelled areItems =>
      cases areItems
      exact List.cons_ne_nil _ _
  | leading nonempty unlabelled => exact nonempty

theorem Gathers.forall_items_ne_nil {parts : List (List Json)} {groups : List Group}
    (gathered : List.Forall₂ Gathers parts groups) : ∀ group ∈ groups, group.items ≠ [] := by
  induction gathered with
  | nil => simp
  | cons gathers _ hypothesis => exact List.forall_mem_cons.mpr ⟨gathers.items_ne_nil, hypothesis⟩

theorem ne_null_of_mem_labels {events : List Json} {label : Json}
    (member : label ∈ events.filterMap label?) : label ≠ .null := by
  rintro rfl
  rcases List.mem_filterMap.mp member with ⟨event, _, isLabel⟩
  exact absurd (label?_isTruthy isLabel) (by decide)

/-- Behind the first group all labels are those of events. -/
theorem label_ne_null_of_mem_tail {events : List Json} {group : Group}
    (member : group ∈ (groups events).tail) : group.label ≠ .null := by
  have labels := congrArg List.tail (labels_groups events)
  rw [← List.map_tail] at labels
  have isLabel : group.label ∈ (groups events).tail.map Group.label :=
    List.mem_map_of_mem member
  rw [labels] at isLabel
  apply @ne_null_of_mem_labels events
  by_cases unlabelled : StartsUnlabelled events
  · simpa [unlabelled] using isLabel
  · exact List.mem_of_mem_tail (by simpa [unlabelled] using isLabel)

theorem label_eq_null_iff (events : List Json) :
    (∃ group ∈ (groups events).head?, group.label = .null) ↔ StartsUnlabelled events := by
  have labels := congrArg List.head? (labels_groups events)
  have isHead : (∃ group ∈ (groups events).head?, group.label = .null) ↔
      ((groups events).map Group.label).head? = some .null := by
    simp [List.head?_map, Option.map_eq_some_iff]
  rw [isHead, labels]
  by_cases unlabelled : StartsUnlabelled events
  · simp [unlabelled]
  · simp only [unlabelled, if_false, List.nil_append, iff_false]
    intro isNull
    exact ne_null_of_mem_labels (List.mem_of_head? isNull) rfl

theorem arePartition_groups (events : List Json) : ArePartition events (groups events) := by
  rcases exists_parts_groups events with ⟨parts, joined, gathered⟩
  refine ⟨⟨parts, joined, gathered⟩, ?_, Gathers.forall_items_ne_nil gathered, ?_, ?_, ?_⟩
  · rw [groups_items, List.forall₂_map_right_iff, List.forall₂_same]
    intro event _
    exact losesLabel_takeLabel event
  · intro group member
    exact label_ne_null_of_mem_tail member
  · exact label_eq_null_iff events
  · have count := congrArg List.length (labels_groups events)
    rw [List.length_map, List.length_append] at count
    rw [count]
    split <;> simp [Nat.add_comm]

/-- Grouping partitions every list of events: groups with their labels and items come out, each of
consecutive events, and the events are in the groups in their order. -/
theorem grouped_partition (frame : TimeFrame) (events : List Json) :
    ∃ groups : List Group,
      apply frame (.array events) .groupByDate = .ok (.array (groups.map Group.toJson)) ∧
        ArePartition events groups :=
  ⟨groups events, rfl, arePartition_groups events⟩

end PageContext.Transform
