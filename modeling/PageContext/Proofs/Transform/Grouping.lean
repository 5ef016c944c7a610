import PageContext.Transform.Groups

/-!
# Records in groups

Grouping puts every record into a group, in the order in which they come, and takes off no more than
their labels.  A transform of the items of groups leaves all else in a group as it is.
-/

namespace PageContext.Transform

/-! ## Groups of labels -/

theorem openGroups_items (events : List Json) :
    (openGroups events).1 ++ (openGroups events).2.flatMap Group.items =
      events.map fun event => (takeLabel event).2 := by
  induction events with
  | nil => rfl
  | cons event rest hypothesis =>
      rcases isTaken : takeLabel event with ⟨_ | label, record⟩
      · simp [openGroups, isTaken, ← hypothesis]
      · simp [openGroups, isTaken, ← hypothesis]

/-- The groups hold all records in their order, each without the label that it gave. -/
theorem groups_items (events : List Json) :
    (groups events).flatMap Group.items = events.map fun event => (takeLabel event).2 := by
  rw [← openGroups_items, groups]
  split
  · next isEmpty => simp [isEmpty]
  · next => simp [*]

theorem Group.toJson_injective : Function.Injective Group.toJson := by
  rintro ⟨label, items⟩ ⟨otherLabel, otherItems⟩ same
  simpa [Group.toJson] using same

/-! ## Items of groups -/

/-- A group whose items, if it has any, are changed by a relation, and nothing else in it. -/
inductive RevisesItems (revises : List Json → List Json → Prop) : Json → Json → Prop where
  | items {before after : List (String × Json)} {items results : List Json}
      (first : "items" ∉ Entries.keys before) (nonempty : items ≠ [])
      (revised : revises items results) :
      RevisesItems revises (.object (before ++ ("items", .array items) :: after))
        (.object (before ++ ("items", .array results) :: after))
  | noItems {group : Json}
      (noItems : ∀ items, group.field? "items" = some (.array items) → items = []) :
      RevisesItems revises group group

theorem RevisesItems.imp {revises replaces : List Json → List Json → Prop} {group result : Json}
    (revised : RevisesItems revises group result)
    (weaker : ∀ items results, revises items results → replaces items results) :
    RevisesItems replaces group result := by
  cases revised with
  | items first nonempty revised => exact .items first nonempty (weaker _ _ revised)
  | noItems noItems => exact .noItems noItems

theorem revisesItems_onItems (function : List Json → List Json) (group : Json) :
    RevisesItems (fun items results => results = function items) group
      (onItems function group) := by
  unfold onItems
  split
  · next entries =>
    split
    · next item items found =>
      rcases Entries.exists_append_of_get? found with ⟨before, after, rfl, absent⟩
      rw [Entries.insert_append absent]
      exact .items absent (List.cons_ne_nil item items) rfl
    · next noItems =>
      refine .noItems fun items found => ?_
      cases items with
      | nil => rfl
      | cons item items => exact absurd found (noItems item items)
  · next noObject =>
    refine .noItems fun items found => ?_
    cases group with
    | object entries => exact absurd rfl (noObject entries)
    | _ => simp [Json.field?] at found

end PageContext.Transform
