import PageContext.Proofs.Json.Keys
import PageContext.Proofs.Transform.Provenance

/-!
# The order of fields

Transforms keep the fields of a record in their order, whatever they write into it, but for one:
when grouping takes the label off a record, the last field of the record takes its place.  If there
are two or more fields behind the label, the last of them is now in front of the others.
-/

namespace PageContext.Transform

/-- The fields that two records share have the same order in both; any other value is unchanged. -/
inductive InOrder : Json → Json → Prop where
  | record {before after : List (String × Json)}
      (inOrder : ((Entries.keys after).filter (· ∈ Entries.keys before)).Sublist
        (Entries.keys before)) :
      InOrder (.object before) (.object after)
  | same {value : Json} (noObject : value.isObject = false) : InOrder value value

/-- All fields but the given ones have the values that they had. -/
def KeepsOthers (fields : List String) (source result : Json) : Prop :=
  ∀ key ∉ fields, result.field? key = source.field? key

/-- A record with a label and at least two fields behind it. -/
inductive LabelBeforeTwo : Json → Prop where
  | record {before after : List (String × Json)} {label : Json}
      (first : "date" ∉ Entries.keys before) (truthy : label.isTruthy)
      (twoBehind : 2 ≤ after.length) :
      LabelBeforeTwo (.object (before ++ ("date", label) :: after))

/-! ## Written fields -/

theorem inOrder_object_iff {before after : List (String × Json)} :
    InOrder (.object before) (.object after) ↔
      ((Entries.keys after).filter (· ∈ Entries.keys before)).Sublist (Entries.keys before) := by
  constructor
  · intro inOrder
    cases inOrder with
    | record inOrder => exact inOrder
    | same noObject => simp [Json.isObject] at noObject
  · exact .record

theorem Writes.inOrder {fields : List String} {before after : List (String × Json)}
    (writes : Writes fields before after) : InOrder (.object before) (.object after) := by
  rcases writes.keys with ⟨new, isAppended, areNew⟩
  have noneNew : new.filter (· ∈ Entries.keys before) = [] := by
    simpa [List.filter_eq_nil_iff] using areNew
  have allOld : (Entries.keys before).filter (· ∈ Entries.keys before) = Entries.keys before := by
    simp [List.filter_eq_self]
  refine .record ?_
  rw [isAppended, List.filter_append, noneNew, allOld, List.append_nil]

theorem Written.inOrder {fields : List String} {source result : Json}
    (written : Written fields source result) : InOrder source result := by
  cases written with
  | record writes => exact writes.inOrder
  | same =>
      cases source with
      | object entries => exact (Writes.refl fields entries).inOrder
      | _ => exact .same rfl

theorem Written.keepsOthers {fields : List String} {source result : Json}
    (written : Written fields source result) : KeepsOthers fields source result := by
  cases written with
  | record writes => exact writes.others
  | same => exact fun _ _ => rfl

/-! ## Labels taken off -/

theorem takeLabel_of_label {before after : List (String × Json)} {label : Json}
    (first : "date" ∉ Entries.keys before) (truthy : label.isTruthy) :
    takeLabel (.object (before ++ ("date", label) :: after)) =
      (some label, .object (before ++ (after.getLast?.toList ++ after.dropLast))) := by
  have isLabel : Entries.get? "date" (before ++ ("date", label) :: after) = some label := by
    rw [Entries.get?_append, (Entries.get?_eq_none_iff _ _).mpr first]
    simp [Entries.get?]
  simp [takeLabel, isLabel, truthy, Entries.swapRemove_append first]

theorem takeLabel_eq_or_exists (event : Json) :
    takeLabel event = (none, event) ∨
      ∃ before label after, event = .object (before ++ ("date", label) :: after) ∧
        "date" ∉ Entries.keys before ∧ label.isTruthy := by
  unfold takeLabel
  split
  · next entries =>
    split
    · next label isLabel =>
      by_cases truthy : label.isTruthy
      · rcases Entries.exists_append_of_get? isLabel with ⟨before, after, rfl, first⟩
        exact .inr ⟨before, label, after, rfl, first, truthy⟩
      · exact .inl (if_neg truthy)
    · exact .inl rfl
  · exact .inl rfl

/-- Moving the last of some keys to the front, where another one was, keeps their order only if it
is the only one. -/
theorem moved_sublist_iff {removed last : String} {others : List String}
    (notRemoved : last ≠ removed) (notOther : last ∉ others) :
    (last :: others).Sublist (removed :: (others ++ [last])) ↔ others = [] := by
  constructor
  · intro inOrder
    cases others with
    | nil => rfl
    | cons second rest =>
        -- The last key can match neither of the first two, and behind them there is no room.
        have behindRemoved : (last :: second :: rest).Sublist (second :: (rest ++ [last])) := by
          cases inOrder with
          | cons _ inOrder => exact inOrder
          | cons_cons => exact absurd rfl notRemoved
        have behindSecond : (last :: second :: rest).Sublist (rest ++ [last]) := by
          cases behindRemoved with
          | cons _ inOrder => exact inOrder
          | cons_cons => exact absurd List.mem_cons_self notOther
        have tooLong := behindSecond.length_le
        simp only [List.length_cons, List.length_append, List.length_nil] at tooLong
        omega
  · rintro rfl
    simp

section

variable {before after : List (String × Json)} {key : String} {value : Json}

theorem removed_perm :
    (before ++ (after.getLast?.toList ++ after.dropLast)).Perm (before ++ after) := by
  refine .append_left before ?_
  rcases List.eq_nil_or_concat after with rfl | ⟨others, last, rfl⟩
  · simp
  · simpa using (List.perm_append_singleton last others).symm

/-- Removing a field keeps the order of the others exactly if there are not two behind it. -/
theorem inOrder_removed_iff
    (distinct : Entries.DistinctKeys (before ++ (key, value) :: after)) :
    InOrder (.object (before ++ (key, value) :: after))
      (.object (before ++ (after.getLast?.toList ++ after.dropLast))) ↔ after.length < 2 := by
  have allOld : (Entries.keys (before ++ (after.getLast?.toList ++ after.dropLast))).filter
      (· ∈ Entries.keys (before ++ (key, value) :: after)) =
        Entries.keys (before ++ (after.getLast?.toList ++ after.dropLast)) := by
    rw [List.filter_eq_self]
    intro other member
    have isKey : other ∈ Entries.keys (before ++ after) :=
      (removed_perm.map Prod.fst).mem_iff.mp member
    simp only [Entries.keys, List.map_append, List.map_cons, List.mem_append, List.mem_cons,
      decide_eq_true_eq] at isKey ⊢
    exact isKey.imp_right .inr
  rw [inOrder_object_iff, allOld]
  simp only [Entries.keys, List.map_append, List.append_sublist_append_left]
  rcases List.eq_nil_or_concat after with rfl | ⟨others, last, rfl⟩
  · simp
  · have behind : (key :: (others.map Prod.fst ++ [last.1])).Nodup := by
      rw [Entries.DistinctKeys, Entries.keys, List.map_append] at distinct
      simpa using (List.nodup_append.mp distinct).2.1
    have notRemoved : last.1 ≠ key := by
      rintro rfl
      simp at behind
    have notOther : last.1 ∉ others.map Prod.fst := by
      intro member
      exact (List.nodup_append.mp (List.nodup_cons.mp behind).2).2.2 _ member _
        (List.mem_singleton_self _) rfl
    have noOther : (others.concat last).length < 2 ↔ others.map Prod.fst = [] := by
      rw [List.map_eq_nil_iff, ← List.length_eq_zero_iff, List.length_concat]
      omega
    rw [noOther, ← moved_sublist_iff notRemoved notOther]
    simp

end

theorem takeLabel_keepsOthers {event : Json} (distinct : event.HasDistinctKeys) :
    KeepsOthers ["date"] event (takeLabel event).2 := by
  intro key noLabel
  rcases takeLabel_eq_or_exists event with unlabelled | ⟨before, label, after, rfl, first, truthy⟩
  · rw [unlabelled]
  · rw [takeLabel_of_label first truthy]
    have different : "date" ≠ key := by
      rintro rfl
      exact noLabel List.mem_cons_self
    cases distinct with
    | object distinct _ =>
        have rest : Entries.DistinctKeys (before ++ after) :=
          distinct.sublist ((List.sublist_cons_self _ after).append_left before |>.map Prod.fst)
        calc Entries.get? key (before ++ (after.getLast?.toList ++ after.dropLast))
            = Entries.get? key (before ++ after) :=
              Entries.get?_of_perm rest removed_perm.symm key
          _ = Entries.get? key (before ++ ("date", label) :: after) := by
              simp [Entries.get?_append, Entries.get?, different]

theorem takeLabel_inOrder_iff {event : Json} (distinct : event.HasDistinctKeys) :
    InOrder event (takeLabel event).2 ↔ ¬LabelBeforeTwo event := by
  constructor
  · intro inOrder isLabelBeforeTwo
    cases isLabelBeforeTwo with
    | record first truthy twoBehind =>
        cases distinct with
        | object distinct _ =>
            rw [takeLabel_of_label first truthy, inOrder_removed_iff distinct] at inOrder
            omega
  · intro noLabelBeforeTwo
    rcases takeLabel_eq_or_exists event with unlabelled | ⟨before, label, after, rfl, first, truthy⟩
    · rw [unlabelled]
      have unchanged : Written [] event event := .same event
      exact unchanged.inOrder
    · cases distinct with
      | object distinct _ =>
          rw [takeLabel_of_label first truthy, inOrder_removed_iff distinct]
          by_contra twoBehind
          exact noLabelBeforeTwo (.record first truthy (by omega))

/-! ## All transforms -/

/-- The fields of a record come out in their order and, other than those which the transform writes
or removes, with their values, wherever the record ends up.  The one exception is a record that
grouping relieves of a label with two or more fields behind it: its values are kept, but the order
of its fields is not. -/
theorem traced_field_order {frame : TimeFrame} {transform : Transform} {input output : Json}
    (distinct : input.HasDistinctKeys) (isResult : apply frame input transform = .ok output) :
    Traced (fun fields source result => KeepsOthers fields source result ∧
        (InOrder source result ↔ ¬(transform = .groupByDate ∧ LabelBeforeTwo source)))
      transform input output := by
  -- Grouping alone removes a field; the other transforms only write some.
  by_cases isGrouping : transform = .groupByDate
  · subst isGrouping
    rcases Except.bind_eq_ok_iff.mp isResult with ⟨events, isArray, isResult⟩
    rw [arrayFor_eq_ok_iff] at isArray
    subst isArray
    rw [← Except.pure_eq_ok_iff.mp isResult]
    cases distinct with
    | array inside =>
        refine .array ⟨groups events, rfl, ?_⟩
        rw [groups_items, List.forall₂_map_right_iff, List.forall₂_same]
        intro event member
        have eventDistinct := inside event member
        simp only [true_and]
        exact ⟨takeLabel_keepsOthers eventDistinct, takeLabel_inOrder_iff eventDistinct⟩
  · refine traced_apply (fun written => ⟨written.keepsOthers, ?_⟩) isResult isGrouping
    simp [isGrouping, written.inOrder]

/-- A record whose label stands in front of two other fields. -/
def labelFirst : Json :=
  .object [("date", .string "Today"), ("a", .int 1), ("b", .int 2)]

theorem hasDistinctKeys_labelFirst : (Json.array [labelFirst]).HasDistinctKeys := by
  refine .array ?_
  simp only [List.mem_singleton, forall_eq]
  refine .object (by decide) ?_
  simp only [List.forall_mem_cons, List.not_mem_nil, false_implies, implies_true, and_true]
  exact ⟨.string _, .number _, .number _⟩

theorem apply_groupByDate_labelFirst :
    apply ⟨0, ⟨0, 0⟩⟩ (.array [labelFirst]) .groupByDate =
      .ok (.array [(Group.mk (.string "Today")
        [.object [("b", .int 2), ("a", .int 1)]]).toJson]) := rfl

/-- The conclusion for a label in front of two other fields. -/
theorem traced_field_order_labelFirst :
    (Json.array [labelFirst]).HasDistinctKeys ∧ LabelBeforeTwo labelFirst ∧
      ∃ output, apply ⟨0, ⟨0, 0⟩⟩ (.array [labelFirst]) .groupByDate = .ok output ∧
        Traced (fun fields source result => KeepsOthers fields source result ∧
            (InOrder source result ↔
              ¬(Transform.groupByDate = .groupByDate ∧ LabelBeforeTwo source)))
          .groupByDate (.array [labelFirst]) output := by
  have twoBehind : LabelBeforeTwo (.object ([] ++ ("date", .string "Today") ::
      [("a", .int 1), ("b", .int 2)])) := .record List.not_mem_nil rfl (by decide)
  exact ⟨hasDistinctKeys_labelFirst, twoBehind, _, apply_groupByDate_labelFirst,
    traced_field_order hasDistinctKeys_labelFirst apply_groupByDate_labelFirst⟩

/-- Fields need not come out in their order: the last one takes the place of a label that is taken
off. -/
theorem not_forall_traced_inOrder :
    ¬∀ (frame : TimeFrame) (transform : Transform) (input output : Json),
      input.HasDistinctKeys → apply frame input transform = .ok output →
      Traced (fun _ source result => InOrder source result) transform input output := by
  intro inOrder
  rcases inOrder _ _ _ _ hasDistinctKeys_labelFirst apply_groupByDate_labelFirst with
    ⟨groups, areGroups, each⟩
  have isGroup : [Group.mk (.string "Today") [.object [("b", .int 2), ("a", .int 1)]]] = groups :=
    List.map_injective_iff.mpr Group.toJson_injective areGroups
  rw [← isGroup] at each
  cases each with
  | cons isInOrder _ =>
      rw [labelFirst, inOrder_object_iff] at isInOrder
      revert isInOrder
      decide

end PageContext.Transform
