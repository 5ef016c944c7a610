import PageContext.Proofs.Json.Equality
import PageContext.Proofs.Transform.Gathering
import PageContext.Transform.Chain

/-!
# Projections

A projection of what is already projected changes nothing but the order of keys.  The paths need not
lead to the same places the second time: a path into an array whose other items are gone leads
nowhere, and what was an item is an entry of an object.  But below each key the same holds of the
part that was gathered there, so it holds of the whole.
-/

namespace PageContext.Json

/-- Objects with equal values under the same keys are equal. -/
theorem same_object_of_get? {entries others : List (String × Json)}
    (distinct : Entries.DistinctKeys entries) (othersDistinct : Entries.DistinctKeys others)
    (agree : ∀ key, Option.Rel (fun part other => part.same other = true) (Entries.get? key entries)
      (Entries.get? key others)) :
    (Json.object entries).same (.object others) = true := by
  have sameKeys : ∀ key, key ∈ Entries.keys entries ↔ key ∈ Entries.keys others := by
    intro key
    rw [← not_iff_not, ← Entries.get?_eq_none_iff, ← Entries.get?_eq_none_iff]
    have related := agree key
    constructor
    · intro isNone
      rw [isNone] at related
      cases isOther : Entries.get? key others with
      | none => rfl
      | some other =>
          rw [isOther] at related
          cases related
    · intro isNone
      rw [isNone] at related
      cases isPart : Entries.get? key entries with
      | none => rfl
      | some part =>
          rw [isPart] at related
          cases related
  have sameLength := ((List.perm_ext_iff_of_nodup distinct othersDistinct).mpr sameKeys).length_eq
  rw [same_object_iff]
  refine ⟨by simpa [Entries.keys] using sameLength, fun entry member => ?_⟩
  have related := agree entry.1
  rw [Entries.get?_of_mem distinct member] at related
  cases isOther : Entries.get? entry.1 others with
  | none =>
      rw [isOther] at related
      cases related
  | some other =>
      rw [isOther] at related
      cases related with
      | some isSame => exact ⟨other, rfl, isSame⟩

/-- Two places hold equal values, or both hold nothing. -/
def SameAt : Option Json → Option Json → Prop :=
  Option.Rel fun left right => left.same right = true

/-- What is gathered from a value and put there is the value again, whether it was there before or
nothing was. -/
structure IsGathered (paths : List (List String)) (value : Json) : Prop where
  anew : SameAt (gather value paths none) (some value)
  inPlace : SameAt (gather value paths (some value)) (some value)

theorem SameAt.exists_some {place : Option Json} {value : Json} (isSame : SameAt place (some value)) :
    ∃ other, place = some other ∧ other.same value = true := by
  cases isSame with
  | some isSame => exact ⟨_, rfl, isSame⟩

theorem sameAt_some_of_same {left right : Json} (isSame : left.same right = true) :
    SameAt (some left) (some right) :=
  .some isSame

section

variable {source result : Json} {paths : List (List String)}

/-- An object is gathered again if its parts are, below their keys. -/
theorem same_object_collect {entries others : List (String × Json)} (noneHere : [] ∉ paths)
    (distinct : (Json.object entries).HasDistinctKeys)
    (othersDistinct : (Json.object others).HasDistinctKeys)
    (nothingElse : ∀ key, Entries.get? key entries = none → Entries.get? key others = none)
    (parts : ∀ key part, Entries.get? key entries = some part →
      SameAt (gather part (pathsBelow key paths) (Entries.get? key others)) (some part)) :
    (Json.object (collect (.object entries) paths others)).same (.object entries) = true := by
  have collected : (Json.object (collect (.object entries) paths others)).HasDistinctKeys := by
    apply distinct.gather _ (gather_object noneHere others)
    intro value isValue
    cases isValue
    exact othersDistinct
  apply same_object_of_get? (hasDistinctKeys_object_iff.mp collected).1
    (hasDistinctKeys_object_iff.mp distinct).1
  intro key
  rw [get?_collect noneHere]
  change Option.Rel _ ((Entries.get? key entries).elim _ _) _
  cases isPart : Entries.get? key entries with
  | none =>
      rw [Option.elim_none, nothingElse key isPart]
      exact .none
  | some part => exact parts key part isPart

/-- Where no path ends at the value itself and nothing was in its place, only parts are gathered. -/
theorem isGathered_of_parts (noneHere : [] ∉ paths) (distinct : source.HasDistinctKeys)
    (isResult : gather source paths none = some result)
    (parts : ∀ key part inner, source.step? key = some part →
      gather part (pathsBelow key paths) none = some inner → IsGathered (pathsBelow key paths) inner) :
    IsGathered paths result := by
  have resultDistinct : result.HasDistinctKeys := distinct.gather (by simp) isResult
  have leads : Leads paths source := exists_gather_none_iff.mp ⟨result, isResult⟩
  obtain rfl : Json.object (collect source paths []) = result := by
    rw [gather_of_leads noneHere leads, Option.some.injEq] at isResult
    exact isResult
  have isGathered : ∀ key inner, Entries.get? key (collect source paths []) = some inner →
      IsGathered (pathsBelow key paths) inner := by
    intro key inner isInner
    rw [get?_collect noneHere] at isInner
    cases isPart : source.step? key with
    | none => simp [isPart] at isInner
    | some part =>
        rw [isPart] at isInner
        exact parts key part inner isPart isInner
  constructor
  · -- the second time, too, a path leads somewhere: below the key where one did the first time
    have leadsAgain : Leads paths (.object (collect source paths [])) := by
      rcases leads.exists_pathsBelow noneHere with ⟨key, part, isPart, leadsBelow⟩
      rcases exists_gather_none_iff.mpr leadsBelow with ⟨inner, isInner⟩
      have isEntry : Entries.get? key (collect source paths []) = some inner := by
        rw [get?_collect noneHere, isPart]
        exact isInner
      rcases (isGathered key inner isEntry).anew.exists_some with ⟨again, isAgain, _⟩
      exact leads_of_leads_pathsBelow isEntry (exists_gather_none_iff.mp ⟨again, isAgain⟩)
    rw [gather_of_leads noneHere leadsAgain]
    apply sameAt_some_of_same
    apply same_object_collect noneHere resultDistinct
      (hasDistinctKeys_emptyObject) (by simp)
    intro key inner isInner
    exact (isGathered key inner isInner).anew
  · rw [gather_object noneHere]
    apply sameAt_some_of_same
    apply same_object_collect noneHere resultDistinct resultDistinct (by simp)
    intro key inner isInner
    rw [isInner]
    exact (isGathered key inner isInner).inPlace

/-- Where a whole object is in its place, the parts of it are gathered in theirs. -/
theorem sameAt_gather_object {entries : List (String × Json)} (noneHere : [] ∉ paths)
    (distinct : (Json.object entries).HasDistinctKeys)
    (isResult : gather (.object entries) paths (some (.object entries)) = some result)
    (parts : ∀ key part inner, Entries.get? key entries = some part →
      gather part (pathsBelow key paths) (some part) = some inner →
      SameAt (gather inner (pathsBelow key paths) (some inner)) (some inner)) :
    SameAt (gather result paths (some result)) (some result) := by
  have resultDistinct : result.HasDistinctKeys := by
    apply distinct.gather _ isResult
    intro value isValue
    cases isValue
    exact distinct
  rw [gather_object noneHere, Option.some.injEq] at isResult
  subst isResult
  rw [gather_object noneHere]
  apply sameAt_some_of_same
  apply same_object_collect noneHere resultDistinct resultDistinct (by simp)
  intro key inner isInner
  rw [isInner]
  rw [get?_collect noneHere] at isInner
  change (Entries.get? key entries).elim _ _ = _ at isInner
  cases isPart : Entries.get? key entries with
  | none => simp [isPart] at isInner
  | some part =>
      rw [isPart] at isInner
      exact parts key part inner isPart isInner

/-- What is no object stays as it is, or gives way to an object as if it had not been there. -/
theorem sameAt_gather_of_not_object (noneHere : [] ∉ paths) (distinct : source.HasDistinctKeys)
    (noObject : ∀ entries, source ≠ .object entries)
    (isResult : gather source paths (some source) = some result)
    (parts : ∀ key part inner, source.step? key = some part →
      gather part (pathsBelow key paths) none = some inner → IsGathered (pathsBelow key paths) inner) :
    SameAt (gather result paths (some result)) (some result) := by
  by_cases leads : Leads paths source
  · rw [gather_of_not_object noneHere leads noObject] at isResult
    exact (isGathered_of_parts noneHere distinct isResult parts).inPlace
  · rw [gather_of_not_leads leads, Option.some.injEq] at isResult
    subst isResult
    rw [gather_of_not_leads leads]
    exact sameAt_some_of_same (same_refl distinct)

theorem isGathered_gather {bound : Nat} (short : ∀ path ∈ paths, path.length ≤ bound)
    (distinct : source.HasDistinctKeys) (isResult : gather source paths none = some result) :
    IsGathered paths result := by
  -- Below a key all paths are shorter, except for one that ends at the value itself.
  induction bound generalizing paths source result with
  | zero =>
      rcases exists_last_nil paths with noneHere | ⟨before, after, rfl, noneHere⟩
      · rw [eq_nil_of_length_le_zero short noneHere] at isResult
        contradiction
      · obtain rfl : after = [] :=
          eq_nil_of_length_le_zero (fun path member => short path (by simp [member])) noneHere
        rw [gather_append_nil_cons] at isResult
        cases isResult
        constructor <;>
        · rw [gather_append_nil_cons]
          exact sameAt_some_of_same (same_refl distinct)
  | succ bound hypothesis =>
      have parts : ∀ {paths}, (∀ path ∈ paths, path.length ≤ bound + 1) →
          ∀ key part inner, source.step? key = some part →
            gather part (pathsBelow key paths) none = some inner →
              IsGathered (pathsBelow key paths) inner := by
        intro paths short key part inner isPart isInner
        exact hypothesis (length_le_of_mem_pathsBelow short) (distinct.step? isPart) isInner
      rcases exists_last_nil paths with noneHere | ⟨before, after, rfl, noneHere⟩
      · exact isGathered_of_parts noneHere distinct isResult (parts short)
      · -- What was gathered before the last path that ends at the value does not matter.
        have shortAfter : ∀ path ∈ after, path.length ≤ bound + 1 :=
          fun path member => short path (by simp [member])
        rw [gather_append_nil_cons] at isResult
        suffices isSame : SameAt (gather result after (some result)) (some result) by
          constructor <;>
          · rw [gather_append_nil_cons]
            exact isSame
        by_cases isObject : ∃ entries, source = .object entries
        · rcases isObject with ⟨entries, rfl⟩
          apply sameAt_gather_object noneHere distinct isResult
          intro key part inner isPart isInner
          have shortBelow : ∀ rest ∈ [] :: pathsBelow key after, rest.length ≤ bound :=
            length_le_of_mem_nil_cons_pathsBelow shortAfter
          exact (hypothesis shortBelow (distinct.step? isPart) isInner).anew
        · exact sameAt_gather_of_not_object noneHere distinct (not_exists.mp isObject) isResult
            (parts shortAfter)

end

end PageContext.Json

namespace PageContext.Transform

open Json in
/-- Picking again picks the same. -/
theorem same_pick_pick (fields : List String) {record : Json} (distinct : record.HasDistinctKeys) :
    (Json.object (pick fields (.object (pick fields record)))).same (.object (pick fields record)) =
      true := by
  have noneHere := nil_notMem_segments fields
  have isPicked := object_pick fields record
  have isPickedAgain := object_pick fields (.object (pick fields record))
  by_cases leads : Leads (fields.map segments) record
  · rcases exists_length_le (fields.map segments) with ⟨bound, short⟩
    rw [gather_emptyObject noneHere leads] at isPicked
    rcases (isGathered_gather short distinct isPicked.symm).anew.exists_some with
      ⟨again, isAgain, isSame⟩
    rw [gather_emptyObject noneHere (exists_gather_none_iff.mp ⟨again, isAgain⟩), isAgain,
      Option.some.injEq] at isPickedAgain
    rwa [isPickedAgain]
  · rw [gather_of_not_leads leads, Option.some.injEq, Json.object.injEq] at isPicked
    have nowhere : ¬Leads (fields.map segments) (.object []) := by
      intro leadsInNothing
      rcases leadsInNothing.exists_pathsBelow noneHere with ⟨key, part, isPart, _⟩
      simp [step?] at isPart
    rw [isPicked, gather_of_not_leads nowhere, Option.some.injEq, Json.object.injEq] at isPickedAgain
    rw [isPicked, isPickedAgain]
    rfl

/-- Picking finds nothing that the record does not have. -/
theorem exists_get?_of_pick {fields : List String} {record part : Json} {path : String}
    (isPart : (Json.object (pick fields record)).get? path = some part) :
    ∃ inner, record.get? path = some inner := by
  have leads : (Json.gather record (fields.map Json.segments) (some (.object []))).bind
      (Json.follow? (Json.segments path)) = some part := by
    rw [← object_pick]
    exact isPart
  refine Json.exists_follow?_of_gather ?_ leads
  intro other inner leadsInNothing
  cases other with
  | nil => exact ⟨record, rfl⟩
  | cons segment rest => simp [Json.follow?, Json.step?] at leadsInNothing

/-- A projection makes a value of a record, which stands alone or is an item of an array. -/
inductive Projects (frame : TimeFrame) (projection : Projection) (record result : Json) : Prop where
  | alone (noArray : ∀ items, record ≠ .array items)
      (isResult : apply frame record (.project projection) = .ok result)
  | item (isResult : apply frame (.array [record]) (.project projection) = .ok (.array [result]))

section

variable {frame : TimeFrame} {projection : Projection}

theorem apply_project_array (frame : TimeFrame) (projection : Projection) (records : List Json) :
    apply frame (.array records) (.project projection) =
      .ok (.array (((records.map (pick projection.fields)).filter fun entries =>
        !(projection.removeEmpty && entries.isEmpty)).map .object)) := rfl

theorem apply_project_of_not_array (frame : TimeFrame) (projection : Projection) {record : Json}
    (noArray : ∀ items, record ≠ .array items) :
    apply frame record (.project projection) = .ok (.object (pick projection.fields record)) := by
  cases record with
  | array items => exact absurd rfl (noArray items)
  | _ => rfl

theorem Projects.eq_pick {record result : Json} (projects : Projects frame projection record result) :
    result = .object (pick projection.fields record) := by
  cases projects with
  | alone noArray isResult =>
      rw [apply_project_of_not_array frame projection noArray] at isResult
      cases isResult
      rfl
  | item isResult =>
      rw [apply_project_array, Except.ok.injEq, Json.array.injEq, List.map_singleton,
        List.map_eq_singleton_iff] at isResult
      rcases isResult with ⟨entries, isKept, rfl⟩
      have member : entries ∈ [entries] := List.mem_singleton_self entries
      rw [← isKept] at member
      rw [List.mem_singleton.mp (List.mem_filter.mp member).1]

theorem isEmpty_eq_of_same {entries others : List (String × Json)}
    (isSame : (Json.object entries).same (.object others) = true) :
    entries.isEmpty = others.isEmpty := by
  have sameLength := (Json.same_object_iff.mp isSame).1
  cases entries <;> cases others <;> simp_all

/-- Of the records of a projection none is dropped when it is projected again. -/
theorem exists_project_array {records : List Json}
    (distinct : ∀ record ∈ records, record.HasDistinctKeys) :
    ∃ once twice, apply frame (.array records) (.project projection) = .ok once ∧
      apply frame once (.project projection) = .ok twice ∧ twice.same once = true := by
  let stays := fun entries : List (String × Json) =>
    !(projection.removeEmpty && entries.isEmpty)
  let kept := (records.map (pick projection.fields)).filter stays
  have again : ∀ entries ∈ kept,
      (Json.object (pick projection.fields (.object entries))).same (.object entries) = true := by
    intro entries member
    rcases List.mem_map.mp (List.mem_filter.mp member).1 with ⟨record, isRecord, rfl⟩
    exact same_pick_pick projection.fields (distinct record isRecord)
  have allStay : (((kept.map Json.object).map (pick projection.fields)).filter stays) =
      (kept.map Json.object).map (pick projection.fields) := by
    rw [List.filter_eq_self, List.map_map]
    intro entries member
    rcases List.mem_map.mp member with ⟨old, isOld, rfl⟩
    have isStaying : stays old = true := (List.mem_filter.mp isOld).2
    simpa only [stays, Function.comp_apply, isEmpty_eq_of_same (again old isOld)] using isStaying
  refine ⟨.array (kept.map .object), _, apply_project_array frame projection records,
    apply_project_array frame projection _, ?_⟩
  rw [allStay, Json.same_array_iff, List.map_map, List.map_map, List.forall₂_map_left_iff,
    List.forall₂_map_right_iff, List.forall₂_same]
  exact again

/-- A projection of a projection is equal to it, and a projection has no path that the record does
not have. -/
theorem project_idempotent (frame : TimeFrame) (projection : Projection) :
    (∀ input : Json, input.HasDistinctKeys →
      ∃ once twice, apply frame input (.project projection) = .ok once ∧
        apply frame once (.project projection) = .ok twice ∧ twice.same once = true) ∧
    ∀ (record result part : Json) (path : String), Projects frame projection record result →
      result.get? path = some part → ∃ inner, record.get? path = some inner := by
  constructor
  · intro input distinct
    by_cases isArray : ∃ records, input = .array records
    · rcases isArray with ⟨records, rfl⟩
      cases distinct with
      | array inside => exact exists_project_array inside
    · have noArray := not_exists.mp isArray
      exact ⟨_, _, apply_project_of_not_array frame projection noArray, rfl,
        same_pick_pick projection.fields distinct⟩
  · intro record result part path projects isPart
    rw [projects.eq_pick] at isPart
    exact exists_get?_of_pick isPart

/-- The conclusions for an array of which one item is asked for first, then the whole and then the
other item: the first item is gone after the first projection, and the keys change places in the
second. -/
theorem project_idempotent_overlap :
    let record : Json := .object [("a", .array [.int 10, .int 20]), ("b", .int 1)]
    let projection : Projection := ⟨["a.1", "b", "a", "a.0"], true⟩
    let result : Json := .object [("a", .object [("0", .int 10)]), ("b", .int 1)]
    (Json.array [record]).HasDistinctKeys ∧ Projects ⟨0, ⟨0, 0⟩⟩ projection record result ∧
      result.get? "a.0" = some (.int 10) ∧
      (∃ once twice, apply ⟨0, ⟨0, 0⟩⟩ (.array [record]) (.project projection) = .ok once ∧
        apply ⟨0, ⟨0, 0⟩⟩ once (.project projection) = .ok twice ∧ twice.same once = true) ∧
      ∃ inner, record.get? "a.0" = some inner := by
  intro record projection result
  have isArray : (Json.array [.int 10, .int 20]).HasDistinctKeys :=
    Json.hasDistinctKeys_numbers [_, _]
  have isRecord : record.HasDistinctKeys :=
    .object (by decide) (by simpa [record] using ⟨isArray, .number _⟩)
  have distinct : (Json.array [record]).HasDistinctKeys := .array (by simpa using isRecord)
  have projects : Projects ⟨0, ⟨0, 0⟩⟩ projection record result := .item (by rfl)
  have isPart : result.get? "a.0" = some (.int 10) := by rfl
  have idempotent := project_idempotent ⟨0, ⟨0, 0⟩⟩ projection
  exact ⟨distinct, projects, isPart, idempotent.1 _ distinct,
    idempotent.2 record result (.int 10) "a.0" projects isPart⟩

end

end PageContext.Transform
