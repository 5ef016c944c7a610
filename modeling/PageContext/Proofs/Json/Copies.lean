import Mathlib.Data.List.Infix
import PageContext.Proofs.Json.Paths

/-!
# Copies set one place

A copy along a path sets one place of an object and leaves the others alone.  What was copied is
found at the end of the path, and only objects lie on the way to it.  A path that turns away from
this way leads where it led before, as long as nothing but objects had to be entered up to the turn.
A second copy finds all of this done.
-/

namespace PageContext.Json

/-- The object after a copy along a path, which is as it was where there is nothing to copy. -/
def copied (source : Json) (path : String) (target : List (String × Json)) : List (String × Json) :=
  (copy? source path target).getD target

/-- Two paths share some segments, of which there may be none, and then take different ones. -/
def PartAfter (front : List String) (path other : String) : Prop :=
  ∃ segment back turn rest, segments path = front ++ segment :: back ∧
    segments other = front ++ turn :: rest ∧ turn ≠ segment

/-- Along some segments there are objects, as far as there is anything. -/
def IsOpenAlong (front : List String) (value : Json) : Prop :=
  ∀ start ∈ front.inits, ∀ part ∈ follow? start value, part.isObject = true

instance (front : List String) (value : Json) : Decidable (IsOpenAlong front value) :=
  inferInstanceAs (Decidable (∀ start ∈ front.inits, ∀ part ∈ follow? start value, _))

/-! ## Reading what was put -/

section

variable {found : Json} {old : Option Json}

/-- Where only objects are entered, keys and segments lead to the same value. -/
theorem follow?_of_under? {keys : List String} {value part : Json}
    (leads : under? keys value = some part) : follow? keys value = some part := by
  induction keys generalizing value with
  | nil => exact leads
  | cons key keys hypothesis =>
      rcases Option.bind_eq_some_iff.mp leads with ⟨inner, isInner, leadsOn⟩
      cases value with
      | object entries =>
          rw [follow?, show (Json.object entries).step? key = some inner from isInner]
          exact hypothesis leadsOn
      | _ => simp [field?] at isInner

/-- What was put somewhere is found there, and only objects lie on the way. -/
theorem under?_put (found : Json) (path : List String) (old : Option Json) :
    under? path (put found path old) = some found := by
  induction path generalizing old with
  | nil => rfl
  | cons segment path hypothesis => simp [put, under?, field?, hypothesis]

/-- Putting a value where it already was put changes nothing. -/
theorem put_put (found : Json) (path : List String) (old : Option Json) :
    put found path (some (put found path old)) = put found path old := by
  induction path generalizing old with
  | nil => rfl
  | cons segment path hypothesis =>
      simp only [put, entriesAt_object, Entries.get?_insert_self, hypothesis,
        Entries.insert_insert]

/-! ## Paths that turn away -/

theorem IsOpenAlong.isObject {front : List String} {value : Json}
    (isOpen : IsOpenAlong front value) : value.isObject = true :=
  isOpen [] (by simp) value rfl

theorem IsOpenAlong.step? {segment : String} {front : List String} {value part : Json}
    (isOpen : IsOpenAlong (segment :: front) value) (isPart : value.step? segment = some part) :
    IsOpenAlong front part := by
  intro start isStart inner isInner
  refine isOpen (segment :: start) ?_ inner ?_
  · rw [List.mem_inits] at isStart ⊢
    exact (List.prefix_cons_inj segment).mpr isStart
  · rw [follow?, isPart]
    exact isInner

/-- The way into a place that holds an object or nothing leads through the entries there. -/
theorem bind_follow?_cons (object : ∀ value ∈ old, value.isObject = true) (segment : String)
    (rest : List String) :
    old.bind (follow? (segment :: rest)) =
      (Entries.get? segment (entriesAt old)).bind (follow? rest) := by
  cases old with
  | none => rfl
  | some value =>
      cases value with
      | object entries => rfl
      | _ => simp [isObject] at object

/-- A path that turns away from the one along which a value is put leads to what it led to before,
if there were only objects up to the turn. -/
theorem follow?_put_of_turn {front : List String}
    (isOpen : ∀ value ∈ old, IsOpenAlong front value) {segment turn : String}
    (differ : turn ≠ segment) (back rest : List String) :
    follow? (front ++ turn :: rest) (put found (front ++ segment :: back) old) =
      old.bind (follow? (front ++ turn :: rest)) := by
  have object : ∀ value ∈ old, value.isObject = true :=
    fun value member => (isOpen value member).isObject
  induction front generalizing old with
  | nil =>
      rw [List.nil_append, List.nil_append, follow?_put_cons_of_ne differ, bind_follow?_cons object]
  | cons first front hypothesis =>
      have isOpenBelow : ∀ part ∈ Entries.get? first (entriesAt old), IsOpenAlong front part := by
        intro part isPart
        rcases step?_eq_get?_entriesAt isPart with ⟨value, isValue, isStep⟩
        exact (isOpen value isValue).step? isStep
      rw [List.cons_append, List.cons_append, follow?_put_cons_self, bind_follow?_cons object]
      exact hypothesis isOpenBelow fun part isPart => (isOpenBelow part isPart).isObject

end

/-! ## Copies -/

section

variable {source found : Json} {path : String}

theorem copied_of_none (isNone : source.get? path = none) (target : List (String × Json)) :
    copied source path target = target := by
  rw [copied, copy?, isNone]
  rfl

/-- A copy puts what is at the end of a path to the end of the same path. -/
theorem object_copied (isFound : source.get? path = some found) (target : List (String × Json)) :
    .object (copied source path target) = put found (segments path) (some (.object target)) := by
  rw [← object_place found (segments_ne_nil path), copied, copy?, isFound]
  rfl

/-- A copy fails exactly if there is nothing at the end of the path, and changes nothing then.
Otherwise what is there is found at the same path of the object, through objects only.  A path that
turns away from this one, with nothing but objects up to the turn, leads to what it led to before.
A second copy along the path changes nothing. -/
theorem copy_sets_one_path (source : Json) (path : String) (target : List (String × Json)) :
    (copy? source path target = none ↔ source.get? path = none) ∧
    (source.get? path = none → copied source path target = target) ∧
    (∀ found, source.get? path = some found →
      (Json.object (copied source path target)).get? path = some found ∧
      under? (segments path) (.object (copied source path target)) = some found) ∧
    (∀ front other, PartAfter front path other → IsOpenAlong front (.object target) →
      (Json.object (copied source path target)).get? other = (Json.object target).get? other) ∧
    copied source path (copied source path target) = copied source path target := by
  refine ⟨Option.map_eq_none_iff, fun isNone => copied_of_none isNone target, ?_, ?_, ?_⟩
  · intro found isFound
    have isUnder : under? (segments path) (.object (copied source path target)) = some found := by
      rw [object_copied isFound, under?_put]
    exact ⟨follow?_of_under? isUnder, isUnder⟩
  · rintro front other ⟨segment, back, turn, rest, isPath, isOther, differ⟩ isOpen
    cases isValue : source.get? path with
    | none => rw [copied_of_none isValue]
    | some found =>
        rw [object_copied isValue, get?, get?, isPath, isOther]
        apply follow?_put_of_turn _ differ
        intro value isTarget
        cases isTarget
        exact isOpen
  · cases isValue : source.get? path with
    | none => rw [copied_of_none isValue, copied_of_none isValue]
    | some found =>
        apply Json.object.inj
        rw [object_copied isValue, object_copied isValue, put_put]

/-- An item of an array is copied among the entries of an object that has the same place, and a path
that turns away behind the empty key leads to what it led to before. -/
theorem copy_sets_one_path_item :
    let source : Json := .object [("a", .object [("", .array [.int 7])])]
    let target := [("x", .null), ("a", .object [("", .object [("1", .bool true)]), ("b", .null)])]
    source.get? "a..0" = some (.int 7) ∧ PartAfter ["a", ""] "a..0" "a..1" ∧
      IsOpenAlong ["a", ""] (.object target) ∧
      under? (segments "a..0") (.object (copied source "a..0" target)) = some (.int 7) ∧
      (Json.object (copied source "a..0" target)).get? "a..1" = some (.bool true) := by
  intro source target
  have isFound : source.get? "a..0" = some (.int 7) := by rfl
  have parts : PartAfter ["a", ""] "a..0" "a..1" :=
    ⟨"0", [], "1", [], by decide, by decide, by decide⟩
  have isOpen : IsOpenAlong ["a", ""] (.object target) := by decide
  rcases copy_sets_one_path source "a..0" target with ⟨_, _, set, kept, _⟩
  refine ⟨isFound, parts, isOpen, (set _ isFound).2, ?_⟩
  rw [kept _ _ parts isOpen]
  rfl

end

end PageContext.Json
