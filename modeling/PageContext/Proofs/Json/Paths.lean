import PageContext.Json.Path
import PageContext.Proofs.Json.Keys
import PageContext.Proofs.Text.Cuts

/-!
# Copies along paths

Whatever is found after a value was put at the end of a path was there before or belongs to it.  The
way to it leads through objects.  What lies beside the way is still found, unless something that is no
object had to give way.
-/

namespace PageContext.Json

theorem segments_ne_nil (path : String) : segments path ≠ [] :=
  Text.pieces_ne_nil '.' path

theorem follow?_append (front back : List String) (value : Json) :
    follow? (front ++ back) value = (follow? front value).bind (follow? back) := by
  induction front generalizing value with
  | nil => rfl
  | cons segment front hypothesis =>
      simp only [List.cons_append, follow?]
      cases value.step? segment <;> simp [hypothesis]

/-- A path that leads to a part leads to every part on its way. -/
theorem exists_follow?_of_prefix {front path : List String} {value part : Json}
    (isPrefix : front <+: path) (leads : follow? path value = some part) :
    ∃ inner, follow? front value = some inner := by
  rcases isPrefix with ⟨back, rfl⟩
  rw [follow?_append, Option.bind_eq_some_iff] at leads
  rcases leads with ⟨inner, isInner, _⟩
  exact ⟨inner, isInner⟩

/-- The entries at a place where there may be nothing. -/
def entriesAt (old : Option Json) : List (String × Json) :=
  (old.map entriesOrNone).getD []

@[simp] theorem entriesAt_none : entriesAt none = [] := rfl

@[simp] theorem entriesAt_object (entries : List (String × Json)) :
    entriesAt (some (.object entries)) = entries := rfl

theorem entriesAt_of_not_object {value : Json} (noObject : ∀ entries, value ≠ .object entries) :
    entriesAt (some value) = [] := by
  cases value with
  | object entries => exact absurd rfl (noObject entries)
  | _ => rfl

theorem step?_eq_get?_entriesAt {old : Option Json} {segment : String} {part : Json}
    (isPart : Entries.get? segment (entriesAt old) = some part) :
    ∃ value, old = some value ∧ value.step? segment = some part := by
  cases old with
  | none => simp at isPart
  | some value =>
      cases value with
      | object entries => exact ⟨_, rfl, isPart⟩
      | _ => simp [entriesAt, entriesOrNone] at isPart

/-- What comes to stand at a place, where there may be nothing, when a value is put at the end of a
path from there. -/
def put (found : Json) : List String → Option Json → Json
  | [], _ => found
  | segment :: segments, old =>
      .object (Entries.insert segment (put found segments (Entries.get? segment (entriesAt old)))
        (entriesAt old))

/-- Placing a value in an object is putting it there. -/
theorem object_place (found : Json) {path : List String} (nonempty : path ≠ [])
    (entries : List (String × Json)) :
    .object (place found path entries) = put found path (some (.object entries)) := by
  -- The object on the way is made of the old one's entries, so these have to vary.
  induction path generalizing entries with
  | nil => contradiction
  | cons segment rest hypothesis =>
      cases rest with
      | nil => rfl
      | cons next rest =>
          rw [place, hypothesis (by simp), put, entriesAt_object]
          rfl

/-! ## What is found after a value was put somewhere -/

variable {found : Json} {old : Option Json}

theorem follow?_put_cons_self (segment : String) (path rest : List String) :
    follow? (segment :: rest) (put found (segment :: path) old) =
      follow? rest (put found path (Entries.get? segment (entriesAt old))) := by
  simp [put, follow?, step?]

theorem follow?_put_cons_of_ne {segment other : String} (differ : other ≠ segment)
    (path rest : List String) :
    follow? (other :: rest) (put found (segment :: path) old) =
      (Entries.get? other (entriesAt old)).bind (follow? rest) := by
  simp [put, follow?, step?, Entries.get?_insert_of_ne differ]

/-- On the way to the value there are objects. -/
theorem follow?_put_of_longer (found : Json) (old : Option Json) (front : List String)
    (segment : String) (back : List String) :
    ∃ entries, follow? front (put found (front ++ segment :: back) old) = some (.object entries) := by
  induction front generalizing old with
  | nil => exact ⟨_, rfl⟩
  | cons first front hypothesis =>
      rw [List.cons_append, follow?_put_cons_self]
      exact hypothesis _

/-- Beside the way everything is as it was, or nothing is left. -/
theorem follow?_put_of_apart (found : Json) (old : Option Json) {path other : List String}
    (notBelow : ¬path <+: other) (notAbove : ¬other <+: path) :
    follow? other (put found path old) = none ∨
      follow? other (put found path old) = old.bind (follow? other) := by
  induction path generalizing other old with
  | nil => exact absurd List.nil_prefix notBelow
  | cons segment path hypothesis =>
      cases other with
      | nil => exact absurd List.nil_prefix notAbove
      | cons first other =>
          have inObject : ∀ part, Entries.get? first (entriesAt old) = some part →
              old.bind (follow? (first :: other)) = follow? other part := by
            intro part isPart
            rcases step?_eq_get?_entriesAt isPart with ⟨value, rfl, isStep⟩
            simp [follow?, isStep]
          by_cases same : first = segment
          · subst same
            rw [List.cons_prefix_cons, not_and] at notBelow notAbove
            rw [follow?_put_cons_self]
            rcases hypothesis _ (notBelow rfl) (notAbove rfl) with gone | kept
            · exact .inl gone
            · rw [kept]
              cases isPart : Entries.get? first (entriesAt old) with
              | none => exact .inl rfl
              | some part => exact .inr (inObject part isPart).symm
          · rw [follow?_put_cons_of_ne same]
            cases isPart : Entries.get? first (entriesAt old) with
            | none => exact .inl rfl
            | some part => exact .inr (inObject part isPart).symm

/-- What is copied from a value to its own path adds no path that the value does not have. -/
theorem exists_follow?_of_put {source : Json} {path : List String}
    (isFound : follow? path source = some found)
    (invented : ∀ other part, old.bind (follow? other) = some part →
      ∃ inner, follow? other source = some inner)
    {other : List String} {part : Json} (leads : follow? other (put found path old) = some part) :
    ∃ inner, follow? other source = some inner := by
  induction path generalizing source old other with
  | nil =>
      cases isFound
      exact ⟨part, leads⟩
  | cons segment path hypothesis =>
      cases other with
      | nil => exact ⟨source, rfl⟩
      | cons first other =>
          have inObject : ∀ {rest part},
              (Entries.get? first (entriesAt old)).bind (follow? rest) = some part →
              ∃ inner, follow? (first :: rest) source = some inner := by
            intro rest part leadsBelow
            rcases Option.bind_eq_some_iff.mp leadsBelow with ⟨below, isBelow, leadsOn⟩
            rcases step?_eq_get?_entriesAt isBelow with ⟨value, rfl, isStep⟩
            apply invented (first :: rest) part
            simp only [Option.bind_some, follow?, isStep, leadsOn]
          by_cases same : first = segment
          · subst same
            rw [follow?, Option.bind_eq_some_iff] at isFound
            rcases isFound with ⟨below, isBelow, isFound⟩
            rw [follow?_put_cons_self] at leads
            rw [follow?, isBelow, Option.bind_some]
            apply hypothesis isFound _ leads
            intro rest inner isInner
            have above := inObject isInner
            rwa [follow?, isBelow, Option.bind_some] at above
          · rw [follow?_put_cons_of_ne same] at leads
            exact inObject leads

/-! ## Keys -/

theorem hasDistinctKeys_object_iff {entries : List (String × Json)} :
    (Json.object entries).HasDistinctKeys ↔
      Entries.DistinctKeys entries ∧ ∀ entry ∈ entries, entry.2.HasDistinctKeys := by
  constructor
  · rintro (_ | _ | _ | _ | _ | ⟨distinct, inside⟩)
    exact ⟨distinct, inside⟩
  · rintro ⟨distinct, inside⟩
    exact .object distinct inside

theorem hasDistinctKeys_emptyObject : (Json.object []).HasDistinctKeys :=
  .object List.nodup_nil (by simp)

theorem hasDistinctKeys_numbers (numbers : List Number) :
    (Json.array (numbers.map .number)).HasDistinctKeys := by
  refine .array fun item member => ?_
  rcases List.mem_map.mp member with ⟨number, _, rfl⟩
  exact .number number

theorem HasDistinctKeys.step? {value part : Json} {segment : String}
    (distinct : value.HasDistinctKeys) (isPart : value.step? segment = some part) :
    part.HasDistinctKeys := by
  cases distinct with
  | object _ inside => exact inside _ (Entries.mem_of_get? isPart)
  | array inside =>
      rcases Option.bind_eq_some_iff.mp isPart with ⟨index, _, isItem⟩
      exact inside part (List.mem_of_getElem? isItem)
  | _ => simp [Json.step?] at isPart

theorem HasDistinctKeys.follow? {value part : Json} {path : List String}
    (distinct : value.HasDistinctKeys) (leads : follow? path value = some part) :
    part.HasDistinctKeys := by
  induction path generalizing value with
  | nil =>
      cases leads
      exact distinct
  | cons segment path hypothesis =>
      rcases Option.bind_eq_some_iff.mp leads with ⟨inner, isInner, leads⟩
      exact hypothesis (distinct.step? isInner) leads

theorem hasDistinctKeys_entriesAt (distinct : ∀ value, old = some value → value.HasDistinctKeys) :
    (Json.object (entriesAt old)).HasDistinctKeys := by
  cases old with
  | none => exact hasDistinctKeys_emptyObject
  | some value =>
      cases value with
      | object entries => exact distinct _ rfl
      | _ => exact hasDistinctKeys_emptyObject

theorem HasDistinctKeys.put (distinct : found.HasDistinctKeys) (path : List String)
    (oldDistinct : ∀ value, old = some value → value.HasDistinctKeys) :
    (put found path old).HasDistinctKeys := by
  induction path generalizing old with
  | nil => exact distinct
  | cons segment path hypothesis =>
      rcases hasDistinctKeys_object_iff.mp (hasDistinctKeys_entriesAt oldDistinct) with
        ⟨distinctAt, inside⟩
      rw [Json.put, hasDistinctKeys_object_iff]
      refine ⟨distinctAt.insert segment _, fun entry member => ?_⟩
      rcases Entries.mem_insert member with rfl | isOld
      · apply hypothesis
        intro value isValue
        exact inside _ (Entries.mem_of_get? isValue)
      · exact inside entry isOld

end PageContext.Json
