import Mathlib.Data.List.Pairwise
import PageContext.Proofs.Json.Equality
import PageContext.Proofs.Transform.Duplicates

/-!
# Values of survivors

Texts stand in for values when duplicates are removed.  Equal texts are texts of one value, so a
record never gives way to one with another value.  Equal values can have different texts, though: of
two records whose values differ in the order of keys or in the sign of a zero both survive.
-/

namespace PageContext.Transform

/-- Two records have equal values in a field, or both lack it. -/
inductive HasEqualField (field : String) (record other : Json) : Prop where
  | equal {value otherValue : Json} (isValue : record.field? field = some value)
      (isOther : other.field? field = some otherValue) (isSame : value.same otherValue = true) :
      HasEqualField field record other
  | lacking (lacks : record.field? field = none) (otherLacks : other.field? field = none) :
      HasEqualField field record other

/-- The values of two records in a field are not equal, if both have one. -/
def HasUnequalField (field : String) (record other : Json) : Prop :=
  ∀ value otherValue, record.field? field = some value → other.field? field = some otherValue →
    value.same otherValue = false

/-- No two records have equal values in a field. -/
def NoEqualValues (field : String) (records : List Json) : Prop :=
  records.Pairwise (HasUnequalField field)

/-- Equal values in a field are the same value, with its keys in the same order. -/
def EqualValuesAgree (field : String) (records : List Json) : Prop :=
  ∀ record ∈ records, ∀ other ∈ records, ∀ value otherValue, record.field? field = some value →
    other.field? field = some otherValue → value.same otherValue = true → value = otherValue

/-! ## Keys and values -/

theorem hasEqualField_of_field?_eq {record other : Json} (wellFormed : record.IsWellFormed)
    {field : String} (isSame : other.field? field = record.field? field) :
    HasEqualField field record other := by
  cases isValue : record.field? field with
  | none => exact .lacking isValue (isSame.trans isValue)
  | some value =>
      have reflexive := Json.same_refl (wellFormed.field? isValue).distinctKeys
      exact .equal isValue (isSame.trans isValue) reflexive

theorem HasUnequalField.symm {field : String} {record other : Json}
    (unequal : HasUnequalField field record other) (wellFormed : record.IsWellFormed)
    (otherWellFormed : other.IsWellFormed) : HasUnequalField field other record := by
  intro value otherValue isValue isOther
  rw [Bool.eq_false_iff]
  intro isSame
  have swapped := Json.same_symm (otherWellFormed.field? isValue).distinctKeys
    (wellFormed.field? isOther).distinctKeys isSame
  rw [unequal otherValue value isOther isValue] at swapped
  contradiction

/-- Whether two records are unequal does not depend on their order. -/
theorem NoEqualValues.hasUnequalField {field : String} {records : List Json}
    (noEqual : NoEqualValues field records) (wellFormed : ∀ record ∈ records, record.IsWellFormed)
    {record other : Json} (member : record ∈ records) (otherMember : other ∈ records)
    (differ : record ≠ other) : HasUnequalField field record other := by
  have eitherWay : records.Pairwise fun record other =>
      HasUnequalField field record other ∧ HasUnequalField field other record := by
    apply noEqual.imp_of_mem
    intro record other member otherMember unequal
    exact ⟨unequal, unequal.symm (wellFormed record member) (wellFormed other otherMember)⟩
  have : Std.Symm fun record other =>
      HasUnequalField field record other ∧ HasUnequalField field other record :=
    ⟨fun _ _ both => both.symm⟩
  exact (eitherWay.forall member otherMember differ).1

section

variable {rule : DedupRule} {field : String} (isField : rule.dedupField = some field)
include isField

theorem dedupKey_eq_map (record : Json) :
    dedupKey rule record = (record.field? field).map Json.compact := by
  rw [dedupKey, fieldNamed?, isField, Option.bind_some]

/-- Records with one key have one value, or none. -/
theorem field?_eq_of_dedupKey_eq {record other : Json} (wellFormed : record.IsWellFormed)
    (otherWellFormed : other.IsWellFormed) (sameKey : dedupKey rule record = dedupKey rule other) :
    record.field? field = other.field? field := by
  rw [dedupKey_eq_map isField, dedupKey_eq_map isField] at sameKey
  cases isValue : record.field? field with
  | none => simp_all
  | some value =>
      cases isOther : other.field? field with
      | none => simp_all
      | some otherValue =>
          rw [isValue, isOther, Option.map_some, Option.map_some, Option.some.injEq] at sameKey
          rw [(wellFormed.field? isValue).eq_of_compact (otherWellFormed.field? isOther) sameKey]

/-- No two survivors have one value in the field, and at most one lacks it. -/
theorem pairwise_field?_ne (records : List Json) :
    (withoutDuplicates rule records).Pairwise fun record other =>
      record.field? field ≠ other.field? field := by
  have distinct := List.pairwise_map.mp (dedupKey_withoutDuplicates_nodup rule records)
  apply distinct.imp
  intro record other differ isSame
  apply differ
  rw [dedupKey_eq_map isField, dedupKey_eq_map isField, isSame]

/-- Two records with different values both survive. -/
theorem withoutDuplicates_pair {value other : Json} (wellFormed : value.IsWellFormed)
    (otherWellFormed : other.IsWellFormed) (differ : value ≠ other) :
    withoutDuplicates rule [.object [(field, value)], .object [(field, other)]] =
      [.object [(field, value)], .object [(field, other)]] := by
  apply (keepsBest_withoutDuplicates rule _).eq_of_nodup
  have keysDiffer : value.compact ≠ other.compact := by
    intro sameText
    exact differ (wellFormed.eq_of_compact otherWellFormed sameText)
  simpa [dedupKey_eq_map isField, Json.field?, Entries.get?] using keysDiffer

variable {records : List Json} (wellFormed : ∀ record ∈ records, record.IsWellFormed)
include wellFormed

theorem exists_survivor {record : Json} (member : record ∈ records) :
    ∃ survivor ∈ withoutDuplicates rule records, survivor.field? field = record.field? field := by
  rcases List.mem_map.mp (dedupKey_mem_withoutDuplicates rule member) with
    ⟨survivor, isKept, sameKey⟩
  have isRecord := (withoutDuplicates_sublist rule records).subset isKept
  exact ⟨survivor, isKept, field?_eq_of_dedupKey_eq isField (wellFormed survivor isRecord)
    (wellFormed record member) sameKey⟩

theorem noEqualValues_withoutDuplicates_iff :
    NoEqualValues field (withoutDuplicates rule records) ↔ EqualValuesAgree field records := by
  have isRecord := (withoutDuplicates_sublist rule records).subset
  constructor
  · intro noEqual record member other otherMember value otherValue isValue isOther isSame
    rcases exists_survivor isField wellFormed member with ⟨first, firstKept, firstField⟩
    rcases exists_survivor isField wellFormed otherMember with ⟨second, secondKept, secondField⟩
    rw [isValue] at firstField
    rw [isOther] at secondField
    -- Equal values of two different survivors are what there is not.
    by_cases one : first = second
    · rw [one, secondField, Option.some.injEq] at firstField
      exact firstField.symm
    · have keptWellFormed : ∀ record ∈ withoutDuplicates rule records, record.IsWellFormed := by
        intro record kept
        exact wellFormed record (isRecord kept)
      have unequal := noEqual.hasUnequalField keptWellFormed firstKept secondKept one
      rw [unequal value otherValue firstField secondField] at isSame
      contradiction
  · intro agree
    apply (pairwise_field?_ne isField records).imp_of_mem
    intro record other isKept otherKept differ value otherValue isValue isOther
    rw [Bool.eq_false_iff]
    intro isSame
    apply differ
    rw [isValue, isOther, agree record (isRecord isKept) other (isRecord otherKept) value otherValue
      isValue isOther isSame]

end

/-! ## Main results -/

/-- Equal texts are texts of equal values, so a record gives way only to one with an equal value in
the field of the rule, or to one that lacks the field as it does. -/
theorem drops_only_equal_values :
    (∀ left right : Json, left.IsWellFormed → right.IsWellFormed → left.compact = right.compact →
      left = right ∧ left.same right = true) ∧
    ∀ (frame : TimeFrame) (rule : DedupRule) (field : String) (records : List Json),
      rule.dedupField = some field → (∀ record ∈ records, record.IsWellFormed) →
        ∃ kept, apply frame (.array records) (.removeDuplicates rule) = .ok (.array kept) ∧
          kept.Sublist records ∧
          ∀ record ∈ records, ∃ survivor ∈ kept, HasEqualField field record survivor := by
  constructor
  · intro left right leftWellFormed rightWellFormed sameText
    obtain rfl := leftWellFormed.eq_of_compact rightWellFormed sameText
    exact ⟨rfl, Json.same_refl leftWellFormed.distinctKeys⟩
  · intro frame rule field records isField wellFormed
    refine ⟨_, apply_removeDuplicates frame rule records, withoutDuplicates_sublist rule records, ?_⟩
    intro record member
    rcases exists_survivor isField wellFormed member with ⟨survivor, isKept, isSame⟩
    exact ⟨survivor, isKept, hasEqualField_of_field?_eq (wellFormed record member) isSame⟩

/-- The conclusion for two records with one half in the field and one without the field. -/
theorem drops_only_equal_values_half :
    let half : Json := .number (.float ⟨false, 2 ^ 52, -53⟩)
    let records : List Json := [.object [("k", half)], .object [("k", half)], .object []]
    let rule : DedupRule := ⟨some "k", none, []⟩
    rule.dedupField = some "k" ∧ (∀ record ∈ records, record.IsWellFormed) ∧
      half.same half = true ∧
      ∃ kept, apply ⟨0, ⟨0, 0⟩⟩ (.array records) (.removeDuplicates rule) = .ok (.array kept) ∧
        kept.Sublist records ∧
        ∀ record ∈ records, ∃ survivor ∈ kept, HasEqualField "k" record survivor := by
  intro half records rule
  have wellFormedHalf : half.IsWellFormed :=
    Json.isWellFormed_number_iff.mpr ⟨by decide, by decide, by decide, .inr (by decide)⟩
  have withHalf := wellFormedHalf.singleton "k"
  have withNone : (Json.object []).IsWellFormed :=
    Json.isWellFormed_object_iff.mpr ⟨List.nodup_nil, by simp⟩
  have wellFormed : ∀ record ∈ records, record.IsWellFormed := by
    simpa [records] using And.intro withHalf withNone
  rcases drops_only_equal_values with ⟨sameText, drops⟩
  exact ⟨rfl, wellFormed, (sameText half half wellFormedHalf wellFormedHalf rfl).2,
    drops ⟨0, ⟨0, 0⟩⟩ rule "k" records rfl wellFormed⟩

/-- The survivors have different values in the field of the rule.  Two of these are equal exactly if
equal values of the records are written differently; this never happens to values that can be written
in one way only, and every other value survives beside its twin. -/
theorem keeps_equal_values_iff (frame : TimeFrame) (rule : DedupRule) (field : String)
    (isField : rule.dedupField = some field) :
    (∀ records, (∀ record ∈ records, record.IsWellFormed) →
      ∃ kept, apply frame (.array records) (.removeDuplicates rule) = .ok (.array kept) ∧
        (kept.Pairwise fun record other => record.field? field ≠ other.field? field) ∧
        (NoEqualValues field kept ↔ EqualValuesAgree field records) ∧
        ((∀ record ∈ records, ∀ value, record.field? field = some value → value.HasOneSpelling) →
          NoEqualValues field kept)) ∧
    ∀ value : Json, value.IsWellFormed → ¬value.HasOneSpelling →
      ∃ twin, Json.IsTwin value twin ∧
        apply frame (.array [.object [(field, value)], .object [(field, twin)]])
            (.removeDuplicates rule) =
          .ok (.array [.object [(field, value)], .object [(field, twin)]]) := by
  constructor
  · intro records wellFormed
    have agrees := noEqualValues_withoutDuplicates_iff isField wellFormed
    refine ⟨_, apply_removeDuplicates frame rule records, pairwise_field?_ne isField records, agrees,
      ?_⟩
    intro oneSpelling
    rw [agrees]
    intro record member other otherMember value otherValue isValue isOther isSame
    have isData := (wellFormed record member).field? isValue
    have otherIsData := (wellFormed other otherMember).field? isOther
    exact (oneSpelling record member value isValue).eq_of_same isData otherIsData isSame
  · intro value wellFormed twoSpellings
    rcases Json.exists_isTwin wellFormed twoSpellings with ⟨twin, isTwin⟩
    refine ⟨twin, isTwin, ?_⟩
    rw [apply_removeDuplicates,
      withoutDuplicates_pair isField wellFormed isTwin.wellFormed isTwin.differs.symm]

theorem isWellFormed_pair {first second : String} (differ : first ≠ second) (value other : Int) :
    (Json.object [(first, .int value), (second, .int other)]).IsWellFormed := by
  have isWellFormed_int : ∀ number : Int, (Json.int number).IsWellFormed := by
    intro number
    exact Json.isWellFormed_number_iff.mpr trivial
  rw [Json.isWellFormed_object_iff]
  refine ⟨by simpa [Entries.DistinctKeys, Entries.keys] using differ, ?_⟩
  simpa using ⟨isWellFormed_int value, isWellFormed_int other⟩

theorem not_hasOneSpelling_pair (first second : String × Json) :
    ¬(Json.object [first, second]).HasOneSpelling := by
  intro oneSpelling
  cases oneSpelling with
  | object single _ => simp at single

/-- The conclusions for two objects whose keys come in two orders. -/
theorem keeps_equal_values_iff_reordered :
    let value : Json := .object [("a", .int 1), ("b", .int 2)]
    let other : Json := .object [("b", .int 2), ("a", .int 1)]
    let records : List Json := [.object [("k", value)], .object [("k", other)]]
    let rule : DedupRule := ⟨some "k", none, []⟩
    rule.dedupField = some "k" ∧ (∀ record ∈ records, record.IsWellFormed) ∧
      ∃ kept, apply ⟨0, ⟨0, 0⟩⟩ (.array records) (.removeDuplicates rule) = .ok (.array kept) ∧
        (kept.Pairwise fun record other => record.field? "k" ≠ other.field? "k") ∧
        (NoEqualValues "k" kept ↔ EqualValuesAgree "k" records) ∧
        ∃ twin, Json.IsTwin value twin ∧
          apply ⟨0, ⟨0, 0⟩⟩ (.array [.object [("k", value)], .object [("k", twin)]])
              (.removeDuplicates rule) =
            .ok (.array [.object [("k", value)], .object [("k", twin)]]) := by
  intro value other records rule
  have isValue : value.IsWellFormed := isWellFormed_pair (by decide) 1 2
  have isOther : other.IsWellFormed := isWellFormed_pair (by decide) 2 1
  have wellFormed : ∀ record ∈ records, record.IsWellFormed := by
    simpa [records] using And.intro (isValue.singleton "k") (isOther.singleton "k")
  have twoSpellings : ¬value.HasOneSpelling := not_hasOneSpelling_pair _ _
  rcases keeps_equal_values_iff ⟨0, ⟨0, 0⟩⟩ rule "k" rfl with ⟨keeps, keepsTwin⟩
  rcases keeps records wellFormed with ⟨kept, isOutput, differ, agrees, _⟩
  exact ⟨rfl, wellFormed, kept, isOutput, differ, agrees, keepsTwin value isValue twoSpellings⟩

/-- Equal values can survive together: their keys come in two orders. -/
theorem not_forall_noEqualValues :
    ¬∀ (frame : TimeFrame) (rule : DedupRule) (field : String) (records kept : List Json),
      rule.dedupField = some field → (∀ record ∈ records, record.IsWellFormed) →
      apply frame (.array records) (.removeDuplicates rule) = .ok (.array kept) →
      NoEqualValues field kept := by
  intro noEqual
  let value : Json := .object [("a", .int 1), ("b", .int 2)]
  let other : Json := .object [("b", .int 2), ("a", .int 1)]
  let rule : DedupRule := ⟨some "k", none, []⟩
  have isValue : value.IsWellFormed := isWellFormed_pair (by decide) 1 2
  have isOther : other.IsWellFormed := isWellFormed_pair (by decide) 2 1
  have differ : value ≠ other := by simp [value, other]
  have isSame : value.same other = true := by decide
  have bothKept := withoutDuplicates_pair (show rule.dedupField = some "k" from rfl) isValue isOther
    differ
  have isOutput := apply_removeDuplicates ⟨0, ⟨0, 0⟩⟩ rule
    [.object [("k", value)], .object [("k", other)]]
  rw [bothKept] at isOutput
  have unequal := noEqual _ rule "k" _ _ rfl
    (by simpa using And.intro (isValue.singleton "k") (isOther.singleton "k")) isOutput
  have isFalse := List.pairwise_pair.mp unequal value other rfl rfl
  rw [isSame] at isFalse
  contradiction

end PageContext.Transform
