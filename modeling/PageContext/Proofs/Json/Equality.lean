import Mathlib.Data.List.Nodup
import Mathlib.Data.List.Perm.Subperm
import PageContext.Proofs.Json.Keys
import PageContext.Proofs.Json.Printing
import PageContext.Proofs.Json.Reading
import PageContext.Proofs.Number.Canonical

/-!
# Equal values

Equality of values is reflexive and symmetric.  Equal values can have different texts: keys may come
in another order, and the two zeros are equal.  Nothing else is possible, so a value that contains
neither two keys in one object nor a floating-point zero is equal to no other.
-/

namespace PageContext.Json

/-- What holds of every value that stands for data. -/
structure IsWellFormed (value : Json) : Prop where
  distinctKeys : value.HasDistinctKeys
  canonicalFloats : value.HasCanonicalFloats

/-- There is one way only to write a value: no object of it has two keys and no floating-point number
in it is zero. -/
inductive HasOneSpelling : Json → Prop where
  | null : HasOneSpelling .null
  | bool (value : Bool) : HasOneSpelling (.bool value)
  | integer (value : Int) : HasOneSpelling (.number (.integer value))
  | float {value : Binary64} (nonzero : value.significand ≠ 0) :
      HasOneSpelling (.number (.float value))
  | string (value : String) : HasOneSpelling (.string value)
  | array {items : List Json} (inside : ∀ item ∈ items, HasOneSpelling item) :
      HasOneSpelling (.array items)
  | object {entries : List (String × Json)} (single : entries.length ≤ 1)
      (inside : ∀ entry ∈ entries, HasOneSpelling entry.2) : HasOneSpelling (.object entries)

theorem isWellFormed_number_iff {value : Number} :
    (Json.number value).IsWellFormed ↔ value.IsCanonical := by
  constructor
  · rintro ⟨_, canonicalFloats⟩
    cases canonicalFloats with
    | number canonical => exact canonical
  · intro canonical
    exact ⟨.number value, .number canonical⟩

theorem isWellFormed_array_iff {items : List Json} :
    (Json.array items).IsWellFormed ↔ ∀ item ∈ items, item.IsWellFormed := by
  constructor
  · rintro ⟨distinctKeys, canonicalFloats⟩ item member
    cases distinctKeys with
    | array distinctInside =>
        cases canonicalFloats with
        | array canonicalInside => exact ⟨distinctInside item member, canonicalInside item member⟩
  · intro inside
    exact ⟨.array fun item member => (inside item member).distinctKeys,
      .array fun item member => (inside item member).canonicalFloats⟩

theorem isWellFormed_object_iff {entries : List (String × Json)} :
    (Json.object entries).IsWellFormed ↔
      Entries.DistinctKeys entries ∧ ∀ entry ∈ entries, entry.2.IsWellFormed := by
  constructor
  · rintro ⟨distinctKeys, canonicalFloats⟩
    cases distinctKeys with
    | object distinct distinctInside =>
        cases canonicalFloats with
        | object canonicalInside =>
            refine ⟨distinct, fun entry member => ?_⟩
            exact ⟨distinctInside entry member, canonicalInside entry member⟩
  · rintro ⟨distinct, inside⟩
    exact ⟨.object distinct fun entry member => (inside entry member).distinctKeys,
      .object fun entry member => (inside entry member).canonicalFloats⟩

theorem IsWellFormed.field? {record value : Json} (wellFormed : record.IsWellFormed) {key : String}
    (isValue : record.field? key = some value) : value.IsWellFormed := by
  cases record with
  | object entries =>
      exact (isWellFormed_object_iff.mp wellFormed).2 _ (Entries.mem_of_get? isValue)
  | _ => simp [Json.field?] at isValue

theorem IsWellFormed.singleton {value : Json} (wellFormed : value.IsWellFormed) (key : String) :
    (Json.object [(key, value)]).IsWellFormed := by
  rw [isWellFormed_object_iff, List.forall_mem_singleton]
  exact ⟨List.nodup_singleton key, wellFormed⟩

theorem IsWellFormed.eq_of_compact {left right : Json} (leftWellFormed : left.IsWellFormed)
    (rightWellFormed : right.IsWellFormed) (sameText : left.compact = right.compact) :
    left = right :=
  compact_injective leftWellFormed.canonicalFloats rightWellFormed.canonicalFloats sameText

/-! ## Parts of equal values -/

theorem sameItems_iff {lefts rights : List Json} : sameItems lefts rights = true ↔
    List.Forall₂ (fun left right => left.same right = true) lefts rights := by
  induction lefts generalizing rights with
  | nil => cases rights <;> simp [sameItems]
  | cons left lefts hypothesis => cases rights <;> simp [sameItems, hypothesis]

theorem sameEntries_iff {entries others : List (String × Json)} :
    sameEntries entries others = true ↔ ∀ entry ∈ entries, ∃ value,
      Entries.get? entry.1 others = some value ∧ entry.2.same value = true := by
  induction entries with
  | nil => simp [sameEntries]
  | cons entry entries hypothesis =>
      rw [sameEntries, Bool.and_eq_true, hypothesis, List.forall_mem_cons]
      refine and_congr ?_ Iff.rfl
      cases Entries.get? entry.1 others <;> simp

theorem same_object_iff {entries others : List (String × Json)} :
    same (.object entries) (.object others) = true ↔ entries.length = others.length ∧
      ∀ entry ∈ entries, ∃ value,
        Entries.get? entry.1 others = some value ∧ entry.2.same value = true := by
  rw [same, Bool.and_eq_true, beq_iff_eq, sameEntries_iff]

theorem same_array_iff {items others : List Json} : same (.array items) (.array others) = true ↔
    List.Forall₂ (fun item other => item.same other = true) items others := by
  rw [same, sameItems_iff]

/-! ## Reflexivity and symmetry -/

theorem same_refl {value : Json} (distinct : value.HasDistinctKeys) : value.same value = true := by
  induction distinct with
  | null => rfl
  | bool value => simp [same]
  | number value => cases value <;> simp [same, Number.same, Binary64.same]
  | string value => simp [same]
  | array inside hypothesis =>
      rw [same_array_iff, List.forall₂_same]
      exact hypothesis
  | object distinct inside hypothesis =>
      rw [same_object_iff]
      refine ⟨rfl, fun entry member => ?_⟩
      exact ⟨entry.2, Entries.get?_of_mem distinct member, hypothesis entry member⟩

/-- An object that has all the keys of another and no more keys than it has none but these. -/
theorem keys_subset {entries others : List (String × Json)} (distinct : Entries.DistinctKeys entries)
    (isLength : entries.length = others.length)
    (subset : Entries.keys entries ⊆ Entries.keys others) :
    Entries.keys others ⊆ Entries.keys entries := by
  have noMore : (Entries.keys others).length ≤ (Entries.keys entries).length := by
    simp [Entries.keys, isLength]
  exact ((List.Nodup.subperm distinct subset).perm_of_length_le noMore).symm.subset

theorem same_symm {left right : Json} (leftDistinct : left.HasDistinctKeys)
    (rightDistinct : right.HasDistinctKeys) (isSame : left.same right = true) :
    right.same left = true := by
  induction leftDistinct generalizing right with
  | null => cases right <;> simp_all [same]
  | bool value => cases right <;> simp_all [same]
  | number value =>
      cases right with
      | number other => cases value <;> cases other <;> simp_all [same, Number.same, Binary64.same]
      | _ => simp [same] at isSame
  | string value => cases right <;> simp_all [same]
  | array inside hypothesis =>
      cases rightDistinct with
      | array otherInside =>
          rw [same_array_iff, List.forall₂_iff_get] at isSame ⊢
          refine ⟨isSame.1.symm, fun place isOther isItem => ?_⟩
          apply hypothesis _ (List.get_mem _ _) (otherInside _ (List.get_mem _ _))
          exact isSame.2 place isItem isOther
      | _ => simp [same] at isSame
  | @object entries distinct inside hypothesis =>
      cases rightDistinct with
      | @object others otherDistinct otherInside =>
          rw [same_object_iff] at isSame ⊢
          rcases isSame with ⟨isLength, isSame⟩
          have subset : Entries.keys entries ⊆ Entries.keys others := by
            intro key isKey
            rcases List.mem_map.mp isKey with ⟨entry, member, rfl⟩
            rcases isSame entry member with ⟨value, isValue, _⟩
            exact List.mem_map.mpr ⟨_, Entries.mem_of_get? isValue, rfl⟩
          refine ⟨isLength.symm, fun other member => ?_⟩
          have isKey : other.1 ∈ Entries.keys entries :=
            keys_subset distinct isLength subset (List.mem_map_of_mem member)
          rcases List.mem_map.mp isKey with ⟨entry, isEntry, sameKey⟩
          rcases isSame entry isEntry with ⟨value, isValue, entrySame⟩
          rw [sameKey, Entries.get?_of_mem otherDistinct member, Option.some.injEq] at isValue
          subst isValue
          refine ⟨entry.2, ?_, hypothesis entry isEntry (otherInside other member) entrySame⟩
          rw [← sameKey]
          exact Entries.get?_of_mem distinct isEntry
      | _ => simp [same] at isSame

/-! ## Values with one spelling -/

theorem HasOneSpelling.eq_of_same {left right : Json} (oneSpelling : left.HasOneSpelling)
    (leftWellFormed : left.IsWellFormed) (rightWellFormed : right.IsWellFormed)
    (isSame : left.same right = true) : left = right := by
  induction oneSpelling generalizing right with
  | null => cases right <;> simp_all [same]
  | bool value => cases right <;> simp_all [same]
  | integer value =>
      cases right with
      | number other => cases other <;> simp_all [same, Number.same]
      | _ => simp [same] at isSame
  | float nonzero =>
      cases right with
      | number other =>
          cases other with
          | integer other => simp [same, Number.same] at isSame
          | float other =>
              rw [isWellFormed_number_iff] at leftWellFormed rightWellFormed
              rw [same, Number.same] at isSame
              rw [leftWellFormed.eq_of_same rightWellFormed nonzero isSame]
      | _ => simp [same] at isSame
  | string value => cases right <;> simp_all [same]
  | @array items inside hypothesis =>
      cases right with
      | array others =>
          rw [isWellFormed_array_iff] at leftWellFormed rightWellFormed
          rw [same_array_iff, List.forall₂_iff_get] at isSame
          have sameItems : items = others := by
            apply List.ext_get isSame.1
            intro place isItem isOther
            exact hypothesis _ (List.get_mem _ _) (leftWellFormed _ (List.get_mem _ _))
              (rightWellFormed _ (List.get_mem _ _)) (isSame.2 place isItem isOther)
          rw [sameItems]
      | _ => simp [same] at isSame
  | @object entries single inside hypothesis =>
      cases right with
      | object others =>
          rw [isWellFormed_object_iff] at leftWellFormed rightWellFormed
          rcases same_object_iff.mp isSame with ⟨isLength, entrySame⟩
          cases entries with
          | nil => rw [List.eq_nil_of_length_eq_zero isLength.symm]
          | cons entry rest =>
              obtain rfl : rest = [] := by simpa using single
              rcases List.length_eq_one_iff.mp isLength.symm with ⟨other, rfl⟩
              rcases entrySame entry List.mem_cons_self with ⟨value, isValue, valueSame⟩
              obtain rfl := List.mem_singleton.mp (Entries.mem_of_get? isValue)
              have sameValue : entry.2 = value := hypothesis entry List.mem_cons_self
                (leftWellFormed.2 entry List.mem_cons_self)
                (rightWellFormed.2 (entry.1, value) List.mem_cons_self) valueSame
              rw [← sameValue]
      | _ => simp [same] at isSame

/-! ## Twins -/

/-- Another value that is equal to a value. -/
structure IsTwin (value twin : Json) : Prop where
  wellFormed : twin.IsWellFormed
  isSame : value.same twin = true
  differs : twin ≠ value

/-- The twin of a zero has the other sign. -/
theorem isTwin_zero {value : Binary64} (canonical : value.IsCanonical)
    (isZero : value.significand = 0) :
    IsTwin (.number (.float value))
      (.number (.float { value with negative := !value.negative })) where
  wellFormed := isWellFormed_number_iff.mpr ⟨canonical.significand_lt, canonical.leastExponent_le,
    canonical.exponent_le, canonical.full⟩
  isSame := by simp [same, Number.same, Binary64.same, Binary64.scaled, isZero]
  differs := by
    intro isSame
    rw [Json.number.injEq, Number.float.injEq] at isSame
    have sameSign := congrArg Binary64.negative isSame
    simp at sameSign

theorem IsTwin.array {item twin : Json} (isTwin : IsTwin item twin) {front back : List Json}
    (wellFormed : (Json.array (front ++ item :: back)).IsWellFormed) :
    IsTwin (.array (front ++ item :: back)) (.array (front ++ twin :: back)) := by
  rw [isWellFormed_array_iff, List.forall_mem_append, List.forall_mem_cons] at wellFormed
  refine ⟨?_, ?_, by simpa using isTwin.differs⟩
  · rw [isWellFormed_array_iff, List.forall_mem_append, List.forall_mem_cons]
    exact ⟨wellFormed.1, isTwin.wellFormed, wellFormed.2.2⟩
  · have reflexive : ∀ {items : List Json}, (∀ item ∈ items, item.IsWellFormed) →
        List.Forall₂ (fun item other => item.same other = true) items items := by
      intro items inside
      exact List.forall₂_same.mpr fun item member => same_refl (inside item member).distinctKeys
    rw [same_array_iff]
    exact List.rel_append (reflexive wellFormed.1) (.cons isTwin.isSame (reflexive wellFormed.2.2))

theorem IsTwin.object {value twin : Json} (isTwin : IsTwin value twin) {key : String}
    {front back : List (String × Json)}
    (wellFormed : (Json.object (front ++ (key, value) :: back)).IsWellFormed) :
    IsTwin (.object (front ++ (key, value) :: back)) (.object (front ++ (key, twin) :: back)) := by
  rw [isWellFormed_object_iff] at wellFormed
  rcases wellFormed with ⟨distinct, inside⟩
  have twinDistinct : Entries.DistinctKeys (front ++ (key, twin) :: back) := by
    simpa [Entries.DistinctKeys, Entries.keys] using distinct
  refine ⟨?_, ?_, by simpa using isTwin.differs⟩
  · rw [List.forall_mem_append, List.forall_mem_cons] at inside
    rw [isWellFormed_object_iff, List.forall_mem_append, List.forall_mem_cons]
    exact ⟨twinDistinct, inside.1, isTwin.wellFormed, inside.2.2⟩
  · rw [same_object_iff]
    refine ⟨by simp, fun entry member => ?_⟩
    have reflexive := same_refl (inside entry member).distinctKeys
    rw [List.mem_append, List.mem_cons] at member
    rcases member with inFront | rfl | inBack
    · exact ⟨entry.2, Entries.get?_of_mem twinDistinct (by simp [inFront]), reflexive⟩
    · exact ⟨twin, Entries.get?_of_mem twinDistinct (by simp), isTwin.isSame⟩
    · exact ⟨entry.2, Entries.get?_of_mem twinDistinct (by simp [inBack]), reflexive⟩

/-- The twin of an object with two keys has these keys in another order. -/
theorem isTwin_swap {first second : String × Json} {rest : List (String × Json)}
    (wellFormed : (Json.object (first :: second :: rest)).IsWellFormed) :
    IsTwin (.object (first :: second :: rest)) (.object (second :: first :: rest)) := by
  rw [isWellFormed_object_iff] at wellFormed
  rcases wellFormed with ⟨distinct, inside⟩
  have perm : (first :: second :: rest).Perm (second :: first :: rest) := .swap second first rest
  refine ⟨?_, ?_, ?_⟩
  · rw [isWellFormed_object_iff]
    refine ⟨(perm.map Prod.fst).nodup_iff.mp distinct, fun entry member => ?_⟩
    exact inside entry (perm.mem_iff.mpr member)
  · rw [same_object_iff]
    refine ⟨perm.length_eq, fun entry member => ?_⟩
    rw [Entries.get?_of_perm distinct perm, Entries.get?_of_mem distinct member]
    exact ⟨entry.2, rfl, same_refl (inside entry member).distinctKeys⟩
  · intro isSame
    have sameKey : second.1 = first.1 := by
      rw [Json.object.injEq, List.cons.injEq] at isSame
      rw [isSame.1]
    simp [Entries.DistinctKeys, Entries.keys, sameKey] at distinct

/-- A value that can be written in two ways has a twin. -/
theorem exists_isTwin {value : Json} (wellFormed : value.IsWellFormed)
    (twoSpellings : ¬value.HasOneSpelling) : ∃ twin, IsTwin value twin := by
  have distinct := wellFormed.distinctKeys
  induction distinct with
  | null => exact absurd .null twoSpellings
  | bool value => exact absurd (.bool value) twoSpellings
  | string value => exact absurd (.string value) twoSpellings
  | number value =>
      cases value with
      | integer value => exact absurd (.integer value) twoSpellings
      | float value =>
          have isZero : value.significand = 0 := by
            by_contra nonzero
            exact twoSpellings (.float nonzero)
          exact ⟨_, isTwin_zero (isWellFormed_number_iff.mp wellFormed) isZero⟩
  | @array items _ hypothesis =>
      obtain ⟨item, member, twoForms⟩ : ∃ item ∈ items, ¬item.HasOneSpelling := by
        by_contra none
        push Not at none
        exact twoSpellings (.array none)
      have inside := isWellFormed_array_iff.mp wellFormed
      rcases hypothesis item member (inside item member) twoForms with ⟨twin, isTwin⟩
      rcases List.append_of_mem member with ⟨front, back, rfl⟩
      exact ⟨_, isTwin.array wellFormed⟩
  | @object entries _ _ hypothesis =>
      by_cases single : entries.length ≤ 1
      · obtain ⟨entry, member, twoForms⟩ : ∃ entry ∈ entries, ¬entry.2.HasOneSpelling := by
          by_contra none
          push Not at none
          exact twoSpellings (.object single none)
        have inside := (isWellFormed_object_iff.mp wellFormed).2
        rcases hypothesis entry member (inside entry member) twoForms with ⟨twin, isTwin⟩
        rcases List.append_of_mem member with ⟨front, back, rfl⟩
        exact ⟨_, isTwin.object wellFormed⟩
      · rcases entries with _ | ⟨first, _ | ⟨second, rest⟩⟩
        · simp at single
        · simp at single
        · exact ⟨_, isTwin_swap wellFormed⟩

/-- The values with one spelling are those that are equal to no other value. -/
theorem hasOneSpelling_iff {value : Json} (wellFormed : value.IsWellFormed) :
    value.HasOneSpelling ↔
      ∀ other : Json, other.IsWellFormed → value.same other = true → other = value := by
  constructor
  · intro oneSpelling other otherWellFormed isSame
    exact (oneSpelling.eq_of_same wellFormed otherWellFormed isSame).symm
  · intro alone
    by_contra twoSpellings
    rcases exists_isTwin wellFormed twoSpellings with ⟨twin, isTwin⟩
    exact isTwin.differs (alone twin isTwin.wellFormed isTwin.isSame)

/-! ## Values that are read -/

theorem isCanonical_of_numberOf {negative : Bool} {whole : List Char} {fraction : Option (List Char)}
    {exponent : Option Int} {value : Number}
    (isNumber : numberOf negative whole fraction exponent = .ok value) : value.IsCanonical := by
  simp only [numberOf] at isNumber
  split at isNumber
  · split at isNumber
    · rw [← Except.ok.inj isNumber]
      trivial
    split at isNumber
    · rw [← Except.ok.inj isNumber]
      trivial
    split at isNumber
    · next result isResult =>
      rw [← Except.ok.inj isNumber]
      exact Binary64.isCanonical_of_ofDecimalStepwise isResult
    · contradiction
  · split at isNumber
    · next result isResult =>
      rw [← Except.ok.inj isNumber]
      exact Binary64.isCanonical_of_ofDecimalStepwise isResult
    · contradiction

theorem isCanonical_of_readNumber {characters rest : List Char} {value : Number}
    (isRead : readNumber characters = .ok (value, rest)) : value.IsCanonical := by
  simp only [readNumber] at isRead
  split at isRead
  · simp at isRead
  · simp at isRead
  · simp only [Except.bind_eq_ok_iff, Except.pure_eq_ok_iff, Prod.mk.injEq] at isRead
    rcases isRead with ⟨_, _, _, _, _, isNumber, rfl, _⟩
    exact isCanonical_of_numberOf isNumber

/-- What holds of data holds of every value that is read. -/
theorem isWellFormed_of_read {text : String} {value : Json} (isRead : read text = .ok value) :
    value.IsWellFormed := by
  have inherited : IsInherited fun _ value => value.HasCanonicalFloats := {
    null := fun _ => .null
    bool := fun _ => .bool
    number := fun _ _ _ _ isRead => .number (isCanonical_of_readNumber isRead)
    string := fun _ => .string
    array := .array
    object := fun _ => .object }
  exact ⟨hasDistinctKeys_of_read isRead, property_of_readNested inherited isRead⟩

end PageContext.Json
