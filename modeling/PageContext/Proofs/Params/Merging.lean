import PageContext.Proofs.Params.Limits
import PageContext.Proofs.Text.Integers

/-!
# Merged parameters

Merging keeps the parameters of the caller in their order and appends those that only the directive
has.  Under every key of a directive its own value stands, except that the smaller of two limits counts
when both are integers.  Nothing but the merged parameters is of this kind, so a caller decides about no
key of a directive apart from the limit.
-/

namespace PageContext.Params

/-- The integer that parameters have as their limit. -/
def HasLimit (params : Params) (limit : Int) : Prop :=
  ∃ text, Entries.get? "limit" params = some (some text) ∧ Text.HoldsInteger text limit

/-- What the parameters of a caller and those of a directive are merged to. -/
structure IsMerge (caller directive merged : Params) : Prop where
  keys : Entries.keys merged =
    Entries.keys caller ++ (Entries.keys directive).filter fun key => key ∉ Entries.keys caller
  ofDirective : ∀ key ∈ Entries.keys directive, key ≠ "limit" →
    Entries.get? key merged = Entries.get? key directive
  ofCaller : ∀ key ∉ Entries.keys directive, Entries.get? key merged = Entries.get? key caller
  smallerLimit : ∀ requested ceiling, HasLimit caller requested → HasLimit directive ceiling →
    Entries.get? "limit" merged = some (some (toString (min requested ceiling)))
  /-- A limit of the directive stands unless there are two integers to compare. -/
  otherLimit : "limit" ∈ Entries.keys directive →
    (∀ requested ceiling, ¬(HasLimit caller requested ∧ HasLimit directive ceiling)) →
    Entries.get? "limit" merged = Entries.get? "limit" directive

/-- Two callers that have the same limit and agree on all keys that a directive leaves to them. -/
structure AgreeBeside (directive caller other : Params) : Prop where
  limit : Entries.get? "limit" other = Entries.get? "limit" caller
  others : ∀ key ∉ Entries.keys directive, Entries.get? key other = Entries.get? key caller

theorem numericLimit?_eq_some_iff {params : Params} {limit : Int} :
    numericLimit? params = some limit ↔ HasLimit params limit := by
  simp only [numericLimit?, value?, Option.bind_eq_some_iff, Option.join_eq_some_iff,
    Text.signed?_trim_eq_some_iff, HasLimit]

theorem bind_numericLimit?_eq_some_iff {caller : Option Params} {limit : Int} :
    caller.bind numericLimit? = some limit ↔ HasLimit (caller.getD []) limit := by
  rw [← numericLimit?_eq_some_iff]
  cases caller <;> rfl

theorem HasLimit.mem_keys {params : Params} {limit : Int} (hasLimit : HasLimit params limit) :
    "limit" ∈ Entries.keys params := by
  rcases hasLimit with ⟨text, isText, _⟩
  exact Entries.mem_keys_of_get? isText

theorem HasLimit.unique {params : Params} {limit other : Int} (hasLimit : HasLimit params limit)
    (hasOther : HasLimit params other) : limit = other := by
  rw [← numericLimit?_eq_some_iff] at hasLimit hasOther
  simpa [hasLimit] using hasOther

section

variable {caller : Option Params} {directive : Params}

theorem isMerge_of_not_both (distinct : Entries.DistinctKeys directive)
    (notBoth : ∀ requested ceiling,
      ¬(HasLimit (caller.getD []) requested ∧ HasLimit directive ceiling)) :
    IsMerge (caller.getD []) directive (merge caller directive) := by
  have notNumeric : caller.bind numericLimit? = none ∨ numericLimit? directive = none := by
    by_contra bothNumeric
    simp only [not_or, Option.eq_none_iff_forall_ne_some, not_forall, not_not,
      bind_numericLimit?_eq_some_iff, numericLimit?_eq_some_iff] at bothNumeric
    rcases bothNumeric with ⟨⟨requested, isRequested⟩, ceiling, isCeiling⟩
    exact notBoth requested ceiling ⟨isRequested, isCeiling⟩
  rw [merge_of_not_both notNumeric]
  constructor
  · exact Entries.keys_insertAll distinct _
  · intro key isKey _
    exact Entries.get?_insertAll_of_mem distinct isKey _
  · intro key noKey
    exact Entries.get?_insertAll_of_notMem distinct noKey _
  · intro requested ceiling isRequested isCeiling
    exact absurd ⟨isRequested, isCeiling⟩ (notBoth requested ceiling)
  · intro isKey _
    exact Entries.get?_insertAll_of_mem distinct isKey _

theorem isMerge_of_both (distinct : Entries.DistinctKeys directive) {requested ceiling : Int}
    (isRequested : HasLimit (caller.getD []) requested) (isCeiling : HasLimit directive ceiling) :
    IsMerge (caller.getD []) directive (merge caller directive) := by
  rw [merge_of_both (bind_numericLimit?_eq_some_iff.mpr isRequested)
    (numericLimit?_eq_some_iff.mpr isCeiling)]
  have present : "limit" ∈ Entries.keys (Entries.insertAll directive (caller.getD [])) := by
    rw [Entries.keys_insertAll distinct]
    exact List.mem_append_left _ isRequested.mem_keys
  constructor
  · rw [Entries.keys_insert, if_pos present]
    exact Entries.keys_insertAll distinct _
  · intro key isKey noLimit
    rw [Entries.get?_insert_of_ne noLimit]
    exact Entries.get?_insertAll_of_mem distinct isKey _
  · intro key noKey
    have noLimit : key ≠ "limit" := by
      rintro rfl
      exact noKey isCeiling.mem_keys
    rw [Entries.get?_insert_of_ne noLimit]
    exact Entries.get?_insertAll_of_notMem distinct noKey _
  · intro otherRequested otherCeiling hasRequested hasCeiling
    simp [hasRequested.unique isRequested, hasCeiling.unique isCeiling]
  · intro _ notBoth
    exact absurd ⟨isRequested, isCeiling⟩ (notBoth requested ceiling)

theorem isMerge_merge (distinct : Entries.DistinctKeys directive) :
    IsMerge (caller.getD []) directive (merge caller directive) := by
  by_cases both : ∃ requested ceiling,
      HasLimit (caller.getD []) requested ∧ HasLimit directive ceiling
  · rcases both with ⟨requested, ceiling, isRequested, isCeiling⟩
    exact isMerge_of_both distinct isRequested isCeiling
  · simp only [not_exists] at both
    exact isMerge_of_not_both distinct both

end

/-- What is found in merged parameters depends on the limit of the caller and on its keys that the
directive does not have. -/
theorem IsMerge.get?_eq {caller other directive merged otherMerged : Params}
    (isMerge : IsMerge caller directive merged) (isOtherMerge : IsMerge other directive otherMerged)
    (agree : AgreeBeside directive caller other) (key : String) :
    Entries.get? key otherMerged = Entries.get? key merged := by
  by_cases isKey : key ∈ Entries.keys directive
  · by_cases isLimit : key = "limit"
    · subst isLimit
      have sameLimit : ∀ {limit}, HasLimit other limit ↔ HasLimit caller limit := by
        simp [HasLimit, agree.limit]
      by_cases both : ∃ requested ceiling, HasLimit caller requested ∧ HasLimit directive ceiling
      · rcases both with ⟨requested, ceiling, isRequested, isCeiling⟩
        rw [isMerge.smallerLimit requested ceiling isRequested isCeiling,
          isOtherMerge.smallerLimit requested ceiling (sameLimit.mpr isRequested) isCeiling]
      · simp only [not_exists] at both
        rw [isMerge.otherLimit isKey both, isOtherMerge.otherLimit isKey]
        simpa only [sameLimit] using both
    · rw [isMerge.ofDirective key isKey isLimit, isOtherMerge.ofDirective key isKey isLimit]
  · rw [isMerge.ofCaller key isKey, isOtherMerge.ofCaller key isKey, agree.others key isKey]

theorem IsMerge.distinctKeys {caller directive merged : Params}
    (isMerge : IsMerge caller directive merged) (callerDistinct : Entries.DistinctKeys caller)
    (distinct : Entries.DistinctKeys directive) : Entries.DistinctKeys merged := by
  rw [Entries.DistinctKeys, isMerge.keys, List.nodup_append]
  refine ⟨callerDistinct, List.Pairwise.filter _ distinct, ?_⟩
  rintro key isCallers other isNew rfl
  simp [isCallers] at isNew

/-- Merged parameters are what they have to be and nothing else, and callers that agree on the limit
and on the keys which the directive does not have get the same entries. -/
theorem merges_exactly (caller : Option Params) (directive : Params)
    (callerDistinct : Entries.DistinctKeys (caller.getD []))
    (distinct : Entries.DistinctKeys directive) :
    (∀ merged, merge caller directive = merged ↔ IsMerge (caller.getD []) directive merged) ∧
      ∀ other : Option Params, Entries.DistinctKeys (other.getD []) →
        AgreeBeside directive (caller.getD []) (other.getD []) →
        (merge other directive).Perm (merge caller directive) := by
  have isMerge : IsMerge (caller.getD []) directive (merge caller directive) :=
    isMerge_merge distinct
  have isDistinct := isMerge.distinctKeys callerDistinct distinct
  refine ⟨fun merged => ⟨?_, fun isOther => ?_⟩, fun other otherDistinct agree => ?_⟩
  · rintro rfl
    exact isMerge
  · apply Entries.eq_of_get? (isOther.distinctKeys callerDistinct distinct)
    · rw [isMerge.keys, isOther.keys]
    · exact isOther.get?_eq isMerge ⟨rfl, fun _ _ => rfl⟩
  · have isOther : IsMerge (other.getD []) directive (merge other directive) :=
      isMerge_merge distinct
    apply Entries.perm_of_get? (isOther.distinctKeys otherDistinct distinct) isDistinct
    intro key
    exact (isMerge.get?_eq isOther agree key).symm

/-- The conclusions for a caller whose limit counts although the directive sets one, and for another
caller with its parameters in another order and without the one that the directive overrides. -/
theorem merges_exactly_smaller_limit :
    let caller : Params := [("sort", some "asc"), ("limit", some " 3 "), ("page", some "2")]
    let other : Params := [("page", some "2"), ("limit", some " 3 ")]
    let directive : Params := [("limit", some "+10"), ("flag", none), ("sort", some "desc")]
    Entries.DistinctKeys caller ∧ Entries.DistinctKeys directive ∧ Entries.DistinctKeys other ∧
      AgreeBeside directive caller other ∧
      IsMerge caller directive
        [("sort", some "desc"), ("limit", some "3"), ("page", some "2"), ("flag", none)] ∧
      (merge (some other) directive).Perm (merge (some caller) directive) := by
  intro caller other directive
  have callerDistinct : Entries.DistinctKeys caller := by decide
  have otherDistinct : Entries.DistinctKeys other := by decide
  have distinct : Entries.DistinctKeys directive := by decide
  have agree : AgreeBeside directive caller other := by
    refine ⟨rfl, fun key noKey => ?_⟩
    simp only [Entries.keys, directive, List.map_cons, List.mem_cons, not_or] at noKey
    rcases noKey with ⟨noLimit, _, noSort, _⟩
    simp [caller, other, Entries.get?, Ne.symm noLimit, Ne.symm noSort]
  have exactly := merges_exactly (some caller) directive callerDistinct distinct
  exact ⟨callerDistinct, distinct, otherDistinct, agree, (exactly.1 _).mp (by decide),
    exactly.2 (some other) otherDistinct agree⟩

end PageContext.Params
