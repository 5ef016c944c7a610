import PageContext.Proofs.Number.Rounding
import PageContext.Proofs.Transform.Sorting

/-!
# Sorting by whole numbers

Records that have whole numbers under a key are sorted by these numbers rounded to 53 bits.  The
numbers themselves ascend up to this rounding: two that are rounded to one number tie, and stay in
the order in which they were even where this is the wrong one.
-/

namespace PageContext.Transform

/-- A record has a whole number of 64 bits, with or without a sign, under a key. -/
structure HasWhole (field : String) (record : Json) (value : Int) : Prop where
  isValue : record.get? field = some (.int value)
  lower : -2 ^ 63 ≤ value
  upper : value < 2 ^ 64

/-- The whole numbers of two records do not descend. -/
def WholesAscend (field : String) (earlier later : Json) : Prop :=
  ∀ value other, HasWhole field earlier value → HasWhole field later other → value ≤ other

/-- The whole numbers of two records descend at most within one rounded number, beyond the bound on
exact numbers and by no more than two to the eleventh. -/
def WholesAscendRounded (field : String) (earlier later : Json) : Prop :=
  ∀ value other, HasWhole field earlier value → HasWhole field later other →
    value ≤ other ∨
      (Binary64.roundWhole value = Binary64.roundWhole other ∧
        Binary64.exactBound ≤ value.natAbs ∧ Binary64.exactBound ≤ other.natAbs ∧
        value - other ≤ 2048)

/-- The whole numbers of two records do not descend if they are rounded to one number. -/
def RoundedWholesAscend (field : String) (earlier later : Json) : Prop :=
  ∀ value other, HasWhole field earlier value → HasWhole field later other →
    Binary64.roundWhole value = Binary64.roundWhole other → value ≤ other

/-! ## Comparing whole numbers -/

theorem compare_mul {left right factor : Int} (positive : 0 < factor) :
    compare (left * factor) (right * factor) = compare left right := by
  rcases Int.lt_trichotomy left right with less | rfl | greater
  · rw [Int.compare_eq_lt.mpr less,
      Int.compare_eq_lt.mpr (Int.mul_lt_mul_of_pos_right less positive)]
  · exact Std.ReflCmp.compare_self.trans Std.ReflCmp.compare_self.symm
  · rw [Int.compare_eq_gt.mpr greater,
      Int.compare_eq_gt.mpr (Int.mul_lt_mul_of_pos_right greater positive)]

theorem HasWhole.natAbs_lt {field : String} {record : Json} {value : Int}
    (has : HasWhole field record value) : value.natAbs < 2 ^ 64 := by
  rcases has with ⟨_, lower, upper⟩
  omega

/-- Whole numbers are compared after rounding. -/
theorem HasWhole.compareKey_eq {field : String} {left right : Json} {value other : Int}
    (hasLeft : HasWhole field left value) (hasRight : HasWhole field right other) :
    compareKey field .ascending left right =
      compare (Binary64.roundWhole value) (Binary64.roundWhole other) := by
  calc compareKey field .ascending left right
      = compare (Binary64.ofInt value).scaled (Binary64.ofInt other).scaled := by
        rw [compareKey, hasLeft.isValue, hasRight.isValue]
        rfl
    _ = compare (Binary64.roundWhole value) (Binary64.roundWhole other) := by
        rw [Binary64.scaled_ofInt_eq_roundWhole hasLeft.natAbs_lt,
          Binary64.scaled_ofInt_eq_roundWhole hasRight.natAbs_lt, compare_mul Binary64.unit_pos]

theorem HasWhole.tie_iff {field : String} {left right : Json} {value other : Int}
    (hasLeft : HasWhole field left value) (hasRight : HasWhole field right other) :
    compareKey field .ascending left right = .eq ↔
      Binary64.roundWhole value = Binary64.roundWhole other := by
  rw [hasLeft.compareKey_eq hasRight, Int.compare_eq_eq]

/-- Of two numbers that are not in descending order after rounding, the first is larger only if both
are rounded to one number. -/
theorem HasWhole.le_or_tie {field : String} {earlier later : Json} {value other : Int}
    (hasEarlier : HasWhole field earlier value) (hasLater : HasWhole field later other)
    (notAfter : compareKey field .ascending earlier later ≠ .gt) :
    value ≤ other ∨ Binary64.roundWhole value = Binary64.roundWhole other := by
  rw [hasEarlier.compareKey_eq hasLater, ne_eq, Int.compare_eq_gt] at notAfter
  by_cases order : value ≤ other
  · exact .inl order
  · have kept := Binary64.roundWhole_mono (show other ≤ value by omega)
    exact .inr (by omega)

theorem wholesAscendRounded_of_ne_gt {field : String} {earlier later : Json}
    (notAfter : compareKey field .ascending earlier later ≠ .gt) :
    WholesAscendRounded field earlier later := by
  intro value other hasEarlier hasLater
  rcases hasEarlier.le_or_tie hasLater notAfter with order | tied
  · exact .inl order
  · rcases Binary64.eq_or_near_of_roundWhole_eq hasEarlier.natAbs_lt hasLater.natAbs_lt tied with
      same | ⟨large, otherLarge, near⟩
    · exact .inl same.le
    · exact .inr ⟨tied, large, otherLarge, by omega⟩

/-- Where the order is ascending after rounding, only ties can be in the wrong order. -/
theorem wholesAscend_of_ties {field : String} {earlier later : Json}
    (notAfter : compareKey field .ascending earlier later ≠ .gt)
    (ties : compareKey field .ascending earlier later = .eq → WholesAscend field earlier later) :
    WholesAscend field earlier later := by
  intro value other hasEarlier hasLater
  rcases hasEarlier.le_or_tie hasLater notAfter with order | tied
  · exact order
  · exact ties ((hasEarlier.tie_iff hasLater).mpr tied) value other hasEarlier hasLater

theorem roundedWholesAscend_iff {field : String} {earlier later : Json} :
    (compareKey field .ascending earlier later = .eq → WholesAscend field earlier later) ↔
      RoundedWholesAscend field earlier later := by
  constructor
  · intro ties value other hasEarlier hasLater tied
    exact ties ((hasEarlier.tie_iff hasLater).mpr tied) value other hasEarlier hasLater
  · intro rounded isTie value other hasEarlier hasLater
    exact rounded value other hasEarlier hasLater ((hasEarlier.tie_iff hasLater).mp isTie)

/-! ## Sorting -/

section

variable {field : String} {orders : List SortOrder} {records : List Json}

theorem isStablySorted_by_key (ascends : directionAt orders 0 = .ascending) :
    IsStablySorted (compareKey field .ascending) records (sorted ⟨[field], orders⟩ records) := by
  have isSorted := isStablySorted_sorted ⟨[field], orders⟩ records
  rwa [compareRecords_singleton, ascends] at isSorted

/-- Sorted records have ascending whole numbers exactly when this holds already of those records
that are rounded to one number. -/
theorem pairwise_wholesAscend_iff {output : List Json}
    (isSorted : IsStablySorted (compareKey field .ascending) records output) :
    output.Pairwise (WholesAscend field) ↔ records.Pairwise (RoundedWholesAscend field) := by
  calc output.Pairwise (WholesAscend field)
      ↔ output.Pairwise fun earlier later => compareKey field .ascending earlier later = .eq →
          WholesAscend field earlier later := by
        constructor
        · intro ascend
          refine ascend.imp ?_
          intro earlier later inOrder _
          exact inOrder
        · intro ties
          refine (isSorted.ascending.and ties).imp ?_
          rintro earlier later ⟨notAfter, inOrder⟩
          exact wholesAscend_of_ties notAfter inOrder
    _ ↔ ∀ element, (output.filter (compareKey field .ascending element · = .eq)).Pairwise
          (WholesAscend field) := pairwise_filter_iff.symm
    _ ↔ ∀ element, (records.filter (compareKey field .ascending element · = .eq)).Pairwise
          (WholesAscend field) := by simp only [isSorted.stable]
    _ ↔ records.Pairwise fun earlier later => compareKey field .ascending earlier later = .eq →
          WholesAscend field earlier later := pairwise_filter_iff
    _ ↔ records.Pairwise (RoundedWholesAscend field) := by
        simp only [roundedWholesAscend_iff]

/-- Records with whole numbers under a key are sorted by them up to rounding.  A larger number comes
before a smaller one only if both are beyond the bound on exact numbers and are rounded to one
number, so that they differ by no more than two to the eleventh; and the numbers ascend exactly when
those that are rounded to one number stood in ascending order before. -/
theorem sort_whole_keys (frame : TimeFrame) (ascends : directionAt orders 0 = .ascending)
    (whole : ∀ record ∈ records, ∃ value, HasWhole field record value) :
    ∃ output, apply frame (.array records) (.sort ⟨[field], orders⟩) = .ok (.array output) ∧
      output.Perm records ∧ (∀ record ∈ output, ∃ value, HasWhole field record value) ∧
      output.Pairwise (WholesAscendRounded field) ∧
      (output.Pairwise (WholesAscend field) ↔ records.Pairwise (RoundedWholesAscend field)) := by
  have isSorted : IsStablySorted (compareKey field .ascending) records
      (sorted ⟨[field], orders⟩ records) := isStablySorted_by_key ascends
  refine ⟨_, apply_sort frame _ records, isSorted.perm, ?_, ?_, pairwise_wholesAscend_iff isSorted⟩
  · intro record member
    exact whole record (isSorted.perm.mem_iff.mp member)
  · exact isSorted.ascending.imp wholesAscendRounded_of_ne_gt

/-- The conclusion for numbers of which two beyond the bound are rounded to one. -/
theorem sort_whole_keys_tie :
    let record (value : Int) : Json := .object [("n", .object [("m", .int value)])]
    let records : List Json := [record 18446744073709551615, record 9007199254740993, record (-7),
      record 9007199254740992, record (-9223372036854775808)]
    directionAt [] 0 = .ascending ∧ (∀ element ∈ records, ∃ value, HasWhole "n.m" element value) ∧
      ∃ output, apply ⟨0, ⟨0, 0⟩⟩ (.array records) (.sort ⟨["n.m"], []⟩) = .ok (.array output) ∧
        output.Perm records ∧ output.Pairwise (WholesAscendRounded "n.m") := by
  intro record records
  have whole : ∀ element ∈ records, ∃ value, HasWhole "n.m" element value := by
    simp only [records, List.forall_mem_cons, List.not_mem_nil, false_implies, implies_true,
      and_true]
    exact ⟨⟨_, rfl, by decide, by decide⟩, ⟨_, rfl, by decide, by decide⟩,
      ⟨_, rfl, by decide, by decide⟩, ⟨_, rfl, by decide, by decide⟩,
      ⟨_, rfl, by decide, by decide⟩⟩
  have ascending : directionAt [] 0 = .ascending := rfl
  rcases sort_whole_keys ⟨0, ⟨0, 0⟩⟩ ascending whole with
    ⟨output, isOutput, perm, _, ascends, _⟩
  exact ⟨ascending, whole, output, isOutput, perm, ascends⟩

/-- Whole numbers need not ascend along the sorted records: two beyond the bound that are rounded to
one number stay in descending order. -/
theorem not_forall_wholes_ascend :
    ¬∀ (frame : TimeFrame) (field : String) (records output : List Json),
      (∀ record ∈ records, ∃ value, HasWhole field record value) →
      apply frame (.array records) (.sort ⟨[field], []⟩) = .ok (.array output) →
      output.Pairwise (WholesAscend field) := by
  intro ascend
  let larger : Json := .object [("n", .int 9007199254740993)]
  let smaller : Json := .object [("n", .int 9007199254740992)]
  have hasLarger : HasWhole "n" larger 9007199254740993 := ⟨rfl, by decide, by decide⟩
  have hasSmaller : HasWhole "n" smaller 9007199254740992 := ⟨rfl, by decide, by decide⟩
  have tied : compareRecords ["n"] [] larger smaller ≠ .gt := by decide +kernel
  have unmoved : sorted ⟨["n"], []⟩ [larger, smaller] = [larger, smaller] :=
    sorted_of_ascending (List.pairwise_pair.mpr tied)
  have isOutput : apply ⟨0, ⟨0, 0⟩⟩ (.array [larger, smaller]) (.sort ⟨["n"], []⟩) =
      .ok (.array [larger, smaller]) := by
    rw [apply_sort, unmoved]
  have order := ascend ⟨0, ⟨0, 0⟩⟩ "n" [larger, smaller] [larger, smaller]
    (by simpa using ⟨⟨_, hasLarger⟩, ⟨_, hasSmaller⟩⟩) isOutput
  have impossible := List.pairwise_pair.mp order _ _ hasLarger hasSmaller
  omega

end

end PageContext.Transform
