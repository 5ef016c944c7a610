import Mathlib.Data.List.Basic

/-!
# Stable sorting

Elements that an order does not tell apart stay in the order in which they were.  A comparison that
lets elements tie therefore still leaves one way to sort a list, and sorting by a minor comparison
and then by a major one is sorting by both.
-/

namespace PageContext

variable {α : Type}

section

variable {isBelow : α → α → Bool} {isPicked : α → Bool}

/-- Elements of which each is below each other one are not moved among each other. -/
theorem filter_mergeSort
    (transitive : ∀ first second third, isBelow first second = true →
      isBelow second third = true → isBelow first third = true)
    (total : ∀ first second, (isBelow first second || isBelow second first) = true)
    (areEqual : ∀ first second, isPicked first = true → isPicked second = true →
      isBelow first second = true) (elements : List α) :
    (elements.mergeSort isBelow).filter isPicked = elements.filter isPicked := by
  have inOrder : (elements.filter isPicked).Pairwise fun first second =>
      isBelow first second = true := by
    apply List.pairwise_of_forall_mem_list
    intro first isFirst second isSecond
    exact areEqual first second (List.mem_filter.mp isFirst).2 (List.mem_filter.mp isSecond).2
  have kept := List.sublist_mergeSort transitive total inOrder List.filter_sublist
  have inside := kept.filter isPicked
  rw [List.filter_filter] at inside
  simp only [Bool.and_self] at inside
  have sameLength := ((List.mergeSort_perm elements isBelow).filter isPicked).length_eq
  exact (inside.eq_of_length sameLength.symm).symm

end

/-- The same elements in ascending order, those that tie in the order in which they were. -/
structure IsStablySorted (comparison : α → α → Ordering) (elements sorted : List α) : Prop where
  perm : sorted.Perm elements
  ascending : sorted.Pairwise fun earlier later => comparison earlier later ≠ .gt
  stable : ∀ element, sorted.filter (comparison element · = .eq) =
    elements.filter (comparison element · = .eq)

/-! ## Comparisons -/

section

variable {comparison : α → α → Ordering} [Std.TransCmp comparison]

theorem ne_gt_refl (element : α) : comparison element element ≠ .gt := by
  have tied : comparison element element = .eq := Std.ReflCmp.compare_self
  simp [tied]

theorem ne_gt_trans {first second third : α} (left : comparison first second ≠ .gt)
    (right : comparison second third ≠ .gt) : comparison first third ≠ .gt :=
  Ordering.isLE_iff_ne_gt.mp (Std.TransCmp.isLE_trans (Ordering.ne_gt_iff_isLE.mp left)
    (Ordering.ne_gt_iff_isLE.mp right))

theorem ne_gt_total (first second : α) :
    comparison first second ≠ .gt ∨ comparison second first ≠ .gt := by
  have swapped : comparison second first = (comparison first second).swap :=
    Std.OrientedCmp.eq_swap
  rw [swapped]
  cases comparison first second <;> simp

theorem eq_of_ne_gt {first second : α} (left : comparison first second ≠ .gt)
    (right : comparison second first ≠ .gt) : comparison first second = .eq :=
  Std.OrientedCmp.isLE_antisymm (Ordering.ne_gt_iff_isLE.mp left)
    (Ordering.ne_gt_iff_isLE.mp right)

/-- Elements that tie with one element tie with each other. -/
theorem ne_gt_of_ties {element first second : α} (left : comparison element first = .eq)
    (right : comparison element second = .eq) : comparison first second ≠ .gt := by
  rw [← Std.TransCmp.congr_left left, right]
  simp

/-! ## The one way to sort -/

theorem mem_iff_of_filter_eq {first second : List α}
    (same : ∀ element, first.filter (comparison element · = .eq) =
      second.filter (comparison element · = .eq)) (element : α) :
    element ∈ first ↔ element ∈ second := by
  have tied : comparison element element = .eq := Std.ReflCmp.compare_self
  have inFilter : ∀ list : List α,
      element ∈ list ↔ element ∈ list.filter (comparison element · = .eq) := by
    simp [tied]
  rw [inFilter first, inFilter second, same]

/-- Lists in ascending order are the same when they agree on the elements of each tie. -/
theorem eq_of_ascending {first second : List α}
    (firstAscending : first.Pairwise fun earlier later => comparison earlier later ≠ .gt)
    (secondAscending : second.Pairwise fun earlier later => comparison earlier later ≠ .gt)
    (same : ∀ element, first.filter (comparison element · = .eq) =
      second.filter (comparison element · = .eq)) : first = second := by
  induction first generalizing second with
  | nil =>
      refine (List.eq_nil_iff_forall_not_mem.mpr ?_).symm
      intro element member
      simpa using (mem_iff_of_filter_eq same element).mpr member
  | cons head rest hypothesis =>
      cases second with
      | nil => simpa using (mem_iff_of_filter_eq same head).mp List.mem_cons_self
      | cons other others =>
          rcases List.pairwise_cons.mp firstAscending with ⟨headFirst, restAscending⟩
          rcases List.pairwise_cons.mp secondAscending with ⟨otherFirst, othersAscending⟩
          -- Each of the two heads comes first in its list, so that they tie.
          have left : comparison head other ≠ .gt := by
            rcases List.mem_cons.mp ((mem_iff_of_filter_eq same other).mpr List.mem_cons_self) with
              rfl | below
            · exact ne_gt_refl other
            · exact headFirst other below
          have right : comparison other head ≠ .gt := by
            rcases List.mem_cons.mp ((mem_iff_of_filter_eq same head).mp List.mem_cons_self) with
              rfl | below
            · exact ne_gt_refl head
            · exact otherFirst head below
          have heads := same head
          simp only [List.filter_cons, Std.ReflCmp.compare_self, eq_of_ne_gt left right,
            decide_true, if_true, List.cons.injEq] at heads
          rcases heads with ⟨rfl, _⟩
          have sameRest : ∀ element, rest.filter (comparison element · = .eq) =
              others.filter (comparison element · = .eq) := by
            intro element
            have whole := same element
            by_cases isTied : comparison element head = .eq <;>
              simpa [List.filter_cons, isTied] using whole
          rw [hypothesis restAscending othersAscending sameRest]

theorem isStablySorted_mergeSort (elements : List α) :
    IsStablySorted comparison elements
      (elements.mergeSort fun left right => comparison left right != .gt) := by
  have transitive : ∀ first second third, (comparison first second != .gt) = true →
      (comparison second third != .gt) = true → (comparison first third != .gt) = true := by
    simp only [bne_iff_ne]
    intro first second third
    exact ne_gt_trans
  have total : ∀ first second,
      (comparison first second != .gt || comparison second first != .gt) = true := by
    simp only [Bool.or_eq_true, bne_iff_ne]
    exact ne_gt_total
  refine ⟨List.mergeSort_perm _ _, ?_, ?_⟩
  · simpa using List.pairwise_mergeSort transitive total elements
  · intro element
    refine filter_mergeSort transitive total ?_ elements
    simp only [decide_eq_true_iff, bne_iff_ne]
    intro first second
    exact ne_gt_of_ties

/-- A comparison leaves one way to sort a list: elements that tie keep their order. -/
theorem isStablySorted_iff {elements sorted : List α} :
    IsStablySorted comparison elements sorted ↔
      sorted = elements.mergeSort fun left right => comparison left right != .gt := by
  constructor
  · intro isSorted
    have merged : IsStablySorted comparison elements _ := isStablySorted_mergeSort elements
    refine eq_of_ascending isSorted.ascending merged.ascending fun element => ?_
    rw [isSorted.stable, merged.stable]
  · rintro rfl
    exact isStablySorted_mergeSort elements

end

/-! ## One comparison after another -/

/-- A relation holds along each tie exactly when it holds between elements that tie. -/
theorem pairwise_filter_iff {comparison : α → α → Ordering} [Std.TransCmp comparison]
    {relation : α → α → Prop} {elements : List α} :
    (∀ element, (elements.filter (comparison element · = .eq)).Pairwise relation) ↔
      elements.Pairwise fun earlier later => comparison earlier later = .eq →
        relation earlier later := by
  constructor
  · intro ties
    induction elements with
    | nil => exact .nil
    | cons head rest hypothesis =>
        refine List.pairwise_cons.mpr ⟨?_, hypothesis fun element => ?_⟩
        · intro later member isTie
          have tied := ties head
          simp only [List.filter_cons, Std.ReflCmp.compare_self, decide_true, if_true] at tied
          refine (List.pairwise_cons.mp tied).1 later ?_
          exact List.mem_filter.mpr ⟨member, by simp [isTie]⟩
        · exact (ties element).sublist ((List.sublist_cons_self head rest).filter _)
  · intro related element
    refine (related.filter _).imp_of_mem ?_
    intro earlier later isEarlier isLater holds
    simp only [List.mem_filter, decide_eq_true_iff] at isEarlier isLater
    apply holds
    rw [← Std.TransCmp.congr_left isEarlier.2]
    exact isLater.2

section

variable {major minor : α → α → Ordering}

theorem filter_compareLex (element : α) (elements : List α) :
    elements.filter (compareLex major minor element · = .eq) =
      (elements.filter (major element · = .eq)).filter (minor element · = .eq) := by
  rw [List.filter_filter]
  congr 1
  funext other
  rw [Bool.eq_iff_iff]
  simp [compareLex, Ordering.then_eq_eq, and_comm]

/-- Sorting by a minor comparison and then by a major one sorts by both. -/
theorem IsStablySorted.lexicographic [Std.TransCmp major] {elements middle sorted : List α}
    (byMinor : IsStablySorted minor elements middle)
    (byMajor : IsStablySorted major middle sorted) :
    IsStablySorted (compareLex major minor) elements sorted := by
  refine ⟨byMajor.perm.trans byMinor.perm, ?_, ?_⟩
  · have ties : ∀ element, (sorted.filter (major element · = .eq)).Pairwise
        fun earlier later => minor earlier later ≠ .gt := by
      intro element
      rw [byMajor.stable]
      exact byMinor.ascending.filter _
    refine (byMajor.ascending.and (pairwise_filter_iff.mp ties)).imp ?_
    rintro earlier later ⟨notAfter, minorNotAfter⟩
    cases isOrder : major earlier later with
    | lt => simp [compareLex, isOrder]
    | eq => simpa [compareLex, isOrder] using minorNotAfter isOrder
    | gt => exact absurd isOrder notAfter
  · intro element
    calc sorted.filter (compareLex major minor element · = .eq)
        = (sorted.filter (major element · = .eq)).filter (minor element · = .eq) :=
          filter_compareLex element sorted
      _ = (middle.filter (minor element · = .eq)).filter (major element · = .eq) := by
          rw [byMajor.stable, List.filter_comm]
      _ = elements.filter (compareLex major minor element · = .eq) := by
          rw [byMinor.stable, List.filter_comm, filter_compareLex]

end

end PageContext
