import Mathlib.Data.List.Sort
import PageContext.Proofs.Calendar.Timelines

/-!
# Stretches of whole numbers

A stretch holds the whole numbers between its ends, each once, in steps of one from the first end to
the last.  Any other list of the same numbers that never turns back is the same list, and from the
last end to the first a stretch is reversed.
-/

namespace PageContext

namespace Direction

/-- The direction from one number to another; a number lies forwards of itself. -/
def towards (first last : Int) : Direction :=
  if first ≤ last then .forwards else .backwards

/-- A second number lies behind a first one in a direction. -/
def Passes : Direction → Int → Int → Prop
  | .forwards, first, second => first < second
  | .backwards, first, second => second < first

theorem Passes.irrefl {direction : Direction} {number : Int} : ¬direction.Passes number number := by
  cases direction <;> simp [Passes]

theorem Passes.asymm {direction : Direction} {first second : Int}
    (passes : direction.Passes first second) : ¬direction.Passes second first := by
  cases direction <;> simp only [Passes] at * <;> omega

theorem Passes.trans {direction : Direction} {first second third : Int}
    (passes : direction.Passes first second) (passesOn : direction.Passes second third) :
    direction.Passes first third := by
  cases direction <;> simp only [Passes] at * <;> omega

theorem passes_towards_iff {first last number later : Int} :
    (towards first last).Passes number later ↔
      first ≤ last ∧ number < later ∨ last < first ∧ later < number := by
  unfold towards
  split <;> simp only [Passes] <;> omega

theorem add_sign_towards (first last : Int) :
    first + (towards first last).sign * (last - first).natAbs = last := by
  unfold towards
  split <;> simp only [sign] <;> omega

end Direction

/-- The numbers from one to another, one apart. -/
structure IsStretch (first last : Int) (numbers : List Int) : Prop where
  starts : numbers.head? = some first
  ends : numbers.getLast? = some last
  consecutive : numbers.IsChain fun number next =>
    next = number + (Direction.towards first last).sign
  once : numbers.Nodup
  complete : ∀ number, number ∈ numbers ↔ min first last ≤ number ∧ number ≤ max first last

section

variable {first last number : Int} {numbers : List Int}

theorem stretch_eq_map_range (first last : Int) :
    stretch first last = (List.range ((last - first).natAbs + 1)).map fun step : Nat =>
      first + (Direction.towards first last).sign * step := by
  rw [← stretch_of_distance, Direction.add_sign_towards]

theorem length_stretch (first last : Int) :
    (stretch first last).length = (last - first).natAbs + 1 := by
  simp [stretch_eq_map_range]

theorem getElem_stretch {step : Nat} (inside : step < (stretch first last).length) :
    (stretch first last)[step] = first + (Direction.towards first last).sign * step := by
  simp only [stretch_eq_map_range, List.getElem_map, List.getElem_range]

theorem mem_stretch_iff :
    number ∈ stretch first last ↔ min first last ≤ number ∧ number ≤ max first last := by
  simp only [stretch_eq_map_range, List.mem_map, List.mem_range]
  have isSign : (Direction.towards first last).sign = if first ≤ last then 1 else -1 := by
    unfold Direction.towards
    split <;> rfl
  rw [isSign]
  constructor
  · rintro ⟨step, inRange, rfl⟩
    split <;> omega
  · rintro ⟨notBelow, notAbove⟩
    refine ⟨(number - first).natAbs, by omega, ?_⟩
    split <;> omega

/-- The numbers of a stretch never turn back. -/
theorem pairwise_stretch (first last : Int) :
    (stretch first last).Pairwise (Direction.towards first last).Passes := by
  rw [List.pairwise_iff_getElem]
  intro step later inside laterInside order
  rw [getElem_stretch, getElem_stretch]
  cases Direction.towards first last <;> simp only [Direction.Passes, Direction.sign] <;> omega

/-- Numbers that never turn back and are those of a stretch are this stretch. -/
theorem eq_stretch (inDirection : numbers.Pairwise (Direction.towards first last).Passes)
    (members : ∀ number, number ∈ numbers ↔ number ∈ stretch first last) :
    numbers = stretch first last := by
  have irreflexive : Std.Irrefl (Direction.towards first last).Passes :=
    ⟨fun _ => Direction.Passes.irrefl⟩
  have antisymmetric : Std.Antisymm (Direction.towards first last).Passes :=
    ⟨fun _ _ passes passesBack => absurd passesBack passes.asymm⟩
  exact inDirection.eq_of_mem_iff (pairwise_stretch first last) members

theorem isStretch_stretch (first last : Int) : IsStretch first last (stretch first last) where
  starts := by
    rw [stretch_eq_map_range, List.range_succ_eq_map]
    simp
  ends := by
    rw [stretch_eq_map_range, List.range_succ, List.map_append, List.map_singleton,
      List.getLast?_append, List.getLast?_singleton, Option.some_or, Direction.add_sign_towards]
  consecutive := by
    rw [List.isChain_iff_getElem]
    intro step inside
    rw [getElem_stretch, getElem_stretch, Int.natCast_add_one, Int.mul_add, Int.mul_one,
      Int.add_assoc]
  once := by
    refine (pairwise_stretch first last).imp fun passes => ?_
    rintro rfl
    exact Direction.Passes.irrefl passes
  complete := fun _ => mem_stretch_iff

theorem reverse_stretch (first last : Int) :
    (stretch first last).reverse = stretch last first := by
  apply List.ext_getElem
  · rw [List.length_reverse, length_stretch, length_stretch]
    omega
  · intro step inside insideReversed
    rw [length_stretch] at insideReversed
    rw [List.getElem_reverse, getElem_stretch, getElem_stretch, length_stretch]
    unfold Direction.towards
    split <;> split <;> simp only [Direction.sign] <;> omega

/-- Behind its first number a stretch is that from the next number on. -/
theorem stretch_cons (direction : Direction) (number : Int) (amount : Nat) :
    stretch number (number + direction.sign * (amount + 1 : Nat)) =
      number :: stretch (number + direction.sign)
        (number + direction.sign + direction.sign * amount) := by
  rw [stretch_of_distance, stretch_of_distance, List.range_succ_eq_map, List.map_cons, List.map_map]
  congr 1
  · simp
  · apply List.map_congr_left
    intro step _
    rw [Function.comp_apply, Nat.succ_eq_add_one, Int.natCast_add_one, Int.mul_add, Int.mul_one]
    omega

end

end PageContext
