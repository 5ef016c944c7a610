import PageContext.Proofs.Sorting
import PageContext.Transform.Sorting

/-!
# The order of sort keys

Values are ordered as sort keys by their kinds, numbers among each other by their size as
floating-point numbers, texts by their code points and booleans with false first; values that this
leaves open tie.  Records are ordered by the first of their keys that do not tie, in its direction.
The comparisons of values and of records are total preorders, and they say just this.
-/

namespace PageContext.Transform

/-- One value comes before another as a sort key. -/
inductive Precedes : Option Json → Option Json → Prop where
  | number {left right : Number} (less : left.toBinary64.scaled < right.toBinary64.scaled) :
      Precedes (some (.number left)) (some (.number right))
  | text {left right : String} (less : left < right) :
      Precedes (some (.string left)) (some (.string right))
  | flag : Precedes (some (.bool false)) (some (.bool true))
  | kind {left right : Option Json} (lower : kindRank left < kindRank right) : Precedes left right

/-- Neither of two values comes before the other. -/
def Ties (left right : Option Json) : Prop :=
  ¬Precedes left right ∧ ¬Precedes right left

/-- One value comes before another in a direction. -/
def PrecedesIn (order : SortOrder) (left right : Option Json) : Prop :=
  match order with
  | .ascending => Precedes left right
  | .descending => Precedes right left

/-- The direction of the key at an index: keys without a direction ascend. -/
def directionAt (orders : List SortOrder) (index : Nat) : SortOrder :=
  orders[index]?.getD .ascending

/-- One record comes before another by a rule: by the first key that does not tie. -/
def PrecedesBy (rule : SortRule) (left right : Json) : Prop :=
  ∃ index field, rule.fields[index]? = some field ∧
    PrecedesIn (directionAt rule.orders index) (left.get? field) (right.get? field) ∧
    ∀ earlier < index, ∀ other, rule.fields[earlier]? = some other →
      Ties (left.get? other) (right.get? other)

/-! ## Values -/

/-- What numbers are compared by; other values are equal in it. -/
def numberKey : Option Json → Int
  | some (.number number) => number.toBinary64.scaled
  | _ => 0

/-- What texts are compared by; other values are equal in it. -/
def textKey : Option Json → String
  | some (.string text) => text
  | _ => ""

/-- What booleans are compared by; other values are equal in it. -/
def flagKey : Option Json → Bool
  | some (.bool flag) => flag
  | _ => false

/-- Values are compared by their kinds, and values of one kind by what this kind is compared by. -/
theorem compareValues_eq_compareLex :
    compareValues = compareLex (compareOn kindRank)
      (compareLex (compareOn numberKey) (compareLex (compareOn textKey) (compareOn flagKey))) := by
  funext left right
  rcases left with _ | left
  · rcases right with _ | right
    · rfl
    · cases right <;> rfl
  · rcases right with _ | right
    · cases left <;> rfl
    -- Where the kinds differ both sides are computed from them alone.
    · cases left <;> cases right <;> first
        | rfl
        | simp [compareValues, compareLex, compareOn, kindRank, numberKey, textKey, flagKey]

instance : Std.TransCmp compareValues :=
  compareValues_eq_compareLex ▸ inferInstance

theorem compareValues_eq_lt_iff {left right : Option Json} :
    compareValues left right = .lt ↔ Precedes left right := by
  constructor
  · intro isLess
    unfold compareValues at isLess
    split at isLess
    · exact .number (Int.compare_eq_lt.mp isLess)
    · exact .text (compareOfLessAndEq_eq_lt.mp isLess)
    · next first second =>
      cases first <;> cases second <;> first | exact .flag | contradiction
    · exact .kind (Nat.compare_eq_lt.mp isLess)
  · intro precedes
    cases precedes with
    | number less => exact Int.compare_eq_lt.mpr less
    | text less => exact compareOfLessAndEq_eq_lt.mpr less
    | flag => rfl
    | kind lower =>
        have isLess := Nat.compare_eq_lt.mpr lower
        rw [compareValues_eq_compareLex]
        simp [compareLex, compareOn, isLess]

theorem compareValues_eq_eq_iff {left right : Option Json} :
    compareValues left right = .eq ↔ Ties left right := by
  have swapped : compareValues right left = (compareValues left right).swap :=
    Std.OrientedCmp.eq_swap
  rw [Ties, ← compareValues_eq_lt_iff, ← compareValues_eq_lt_iff, swapped]
  cases compareValues left right <;> simp

/-! ## Keys and records -/

theorem compareIn_eq_lt_iff {order : SortOrder} {left right : Option Json} :
    SortOrder.compareIn order left right = .lt ↔ PrecedesIn order left right := by
  cases order with
  | ascending => exact compareValues_eq_lt_iff
  | descending =>
      rw [SortOrder.compareIn, ← Std.OrientedCmp.eq_swap, compareValues_eq_lt_iff]
      rfl

theorem compareIn_eq_eq_iff {order : SortOrder} {left right : Option Json} :
    SortOrder.compareIn order left right = .eq ↔ Ties left right := by
  rw [← compareValues_eq_eq_iff]
  cases order <;> simp [SortOrder.compareIn]

/-- Compares two records by one key. -/
def compareKey (field : String) (order : SortOrder) (left right : Json) : Ordering :=
  SortOrder.compareIn order (left.get? field) (right.get? field)

theorem compareRecords_nil (orders : List SortOrder) :
    compareRecords [] orders = fun _ _ => .eq := rfl

theorem compareRecords_cons (field : String) (fields : List String) (orders : List SortOrder) :
    compareRecords (field :: fields) orders =
      compareLex (compareKey field (directionAt orders 0)) (compareRecords fields orders.tail) := by
  funext left right
  rw [compareRecords, directionAt, List.head?_eq_getElem?]
  rfl

theorem compareRecords_singleton (field : String) (orders : List SortOrder) :
    compareRecords [field] orders = compareKey field (directionAt orders 0) := by
  funext left right
  rw [compareRecords_cons, compareRecords_nil]
  exact Ordering.then_eq

instance (order : SortOrder) : Std.TransCmp (SortOrder.compareIn order) := by
  cases order with
  | ascending => exact inferInstanceAs (Std.TransCmp compareValues)
  | descending =>
      have opposite : SortOrder.compareIn .descending =
          fun left right => compareValues right left := by
        funext left right
        exact Std.OrientedCmp.eq_swap.symm
      rw [opposite]
      exact Std.TransCmp.opposite

instance (field : String) (order : SortOrder) : Std.TransCmp (compareKey field order) where
  eq_swap := by
    intro left right
    rw [compareKey, compareKey]
    exact Std.OrientedCmp.eq_swap
  isLE_trans := by
    intro first second third
    rw [compareKey, compareKey, compareKey]
    exact Std.TransCmp.isLE_trans

/-- The comparison of records is a total preorder, whatever the keys are. -/
instance (fields : List String) (orders : List SortOrder) :
    Std.TransCmp (compareRecords fields orders) := by
  induction fields generalizing orders with
  | nil =>
      rw [compareRecords_nil]
      exact { eq_swap := rfl, isLE_trans := fun _ _ => rfl }
  | cons field fields hypothesis =>
      have := hypothesis orders.tail
      rw [compareRecords_cons]
      infer_instance

theorem directionAt_succ (orders : List SortOrder) (index : Nat) :
    directionAt orders (index + 1) = directionAt orders.tail index := by
  rw [directionAt, directionAt, List.getElem?_tail]

theorem precedesBy_nil {orders : List SortOrder} {left right : Json} :
    ¬PrecedesBy ⟨[], orders⟩ left right := by
  rintro ⟨index, field, isField, _⟩
  simp at isField

/-- The first key decides, or it ties and the others decide. -/
theorem precedesBy_cons_iff {field : String} {fields : List String} {orders : List SortOrder}
    {left right : Json} :
    PrecedesBy ⟨field :: fields, orders⟩ left right ↔
      PrecedesIn (directionAt orders 0) (left.get? field) (right.get? field) ∨
        (Ties (left.get? field) (right.get? field) ∧
          PrecedesBy ⟨fields, orders.tail⟩ left right) := by
  constructor
  · rintro ⟨index, key, isKey, precedes, ties⟩
    cases index with
    | zero =>
        cases isKey
        exact .inl precedes
    | succ index =>
        rw [directionAt_succ] at precedes
        refine .inr ⟨ties 0 (by omega) field rfl, index, key, isKey, precedes, ?_⟩
        intro earlier less other isOther
        exact ties (earlier + 1) (by omega) other isOther
  · rintro (precedes | ⟨tied, index, key, isKey, precedes, ties⟩)
    · exact ⟨0, field, rfl, precedes, by simp⟩
    · rw [← directionAt_succ] at precedes
      refine ⟨index + 1, key, isKey, precedes, ?_⟩
      intro earlier less other isOther
      cases earlier with
      | zero =>
          cases isOther
          exact tied
      | succ earlier => exact ties earlier (by omega) other isOther

theorem compareRecords_eq_lt_iff {fields : List String} {orders : List SortOrder}
    {left right : Json} :
    compareRecords fields orders left right = .lt ↔ PrecedesBy ⟨fields, orders⟩ left right := by
  induction fields generalizing orders with
  | nil => simp [compareRecords_nil, precedesBy_nil]
  | cons field fields hypothesis =>
      rw [compareRecords_cons, precedesBy_cons_iff, ← hypothesis, ← compareIn_eq_lt_iff,
        ← compareIn_eq_eq_iff]
      exact Ordering.then_eq_lt

end PageContext.Transform
