import PageContext.Json.Path
import PageContext.Transform.Basic

/-!
# Sorting records

Records are compared key by key; a later key counts where the earlier ones are equal.  Values of
different kinds come in the order numbers, texts, booleans, arrays and objects, null, missing
values.  Numbers compare by size, texts by code points and false comes before true; arrays and
objects are all equal.  Sorting is stable.
-/

namespace PageContext.Transform

/-- The place of a value's kind in the order. -/
def kindRank : Option Json → Nat
  | some (.number _) => 0
  | some (.string _) => 1
  | some (.bool _) => 2
  | some (.array _) => 3
  | some (.object _) => 3
  | some .null => 4
  | none => 5

/-- Compares two values of which each may be missing. -/
def compareValues : Option Json → Option Json → Ordering
  | some (.number left), some (.number right) =>
      compare left.toBinary64.scaled right.toBinary64.scaled
  | some (.string left), some (.string right) => compare left right
  | some (.bool left), some (.bool right) => compare left right
  | left, right => compare (kindRank left) (kindRank right)

def SortOrder.compareIn (order : SortOrder) (left right : Option Json) : Ordering :=
  match order with
  | .ascending => compareValues left right
  | .descending => (compareValues left right).swap

/-- Compares two records by sort keys and their directions. -/
def compareRecords : (fields : List String) → (orders : List SortOrder) → Json → Json → Ordering
  | [], _, _, _ => .eq
  | field :: fields, orders, left, right =>
      (SortOrder.compareIn (orders.head?.getD .ascending) (left.get? field) (right.get? field)).then
        (compareRecords fields orders.tail left right)

def sorted (rule : SortRule) (records : List Json) : List Json :=
  records.mergeSort fun left right =>
    compareRecords rule.fields rule.orders left right != .gt

end PageContext.Transform
