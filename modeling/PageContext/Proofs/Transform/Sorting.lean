import Mathlib.Data.List.Forall2
import PageContext.Proofs.Success
import PageContext.Proofs.Transform.Grouping
import PageContext.Proofs.Transform.SortKeys
import PageContext.Transform.Chain

/-!
# Sorted records

Sorting by a rule puts records in ascending order by its keys, and records that tie stay in the
order in which they were.  Nothing else is possible: the order of the keys is a total preorder, so
that this determines the result.  A rule of several keys is a chain of rules of one key each, the
least important one first.
-/

namespace PageContext.Transform

/-! ## Sorting by a rule -/

theorem isStablySorted_sorted (rule : SortRule) (records : List Json) :
    IsStablySorted (compareRecords rule.fields rule.orders) records (sorted rule records) :=
  isStablySorted_mergeSort records

theorem eq_sorted_iff {rule : SortRule} {records output : List Json} :
    IsStablySorted (compareRecords rule.fields rule.orders) records output ↔
      output = sorted rule records :=
  isStablySorted_iff

/-- Records that are in order already stay as they are. -/
theorem sorted_of_ascending {rule : SortRule} {records : List Json}
    (ascending : records.Pairwise fun earlier later =>
      compareRecords rule.fields rule.orders earlier later ≠ .gt) :
    sorted rule records = records :=
  (eq_sorted_iff.mp ⟨.refl records, ascending, fun _ => rfl⟩).symm

theorem sorted_sorted (rule : SortRule) (records : List Json) :
    sorted rule (sorted rule records) = sorted rule records :=
  sorted_of_ascending (isStablySorted_sorted rule records).ascending

theorem sorted_without_keys (orders : List SortOrder) (records : List Json) :
    sorted ⟨[], orders⟩ records = records :=
  sorted_of_ascending (List.pairwise_of_forall fun _ _ => by simp [compareRecords_nil])

theorem apply_sort (frame : TimeFrame) (rule : SortRule) (records : List Json) :
    apply frame (.array records) (.sort rule) = .ok (.array (sorted rule records)) := rfl

theorem apply_sortEachGroup (frame : TimeFrame) (rule : SortRule) (groups : List Json) :
    apply frame (.array groups) (.sortEachGroup rule) =
      .ok (.array (groups.map (onItems (sorted rule)))) := rfl

/-- Sorting is stable sorting by the order of the keys.  One record precedes another by the first
key that tells them apart; the comparison says just this and is a total preorder.  The sorted array
is the one permutation in ascending order that keeps the order of records that tie.  Sorting it
again changes nothing, nor does sorting by no key, and in groups this happens to the items of each
group that has any and to nothing else. -/
theorem sort_by_keys (frame : TimeFrame) (rule : SortRule) :
    (∀ left right, compareRecords rule.fields rule.orders left right = .lt ↔
      PrecedesBy rule left right) ∧
    (∀ record, compareRecords rule.fields rule.orders record record = .eq) ∧
    (∀ left right, compareRecords rule.fields rule.orders right left =
      (compareRecords rule.fields rule.orders left right).swap) ∧
    (∀ first second third, compareRecords rule.fields rule.orders first second ≠ .gt →
      compareRecords rule.fields rule.orders second third ≠ .gt →
      compareRecords rule.fields rule.orders first third ≠ .gt) ∧
    ∀ records : List Json,
      (∃ output, apply frame (.array records) (.sort rule) = .ok (.array output) ∧
        (∀ other, IsStablySorted (compareRecords rule.fields rule.orders) records other ↔
          other = output) ∧
        apply frame (.array output) (.sort rule) = .ok (.array output)) ∧
      apply frame (.array records) (.sort ⟨[], rule.orders⟩) = .ok (.array records) ∧
      ∃ groups, apply frame (.array records) (.sortEachGroup rule) = .ok (.array groups) ∧
        List.Forall₂
          (RevisesItems (IsStablySorted (compareRecords rule.fields rule.orders)))
          records groups := by
  refine ⟨fun left right => compareRecords_eq_lt_iff, fun record => Std.ReflCmp.compare_self,
    fun left right => Std.OrientedCmp.eq_swap, fun first second third => ne_gt_trans, ?_⟩
  intro records
  refine ⟨⟨_, apply_sort frame rule records, fun other => eq_sorted_iff, ?_⟩, ?_, ?_⟩
  · rw [apply_sort, sorted_sorted]
  · rw [apply_sort, sorted_without_keys]
  · refine ⟨_, apply_sortEachGroup frame rule records, ?_⟩
    rw [List.forall₂_map_right_iff, List.forall₂_same]
    intro group _
    exact (revisesItems_onItems (sorted rule) group).imp fun items results isResult =>
      eq_sorted_iff.mpr isResult

/-- The conclusion for records with no value, null, an array and an object under the first key. -/
theorem sort_by_keys_mixed_kinds :
    let rule : SortRule := ⟨["rank", "info.name"], [.descending]⟩
    let missing : Json := .object [("info", .object [("name", .string "b")])]
    let nothing : Json := .object [("rank", .null)]
    let list : Json := .object [("rank", .array []), ("info", .object [("name", .string "a")])]
    let table : Json := .object [("info", .object [("name", .bool true)]), ("rank", .object [])]
    compareRecords rule.fields rule.orders missing nothing ≠ .gt ∧
      compareRecords rule.fields rule.orders nothing list ≠ .gt ∧
      compareRecords rule.fields rule.orders missing list ≠ .gt ∧
      PrecedesBy rule list table ∧
      ∃ output, apply ⟨0, ⟨0, 0⟩⟩ (.array [list, table, missing]) (.sort rule) =
          .ok (.array output) ∧
        output.Perm [list, table, missing] := by
  intro rule missing nothing list table
  rcases sort_by_keys ⟨0, ⟨0, 0⟩⟩ rule with ⟨precedes, _, _, transitive, sorts⟩
  have first : compareRecords rule.fields rule.orders missing nothing ≠ .gt := by decide +kernel
  have second : compareRecords rule.fields rule.orders nothing list ≠ .gt := by decide +kernel
  rcases (sorts [list, table, missing]).1 with ⟨output, isOutput, isSorted, _⟩
  exact ⟨first, second, transitive missing nothing list first second,
    (precedes list table).mp (by decide +kernel), output, isOutput,
    ((isSorted output).mpr rfl).perm⟩

/-! ## One key after another -/

/-- Specifications of sorts by one key each, for the keys of a rule in their directions. -/
inductive AreKeySpecs : SortRule → List Json → Prop where
  | nil {orders : List SortOrder} : AreKeySpecs ⟨[], orders⟩ []
  | cons {field : String} {fields : List String} {orders : List SortOrder} {single : SortRule}
      {spec : Json} {specs : List Json} (isSpec : ofSpec spec = .ok (.sort single))
      (isField : single.fields = [field])
      (isDirection : directionAt single.orders 0 = directionAt orders 0)
      (rest : AreKeySpecs ⟨fields, orders.tail⟩ specs) :
      AreKeySpecs ⟨field :: fields, orders⟩ (spec :: specs)

/-- The name of a direction in a specification. -/
def orderName : SortOrder → String
  | .ascending => "asc"
  | .descending => "desc"

/-- A specification of a sort. -/
def sortSpec (rule : SortRule) : Json :=
  .object [("action", .string "Sort"), ("fields", .array (rule.fields.map .string)),
    ("orders", .array (rule.orders.map fun order => .string (orderName order)))]

theorem textItems_strings (texts : List String) :
    Setting.textItems (texts.map .string) = .ok texts := by
  induction texts with
  | nil => rfl
  | cons text texts hypothesis => simp [Setting.textItems, hypothesis]

theorem orders_orderNames (orders : List SortOrder) :
    Setting.orders (.array (orders.map fun order => .string (orderName order))) = .ok orders := by
  have areTexts : Setting.textItems (orders.map fun order => .string (orderName order)) =
      .ok (orders.map orderName) := by
    rw [← textItems_strings, List.map_map]
    rfl
  simp only [Setting.orders, Setting.texts, areTexts, bind, Except.bind]
  clear areTexts
  induction orders with
  | nil => rfl
  | cons order orders hypothesis =>
      rw [List.map_cons, List.mapM_cons, hypothesis]
      cases order <;> rfl

theorem ofSpec_sortSpec (rule : SortRule) : ofSpec (sortSpec rule) = .ok (.sort rule) := by
  have areFields : Setting.texts (.array (rule.fields.map .string)) = .ok rule.fields :=
    textItems_strings rule.fields
  have isRead : Setting.readAll Setting.sortRule
      [("orders", .array (rule.orders.map fun order => .string (orderName order))),
        ("fields", .array (rule.fields.map .string))] {} = .ok rule := by
    simp [Setting.readAll, Setting.sortRule, areFields, orders_orderNames, bind, Except.bind, pure,
      Except.pure]
  have isNamed : ofSpec (sortSpec rule) = ((Setting.readAll Setting.sortRule
      [("orders", .array (rule.orders.map fun order => .string (orderName order))),
        ("fields", .array (rule.fields.map .string))] {}).mapError
          (TransformError.invalidParams "Sort")).map .sort := rfl
  rw [isNamed, isRead]
  rfl

theorem exists_keySpecs (rule : SortRule) : ∃ specs, AreKeySpecs rule specs := by
  rcases rule with ⟨fields, orders⟩
  induction fields generalizing orders with
  | nil => exact ⟨[], .nil⟩
  | cons field fields hypothesis =>
      rcases hypothesis orders.tail with ⟨specs, areKeySpecs⟩
      exact ⟨_, .cons (ofSpec_sortSpec ⟨[field], [directionAt orders 0]⟩) rfl rfl areKeySpecs⟩

theorem runChain_append (frame : TimeFrame) (specs more : List Json) (value : Json) :
    runChain frame (specs ++ more) value =
      (runChain frame specs value).bind (runChain frame more) := by
  induction specs generalizing value with
  | nil => rfl
  | cons spec specs hypothesis =>
      simp only [List.cons_append, runChain, bind]
      cases applySpec frame value spec with
      | error cause => rfl
      | ok result => exact hypothesis result

theorem runChain_sort {frame : TimeFrame} {spec : Json} {rule : SortRule}
    (isSpec : ofSpec spec = .ok (.sort rule)) (records : List Json) :
    runChain frame [spec] (.array records) = .ok (.array (sorted rule records)) := by
  simp [runChain, applySpec, isSpec, apply_sort, bind, Except.bind]

/-- Sorting by a key what is sorted by others is sorting by this key before them. -/
theorem sorted_sorted_tail {field : String} {fields : List String} {orders : List SortOrder}
    {single : SortRule} (isField : single.fields = [field])
    (isDirection : directionAt single.orders 0 = directionAt orders 0) (records : List Json) :
    sorted single (sorted ⟨fields, orders.tail⟩ records) =
      sorted ⟨field :: fields, orders⟩ records := by
  have byKey := isStablySorted_sorted single (sorted ⟨fields, orders.tail⟩ records)
  rw [isField, compareRecords_singleton, isDirection] at byKey
  have both := (isStablySorted_sorted ⟨fields, orders.tail⟩ records).lexicographic byKey
  rw [← compareRecords_cons] at both
  exact eq_sorted_iff.mp both

/-- A chain of sorts by the keys of a rule, the most important key last, sorts by the rule. -/
theorem runChain_keySpecs {frame : TimeFrame} {rule : SortRule} {specs : List Json}
    (keySpecs : AreKeySpecs rule specs) (records : List Json) :
    runChain frame specs.reverse (.array records) = .ok (.array (sorted rule records)) := by
  induction keySpecs with
  | nil => rw [sorted_without_keys]; rfl
  | cons isSpec isField isDirection _ hypothesis =>
      rw [List.reverse_cons, runChain_append, hypothesis, Except.bind, runChain_sort isSpec,
        sorted_sorted_tail isField isDirection]

/-- A rule of several keys sorts as the chain of its keys does, each in its direction and the most
important one last.  Keys may repeat, and those without a direction ascend. -/
theorem runChain_one_key_each (frame : TimeFrame) (rule : SortRule) (records : List Json) :
    (∃ spec specs, ofSpec spec = .ok (.sort rule) ∧ AreKeySpecs rule specs) ∧
    ∀ spec specs, ofSpec spec = .ok (.sort rule) → AreKeySpecs rule specs →
      runChain frame specs.reverse (.array records) = runChain frame [spec] (.array records) ∧
        ∃ output, runChain frame [spec] (.array records) = .ok (.array output) := by
  constructor
  · rcases exists_keySpecs rule with ⟨specs, areKeySpecs⟩
    exact ⟨sortSpec rule, specs, ofSpec_sortSpec rule, areKeySpecs⟩
  · intro spec specs isSpec areKeySpecs
    rw [runChain_keySpecs areKeySpecs, runChain_sort isSpec]
    exact ⟨rfl, _, rfl⟩

/-- The conclusion for three keys, of which one comes twice and two have no direction. -/
theorem runChain_one_key_each_repeated_key :
    let rule : SortRule := ⟨["rank", "info.name", "rank"], [.descending]⟩
    let spec : Json := .object [("orders", .string "desc"), ("action", .string "Sort"),
      ("fields", .array [.string "rank", .string "info.name", .string "rank"])]
    let byRank : Json := .object [("action", .string "Sort"), ("fields", .string "rank")]
    let byName : Json := .object [("action", .string "Sort"), ("fields", .string "info.name")]
    let byRankDown : Json := .object [("action", .string "Sort"), ("fields", .string "rank"),
      ("orders", .array [.string "DESC"])]
    let records : List Json := [.object [("rank", .int 1)], .null, .object [("rank", .bool true)]]
    ofSpec spec = .ok (.sort rule) ∧ AreKeySpecs rule [byRankDown, byName, byRank] ∧
      runChain ⟨0, ⟨0, 0⟩⟩ [byRank, byName, byRankDown] (.array records) =
        runChain ⟨0, ⟨0, 0⟩⟩ [spec] (.array records) := by
  intro rule spec byRank byName byRankDown records
  have isSpec : ofSpec spec = .ok (.sort rule) := rfl
  have areKeySpecs : AreKeySpecs rule [byRankDown, byName, byRank] :=
    .cons rfl rfl rfl (.cons rfl rfl rfl (.cons rfl rfl rfl .nil))
  exact ⟨isSpec, areKeySpecs,
    ((runChain_one_key_each ⟨0, ⟨0, 0⟩⟩ rule records).2 spec _ isSpec areKeySpecs).1⟩

end PageContext.Transform
