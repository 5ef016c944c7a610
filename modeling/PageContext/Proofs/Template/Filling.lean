import Mathlib.Data.List.Nodup
import PageContext.Proofs.Template.Nodes

/-!
# Filling a template with values

Each directive of a template has the keys that lead to it.  A template can be filled with a value
for each directive that depends on these keys; filling it with values that depend on the directives
alone is the special case that resolving uses.  The value of a directive ends up at its keys, and
changing the value of one directive changes the filled template there and nowhere else.
-/

namespace PageContext.Template

mutual

/-- The directives of a template with their keys, in document order. -/
def located : Template → List (List String × DirectiveNode)
  | .directive node => [([], node)]
  | .literal _ => []
  | .container entries => locatedInEntries entries
  | .sequence _ => []
  | .scalar _ => []

def locatedInEntries : List (String × Template) → List (List String × DirectiveNode)
  | [] => []
  | (key, template) :: rest =>
      (located template).map (fun found => (key :: found.1, found.2)) ++ locatedInEntries rest

end

mutual

/-- The value of a template in which each directive has a value that depends on its keys. -/
def fillAt (value : List String → DirectiveNode → Json) : Template → Json
  | .directive node => value [] node
  | .literal data => data
  | .container entries => .object (fillEntriesAt value entries)
  | .sequence items => .array items
  | .scalar data => data

def fillEntriesAt (value : List String → DirectiveNode → Json) :
    List (String × Template) → List (String × Json)
  | [] => []
  | (key, template) :: rest =>
      (key, fillAt (fun keys => value (key :: keys)) template) :: fillEntriesAt value rest

end

theorem fillEntriesAt_eq_map (value : List String → DirectiveNode → Json)
    (entries : List (String × Template)) :
    fillEntriesAt value entries =
      entries.map fun entry =>
        (entry.1, fillAt (fun keys => value (entry.1 :: keys)) entry.2) := by
  induction entries with
  | nil => rfl
  | cons entry rest hypothesis => simp [fillEntriesAt, hypothesis]

theorem fillEntries_eq_map (value : DirectiveNode → Json) (entries : List (String × Template)) :
    fillEntries value entries = entries.map fun entry => (entry.1, fill value entry.2) := by
  induction entries with
  | nil => rfl
  | cons entry rest hypothesis => simp [fillEntries, hypothesis]

/-- Values that do not depend on the keys fill a template as resolving does. -/
theorem fillAt_eq_fill (value : DirectiveNode → Json) (template : Template) :
    fillAt (fun _ => value) template = fill value template := by
  induction template using byNodes with
  | container entries hypothesis =>
      simp only [fillAt, fill, fillEntriesAt_eq_map, fillEntries_eq_map, Json.object.injEq]
      apply List.map_congr_left
      intro entry member
      rw [hypothesis entry member]
  | _ => rfl

/-- The part of a filled template under the keys of a node is the filled node. -/
theorem fillAt_under? (value : List String → DirectiveNode → Json) {template node : Template}
    {keys : List String} (found : template.at? keys = some node) :
    (template.fillAt value).under? keys =
      some (node.fillAt fun more => value (keys ++ more)) := by
  induction keys generalizing template value with
  | nil =>
      simp only [at?, Option.some.injEq] at found
      rw [found]
      rfl
  | cons key keys hypothesis =>
      cases template with
      | container entries =>
          simp only [at?, Option.bind_eq_some_iff] at found
          rcases found with ⟨child, isChild, found⟩
          have filledChild := Entries.get?_map
            (fun key => fillAt fun keys => value (key :: keys)) key entries
          rw [isChild] at filledChild
          simp [Json.under?, fillAt, Json.field?, fillEntriesAt_eq_map, filledChild,
            hypothesis _ found]
      | _ => simp [at?] at found

theorem fill_under? (value : DirectiveNode → Json) {template node : Template}
    {keys : List String} (found : template.at? keys = some node) :
    (template.fill value).under? keys = some (node.fill value) := by
  rw [← fillAt_eq_fill, ← fillAt_eq_fill]
  exact fillAt_under? _ found

/-! ## The directives and their keys -/

theorem locatedInEntries_eq_flatMap (entries : List (String × Template)) :
    locatedInEntries entries =
      entries.flatMap fun entry =>
        (located entry.2).map fun found => (entry.1 :: found.1, found.2) := by
  induction entries with
  | nil => rfl
  | cons entry rest hypothesis => simp [locatedInEntries, hypothesis]

theorem directivesOfEntries_eq_flatMap (entries : List (String × Template)) :
    directivesOfEntries entries = entries.flatMap fun entry => directives entry.2 := by
  induction entries with
  | nil => rfl
  | cons entry rest hypothesis => simp [directivesOfEntries, hypothesis]

theorem located_map_snd (template : Template) :
    template.located.map Prod.snd = template.directives := by
  induction template using byNodes with
  | container entries hypothesis =>
      simp only [located, directives, locatedInEntries_eq_flatMap,
        directivesOfEntries_eq_flatMap, List.map_flatMap, List.map_map]
      apply List.flatMap_congr
      intro entry member
      rw [← hypothesis entry member]
      rfl
  | _ => rfl

theorem mem_located_container {entries : List (String × Template)}
    {found : List String × DirectiveNode} :
    found ∈ (container entries).located ↔
      ∃ entry ∈ entries, ∃ inner ∈ entry.2.located, found = (entry.1 :: inner.1, inner.2) := by
  simp only [located, locatedInEntries_eq_flatMap, List.mem_flatMap, List.mem_map, eq_comm]

/-- A directive is located at the keys that lead to it. -/
theorem mem_located_iff {template : Template} (distinct : template.HasDistinctKeys)
    {keys : List String} {node : DirectiveNode} :
    (keys, node) ∈ template.located ↔ template.at? keys = some (.directive node) := by
  induction keys generalizing template with
  | nil =>
      cases distinct with
      | directive other => simp [located, at?, eq_comm]
      | container distinct inside => simp [mem_located_container, at?]
      | _ => simp [located, at?]
  | cons key keys hypothesis =>
      cases distinct with
      | @container entries distinct inside =>
          simp only [mem_located_container, at?, Option.bind_eq_some_iff,
            Entries.get?_eq_some_iff distinct]
          constructor
          · rintro ⟨⟨_, child⟩, member, ⟨inner, _⟩, isInner, ⟨⟩⟩
            exact ⟨child, member, (hypothesis (inside _ member)).mp isInner⟩
          · rintro ⟨child, member, found⟩
            exact ⟨(key, child), member, (keys, node),
              (hypothesis (inside _ member)).mpr found, rfl⟩
      | _ => simp [located, at?]

/-- No two directives have the same keys. -/
theorem located_keys_nodup {template : Template} (distinct : template.HasDistinctKeys) :
    (template.located.map Prod.fst).Nodup := by
  induction distinct with
  | @container entries distinct _ hypothesis =>
      simp only [located, locatedInEntries_eq_flatMap, List.map_flatMap, List.map_map]
      rw [List.nodup_flatMap]
      constructor
      · intro entry member
        have inner := hypothesis entry member
        simpa [Function.comp_def] using
          inner.map (f := List.cons entry.1) (List.cons_injective)
      · have keysDiffer := List.pairwise_map.mp distinct
        apply keysDiffer.imp
        intro first second differ keys inFirst inSecond
        simp only [List.mem_map, Function.comp_apply] at inFirst inSecond
        rcases inFirst with ⟨_, _, rfl⟩
        rcases inSecond with ⟨_, _, same⟩
        exact differ (List.cons.inj same).1.symm
  | _ => simp [located]

/-- The object to which keys lead is a directive. -/
def HasDirective (value : Json) (keys : List String) (node : DirectiveNode) : Prop :=
  ∃ entries query, Template.nodeAt? keys value = some (.object entries) ∧
    Entries.get? "_query" entries = some query ∧ node = directiveOf query entries

theorem HasDirective.unique {value : Json} {keys : List String} {first second : DirectiveNode}
    (hasFirst : HasDirective value keys first) (hasSecond : HasDirective value keys second) :
    first = second := by
  rcases hasFirst with ⟨entries, query, isNode, isQuery, rfl⟩
  rcases hasSecond with ⟨others, other, isOther, isOtherQuery, rfl⟩
  obtain rfl := Json.object.inj (Option.some.inj (isNode.symm.trans isOther))
  obtain rfl := Option.some.inj (isQuery.symm.trans isOtherQuery)
  rfl

theorem Classifies.mem_located_iff {value : Json} {template : Template}
    (distinct : value.HasDistinctKeys) (classified : Classifies value template)
    {keys : List String} {node : DirectiveNode} :
    (keys, node) ∈ template.located ↔ HasDirective value keys node := by
  rw [Template.mem_located_iff (classified.hasDistinctKeys distinct),
    classified.at?_directive_iff]
  rfl

theorem Classifies.exists_directive_iff {value : Json} {template : Template}
    (distinct : value.HasDistinctKeys) (classified : Classifies value template)
    {property : DirectiveNode → Prop} :
    (∃ node ∈ template.directives, property node) ↔
      ∃ keys node, HasDirective value keys node ∧ property node := by
  simp only [← located_map_snd, ← classified.mem_located_iff distinct, List.mem_map, Prod.exists,
    exists_eq_right]
  constructor
  · rintro ⟨node, ⟨keys, isLocated⟩, holds⟩
    exact ⟨keys, node, isLocated, holds⟩
  · rintro ⟨keys, node, isLocated, holds⟩
    exact ⟨node, ⟨keys, isLocated⟩, holds⟩

/-! ## What is collected from the directives -/

/-- What some directives give, with their keys. -/
def collect {α : Type} (pick : DirectiveNode → Option α) (template : Template) :
    List (List String × α) :=
  template.located.filterMap fun found => (pick found.2).map fun picked => (found.1, picked)

theorem collect_map_snd {α : Type} (pick : DirectiveNode → Option α) (template : Template) :
    (template.collect pick).map Prod.snd = template.directives.filterMap pick := by
  rw [collect, ← located_map_snd, List.filterMap_map, List.map_filterMap]
  simp [Function.comp_def]

theorem collect_keys_nodup {α : Type} (pick : DirectiveNode → Option α) {template : Template}
    (distinct : template.HasDistinctKeys) : ((template.collect pick).map Prod.fst).Nodup := by
  have located := List.pairwise_map.mp (located_keys_nodup distinct)
  rw [collect, List.Nodup, List.pairwise_map, List.pairwise_filterMap]
  refine located.imp ?_
  intro first second differ firstPicked isFirst secondPicked isSecond
  rcases Option.map_eq_some_iff.mp isFirst with ⟨_, _, rfl⟩
  rcases Option.map_eq_some_iff.mp isSecond with ⟨_, _, rfl⟩
  exact differ

/-- What a directive gives is collected from the keys that lead to the object with its query. -/
theorem Classifies.mem_collect_iff {α : Type} {value : Json} {template : Template}
    (distinct : value.HasDistinctKeys) (classified : Classifies value template)
    (pick : DirectiveNode → Option α) (keys : List String) (picked : α) :
    (keys, picked) ∈ template.collect pick ↔
      ∃ entries query, Template.nodeAt? keys value = some (.object entries) ∧
        Entries.get? "_query" entries = some query ∧
          pick (directiveOf query entries) = some picked := by
  have isCollected : (keys, picked) ∈ template.collect pick ↔
      ∃ node, (keys, node) ∈ template.located ∧ pick node = some picked := by
    simp [collect]
  simp only [isCollected, classified.mem_located_iff distinct]
  constructor
  · rintro ⟨node, ⟨entries, query, isNode, isQuery, rfl⟩, isPicked⟩
    exact ⟨entries, query, isNode, isQuery, isPicked⟩
  · rintro ⟨entries, query, isNode, isQuery, isPicked⟩
    exact ⟨_, ⟨entries, query, isNode, isQuery, rfl⟩, isPicked⟩

/-! ## Values that depend on the keys -/

/-- Values that agree on the directives of a template fill it in the same way. -/
theorem fillAt_congr {first second : List String → DirectiveNode → Json} {template : Template}
    (agree : ∀ found ∈ template.located, first found.1 found.2 = second found.1 found.2) :
    template.fillAt first = template.fillAt second := by
  induction template using byNodes generalizing first second with
  | directive node => exact agree ([], node) (by simp [located])
  | container entries hypothesis =>
      simp only [fillAt, fillEntriesAt_eq_map, Json.object.injEq]
      apply List.map_congr_left
      intro entry member
      have inside : entry.2.fillAt (fun keys => first (entry.1 :: keys)) =
          entry.2.fillAt fun keys => second (entry.1 :: keys) := by
        apply hypothesis entry member
        intro found isFound
        exact agree (entry.1 :: found.1, found.2)
          (mem_located_container.mpr ⟨entry, member, found, isFound, rfl⟩)
      rw [inside]
  | _ => rfl

/-- Changing the value of one directive replaces the value at its keys and nothing else. -/
theorem fillAt_eq_replaceUnder {first second : List String → DirectiveNode → Json}
    {template : Template} (distinct : template.HasDistinctKeys) {keys : List String}
    {node : DirectiveNode} (found : template.at? keys = some (.directive node))
    (agree : ∀ other, other ≠ keys → first other = second other) :
    template.fillAt second = Json.replaceUnder (second keys node) keys (template.fillAt first) := by
  induction keys generalizing template first second with
  | nil =>
      simp only [at?, Option.some.injEq] at found
      rw [found]
      rfl
  | cons key keys hypothesis =>
      cases distinct with
      | @container entries distinct inside =>
          simp only [at?, Option.bind_eq_some_iff, Entries.get?_eq_some_iff distinct] at found
          rcases found with ⟨child, isChild, found⟩
          simp only [fillAt, fillEntriesAt_eq_map, Json.replaceUnder, List.map_map,
            Json.object.injEq]
          apply List.map_congr_left
          rintro ⟨other, template⟩ member
          -- The keys go on below `key` only; every other entry sees the same values as before.
          by_cases same : other = key
          · subst same
            have isTemplate : template = child :=
              Option.some.inj ((Entries.get?_of_mem distinct member).symm.trans
                (Entries.get?_of_mem distinct isChild))
            subst isTemplate
            have below : template.fillAt (fun keys => second (other :: keys)) =
                Json.replaceUnder (second (other :: keys) node) keys
                  (template.fillAt fun keys => first (other :: keys)) := by
              apply hypothesis (inside _ member) found
              intro more differ
              exact agree (other :: more) (by simpa using differ)
            simp [below]
          · have unchanged : (fun keys => second (other :: keys)) =
                fun keys => first (other :: keys) := by
              funext more
              exact (agree (other :: more) (by simp [same])).symm
            simp [same, unchanged]
      | _ => simp [at?] at found

end PageContext.Template
