import Mathlib.Data.List.Forall2
import PageContext.Proofs.Json.Keys
import PageContext.Proofs.Success
import PageContext.Template.Basic

/-!
# The nodes of a template

Keys lead from a template to its nodes through containers only.  Classifying keeps every node at its
keys, and a template that is filled with values keeps every container and puts the value of each
directive at the keys of the directive.  In a template without repeated keys, the keys of a
directive are those of no other one.
-/

namespace PageContext.Template

def isContainer (entries : List (String × Json)) : Bool :=
  (Entries.get? "_query" entries).isNone && (Entries.get? "_data" entries).isNone

/-- The value to which keys lead through containers. -/
def nodeAt? : List String → Json → Option Json
  | [], value => some value
  | key :: keys, .object entries =>
      if isContainer entries then (Entries.get? key entries).bind (nodeAt? keys) else none
  | _ :: _, _ => none

/-- The part of a classified template to which keys lead. -/
def at? : List String → Template → Option Template
  | [], template => some template
  | key :: keys, .container entries => (Entries.get? key entries).bind (at? keys)
  | _ :: _, _ => none

/-- What holds of a node whenever it holds of everything in a container holds of every template. -/
theorem byNodes {motive : Template → Prop} (directive : ∀ node, motive (.directive node))
    (literal : ∀ value, motive (.literal value))
    (container : ∀ entries, (∀ entry ∈ entries, motive entry.2) → motive (.container entries))
    (sequence : ∀ items, motive (.sequence items)) (scalar : ∀ value, motive (.scalar value)) :
    ∀ template, motive template
  | .directive node => directive node
  | .literal value => literal value
  | .container entries =>
      container entries fun entry _ =>
        byNodes directive literal container sequence scalar entry.2
  | .sequence items => sequence items
  | .scalar value => scalar value
termination_by template => sizeOf template
decreasing_by
  rename_i member
  have smaller := List.sizeOf_lt_of_mem member
  rcases entry with ⟨key, template⟩
  simp at smaller ⊢
  omega

/-- No container of a template has a key twice. -/
inductive HasDistinctKeys : Template → Prop where
  | directive (node : DirectiveNode) : HasDistinctKeys (.directive node)
  | literal (value : Json) : HasDistinctKeys (.literal value)
  | container {entries : List (String × Template)} (distinct : Entries.DistinctKeys entries)
      (inside : ∀ entry ∈ entries, HasDistinctKeys entry.2) : HasDistinctKeys (.container entries)
  | sequence (items : List Json) : HasDistinctKeys (.sequence items)
  | scalar (value : Json) : HasDistinctKeys (.scalar value)

/-! ## Classified values -/

/-- A template is what a value is classified as, at some place. -/
def Classifies (value : Json) (template : Template) : Prop :=
  ∃ above levels, classifyAt above levels value = .ok template

def ClassifiesEntries : List (String × Json) → List (String × Template) → Prop :=
  List.Forall₂ fun entry node => entry.1 = node.1 ∧ Classifies entry.2 node.2

/-- The five kinds of nodes. -/
inductive Kind : Json → Template → Prop where
  | directive {entries : List (String × Json)} {query : Json}
      (isQuery : Entries.get? "_query" entries = some query) :
      Kind (.object entries) (.directive (directiveOf query entries))
  | literal {entries : List (String × Json)} {value : Json}
      (noQuery : Entries.get? "_query" entries = none)
      (isData : Entries.get? "_data" entries = some value) :
      Kind (.object entries) (.literal value)
  | container {entries : List (String × Json)} {templates : List (String × Template)}
      (isContainer : isContainer entries = true) (inside : ClassifiesEntries entries templates) :
      Kind (.object entries) (.container templates)
  | sequence (items : List Json) : Kind (.array items) (.sequence items)
  | scalar {value : Json} (noObject : ∀ entries, value ≠ .object entries)
      (noArray : ∀ items, value ≠ .array items) : Kind value (.scalar value)

theorem classifyEntries_sound {above : List String} {levels : Nat}
    {entries : List (String × Json)} {templates : List (String × Template)}
    (classified : classifyEntries above levels entries = .ok templates) :
    ClassifiesEntries entries templates := by
  induction entries generalizing templates with
  | nil =>
      simp only [classifyEntries, Except.ok.injEq] at classified
      subst classified
      exact .nil
  | cons entry rest hypothesis =>
      rcases entry with ⟨key, value⟩
      simp only [classifyEntries, Except.bind_eq_ok_iff, Except.pure_eq_ok_iff] at classified
      rcases classified with ⟨template, first, following, others, rfl⟩
      exact .cons ⟨rfl, key :: above, levels, first⟩ (hypothesis others)

theorem Classifies.kind {value : Json} {template : Template}
    (classified : Classifies value template) : Kind value template := by
  rcases classified with ⟨above, levels, classified⟩
  cases value with
  | object entries =>
      rw [classifyAt.eq_def] at classified
      cases isQuery : Entries.get? "_query" entries with
      | some query =>
          simp only [isQuery, Except.ok.injEq] at classified
          subst classified
          exact .directive isQuery
      | none =>
          cases isData : Entries.get? "_data" entries with
          | some data =>
              simp only [isQuery, isData, Except.ok.injEq] at classified
              subst classified
              exact .literal isQuery isData
          | none =>
              cases levels with
              | zero => simp [isQuery, isData] at classified
              | succ levels =>
                  simp only [isQuery, isData, Except.map_eq_ok_iff] at classified
                  rcases classified with ⟨templates, inside, rfl⟩
                  exact .container (by simp [isContainer, isQuery, isData])
                    (classifyEntries_sound inside)
  | array items =>
      simp only [classifyAt, Except.ok.injEq] at classified
      subst classified
      exact .sequence items
  | null | bool value | number value | string value =>
      simp only [classifyAt, Except.ok.injEq] at classified
      subst classified
      exact .scalar (by simp) (by simp)

theorem ClassifiesEntries.keys_eq {entries : List (String × Json)}
    {templates : List (String × Template)} (classified : ClassifiesEntries entries templates) :
    Entries.keys templates = Entries.keys entries := by
  induction classified with
  | nil => rfl
  | cons head _ hypothesis => simp_all [Entries.keys]

theorem ClassifiesEntries.exists_entry {entries : List (String × Json)}
    {templates : List (String × Template)} (classified : ClassifiesEntries entries templates)
    {node : String × Template} (member : node ∈ templates) :
    ∃ entry ∈ entries, Classifies entry.2 node.2 := by
  induction classified with
  | nil => simp at member
  | @cons entry _ _ _ head _ hypothesis =>
      rcases List.mem_cons.mp member with rfl | below
      · exact ⟨entry, List.mem_cons_self, head.2⟩
      · rcases hypothesis below with ⟨other, otherMember, otherClassified⟩
        exact ⟨other, List.mem_cons_of_mem _ otherMember, otherClassified⟩

theorem ClassifiesEntries.get? {entries : List (String × Json)}
    {templates : List (String × Template)} (classified : ClassifiesEntries entries templates)
    (key : String) :
    Option.Rel Classifies (Entries.get? key entries) (Entries.get? key templates) := by
  induction classified with
  | nil => exact .none
  | @cons entry node _ _ head _ hypothesis =>
      by_cases same : node.1 = key
      · simpa [Entries.get?, head.1, same] using Option.Rel.some head.2
      · simpa [Entries.get?, head.1, same] using hypothesis

/-- Keys lead to a node of a value exactly when they lead to its classification. -/
theorem Classifies.nodeAt? {value : Json} {template : Template}
    (classified : Classifies value template) (keys : List String) :
    Option.Rel Classifies (nodeAt? keys value) (template.at? keys) := by
  induction keys generalizing value template with
  | nil => exact .some classified
  | cons key keys hypothesis =>
      cases classified.kind with
      | @container entries templates isContainer inside =>
          have related := inside.get? key
          simp only [Template.nodeAt?, isContainer, if_true, Template.at?]
          revert related
          generalize Entries.get? key entries = child
          generalize Entries.get? key templates = node
          rintro (childClassified | _)
          · exact hypothesis childClassified
          · exact .none
      | directive isQuery => simp [Template.nodeAt?, isContainer, isQuery, at?]
      | literal noQuery isData => simp [Template.nodeAt?, isContainer, isData, at?]
      | sequence items => exact .none
      | scalar noObject noArray =>
          cases value with
          | object entries => exact absurd rfl (noObject entries)
          | _ => exact .none

theorem Classifies.at?_of_nodeAt? {value node : Json} {template : Template}
    (classified : Classifies value template) {keys : List String}
    (isNode : Template.nodeAt? keys value = some node) :
    ∃ part, template.at? keys = some part ∧ Classifies node part := by
  have related := classified.nodeAt? keys
  rw [isNode] at related
  cases reached : template.at? keys with
  | none => simp [reached] at related
  | some part => exact ⟨part, rfl, by simpa [reached] using related⟩

theorem Classifies.nodeAt?_of_at? {value : Json} {template part : Template}
    (classified : Classifies value template) {keys : List String}
    (reached : template.at? keys = some part) :
    ∃ node, Template.nodeAt? keys value = some node ∧ Classifies node part := by
  have related := classified.nodeAt? keys
  rw [reached] at related
  cases isNode : Template.nodeAt? keys value with
  | none => simp [isNode] at related
  | some node => exact ⟨node, rfl, by simpa [isNode] using related⟩

/-- The directives of a classification are the objects with a query. -/
theorem Classifies.at?_directive_iff {value : Json} {template : Template}
    (classified : Classifies value template) (keys : List String) (node : DirectiveNode) :
    template.at? keys = some (.directive node) ↔
      ∃ entries query, Template.nodeAt? keys value = some (.object entries) ∧
        Entries.get? "_query" entries = some query ∧ node = directiveOf query entries := by
  constructor
  · intro isDirective
    rcases classified.nodeAt?_of_at? isDirective with ⟨part, isNode, partClassified⟩
    cases partClassified.kind with
    | directive isQuery => exact ⟨_, _, isNode, isQuery, rfl⟩
  · rintro ⟨entries, query, isNode, isQuery, rfl⟩
    rcases classified.at?_of_nodeAt? isNode with ⟨part, reached, partClassified⟩
    cases partClassified.kind with
    | directive isOther =>
        rw [isQuery, Option.some.injEq] at isOther
        rw [reached, isOther]
    | literal noQuery isData => simp [isQuery] at noQuery
    | container container inside => simp [isContainer, isQuery] at container
    | scalar noObject noArray => exact absurd rfl (noObject entries)

/-- Classifying a value without repeated keys gives a template without repeated keys. -/
theorem Classifies.hasDistinctKeys {value : Json} {template : Template}
    (distinct : value.HasDistinctKeys) (classified : Classifies value template) :
    template.HasDistinctKeys := by
  induction distinct generalizing template with
  | object distinct _ hypothesis =>
      cases classified.kind with
      | directive isQuery => exact .directive _
      | literal noQuery isData => exact .literal _
      | container isContainer inside =>
          refine .container ?_ ?_
          · rw [Entries.DistinctKeys, inside.keys_eq]
            exact distinct
          · intro node member
            rcases inside.exists_entry member with ⟨entry, entryMember, entryClassified⟩
            exact hypothesis entry entryMember entryClassified
      | scalar noObject noArray => exact absurd rfl (noObject _)
  | array _ _ =>
      cases classified.kind with
      | sequence _ => exact .sequence _
      | scalar noObject noArray => exact .scalar _
  | null | bool value | number value | string value =>
      cases classified.kind with
      | scalar noObject noArray => exact .scalar _

end PageContext.Template
