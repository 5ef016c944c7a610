import PageContext.Proofs.Steps
import PageContext.Proofs.Template.FanOut
import PageContext.Proofs.Template.Resolving

/-!
# Templates that are refused

Nothing but the depth of its containers makes a template unresolvable.  A container is too deep when
as many keys lead to it, through containers only, as levels are allowed; of several such containers
the first one of the document is reported.  Templates are classified as a whole before anything else
happens, so that resolving a refused template makes no call, whatever directives it has.
-/

namespace PageContext

namespace Template

/-- Whether a value is a container. -/
def isContainerNode : Json → Bool
  | .object entries => isContainer entries
  | _ => false

/-- Keys lead from a value to a node of it through containers. -/
inductive Reaches : Json → List String → Json → Prop where
  | here (value : Json) : Reaches value [] value
  | inside {entries : List (String × Json)} {key : String} {value node : Json} {keys : List String}
      (container : isContainer entries = true) (member : (key, value) ∈ entries)
      (reaches : Reaches value keys node) : Reaches (.object entries) (key :: keys) node

mutual

/-- The nodes of a value with the keys that lead to them, in document order. -/
def nodes : Json → List (List String × Json)
  | .object entries =>
      ([], .object entries) :: if isContainer entries then nodesOfEntries entries else []
  | value => [([], value)]

def nodesOfEntries : List (String × Json) → List (List String × Json)
  | [] => []
  | (key, value) :: rest =>
      (nodes value).map (fun found => (key :: found.1, found.2)) ++ nodesOfEntries rest

end

/-- Whether a node is a container to which a certain number of keys lead. -/
def isContainerAt (depth : Nat) (found : List String × Json) : Bool :=
  found.1.length == depth && isContainerNode found.2

theorem nodesOfEntries_eq_flatMap (entries : List (String × Json)) :
    nodesOfEntries entries =
      entries.flatMap fun entry =>
        (nodes entry.2).map fun found => (entry.1 :: found.1, found.2) := by
  induction entries with
  | nil => rfl
  | cons entry rest hypothesis => simp [nodesOfEntries, hypothesis]

theorem nodes_of_not_object {value : Json} (noObject : ∀ entries, value ≠ .object entries) :
    nodes value = [([], value)] := by
  cases value with
  | object entries => exact absurd rfl (noObject entries)
  | _ => simp only [nodes]

theorem mem_nodes_iff {value node : Json} {keys : List String} :
    (keys, node) ∈ nodes value ↔ Reaches value keys node := by
  induction value using Json.byEntries generalizing keys with
  | object entries hypothesis =>
      constructor
      · intro member
        rw [nodes, List.mem_cons] at member
        rcases member with isRoot | inside
        · cases isRoot
          exact .here _
        · split at inside
          · next container =>
            rw [nodesOfEntries_eq_flatMap, List.mem_flatMap] at inside
            rcases inside with ⟨⟨key, value⟩, member, inside⟩
            rcases List.mem_map.mp inside with ⟨⟨keys, node⟩, isNode, same⟩
            cases same
            exact .inside container member ((hypothesis _ member).mp isNode)
          · simp at inside
      · intro reaches
        rw [nodes, List.mem_cons]
        cases reaches with
        | here => exact .inl rfl
        | @inside _ key value _ keys container member reaches =>
            right
            rw [if_pos container, nodesOfEntries_eq_flatMap, List.mem_flatMap]
            exact ⟨(key, value), member, List.mem_map.mpr
              ⟨(keys, node), (hypothesis _ member).mpr reaches, rfl⟩⟩
  | other value noObject =>
      rw [nodes_of_not_object noObject, List.mem_singleton]
      constructor
      · intro isRoot
        cases isRoot
        exact .here _
      · intro reaches
        cases reaches with
        | here => rfl
        | inside container member reaches => exact absurd rfl (noObject _)

/-! ## What is reported -/

theorem cause?_classifyEntries (above : List String) (levels : Nat)
    {entries : List (String × Json)}
    (inside : ∀ entry ∈ entries, ∀ above, (classifyAt above levels entry.2).cause? =
      ((nodes entry.2).find? (isContainerAt levels)).map fun found =>
        ⟨above.reverse ++ found.1⟩) :
    (classifyEntries above levels entries).cause? =
      ((nodesOfEntries entries).find? (isContainerAt (levels + 1))).map fun found =>
        ⟨above.reverse ++ found.1⟩ := by
  induction entries with
  | nil => rfl
  | cons entry rest hypothesis =>
      rcases entry with ⟨key, value⟩
      have first := inside _ List.mem_cons_self (key :: above)
      have others := hypothesis fun entry member => inside entry (List.mem_cons_of_mem _ member)
      have oneDeeper : (isContainerAt (levels + 1) ∘ fun found => (key :: found.1, found.2)) =
          isContainerAt levels := by
        funext found
        simp [isContainerAt]
      rw [classifyEntries, Except.cause?_bind_bind, first, others, nodesOfEntries,
        List.find?_append, List.find?_map, oneDeeper]
      cases (nodes value).find? (isContainerAt levels) <;> simp

/-- A value is refused for the first container that is as deep as levels are left. -/
theorem cause?_classifyAt (above : List String) (levels : Nat) (value : Json) :
    (classifyAt above levels value).cause? =
      ((nodes value).find? (isContainerAt levels)).map fun found =>
        ⟨above.reverse ++ found.1⟩ := by
  induction value using Json.byEntries generalizing above levels with
  | object entries hypothesis =>
      rw [classifyAt.eq_def]
      simp only [nodes]
      cases isQuery : Entries.get? "_query" entries with
      | some query => simp [isContainerAt, isContainerNode, isContainer, isQuery]
      | none =>
          cases isData : Entries.get? "_data" entries with
          | some data => simp [isContainerAt, isContainerNode, isContainer, isQuery, isData]
          | none =>
              have container : isContainer entries = true := by simp [isContainer, isQuery, isData]
              cases levels with
              | zero => simp [isContainerAt, isContainerNode, container]
              | succ levels =>
                  have inside := cause?_classifyEntries above levels
                    fun entry member above => hypothesis entry member above levels
                  have notHere : isContainerAt (levels + 1) ([], .object entries) = false := rfl
                  simp only [Except.cause?_map, inside, container, if_true, List.find?_cons,
                    notHere]
  | other value noObject =>
      rw [nodes_of_not_object noObject]
      cases value with
      | object entries => exact absurd rfl (noObject entries)
      | _ => simp [classifyAt, isContainerAt, isContainerNode]

theorem exists_deepContainer_iff {depth : Nat} {value : Json} :
    (∃ found, (nodes value).find? (isContainerAt depth) = some found) ↔
      ∃ keys entries, keys.length = depth ∧ isContainer entries = true ∧
        Reaches value keys (.object entries) := by
  rw [← Option.isSome_iff_exists, List.find?_isSome]
  constructor
  · rintro ⟨⟨keys, node⟩, member, isDeep⟩
    simp only [isContainerAt, Bool.and_eq_true, beq_iff_eq] at isDeep
    rcases isDeep with ⟨isDepth, container⟩
    cases node with
    | object entries => exact ⟨keys, entries, isDepth, container, mem_nodes_iff.mp member⟩
    | _ => simp [isContainerNode] at container
  · rintro ⟨keys, entries, isDepth, container, reaches⟩
    refine ⟨(keys, .object entries), mem_nodes_iff.mpr reaches, ?_⟩
    simp [isContainerAt, isContainerNode, isDepth, container]

end Template

/-- A dollar sign for the root and a dot with a key for each step below it. -/
def TemplateError.path (error : TemplateError) : String :=
  error.keys.foldl (fun path key => path ++ "." ++ key) "$"

theorem TemplateError.path_eq (error : TemplateError) :
    error.path = "$" ++ String.join (error.keys.map fun key => "." ++ key) := by
  rw [path]
  generalize "$" = start
  induction error.keys generalizing start with
  | nil => simp
  | cons key keys hypothesis =>
      rw [List.foldl_cons, hypothesis]
      simp [String.append_assoc]

theorem TemplateError.message_eq (error : TemplateError) :
    error.message = "Invalid template node at " ++ error.path ++
      ": containers nested deeper than 128 levels" := by
  have isLimit : toString Template.depthLimit = "128" := by decide
  have beginning : "Invalid template node at $" = "Invalid template node at " ++ "$" := rfl
  have ending : ": containers nested deeper than 128 levels" =
      ": containers nested deeper than " ++ "128" ++ " levels" := rfl
  unfold message
  simp only [path_eq, isLimit, beginning, ending, String.append_assoc]

/-! ## What a refused template leads to -/

/-- How far resolving has come. -/
inductive Resolving where
  | received (template : Json)
  | underway (progress : Progress)
  | refused (cause : TemplateError)

/-- A template is classified as a whole; only if it is accepted, its directives begin. -/
inductive Resolving.Step (resolver : Resolver) (replies : List String → Reply) :
    Resolving → CallLog → Resolving → Prop where
  | accept {template : Json} {classified : Template}
      (accepted : Template.classify template = .ok classified) :
      Step resolver replies (.received template) [] (.underway (Progress.start classified))
  | refuse {template : Json} {cause : TemplateError}
      (isRefused : Template.classify template = .error cause) :
      Step resolver replies (.received template) [] (.refused cause)
  | proceed {progress next : Progress} {calls : CallLog}
      (step : Progress.Step resolver replies progress calls next) :
      Step resolver replies (.underway progress) calls (.underway next)

namespace Template

theorem cause?_classify (template : Json) :
    (classify template).cause? =
      ((nodes template).find? (isContainerAt 128)).map fun found => ⟨found.1⟩ := by
  rw [classify, cause?_classifyAt]
  rfl

end Template

namespace Resolver

theorem exists_resolve_eq_failure_iff (resolver : Resolver) (template : Json) :
    (∃ cause, resolver.resolve template = .error (.failure cause)) ↔
      ∃ keys entries, keys.length = 128 ∧ Template.isContainer entries = true ∧
        Template.Reaches template keys (.object entries) := by
  rw [← Template.exists_deepContainer_iff]
  simp only [resolve_eq_failure_iff]
  simp only [← Except.cause?_eq_some_iff, Template.cause?_classify, Option.map_eq_some_iff]
  constructor
  · rintro ⟨_, found, isFound, _⟩
    exact ⟨found, isFound⟩
  · rintro ⟨found, isFound⟩
    exact ⟨_, found, isFound, rfl⟩

/-- Where a template is refused, nothing is ever under way. -/
theorem steps_of_refused {resolver : Resolver} {replies : List String → Reply} {template : Json}
    {cause : TemplateError} (isRefused : Template.classify template = .error cause)
    {calls : CallLog} {state : Resolving}
    (run : Steps (Resolving.Step resolver replies) (.received template) calls state) :
    calls = [] ∧ (state = .received template ∨ state = .refused cause) := by
  cases run with
  | done => exact ⟨rfl, .inl rfl⟩
  | step step rest =>
      cases step with
      | accept accepted => simp [isRefused] at accepted
      | refuse isRefused' =>
          rw [isRefused, Except.error.injEq] at isRefused'
          subst isRefused'
          cases rest with
          | done => exact ⟨rfl, .inr rfl⟩
          | step step _ => nomatch step

/-- Resolving fails exactly for templates with a container to which 128 keys lead through
containers.  It reports the first such container of the document by the path of its keys, and it
makes no call, in whatever order things happen. -/
theorem refused_for_depth (resolver : Resolver) (template : Json) :
    ((∃ cause, resolver.resolve template = .error (.failure cause)) ↔
      ∃ keys entries, keys.length = 128 ∧ Template.isContainer entries = true ∧
        Template.Reaches template keys (.object entries)) ∧
    ∀ cause, resolver.resolve template = .error (.failure cause) →
      (∃ container, (Template.nodes template).find? (Template.isContainerAt 128) =
        some (cause.keys, container)) ∧
      cause.message = "Invalid template node at " ++ cause.path ++
        ": containers nested deeper than 128 levels" ∧
      ∀ replies calls state,
        Steps (Resolving.Step resolver replies) (.received template) calls state →
          calls = [] ∧ (state = .received template ∨ state = .refused cause) := by
  refine ⟨resolver.exists_resolve_eq_failure_iff template, ?_⟩
  intro cause fails
  have isRefused := resolve_eq_failure_iff.mp fails
  refine ⟨?_, cause.message_eq, ?_⟩
  · have isCause := Except.cause?_eq_some_iff.mpr isRefused
    rw [Template.cause?_classify, Option.map_eq_some_iff] at isCause
    rcases isCause with ⟨⟨keys, container⟩, isFound, rfl⟩
    exact ⟨container, isFound⟩
  · intro replies calls state run
    exact steps_of_refused isRefused run

/-- The conclusion for a container that lies too deep behind a directive. -/
theorem refused_for_depth_behind_directive :
    let deep : Json := Nat.repeat (fun inner => .object [("n", inner)]) 128 (.object [])
    let template : Json := .object [("first", .object [("_query", .string "\x7bcms\x7d/get/1")]),
      ("second", deep)]
    let resolver : Resolver := ⟨⟨0, ⟨0, 0⟩⟩, fun _ => ⟨0, .error (.notFound "")⟩, none, none⟩
    let cause : TemplateError := ⟨"second" :: List.replicate 127 "n"⟩
    resolver.resolve template = .error (.failure cause) ∧
      cause.message = "Invalid template node at " ++ cause.path ++
        ": containers nested deeper than 128 levels" ∧
      ∀ replies calls state,
        Steps (Resolving.Step resolver replies) (.received template) calls state → calls = [] := by
  intro deep template resolver cause
  have fails : resolver.resolve template = .error (.failure cause) :=
    resolve_eq_failure_iff.mpr (Except.cause?_eq_some_iff.mp (by decide +kernel))
  rcases (resolver.refused_for_depth template).2 cause fails with ⟨_, isMessage, noCalls⟩
  refine ⟨fails, isMessage, ?_⟩
  intro replies calls state run
  exact (noCalls replies calls state run).1

end Resolver

end PageContext
