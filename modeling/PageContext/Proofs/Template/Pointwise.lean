import PageContext.Proofs.Calendar.Instants
import PageContext.Proofs.Store.Listings
import PageContext.Proofs.Template.Resolving

/-!
# Resolving node by node

Resolving a template determines the value at the keys of each node from that node alone.  `Places`
says what may stand in the place of a node, and `Runs` what the steps of a directive come to.  A
directive that fails at any step is replaced by its default and leaves one warning behind; nothing
else in the template depends on it.  Only a directive that crashes leaves nothing at all.
-/

namespace PageContext

/-- The content of an answer.  An envelope for one record holds the record and one for many records
their list, each record standing for its payload; any other value under the key of the list is
itself the content, and so is an answer that is no envelope. -/
inductive Envelope.HasContent : Json → Json → Prop where
  | item {answer record content : Json} (isItem : answer.field? "Item" = some record)
      (isPayload : IsPayload record content) : HasContent answer content
  | items {answer : Json} {records contents : List Json} (noItem : answer.field? "Item" = none)
      (areItems : answer.field? "Items" = some (.array records))
      (arePayloads : List.Forall₂ IsPayload records contents) :
      HasContent answer (.array contents)
  | noList {answer content : Json} (noItem : answer.field? "Item" = none)
      (isContent : answer.field? "Items" = some content)
      (noArray : ∀ records, content ≠ .array records) : HasContent answer content
  | plain {answer : Json} (noItem : answer.field? "Item" = none)
      (noItems : answer.field? "Items" = none) : HasContent answer answer

/-- The chain of a directive: no specification without `_process`, the items of an array, and any
other value alone. -/
inductive Template.HasChain (entries : List (String × Json)) : List Json → Prop where
  | absent (noProcess : Entries.get? "_process" entries = none) : HasChain entries []
  | several {specs : List Json}
      (areSpecs : Entries.get? "_process" entries = some (.array specs)) : HasChain entries specs
  | sole {spec : Json} (isSpec : Entries.get? "_process" entries = some spec)
      (noArray : ∀ specs, spec ≠ .array specs) : HasChain entries [spec]

theorem Envelope.IsPayload.eq_payload {record content : Json} (isPayload : IsPayload record content) :
    payload record = content := by
  cases isPayload with
  | data hasData => simp [payload, hasData]
  | whole noData => simp [payload, noData]

theorem Envelope.hasContent_iff {answer content : Json} :
    HasContent answer content ↔ unwrap answer = content := by
  constructor
  · intro hasContent
    cases hasContent with
    | item isItem isPayload => simp [unwrap, isItem, isPayload.eq_payload]
    | @items records contents noItem areItems arePayloads =>
        have areContents : records.map payload = contents := by
          rw [← List.forall₂_eq_eq_eq, List.forall₂_map_left_iff]
          exact arePayloads.imp fun _ _ isPayload => isPayload.eq_payload
        simp [unwrap, noItem, areItems, areContents]
    | noList noItem isContent noArray =>
        cases content with
        | array records => exact absurd rfl (noArray records)
        | _ => simp [unwrap, noItem, isContent]
    | plain noItem noItems => simp [unwrap, noItem, noItems]
  · rintro rfl
    cases isItem : answer.field? "Item" with
    | some record =>
        rw [unwrap, isItem]
        exact .item isItem (isPayload_payload record)
    | none =>
        cases areItems : answer.field? "Items" with
        | none =>
            simp only [unwrap, isItem, areItems]
            exact .plain isItem areItems
        | some value =>
            simp only [unwrap, isItem, areItems]
            cases value with
            | array records => exact .items isItem areItems (forall₂_isPayload records)
            | _ => exact .noList isItem areItems nofun

theorem Template.hasChain_iff {entries : List (String × Json)} {specs : List Json} :
    HasChain entries specs ↔ processSpecs (Entries.get? "_process" entries) = specs := by
  constructor
  · intro hasChain
    cases hasChain with
    | absent noProcess => simp [processSpecs, noProcess]
    | several areSpecs => simp [processSpecs, areSpecs]
    | @sole spec isSpec noArray =>
        cases spec with
        | array specs => exact absurd rfl (noArray specs)
        | _ => simp [processSpecs, isSpec]
  · rintro rfl
    cases isProcess : Entries.get? "_process" entries with
    | none => exact .absent isProcess
    | some spec =>
        cases spec with
        | array specs => exact .several isProcess
        | _ => exact .sole isProcess nofun

namespace Resolver

/-- What the steps of an object with a query come to: the query is read and executed, the answer is
taken out of its envelope and sent through the transforms.  The first step that does not succeed
decides, and the transforms may crash. -/
inductive Runs (resolver : Resolver) (entries : List (String × Json)) :
    Except (Stop QueryError) Json → Prop where
  | notText {query : Json} (isQuery : Entries.get? "_query" entries = some query)
      (noText : ∀ text, query ≠ .string text) :
      Runs resolver entries (.error (.failure (.malformed query.compact)))
  | notExecuted {directive : String} {cause : QueryError}
      (isQuery : Entries.get? "_query" entries = some (.string directive))
      (execution : executeDirective resolver.frame resolver.backend resolver.limit
        resolver.caller directive = .error cause) :
      Runs resolver entries (.error (.failure cause))
  | notTransformed {directive : String} {answer content : Json} {specs : List Json}
      {stop : Stop TransformError}
      (isQuery : Entries.get? "_query" entries = some (.string directive))
      (execution : executeDirective resolver.frame resolver.backend resolver.limit
        resolver.caller directive = .ok answer)
      (hasContent : Envelope.HasContent answer content)
      (hasChain : Template.HasChain entries specs)
      (transforms : Transform.runChain resolver.frame specs content = .error stop) :
      Runs resolver entries (.error (stop.map .transform))
  | done {directive : String} {answer content value : Json} {specs : List Json}
      (isQuery : Entries.get? "_query" entries = some (.string directive))
      (execution : executeDirective resolver.frame resolver.backend resolver.limit
        resolver.caller directive = .ok answer)
      (hasContent : Envelope.HasContent answer content)
      (hasChain : Template.HasChain entries specs)
      (transforms : Transform.runChain resolver.frame specs content = .ok value) :
      Runs resolver entries (.ok value)

/-- The values that may stand in the place of a node. -/
inductive Places (resolver : Resolver) : Json → Json → Prop where
  | container {entries values : List (String × Json)}
      (isContainer : Template.isContainer entries = true)
      (sameKeys : Entries.keys values = Entries.keys entries) :
      Places resolver (.object entries) (.object values)
  | literal {entries : List (String × Json)} {value : Json}
      (noQuery : Entries.get? "_query" entries = none)
      (isData : Entries.get? "_data" entries = some value) :
      Places resolver (.object entries) value
  | result {entries : List (String × Json)} {value : Json}
      (succeeds : Runs resolver entries (.ok value)) : Places resolver (.object entries) value
  | default {entries : List (String × Json)} {cause : QueryError}
      (fails : Runs resolver entries (.error (.failure cause))) :
      Places resolver (.object entries) ((Entries.get? "_default" entries).getD .null)
  | sequence (items : List Json) : Places resolver (.array items) (.array items)
  | scalar {value : Json} (noObject : ∀ entries, value ≠ .object entries)
      (noArray : ∀ items, value ≠ .array items) : Places resolver value value

/-- The warning that a node leaves behind when its default stands in for it. -/
inductive FallsBack (resolver : Resolver) : Json → Fallback → Prop where
  | directive {entries : List (String × Json)} {query : Json} {cause : QueryError}
      (isQuery : Entries.get? "_query" entries = some query)
      (fails : Runs resolver entries (.error (.failure cause))) :
      FallsBack resolver (.object entries)
        ⟨query, cause, (Entries.get? "_default" entries).isSome⟩

/-- The steps of a node crash. -/
inductive Crashes (resolver : Resolver) : Json → Prop where
  | directive {entries : List (String × Json)} (crashes : Runs resolver entries (.error .crash)) :
      Crashes resolver (.object entries)

/-! ## The steps of a directive -/

theorem fetched_text (resolver : Resolver) (directive : String) (process : List Json)
    (default : Option Json) :
    resolver.fetched ⟨.string directive, process, default⟩ =
      (executeDirective resolver.frame resolver.backend resolver.limit resolver.caller
        directive).map Envelope.unwrap := by
  simp only [fetched, route, request, executeDirective]
  cases Request.ofDirective resolver.caller directive with
  | error cause => rfl
  | ok request =>
      cases reached : request.route resolver.frame with
      | error cause => simp [reached, bind, Except.bind, Except.map]
      | ok route =>
          cases answered : route.follow resolver.frame resolver.backend resolver.limit <;>
            simp [reached, answered, bind, Except.bind, Except.map, pure, Except.pure]

theorem fetched_noText (resolver : Resolver) {query : Json}
    (noText : ∀ text, query ≠ .string text) (process : List Json) (default : Option Json) :
    resolver.fetched ⟨query, process, default⟩ = .error (.malformed query.compact) := by
  cases query with
  | string text => exact absurd rfl (noText text)
  | _ => rfl

theorem outcome_eq (resolver : Resolver) (node : DirectiveNode) :
    resolver.outcome node =
      match resolver.fetched node with
      | .error cause => .error (.failure cause)
      | .ok value =>
          (Transform.runChain resolver.frame node.process value).mapError (Stop.map .transform) := by
  rw [outcome, outcomeOf]
  cases resolver.fetched node <;> rfl

/-- The outcome of a directive is what its steps come to. -/
theorem runs_outcome (resolver : Resolver) {entries : List (String × Json)} {query : Json}
    (isQuery : Entries.get? "_query" entries = some query) :
    Runs resolver entries (resolver.outcome (Template.directiveOf query entries)) := by
  by_cases isText : ∃ directive, query = .string directive
  · rcases isText with ⟨directive, rfl⟩
    rw [outcome_eq, Template.directiveOf, fetched_text]
    cases execution : executeDirective resolver.frame resolver.backend resolver.limit
        resolver.caller directive with
    | error cause => exact .notExecuted isQuery execution
    | ok answer =>
        have hasContent := Envelope.hasContent_iff.mpr (Eq.refl (Envelope.unwrap answer))
        have hasChain := Template.hasChain_iff.mpr
          (Eq.refl (Template.processSpecs (Entries.get? "_process" entries)))
        cases transforms : Transform.runChain resolver.frame
            (Template.processSpecs (Entries.get? "_process" entries))
            (Envelope.unwrap answer) with
        | error stop =>
            simpa [Except.map, transforms] using
              Runs.notTransformed isQuery execution hasContent hasChain transforms
        | ok value =>
            simpa [Except.map, transforms] using
              Runs.done isQuery execution hasContent hasChain transforms
  · have noText : ∀ text, query ≠ .string text := by
      intro text same
      exact isText ⟨text, same⟩
    rw [outcome_eq, Template.directiveOf, fetched_noText resolver noText]
    exact .notText isQuery noText

/-- The steps of a directive come to its outcome and to nothing else. -/
theorem Runs.eq_outcome {resolver : Resolver} {entries : List (String × Json)} {query : Json}
    {result : Except (Stop QueryError) Json} (runs : Runs resolver entries result)
    (isQuery : Entries.get? "_query" entries = some query) :
    resolver.outcome (Template.directiveOf query entries) = result := by
  rw [outcome_eq, Template.directiveOf]
  cases runs with
  | notText isOther noText =>
      rw [isQuery, Option.some.injEq] at isOther
      rw [isOther, fetched_noText resolver noText]
  | notExecuted isOther execution =>
      rw [isQuery, Option.some.injEq] at isOther
      rw [isOther, fetched_text, execution]
      rfl
  | notTransformed isOther execution hasContent hasChain transforms =>
      rw [isQuery, Option.some.injEq] at isOther
      rw [isOther, fetched_text, execution]
      simp [Except.map, Envelope.hasContent_iff.mp hasContent, Template.hasChain_iff.mp hasChain,
        transforms]
  | done isOther execution hasContent hasChain transforms =>
      rw [isQuery, Option.some.injEq] at isOther
      rw [isOther, fetched_text, execution]
      simp [Except.map, Envelope.hasContent_iff.mp hasContent, Template.hasChain_iff.mp hasChain,
        transforms]

theorem Runs.exists_query {resolver : Resolver} {entries : List (String × Json)}
    {result : Except (Stop QueryError) Json} (runs : Runs resolver entries result) :
    ∃ query, Entries.get? "_query" entries = some query := by
  cases runs with
  | notText isQuery | notExecuted isQuery | notTransformed isQuery | done isQuery =>
      exact ⟨_, isQuery⟩

/-! ## Nodes of a resolved template -/

theorem places_fill (resolver : Resolver) {node : Json} {template : Template}
    (kind : Template.Kind node template) (survives : ¬resolver.Crashes node) :
    Places resolver node (template.fill resolver.value) := by
  cases kind with
  | @directive entries query isQuery =>
      have runs := runs_outcome resolver isQuery
      have noCrash : resolver.crashes (Template.directiveOf query entries) = false := by
        rw [crashes_eq_false_iff]
        intro crashed
        rw [crashed] at runs
        exact survives (.directive runs)
      rcases exists_outcome noCrash with ⟨outcome, comes⟩
      rw [comes] at runs
      rw [Template.fill, value_eq_valueOf comes]
      cases outcome with
      | ok value => exact .result runs
      | error cause => exact .default runs
  | literal noQuery isData => exact .literal noQuery isData
  | container isContainer inside =>
      refine .container isContainer ?_
      rw [← inside.keys_eq, Template.fillEntries_eq_map]
      simp [Entries.keys]
  | sequence items => exact .sequence items
  | scalar noObject noArray => exact .scalar noObject noArray

/-- A directive falls back with the warning that the resolver records for it. -/
theorem fallsBack_iff (resolver : Resolver) {entries : List (String × Json)} {query : Json}
    (isQuery : Entries.get? "_query" entries = some query) (fallback : Fallback) :
    FallsBack resolver (.object entries) fallback ↔
      resolver.fallback? (Template.directiveOf query entries) = some fallback := by
  constructor
  · rintro ⟨isOther, fails⟩
    rw [isQuery, Option.some.injEq] at isOther
    subst isOther
    rw [fallback?, fails.eq_outcome isQuery]
    rfl
  · intro recorded
    have runs := runs_outcome resolver isQuery
    rw [fallback?] at recorded
    split at recorded
    · next cause failed =>
      rw [failed] at runs
      cases recorded
      exact .directive isQuery runs
    · contradiction

theorem exists_crashes_iff (resolver : Resolver) {template : Json} {classified : Template}
    (distinct : template.HasDistinctKeys) (classifies : Template.Classifies template classified) :
    (∃ node ∈ classified.directives, resolver.crashes node = true) ↔
      ∃ keys node, Template.nodeAt? keys template = some node ∧ resolver.Crashes node := by
  rw [classifies.exists_directive_iff distinct]
  constructor
  · rintro ⟨keys, _, ⟨entries, query, isNode, isQuery, rfl⟩, crashed⟩
    have runs := runs_outcome resolver isQuery
    rw [crashes_iff.mp crashed] at runs
    exact ⟨keys, .object entries, isNode, .directive runs⟩
  · rintro ⟨keys, _, isNode, ⟨runs⟩⟩
    rcases runs.exists_query with ⟨query, isQuery⟩
    exact ⟨keys, _, ⟨_, query, isNode, isQuery, rfl⟩, crashes_iff.mpr (runs.eq_outcome isQuery)⟩

/-- Resolving is pointwise.  A template that is accepted is resolved unless the steps of some
directive in it crash.  At the keys of each node stands a value that the node alone determines, and
the warnings belong to the keys of exactly those directives that fell back, one to each. -/
theorem resolve_pointwise (resolver : Resolver) {template : Json}
    (distinct : template.HasDistinctKeys)
    (accepted : ∃ classified, Template.classify template = .ok classified) :
    (resolver.resolve template = .error .crash ↔
      ∃ keys node, Template.nodeAt? keys template = some node ∧ resolver.Crashes node) ∧
    (resolver.resolve template ≠ .error .crash →
      ∃ resolution, resolver.resolve template = .ok resolution ∧
        (∀ keys node, Template.nodeAt? keys template = some node →
          ∃ value, resolution.value.under? keys = some value ∧ resolver.Places node value) ∧
        ∃ warnings : List (List String × Fallback),
          warnings.map Prod.snd = resolution.fallbacks ∧ (warnings.map Prod.fst).Nodup ∧
            ∀ keys fallback, (keys, fallback) ∈ warnings ↔
              ∃ node, Template.nodeAt? keys template = some node ∧
                resolver.FallsBack node fallback) := by
  rcases accepted with ⟨classified, accepted⟩
  have classifies : Template.Classifies template classified :=
    ⟨[], Template.depthLimit, accepted⟩
  have someCrashes : resolver.resolve template = .error .crash ↔
      ∃ node ∈ classified.directives, resolver.crashes node = true :=
    resolve_eq_crash_iff accepted
  have crashes := someCrashes.trans (resolver.exists_crashes_iff distinct classifies)
  refine ⟨crashes, fun survives => ?_⟩
  have noneCrashes : ∀ node ∈ classified.directives, resolver.crashes node = false := by
    simpa [resolve_eq_crash_iff accepted] using survives
  refine ⟨_, resolve_of_classify accepted noneCrashes, ?_, ?_⟩
  · intro keys node isNode
    rcases classifies.at?_of_nodeAt? isNode with ⟨part, reached, partClassified⟩
    exact ⟨part.fill resolver.value, Template.fill_under? resolver.value reached,
      resolver.places_fill partClassified.kind
        fun crashed => survives (crashes.mpr ⟨keys, node, isNode, crashed⟩)⟩
  · refine ⟨classified.collect resolver.fallback?, Template.collect_map_snd _ _,
      Template.collect_keys_nodup _ (classifies.hasDistinctKeys distinct), ?_⟩
    intro keys fallback
    rw [classifies.mem_collect_iff distinct]
    constructor
    · rintro ⟨entries, query, isNode, isQuery, recorded⟩
      exact ⟨.object entries, isNode, (resolver.fallsBack_iff isQuery fallback).mpr recorded⟩
    · rintro ⟨_, isNode, fallsBack⟩
      cases fallsBack with
      | @directive entries query cause isQuery fails =>
          exact ⟨entries, query, isNode, isQuery,
            (resolver.fallsBack_iff isQuery _).mp (.directive isQuery fails)⟩

/-- The conclusion for a query that is no text beside a value that is kept. -/
theorem resolve_pointwise_failing_query :
    let broken : Json := .object [("_query", .null), ("_default", .string "none")]
    let kept : Json := .object [("_data", .bool true)]
    let template : Json := .object [("broken", broken), ("kept", kept)]
    let resolver : Resolver := ⟨⟨0, ⟨0, 0⟩⟩, fun _ => ⟨0, .error (.notFound "")⟩, none, none⟩
    template.HasDistinctKeys ∧
      (∃ classified, Template.classify template = .ok classified) ∧
      ∃ resolution, resolver.resolve template = .ok resolution ∧
        resolution.value.under? ["broken"] = some (.string "none") ∧
        resolution.value.under? ["kept"] = some (.bool true) := by
  intro broken kept template resolver
  have distinct : template.HasDistinctKeys := by
    refine .object (by decide) ?_
    simp only [List.forall_mem_cons, List.not_mem_nil, false_implies, implies_true, and_true]
    constructor
    · refine .object (by decide) ?_
      simpa using ⟨.null, .string "none"⟩
    · refine .object (by decide) ?_
      simpa using .bool true
  have accepted : ∃ classified, Template.classify template = .ok classified := ⟨_, rfl⟩
  have survives : resolver.resolve template ≠ .error .crash := nofun
  rcases (resolver.resolve_pointwise distinct accepted).2 survives with
    ⟨resolution, resolved, places, _⟩
  refine ⟨distinct, accepted, resolution, resolved, ?_, ?_⟩
  · rcases places ["broken"] broken rfl with ⟨value, isValue, brokenPlaces⟩
    rw [isValue]
    unfold broken at brokenPlaces
    cases brokenPlaces with
    | container isContainer => exact absurd isContainer (by decide)
    | literal noQuery => exact absurd noQuery (by decide)
    | result succeeds =>
        cases succeeds with
        | done isQuery => simp [Entries.get?] at isQuery
    | default fails => rfl
    | scalar noObject => exact absurd rfl (noObject _)
  · rcases places ["kept"] kept rfl with ⟨value, isValue, keptPlaces⟩
    rw [isValue]
    unfold kept at keptPlaces
    cases keptPlaces with
    | container isContainer => exact absurd isContainer (by decide)
    | literal noQuery isData => exact isData.symm
    | result succeeds =>
        rcases succeeds.exists_query with ⟨query, isQuery⟩
        simp [Entries.get?] at isQuery
    | default fails =>
        rcases fails.exists_query with ⟨query, isQuery⟩
        simp [Entries.get?] at isQuery
    | scalar noObject => exact absurd rfl (noObject _)

/-- A template that is accepted need not be resolved: the local date of the first of all instants
crashes. -/
theorem not_forall_resolve :
    ¬∀ (resolver : Resolver) (template : Json), resolver.frame.IsValid →
      template.HasDistinctKeys → (∃ classified, Template.classify template = .ok classified) →
      ∃ resolution, resolver.resolve template = .ok resolution := by
  intro succeeds
  have distinct : Json.HasDistinctKeys (.object [("_query", .string "\x7bcms\x7d/list/x"),
      ("_process", .string "TimeAgoInDays")]) := by
    refine .object (by decide) ?_
    simpa using ⟨.string _, .string _⟩
  rcases succeeds ⟨⟨-21600, ⟨0, 0⟩⟩,
      fun _ => ⟨0, .ok (.array [.object [("TS", .int (-8334601228800000))]])⟩, none, none⟩ _
      ⟨by decide, by decide⟩ distinct ⟨_, rfl⟩ with ⟨resolution, resolved⟩
  contradiction

end Resolver

end PageContext
