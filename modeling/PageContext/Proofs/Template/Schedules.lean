import PageContext.Proofs.Query.Routing
import PageContext.Proofs.Template.FanOut
import PageContext.Proofs.Template.Resolving

/-!
# Independence of the schedule

However the directives of a template take turns, the template becomes the same tree, and each
directive that leads to the store makes its one call.  The reply to one directive matters at the keys
of this directive only.
-/

namespace PageContext

namespace Resolver

/-- The call that a node makes: its query parses and leads to a method of the store with a
target. -/
inductive CallsStore (resolver : Resolver) : Json → StoreCall → Prop where
  | directive {entries : List (String × Json)} {text target : String} {query : Query}
      {method : StoreMethod} (isQuery : Entries.get? "_query" entries = some (.string text))
      (parses : Query.parse? text = some query) (isStore : query.moduleName = "cms")
      (isMethod : Request.storeMethod? query.action = some method)
      (hasTarget : (Request.ofQuery resolver.caller query).target = some target) :
      CallsStore resolver (.object entries)
        ⟨method, target, Params.merge resolver.caller query.params⟩

theorem call?_eq_some_iff {resolver : Resolver} {node : DirectiveNode} {call : StoreCall} :
    resolver.call? node = some call ↔ resolver.route node = .ok (.call call) := by
  rw [call?]
  cases resolver.route node with
  | error cause => simp
  | ok route => cases route <;> simp

theorem request_eq_ok_iff {resolver : Resolver} {node : DirectiveNode} {request : Request} :
    resolver.request node = .ok request ↔
      ∃ text query, node.query = .string text ∧ Query.parse? text = some query ∧
        request = Request.ofQuery resolver.caller query := by
  rw [Resolver.request]
  cases node.query with
  | string text =>
      cases parses : Query.parse? text <;>
        simp [Request.ofDirective, Query.parse, parses, Except.map, eq_comm]
  | _ => simp

/-- A node makes the call that the resolver finds for its directive. -/
theorem callsStore_iff (resolver : Resolver) {entries : List (String × Json)} {query : Json}
    (isQuery : Entries.get? "_query" entries = some query) (call : StoreCall) :
    resolver.CallsStore (.object entries) call ↔
      resolver.call? (Template.directiveOf query entries) = some call := by
  rw [call?_eq_some_iff, Resolver.route, Except.bind_eq_ok_iff]
  constructor
  · rintro ⟨isText, parses, isStore, isMethod, hasTarget⟩
    rw [isQuery, Option.some.injEq] at isText
    refine ⟨_, request_eq_ok_iff.mpr ⟨_, _, isText, parses, rfl⟩, ?_⟩
    exact Request.route_eq_call_iff.mpr ⟨isStore, _, _, isMethod, hasTarget, rfl⟩
  · rintro ⟨request, requested, routed⟩
    rcases request_eq_ok_iff.mp requested with ⟨text, parsed, isText, parses, rfl⟩
    rcases Request.route_eq_call_iff.mp routed with
      ⟨isStore, method, target, isMethod, hasTarget, rfl⟩
    simp only [Template.directiveOf] at isText
    subst isText
    exact .directive isQuery parses isStore isMethod hasTarget

/-! ## The replies that matter -/

/-- A directive fetches the same value when its own call gets the same reply. -/
theorem fetched_answeredBy (resolver : Resolver) (reply : Reply) (node : DirectiveNode)
    (same : ∀ call, resolver.call? node = some call → reply = resolver.backend call) :
    (resolver.answeredBy reply).fetched node = resolver.fetched node := by
  have sameRoute : (resolver.answeredBy reply).route node = resolver.route node := rfl
  rw [fetched, fetched, sameRoute]
  cases routed : resolver.route node with
  | error cause => rfl
  | ok route =>
      cases route with
      | timeline range => rfl
      | call call =>
          have isReply := same call (call?_eq_some_iff.mpr routed)
          simp only [bind, Except.bind, Route.follow, answeredBy, isReply]

theorem outcome_answeredBy (resolver : Resolver) (reply : Reply) (node : DirectiveNode)
    (same : ∀ call, resolver.call? node = some call → reply = resolver.backend call) :
    (resolver.answeredBy reply).outcome node = resolver.outcome node := by
  have sameFetched := fetched_answeredBy resolver reply node same
  have sameSteps : (resolver.answeredBy reply).outcomeOf node = resolver.outcomeOf node := rfl
  rw [outcome, outcome, sameFetched, sameSteps]

theorem value_answeredBy (resolver : Resolver) (reply : Reply) (node : DirectiveNode)
    (same : ∀ call, resolver.call? node = some call → reply = resolver.backend call) :
    (resolver.answeredBy reply).value node = resolver.value node := by
  rw [value, value, outcome_answeredBy resolver reply node same]

theorem crashes_answeredBy (resolver : Resolver) (reply : Reply) (node : DirectiveNode)
    (same : ∀ call, resolver.call? node = some call → reply = resolver.backend call) :
    (resolver.answeredBy reply).crashes node = resolver.crashes node := by
  rw [crashes, crashes, outcome_answeredBy resolver reply node same]

/-- No directive of a template crashes on its reply. -/
def NoneCrashes (resolver : Resolver) (replies : List String → Reply) (template : Json) : Prop :=
  ∀ keys node, Template.HasDirective template keys node →
    resolver.crashesAt replies keys node = false

/-! ## Schedules -/

open Progress

section

variable {resolver : Resolver} {template : Json} {classified : Template}
  {replies : List String → Reply} {calls : CallLog} {value : Json}

/-- Where the replies are those of the store, a template is filled as resolving fills it. -/
theorem fillAt_valueAt_eq_fill (distinct : template.HasDistinctKeys)
    (classifies : Template.Classifies template classified)
    (fromStore : ∀ keys node call, Template.nodeAt? keys template = some node →
      resolver.CallsStore node call → replies keys = resolver.backend call) :
    classified.fillAt (resolver.valueAt replies) = classified.fill resolver.value := by
  rw [← Template.fillAt_eq_fill]
  apply Template.fillAt_congr
  rintro ⟨keys, node⟩ isLocated
  rcases (classifies.mem_located_iff distinct).mp isLocated with ⟨entries, query, isNode, isQuery, rfl⟩
  apply resolver.value_answeredBy (replies keys)
  intro call called
  exact fromStore keys _ call isNode ((resolver.callsStore_iff isQuery call).mpr called)

theorem survives_start_iff (distinct : template.HasDistinctKeys)
    (classifies : Template.Classifies template classified) :
    Survives resolver replies (start classified) ↔ resolver.NoneCrashes replies template := by
  simp only [Survives, directivesLeft_start, Prod.forall, classifies.mem_located_iff distinct,
    NoneCrashes]

/-- Where the replies are those of the store, resolving crashes exactly if a directive crashes on its
reply. -/
theorem resolve_eq_crash_iff_of_fromStore (distinct : template.HasDistinctKeys)
    (accepted : Template.classify template = .ok classified)
    (fromStore : ∀ keys node call, Template.nodeAt? keys template = some node →
      resolver.CallsStore node call → replies keys = resolver.backend call) :
    resolver.resolve template = .error .crash ↔ ¬resolver.NoneCrashes replies template := by
  have classifies : Template.Classifies template classified :=
    ⟨[], Template.depthLimit, accepted⟩
  rw [resolve_eq_crash_iff accepted, classifies.exists_directive_iff distinct, NoneCrashes]
  push Not
  have sameCrash : ∀ keys node, Template.HasDirective template keys node →
      resolver.crashesAt replies keys node = resolver.crashes node := by
    rintro keys _ ⟨entries, query, isNode, isQuery, rfl⟩
    apply resolver.crashes_answeredBy (replies keys)
    intro call called
    exact fromStore keys _ call isNode ((resolver.callsStore_iff isQuery call).mpr called)
  constructor
  · rintro ⟨keys, node, hasDirective, crashes⟩
    exact ⟨keys, node, hasDirective, by simp [sameCrash keys node hasDirective, crashes]⟩
  · rintro ⟨keys, node, hasDirective, crashes⟩
    exact ⟨keys, node, hasDirective, by simpa [sameCrash keys node hasDirective] using crashes⟩

/-- The calls of a run to the end are those of the nodes that ask for one. -/
theorem mem_calls_iff (distinct : template.HasDistinctKeys)
    (classifies : Template.Classifies template classified)
    (run : Run resolver replies (start classified) calls (.settled value)) (keys : List String)
    (call : StoreCall) :
    (keys, call) ∈ calls ↔
      ∃ node, Template.nodeAt? keys template = some node ∧ resolver.CallsStore node call := by
  rw [run.settled_calls_perm.mem_iff, classifies.mem_collect_iff distinct]
  constructor
  · rintro ⟨entries, query, isNode, isQuery, called⟩
    exact ⟨.object entries, isNode, (resolver.callsStore_iff isQuery call).mpr called⟩
  · rintro ⟨_, isNode, calls⟩
    cases calls with
    | directive isQuery parses isStore isMethod hasTarget =>
        exact ⟨_, _, isNode, isQuery, (resolver.callsStore_iff isQuery _).mp
          (.directive isQuery parses isStore isMethod hasTarget)⟩

theorem calls_keys_nodup (distinct : template.HasDistinctKeys)
    (classifies : Template.Classifies template classified)
    (run : Run resolver replies (start classified) calls (.settled value)) :
    (calls.map Prod.fst).Nodup :=
  (run.settled_calls_perm.map Prod.fst).nodup_iff.mpr
    (Template.collect_keys_nodup resolver.call? (classifies.hasDistinctKeys distinct))

/-- Another reply to one directive replaces the value of this directive and nothing else. -/
theorem exists_replacement (distinct : template.HasDistinctKeys)
    (classifies : Template.Classifies template classified) {others : List String → Reply}
    {keys : List String} {entries : List (String × Json)} {query : Json}
    (isNode : Template.nodeAt? keys template = some (.object entries))
    (isQuery : Entries.get? "_query" entries = some query)
    (agree : ∀ other, other ≠ keys → replies other = others other) {otherCalls : CallLog}
    {otherValue : Json}
    (run : Run resolver replies (start classified) calls (.settled value))
    (otherRun : Run resolver others (start classified) otherCalls (.settled otherValue)) :
    ∃ replacement, otherValue = Json.replaceUnder replacement keys value := by
  have isDirective := (classifies.at?_directive_iff keys _).mpr
    ⟨entries, query, isNode, isQuery, rfl⟩
  rw [run.settled_eq_fillAt, otherRun.settled_eq_fillAt]
  refine ⟨_, Template.fillAt_eq_replaceUnder (classifies.hasDistinctKeys distinct) isDirective ?_⟩
  intro other differ
  funext node
  rw [valueAt, valueAt, agree other differ]

end

/-- A template is resolved in the same way in every order.  Whatever the replies to its directives
are, all runs to the end lead to the same value, and on the way each node that asks for a call makes
this call once.  Unless a directive crashes on its reply, every run can be continued to the end; if
one does, none comes to it.  When the replies are those of the store, this is how resolving crashes,
and the value is the one that it gives.  When only the replies to one directive differ, the values
differ at most at the keys of this directive. -/
theorem schedule_independent (resolver : Resolver) {template : Json} {classified : Template}
    (distinct : template.HasDistinctKeys)
    (accepted : Template.classify template = .ok classified) :
    (∀ replies : List String → Reply, ∃ value,
      (resolver.NoneCrashes replies template →
        ∀ calls progress, Run resolver replies (start classified) calls progress →
          ∃ more, Run resolver replies progress more (.settled value)) ∧
      (∀ calls final, Run resolver replies (start classified) calls (.settled final) →
        resolver.NoneCrashes replies template ∧ final = value ∧ (calls.map Prod.fst).Nodup ∧
          ∀ keys call, (keys, call) ∈ calls ↔
            ∃ node, Template.nodeAt? keys template = some node ∧
              resolver.CallsStore node call) ∧
      ((∀ keys node call, Template.nodeAt? keys template = some node →
          resolver.CallsStore node call → replies keys = resolver.backend call) →
        (resolver.resolve template = .error .crash ↔ ¬resolver.NoneCrashes replies template) ∧
        (resolver.NoneCrashes replies template →
          ∃ resolution, resolver.resolve template = .ok resolution ∧
            resolution.value = value))) ∧
    ∀ (replies others : List String → Reply) (keys : List String)
      (entries : List (String × Json)) (query : Json),
      Template.nodeAt? keys template = some (.object entries) →
      Entries.get? "_query" entries = some query →
      (∀ other, other ≠ keys → replies other = others other) →
      ∀ calls value otherCalls otherValue,
        Run resolver replies (start classified) calls (.settled value) →
        Run resolver others (start classified) otherCalls (.settled otherValue) →
        ∃ replacement, otherValue = Json.replaceUnder replacement keys value := by
  have classifies : Template.Classifies template classified :=
    ⟨[], Template.depthLimit, accepted⟩
  constructor
  · intro replies
    have survives_iff : Survives resolver replies (start classified) ↔
        resolver.NoneCrashes replies template := survives_start_iff distinct classifies
    refine ⟨classified.fillAt (resolver.valueAt replies), ?_, ?_, ?_⟩
    · intro noneCrashes calls progress run
      exact run.exists_settled (survives_iff.mpr noneCrashes)
    · intro calls final run
      exact ⟨survives_iff.mp run.settled_survives, run.settled_eq_fillAt,
        calls_keys_nodup distinct classifies run, mem_calls_iff distinct classifies run⟩
    · intro fromStore
      have crashes_iff := resolve_eq_crash_iff_of_fromStore distinct accepted fromStore
      refine ⟨crashes_iff, fun noneCrashes => ?_⟩
      have survives : ∀ node ∈ classified.directives, resolver.crashes node = false := by
        have noCrash := mt crashes_iff.mp (not_not_intro noneCrashes)
        simpa [resolve_eq_crash_iff accepted] using noCrash
      refine ⟨_, resolve_of_classify accepted survives, ?_⟩
      exact (fillAt_valueAt_eq_fill distinct classifies fromStore).symm
  · intro replies others keys entries query isNode isQuery agree calls value otherCalls
      otherValue run otherRun
    exact exists_replacement distinct classifies isNode isQuery agree run otherRun

/-- The conclusion for two directives that call the store beside each other. -/
theorem schedule_independent_two_calls :
    let template : Json := .object [("first", .object [("_query", .string "\x7bcms\x7d/get/1")]),
      ("second", .object [("_query", .string "\x7bcms\x7d/list/news")])]
    let classified : Template := .container [
      ("first", .directive ⟨.string "\x7bcms\x7d/get/1", [], none⟩),
      ("second", .directive ⟨.string "\x7bcms\x7d/list/news", [], none⟩)]
    let resolver : Resolver := ⟨⟨0, ⟨0, 0⟩⟩, fun _ => ⟨0, .error (.notFound "")⟩, none, none⟩
    template.HasDistinctKeys ∧ Template.classify template = .ok classified ∧
      ∀ replies calls value otherCalls otherValue,
        Run resolver replies (start classified) calls (.settled value) →
        Run resolver replies (start classified) otherCalls (.settled otherValue) →
        value = otherValue ∧ (["second"], ⟨.list, "news", []⟩) ∈ calls := by
  intro template classified resolver
  have distinct : template.HasDistinctKeys := by
    refine .object (by decide) ?_
    simp only [List.forall_mem_cons, List.not_mem_nil, false_implies, implies_true, and_true]
    constructor
    · refine .object (by decide) ?_
      simpa using .string _
    · refine .object (by decide) ?_
      simpa using .string _
  have accepted : Template.classify template = .ok classified := rfl
  refine ⟨distinct, accepted, ?_⟩
  intro replies calls value otherCalls otherValue run otherRun
  rcases (resolver.schedule_independent distinct accepted).1 replies with
    ⟨final, _, ends, _⟩
  rcases ends calls value run with ⟨_, isFinal, _, made⟩
  rcases ends otherCalls otherValue otherRun with ⟨_, otherIsFinal, _, _⟩
  refine ⟨isFinal.trans otherIsFinal.symm, (made _ _).mpr ⟨_, rfl, ?_⟩⟩
  have parses : Query.parse? "\x7bcms\x7d/list/news" = some ⟨"cms", "list", some "news", []⟩ := by
    decide
  exact .directive rfl parses rfl rfl rfl

end Resolver

end PageContext
