import Mathlib.Tactic.SplitIfs
import PageContext.Proofs.Success
import PageContext.Query.Route

/-!
# The calls of a dispatcher

A request leads to one call of the content store, to a timeline, or to the reason why it leads
nowhere.  A dispatcher executes a query and can do nothing with the store but ask it.  Where every
call is noted, at most one is, and the module, the action and the target of the query decide which
one it is.  A caller that is given a directive with a target has no influence on the method and the
target of the call.
-/

namespace PageContext

/-- The actions that a content store answers, and their methods. -/
inductive IsStoreAction : String → StoreMethod → Prop where
  | get : IsStoreAction "get" .get
  | list : IsStoreAction "list" .list
  | featured : IsStoreAction "featured" .featured
  | highlight : IsStoreAction "highlight" .highlighted
  | random : IsStoreAction "random" .random

/-- The modules and their actions. -/
inductive IsKnownAction (moduleName action : String) : Prop where
  | store {method : StoreMethod} (isStore : moduleName = "cms")
      (isAction : IsStoreAction action method) : IsKnownAction moduleName action
  | timeline (isGenerator : moduleName = "gen") (isTimeline : action = "timeline") :
      IsKnownAction moduleName action

theorem IsKnownAction.isModule {moduleName action : String}
    (isKnown : IsKnownAction moduleName action) : moduleName = "cms" ∨ moduleName = "gen" := by
  cases isKnown with
  | store isStore _ => exact .inl isStore
  | timeline isGenerator _ => exact .inr isGenerator

/-- The target in a directive, or else the merged parameter `target` unless it is empty. -/
inductive HasTarget (caller : Option Params) (query : Query) : String → Prop where
  | named {target : String} (isNamed : query.target = some target) : HasTarget caller query target
  | param {target : String} (unnamed : query.target = none)
      (isParam : (Params.merge caller query.params).value? "target" = some target)
      (notEmpty : target ≠ "") : HasTarget caller query target

namespace Request

/-! ## Where requests lead -/

theorem storeMethod?_eq_some_iff {action : String} {method : StoreMethod} :
    storeMethod? action = some method ↔ IsStoreAction action method := by
  constructor
  · intro isMethod
    simp only [storeMethod?] at isMethod
    split_ifs at isMethod with get list featured highlight random
    · cases isMethod
      exact get ▸ .get
    · cases isMethod
      exact list ▸ .list
    · cases isMethod
      exact featured ▸ .featured
    · cases isMethod
      exact highlight ▸ .highlight
    · cases isMethod
      exact random ▸ .random
  · intro isAction
    cases isAction <;> rfl

theorem target_ofQuery_eq_some_iff {caller : Option Params} {query : Query} {target : String} :
    (ofQuery caller query).target = some target ↔ HasTarget caller query target := by
  constructor
  · intro isTarget
    simp only [ofQuery] at isTarget
    cases isNamed : query.target with
    | some name =>
        rw [isNamed, Option.some_or, Option.some.injEq] at isTarget
        exact .named (isTarget ▸ isNamed)
    | none =>
        rw [isNamed, Option.none_or, Option.filter_eq_some_iff, decide_eq_true_iff] at isTarget
        exact .param isNamed isTarget.1 isTarget.2
  · intro hasTarget
    cases hasTarget with
    | named isNamed => simp [ofQuery, isNamed]
    | param unnamed isParam notEmpty => simp [ofQuery, unnamed, isParam, notEmpty]

theorem target_ofQuery_eq_none_iff {caller : Option Params} {query : Query} :
    (ofQuery caller query).target = none ↔ ∀ target, ¬HasTarget caller query target := by
  simp only [Option.eq_none_iff_forall_ne_some, ne_eq, target_ofQuery_eq_some_iff]

/-- All that a request can lead to. -/
inductive LeadsTo (frame : TimeFrame) (request : Request) : Except QueryError Route → Prop where
  | call {method : StoreMethod} {target : String} (isStore : request.query.moduleName = "cms")
      (isAction : IsStoreAction request.query.action method)
      (hasTarget : request.target = some target) :
      LeadsTo frame request (.ok (.call ⟨method, target, request.params⟩))
  | timeline {target : String} {unit : MarkerKind}
      (isGenerator : request.query.moduleName = "gen")
      (isTimeline : request.query.action = "timeline") (hasTarget : request.target = some target)
      (isUnit : TimelineRange.unit? target = some unit) :
      LeadsTo frame request (.ok (.timeline (.ofParams frame unit request.params)))
  | unknownUnit {target : String} (isGenerator : request.query.moduleName = "gen")
      (isTimeline : request.query.action = "timeline") (hasTarget : request.target = some target)
      (noUnit : TimelineRange.unit? target = none) :
      LeadsTo frame request (.error (.unknownTimelineUnit target))
  | missingTarget (isKnown : IsKnownAction request.query.moduleName request.query.action)
      (noTarget : request.target = none) :
      LeadsTo frame request (.error (.missingTarget request.query.action))
  | unknownAction (isModule : request.query.moduleName = "cms" ∨ request.query.moduleName = "gen")
      (unknown : ¬IsKnownAction request.query.moduleName request.query.action) :
      LeadsTo frame request
        (.error (.unknownAction request.query.moduleName request.query.action))
  | unknownModule (noStore : request.query.moduleName ≠ "cms")
      (noGenerator : request.query.moduleName ≠ "gen") :
      LeadsTo frame request (.error (.unknownModule request.query.moduleName))

theorem leadsTo_route (frame : TimeFrame) (request : Request) :
    LeadsTo frame request (request.route frame) := by
  rw [route]
  by_cases isStore : request.query.moduleName = "cms"
  · rw [if_pos isStore]
    cases isMethod : storeMethod? request.query.action with
    | none =>
        refine .unknownAction (.inl isStore) ?_
        intro isKnown
        cases isKnown with
        | store _ isAction => simp [storeMethod?_eq_some_iff.mpr isAction] at isMethod
        | timeline isGenerator _ => simp [isStore] at isGenerator
    | some method =>
        have isAction := storeMethod?_eq_some_iff.mp isMethod
        cases hasTarget : request.target with
        | none =>
            simp only [requireTarget, hasTarget]
            exact .missingTarget (.store isStore isAction) hasTarget
        | some target =>
            simp only [requireTarget, hasTarget]
            exact .call isStore isAction hasTarget
  rw [if_neg isStore]
  by_cases isGenerator : request.query.moduleName = "gen"
  · rw [if_pos isGenerator]
    by_cases isTimeline : request.query.action = "timeline"
    · rw [if_pos isTimeline]
      cases hasTarget : request.target with
      | none =>
          simp only [requireTarget, hasTarget]
          exact .missingTarget (.timeline isGenerator isTimeline) hasTarget
      | some target =>
          simp only [requireTarget, hasTarget, bind, Except.bind]
          cases isUnit : TimelineRange.unit? target with
          | none => exact .unknownUnit isGenerator isTimeline hasTarget isUnit
          | some unit => exact .timeline isGenerator isTimeline hasTarget isUnit
    · rw [if_neg isTimeline]
      refine .unknownAction (.inr isGenerator) ?_
      intro isKnown
      cases isKnown with
      | store isStore' _ => exact isStore isStore'
      | timeline _ isTimeline' => exact isTimeline isTimeline'
  · rw [if_neg isGenerator]
    exact .unknownModule isStore isGenerator

/-- A request leads to the store when its module and its action do and it has a target. -/
theorem route_eq_call_iff {frame : TimeFrame} {request : Request} {call : StoreCall} :
    request.route frame = .ok (.call call) ↔
      request.query.moduleName = "cms" ∧
        ∃ method target, Request.storeMethod? request.query.action = some method ∧
          request.target = some target ∧ call = ⟨method, target, request.params⟩ := by
  constructor
  · intro isCall
    have leads := isCall ▸ leadsTo_route frame request
    cases leads with
    | call isStore isAction hasTarget =>
        exact ⟨isStore, _, _, storeMethod?_eq_some_iff.mpr isAction, hasTarget, rfl⟩
  · rintro ⟨isStore, method, target, isMethod, hasTarget, rfl⟩
    simp [route, isStore, isMethod, requireTarget, hasTarget, bind, Except.bind, pure,
      Except.pure]

/-! ## Why requests lead nowhere -/

section

variable {frame : TimeFrame} {request : Request} {name action : String}

theorem route_eq_unknownModule_iff :
    request.route frame = .error (.unknownModule name) ↔
      name = request.query.moduleName ∧ name ≠ "cms" ∧ name ≠ "gen" := by
  have leads := leadsTo_route frame request
  generalize request.route frame = outcome at leads ⊢
  cases leads <;> grind [IsKnownAction.isModule]

theorem route_eq_unknownAction_iff :
    request.route frame = .error (.unknownAction name action) ↔
      name = request.query.moduleName ∧ action = request.query.action ∧
        (name = "cms" ∨ name = "gen") ∧ ¬IsKnownAction name action := by
  have leads := leadsTo_route frame request
  generalize request.route frame = outcome at leads ⊢
  cases leads <;> grind [IsKnownAction]

theorem route_eq_missingTarget_iff :
    request.route frame = .error (.missingTarget action) ↔
      action = request.query.action ∧ IsKnownAction request.query.moduleName action ∧
        request.target = none := by
  have leads := leadsTo_route frame request
  generalize request.route frame = outcome at leads ⊢
  cases leads <;> grind [IsKnownAction]

end

end Request

/-! ## Stores that are asked -/

/-- What comes of a reply when it may take some time only. -/
def Reply.within (limit : Option Nat) (reply : Reply) : Except QueryError Json :=
  match limit with
  | some milliseconds =>
      if milliseconds < reply.delay then .error (.timedOut milliseconds)
      else reply.result.mapError .store
  | none => reply.result.mapError .store

theorem Route.follow_call (frame : TimeFrame) (backend : Backend) (limit : Option Nat)
    (call : StoreCall) :
    Route.follow frame backend limit (.call call) = (backend call).within limit := rfl

theorem Reply.eq_store_or_timedOut {limit : Option Nat} {reply : Reply} {cause : QueryError}
    (failed : reply.within limit = .error cause) :
    (∃ storeCause, cause = .store storeCause) ∨ ∃ milliseconds, cause = .timedOut milliseconds := by
  have ofStore (isStore : reply.result.mapError QueryError.store = .error cause) :
      ∃ storeCause, cause = .store storeCause := by
    cases result : reply.result with
    | ok value => simp [result] at isStore
    | error storeCause =>
        simp only [result, Except.mapError_error, Except.error.injEq] at isStore
        exact ⟨storeCause, isStore.symm⟩
  cases limit with
  | none => exact .inl (ofStore failed)
  | some milliseconds =>
      simp only [Reply.within] at failed
      split at failed
      · cases failed
        exact .inr ⟨milliseconds, rfl⟩
      · exact .inl (ofStore failed)

/-- A store that notes every call before it answers. -/
def Backend.noting (backend : Backend) (call : StoreCall) : StateM (List StoreCall) Reply := do
  modify (· ++ [call])
  return backend call

/-- What comes of a query, and the calls that were noted on the way. -/
structure Dispatched where
  result : Except QueryError Json
  calls : List StoreCall

namespace Query

/-- Executes a query by a store that is asked with an action. -/
def dispatch {m : Type → Type} [Monad m] (frame : TimeFrame) (limit : Option Nat)
    (ask : StoreCall → m Reply) (caller : Option Params) (query : Query) :
    m (Except QueryError Json) := do
  match (Request.ofQuery caller query).route frame with
  | .error cause => return .error cause
  | .ok (.timeline range) => return .ok (range.toJson frame)
  | .ok (.call call) => return (← ask call).within limit

/-- Executes a query by a store that notes its calls. -/
def dispatched (frame : TimeFrame) (limit : Option Nat) (backend : Backend)
    (caller : Option Params) (query : Query) : Dispatched :=
  let (result, calls) := (query.dispatch frame limit backend.noting caller).run []
  ⟨result, calls⟩

/-- Executing a directive is executing its query by a store that simply answers. -/
theorem executeDirective_eq_dispatch (frame : TimeFrame) (backend : Backend)
    (limit : Option Nat) (caller : Option Params) (directive : String) :
    executeDirective frame backend limit caller directive =
      (Query.parse directive).bind fun query =>
        Id.run (query.dispatch (m := Id) frame limit backend caller) := by
  rw [executeDirective, Request.ofDirective]
  cases Query.parse directive with
  | error cause => rfl
  | ok query =>
      simp only [Except.map, bind, Except.bind, dispatch]
      cases (Request.ofQuery caller query).route frame with
      | error cause => rfl
      | ok route =>
          cases route with
          | timeline range => rfl
          | call call => exact Route.follow_call frame backend limit call

section

variable {frame : TimeFrame} {limit : Option Nat} {backend : Backend} {caller : Option Params}
  {query : Query} {call : StoreCall}

theorem dispatched_of_error {cause : QueryError}
    (routed : (Request.ofQuery caller query).route frame = .error cause) :
    query.dispatched frame limit backend caller = ⟨.error cause, []⟩ := by
  rw [dispatched, dispatch, routed]
  rfl

theorem dispatched_of_timeline {range : TimelineRange}
    (routed : (Request.ofQuery caller query).route frame = .ok (.timeline range)) :
    query.dispatched frame limit backend caller = ⟨.ok (range.toJson frame), []⟩ := by
  rw [dispatched, dispatch, routed]
  rfl

theorem dispatched_of_call
    (routed : (Request.ofQuery caller query).route frame = .ok (.call call)) :
    query.dispatched frame limit backend caller = ⟨(backend call).within limit, [call]⟩ := by
  rw [dispatched, dispatch, routed]
  rfl

/-- Noting the calls does not change what comes of a query. -/
theorem result_dispatched (frame : TimeFrame) (limit : Option Nat) (backend : Backend)
    (caller : Option Params) (query : Query) :
    (query.dispatched frame limit backend caller).result =
      Id.run (query.dispatch (m := Id) frame limit backend caller) := by
  cases routed : (Request.ofQuery caller query).route frame with
  | error cause => simp [dispatched_of_error routed, dispatch, routed]
  | ok route =>
      cases route with
      | timeline range => simp [dispatched_of_timeline routed, dispatch, routed]
      | call call =>
          simp only [dispatched_of_call routed, dispatch, routed]
          rfl

/-- The calls that are noted are those to which the request leads, which is one at most. -/
theorem calls_dispatched (frame : TimeFrame) (limit : Option Nat) (backend : Backend)
    (caller : Option Params) (query : Query) :
    (query.dispatched frame limit backend caller).calls = [] ∧
        (∀ call, (Request.ofQuery caller query).route frame ≠ .ok (.call call)) ∨
      ∃ call, (query.dispatched frame limit backend caller).calls = [call] ∧
        (Request.ofQuery caller query).route frame = .ok (.call call) := by
  cases routed : (Request.ofQuery caller query).route frame with
  | error cause => exact .inl ⟨by rw [dispatched_of_error routed], by simp⟩
  | ok route =>
      cases route with
      | timeline range => exact .inl ⟨by rw [dispatched_of_timeline routed], by simp⟩
      | call call => exact .inr ⟨call, by rw [dispatched_of_call routed], rfl⟩

theorem mem_calls_dispatched_iff :
    call ∈ (query.dispatched frame limit backend caller).calls ↔
      query.moduleName = "cms" ∧ IsStoreAction query.action call.method ∧
        HasTarget caller query call.target ∧
        call.params = Params.merge caller query.params := by
  have isCall : call ∈ (query.dispatched frame limit backend caller).calls ↔
      (Request.ofQuery caller query).route frame = .ok (.call call) := by
    rcases calls_dispatched frame limit backend caller query with
      ⟨noCalls, noCall⟩ | ⟨made, oneCall, routed⟩
    · simp [noCalls, noCall call]
    · simp [oneCall, routed, eq_comm]
  rw [isCall, Request.route_eq_call_iff]
  constructor
  · rintro ⟨isStore, method, target, isMethod, hasTarget, rfl⟩
    exact ⟨isStore, Request.storeMethod?_eq_some_iff.mp isMethod,
      Request.target_ofQuery_eq_some_iff.mp hasTarget, rfl⟩
  · rintro ⟨isStore, isAction, hasTarget, isMerged⟩
    exact ⟨isStore, call.method, call.target, Request.storeMethod?_eq_some_iff.mpr isAction,
      Request.target_ofQuery_eq_some_iff.mpr hasTarget, by cases call; cases isMerged; rfl⟩

theorem length_calls_dispatched_le (frame : TimeFrame) (limit : Option Nat) (backend : Backend)
    (caller : Option Params) (query : Query) :
    (query.dispatched frame limit backend caller).calls.length ≤ 1 := by
  rcases calls_dispatched frame limit backend caller query with ⟨noCalls, _⟩ | ⟨call, oneCall, _⟩
  · simp [noCalls]
  · simp [oneCall]

theorem length_calls_dispatched_eq_one_iff :
    (query.dispatched frame limit backend caller).calls.length = 1 ↔
      query.moduleName = "cms" ∧ (∃ method, IsStoreAction query.action method) ∧
        ∃ target, HasTarget caller query target := by
  have atMostOne := length_calls_dispatched_le frame limit backend caller query
  have isOne : (query.dispatched frame limit backend caller).calls.length = 1 ↔
      ∃ call, call ∈ (query.dispatched frame limit backend caller).calls := by
    rw [← List.length_pos_iff_exists_mem]
    omega
  rw [isOne]
  constructor
  · rintro ⟨call, member⟩
    rcases mem_calls_dispatched_iff.mp member with ⟨isStore, isAction, hasTarget, _⟩
    exact ⟨isStore, ⟨_, isAction⟩, _, hasTarget⟩
  · rintro ⟨isStore, ⟨method, isAction⟩, target, hasTarget⟩
    exact ⟨⟨method, target, Params.merge caller query.params⟩,
      mem_calls_dispatched_iff.mpr ⟨isStore, isAction, hasTarget, rfl⟩⟩

/-- With a target in the directive, method and target of the calls do not depend on the caller. -/
theorem map_calls_dispatched_of_named {target : String} (isNamed : query.target = some target) :
    (query.dispatched frame limit backend caller).calls.map
        (fun call => (call.method, call.target)) =
      if query.moduleName = "cms" then
        (Request.storeMethod? query.action).toList.map fun method => (method, target)
      else [] := by
  have hasTarget : (Request.ofQuery caller query).target = some target := by
    simp [Request.ofQuery, isNamed]
  rcases calls_dispatched frame limit backend caller query with
    ⟨noCalls, noCall⟩ | ⟨call, oneCall, routed⟩
  · rw [noCalls]
    split
    · next isStore =>
      cases isMethod : Request.storeMethod? query.action with
      | none => rfl
      | some method =>
          exact absurd (Request.route_eq_call_iff.mpr
            ⟨isStore, method, target, isMethod, hasTarget, rfl⟩) (noCall _)
    · rfl
  · rcases Request.route_eq_call_iff.mp routed with
      ⟨isStore, method, other, isMethod, isOther, rfl⟩
    rw [hasTarget, Option.some.injEq] at isOther
    have isStore : query.moduleName = "cms" := isStore
    have isMethod : Request.storeMethod? query.action = some method := isMethod
    simp [oneCall, isStore, isMethod, isOther]

/-- A cause that is none of the store and no timeout is reported where routing finds it. -/
theorem result_eq_error_iff {cause : QueryError} (noStore : ∀ storeCause, cause ≠ .store storeCause)
    (noTimeout : ∀ milliseconds, cause ≠ .timedOut milliseconds) :
    (query.dispatched frame limit backend caller).result = .error cause ↔
      (Request.ofQuery caller query).route frame = .error cause := by
  cases routed : (Request.ofQuery caller query).route frame with
  | error found => simp [dispatched_of_error routed]
  | ok route =>
      cases route with
      | timeline range => simp [dispatched_of_timeline routed]
      | call call =>
          simp only [dispatched_of_call routed, reduceCtorEq, iff_false]
          intro failed
          rcases Reply.eq_store_or_timedOut failed with ⟨_, isStore⟩ | ⟨_, isTimeout⟩
          · exact noStore _ isStore
          · exact noTimeout _ isTimeout

end

/-- Dispatching a query makes one call of the store at most.  It makes one exactly where the module
is that of the store, the action is one that the store answers and there is a target; the call is
the method of this action with this target and the merged parameters.  An unknown module or action
is reported with and without a target, and a missing target for known actions only.  When the
directive names its target, the caller has no influence on method and target. -/
theorem dispatched_routing (frame : TimeFrame) (limit : Option Nat) (backend : Backend)
    (caller : Option Params) (query : Query) :
    let answered := query.dispatched frame limit backend caller
    (∀ directive, Query.parse directive = .ok query →
      executeDirective frame backend limit caller directive = answered.result) ∧
    answered.calls.length ≤ 1 ∧
    (answered.calls.length = 1 ↔
      query.moduleName = "cms" ∧ (∃ method, IsStoreAction query.action method) ∧
        ∃ target, HasTarget caller query target) ∧
    (∀ call ∈ answered.calls,
      IsStoreAction query.action call.method ∧ HasTarget caller query call.target ∧
        call.params = Params.merge caller query.params) ∧
    (∀ name, answered.result = .error (.unknownModule name) ↔
      name = query.moduleName ∧ name ≠ "cms" ∧ name ≠ "gen") ∧
    (∀ name action, answered.result = .error (.unknownAction name action) ↔
      name = query.moduleName ∧ action = query.action ∧ (name = "cms" ∨ name = "gen") ∧
        ¬IsKnownAction name action) ∧
    (∀ action, answered.result = .error (.missingTarget action) ↔
      action = query.action ∧ IsKnownAction query.moduleName action ∧
        ∀ target, ¬HasTarget caller query target) ∧
    ∀ (other : Option Params) (target : String), query.target = some target →
      (query.dispatched frame limit backend other).calls.map
          (fun call => (call.method, call.target)) =
        answered.calls.map fun call => (call.method, call.target) := by
  intro answered
  refine ⟨?_, ?_, ?_, ?_, ?_, ?_, ?_, ?_⟩
  · intro directive parsed
    rw [executeDirective_eq_dispatch, parsed, result_dispatched]
    rfl
  · exact length_calls_dispatched_le frame limit backend caller query
  · exact length_calls_dispatched_eq_one_iff
  · intro call member
    exact (mem_calls_dispatched_iff.mp member).2
  · intro name
    rw [result_eq_error_iff (by simp) (by simp), Request.route_eq_unknownModule_iff]
    rfl
  · intro name action
    rw [result_eq_error_iff (by simp) (by simp), Request.route_eq_unknownAction_iff]
    rfl
  · intro action
    rw [result_eq_error_iff (by simp) (by simp), Request.route_eq_missingTarget_iff,
      Request.target_ofQuery_eq_none_iff]
    rfl
  · intro other target isNamed
    rw [map_calls_dispatched_of_named isNamed, map_calls_dispatched_of_named isNamed]

/-- The conclusion for a directive with a target and two callers, one of which names another. -/
theorem dispatched_routing_named_target :
    let query : Query := ⟨"cms", "list", some "news", [("limit", some "5")]⟩
    let backend : Backend := fun call => ⟨0, .ok (.string call.target)⟩
    let caller : Option Params := some [("target", some "secret"), ("limit", some "3")]
    Query.parse "\x7bcms\x7d/list/news?limit=5" = .ok query ∧
      (query.dispatched ⟨0, ⟨0, 0⟩⟩ none backend caller).calls.length = 1 ∧
      executeDirective ⟨0, ⟨0, 0⟩⟩ backend none caller "\x7bcms\x7d/list/news?limit=5" =
        (query.dispatched ⟨0, ⟨0, 0⟩⟩ none backend caller).result ∧
      (query.dispatched ⟨0, ⟨0, 0⟩⟩ none backend none).calls.map
          (fun call => (call.method, call.target)) =
        (query.dispatched ⟨0, ⟨0, 0⟩⟩ none backend caller).calls.map
          fun call => (call.method, call.target) := by
  intro query backend caller
  have parsed : Query.parse "\x7bcms\x7d/list/news?limit=5" = .ok query := rfl
  rcases dispatched_routing ⟨0, ⟨0, 0⟩⟩ none backend caller query with
    ⟨executes, _, isOne, _, _, _, _, sameCall⟩
  exact ⟨parsed, isOne.mpr ⟨rfl, ⟨_, .list⟩, _, .named rfl⟩, executes _ parsed,
    sameCall none _ rfl⟩

end Query

end PageContext
