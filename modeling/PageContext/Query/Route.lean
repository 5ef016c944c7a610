import PageContext.Calendar.Timeline
import PageContext.Query.Directive
import PageContext.Query.Error

/-!
# Where queries lead

A query, merged with the parameters of its caller, leads to one call of the content store or to a
timeline, or it fails.  The target is the one in the directive, or else a parameter `target` that
is not empty.  An unknown module or action is found before a missing target.
-/

namespace PageContext

/-- A query with the parameters that count and the target they give. -/
structure Request where
  query : Query
  params : Params
  target : Option String
deriving DecidableEq, Repr

/-- Where a query leads. -/
inductive Route where
  | call (call : StoreCall)
  | timeline (range : TimelineRange)
deriving DecidableEq, Repr

/-- Reads a directive; any other text is malformed. -/
def Query.parse (directive : String) : Except QueryError Query :=
  match Query.parse? directive with
  | some query => .ok query
  | none => .error (.malformed directive)

namespace Request

def ofQuery (caller : Option Params) (query : Query) : Request :=
  let params := Params.merge caller query.params
  { query := query
    params := params
    target := query.target.or ((params.value? "target").filter (· ≠ "")) }

/-- Reads a directive and makes a request of it. -/
def ofDirective (caller : Option Params) (directive : String) : Except QueryError Request :=
  (Query.parse directive).map (ofQuery caller)

def storeMethod? (action : String) : Option StoreMethod :=
  if action = "get" then some .get
  else if action = "list" then some .list
  else if action = "featured" then some .featured
  else if action = "highlight" then some .highlighted
  else if action = "random" then some .random
  else none

/-- The target of a request, which its action needs. -/
def requireTarget (request : Request) : Except QueryError String :=
  match request.target with
  | some target => .ok target
  | none => .error (.missingTarget request.query.action)

def route (frame : TimeFrame) (request : Request) : Except QueryError Route := do
  let query := request.query
  if query.moduleName = "cms" then
    match storeMethod? query.action with
    | some method => return .call ⟨method, ← request.requireTarget, request.params⟩
    | none => throw (.unknownAction query.moduleName query.action)
  else if query.moduleName = "gen" then
    if query.action = "timeline" then
      let target ← request.requireTarget
      match TimelineRange.unit? target with
      | some unit => return .timeline (.ofParams frame unit request.params)
      | none => throw (.unknownTimelineUnit target)
    else throw (.unknownAction query.moduleName query.action)
  else throw (.unknownModule query.moduleName)

end Request

/-- The result at the end of a route; a call that takes longer than the limit has none. -/
def Route.follow (frame : TimeFrame) (backend : Backend) (limit : Option Nat) :
    Route → Except QueryError Json
  | .timeline range => .ok (range.toJson frame)
  | .call storeCall =>
      let reply := backend storeCall
      match limit with
      | some milliseconds =>
          if milliseconds < reply.delay then .error (.timedOut milliseconds)
          else reply.result.mapError .store
      | none => reply.result.mapError .store

def executeDirective (frame : TimeFrame) (backend : Backend) (limit : Option Nat)
    (caller : Option Params) (directive : String) : Except QueryError Json := do
  let request ← Request.ofDirective caller directive
  let route ← request.route frame
  route.follow frame backend limit

end PageContext
