import PageContext.Query.Route
import PageContext.Template.Basic
import PageContext.Transform.Chain

/-!
# Resolving templates

Every directive of a template is executed on its own.  Its result is taken out of its envelope and
sent through the chain of transforms; when any step fails, the default of the directive, or null,
stands in and nothing else changes.  Only a template that is nested too deeply cannot be resolved, and
a directive whose transforms crash takes the whole program with it.
-/

namespace PageContext

/-- What directives are resolved with. -/
structure Resolver where
  frame : TimeFrame
  backend : Backend
  /-- How many milliseconds a call to the store may take. -/
  limit : Option Nat := none
  /-- The parameters of the caller. -/
  caller : Option Params := none

/-- A directive whose default stands in for it. -/
structure Fallback where
  query : Json
  cause : QueryError
  hasDefault : Bool
deriving Repr, Inhabited

/-- A resolved template and the directives that fell back. -/
structure Resolution where
  template : Template
  value : Json
  fallbacks : List Fallback
deriving Repr, Inhabited

namespace Resolver

def request (resolver : Resolver) (node : DirectiveNode) : Except QueryError Request :=
  match node.query with
  | .string directive => Request.ofDirective resolver.caller directive
  | query => .error (.malformed query.compact)

def route (resolver : Resolver) (node : DirectiveNode) : Except QueryError Route := do
  (← resolver.request node).route resolver.frame

/-- The call to the store that a directive makes, if it makes one. -/
def call? (resolver : Resolver) (node : DirectiveNode) : Option StoreCall :=
  match resolver.route node with
  | .ok (.call call) => some call
  | _ => none

/-- The value that a directive fetches, out of its envelope and before its transforms. -/
def fetched (resolver : Resolver) (node : DirectiveNode) : Except QueryError Json := do
  let route ← resolver.route node
  let result ← route.follow resolver.frame resolver.backend resolver.limit
  return Envelope.unwrap result

/-- What the transforms of a directive make of the value that it has fetched. -/
def outcomeOf (resolver : Resolver) (node : DirectiveNode) (fetched : Except QueryError Json) :
    Except (Stop QueryError) Json := do
  let value ← fetched.mapError .failure
  (Transform.runChain resolver.frame node.process value).mapError (Stop.map .transform)

def outcome (resolver : Resolver) (node : DirectiveNode) : Except (Stop QueryError) Json :=
  resolver.outcomeOf node (resolver.fetched node)

/-- Whether the transforms of a directive crash. -/
def crashes (resolver : Resolver) (node : DirectiveNode) : Bool :=
  match resolver.outcome node with
  | .error .crash => true
  | _ => false

/-- The value of a directive that does not crash: its result, its default, or null. -/
def value (resolver : Resolver) (node : DirectiveNode) : Json :=
  match resolver.outcome node with
  | .ok value => value
  | .error _ => node.default.getD .null

/-- How a directive falls back, if it does. -/
def fallback? (resolver : Resolver) (node : DirectiveNode) : Option Fallback :=
  match resolver.outcome node with
  | .error (.failure cause) => some ⟨node.query, cause, node.default.isSome⟩
  | _ => none

def resolve (resolver : Resolver) (value : Json) : Except (Stop TemplateError) Resolution := do
  let template ← (Template.classify value).mapError .failure
  if template.directives.any resolver.crashes then throw .crash
  return {
    template := template
    value := template.fill resolver.value
    fallbacks := template.directives.filterMap resolver.fallback?
  }

end Resolver

end PageContext
