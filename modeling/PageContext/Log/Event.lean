import PageContext.Json.Printer
import PageContext.Log.Filter
import PageContext.Template.Resolution

/-!
# Log events

An event has a level, a target, which names the part of the program that it comes from, a message
and fields.  Resolving a template leaves a trace of events: the decoded query of each directive, the
range of a timeline, each transform that is applied, and whether the directive has a result or
falls back.  After a crash nothing more is left.
-/

namespace PageContext

/-- Something worth logging. -/
structure LogEvent where
  level : LogLevel
  target : String
  message : String
  fields : List (String × Json) := []
deriving Repr, Inhabited

namespace LogEvent

/-- The message and the fields as an object. -/
def fieldsJson (event : LogEvent) : Json :=
  .object (("message", .string event.message) :: event.fields)

/-- A text that may be missing, as fields show it. -/
def optionText : Option String → String
  | none => "None"
  | some text => "Some(" ++ text ++ ")"

def paramsText (params : Params) : String :=
  "\x7b" ++ String.intercalate ", " (params.map fun (key, value) =>
    Text.quoted key ++ ": " ++ optionText (value.map Text.quoted)) ++ "\x7d"

/-- A request has been made of a directive. -/
def decodedQuery (request : Request) : LogEvent where
  level := .debug
  target := "trellis::query::dispatch"
  message := "Decoded query"
  fields :=
    [("module", .string request.query.moduleName), ("action", .string request.query.action),
      ("target", .string (optionText (request.target.map Text.quoted))),
      ("params", .string (paramsText request.params))]

/-- The range of a timeline has been read. -/
def decodedRange (range : TimelineRange) : LogEvent where
  level := .debug
  target := "trellis::generators"
  message := "Decoded timeline range"
  fields :=
    [("unit", .string (match range.unit with | .year => "Year" | .month => "Month")),
      ("start", .string (optionText (range.start.map Instant.text))),
      ("end", .string (optionText (range.finish.map Instant.text)))]

def applied (name : String) : LogEvent where
  level := .trace
  target := "trellis::process"
  message := "Process result"
  fields := [("action", .string name)]

def finished (node : DirectiveNode) : LogEvent where
  level := .debug
  target := "trellis::context::resolver"
  message := "Final result ready"
  fields := [("query", .string node.query.compact)]

def fellBack (fallback : Fallback) : LogEvent where
  level := .warn
  target := "trellis::context::resolver"
  message := "Query failed, using fallback"
  fields :=
    [("query", .string fallback.query.compact), ("error", .string fallback.cause.message),
      ("has_default", .bool fallback.hasDefault)]

def resolving (directives : Nat) : LogEvent where
  level := .debug
  target := "trellis::context::resolver"
  message := "Resolving template"
  fields := [("directives", .int directives)]

/-- The records of a fixture are in the store. -/
def fixtureLoaded (count : Nat) : LogEvent where
  level := .debug
  target := "trellis::store::memory"
  message := "Loaded content store fixture"
  fields := [("item_count", .int count)]

def storeReady (path : String) (count : Nat) : LogEvent where
  level := .info
  target := "trellis::cli::route"
  message := "Content store loaded"
  fields := [("fixture", .string path), ("items", .int count)]

def noStore : LogEvent where
  level := .warn
  target := "trellis::cli::route"
  message := "No store fixture configured; every cms directive will fall back"

def pageStarted (name : String) : LogEvent where
  level := .info
  target := "trellis::context::page"
  message := "Start prepare context"
  fields := [("page", .string name)]

def pageReady (name : String) : LogEvent where
  level := .info
  target := "trellis::context::page"
  message := "Context ready"
  fields := [("page", .string name)]

def noGlobalFile (path : String) : LogEvent where
  level := .debug
  target := "trellis::config::sources::global_file"
  message := "No global configuration file"
  fields := [("config_path", .string path)]

def programStarted : LogEvent where
  level := .info
  target := "trellis"
  message := "Trellis CLI starting"

def commandCompleted : LogEvent where
  level := .info
  target := "trellis"
  message := "Command completed successfully"

def commandFailed (reason : String) : LogEvent where
  level := .error
  target := "trellis"
  message := "Command failed: " ++ reason

end LogEvent

namespace Resolver

/-- The events up to the result of a directive's query. -/
def queryEvents (resolver : Resolver) (node : DirectiveNode) : List LogEvent :=
  match resolver.request node with
  | .error _ => []
  | .ok request =>
      LogEvent.decodedQuery request ::
        match request.route resolver.frame with
        | .ok (.timeline range) => [LogEvent.decodedRange range]
        | _ => []

/-- The events of the transforms of a directive. -/
def transformEvents (resolver : Resolver) (node : DirectiveNode) : List LogEvent :=
  match resolver.fetched node with
  | .ok value =>
      (Transform.appliedNames resolver.frame node.process value).map LogEvent.applied
  | .error _ => []

def directiveEvents (resolver : Resolver) (node : DirectiveNode) : List LogEvent :=
  resolver.queryEvents node ++ resolver.transformEvents node ++
    match resolver.outcome node with
    | .ok _ => [LogEvent.finished node]
    | .error (.failure cause) => [LogEvent.fellBack ⟨node.query, cause, node.default.isSome⟩]
    | .error .crash => []

/-- The events of directives one after the other, up to a crash. -/
def eventsOf (resolver : Resolver) : List DirectiveNode → List LogEvent
  | [] => []
  | node :: rest =>
      resolver.directiveEvents node ++ if resolver.crashes node then [] else resolver.eventsOf rest

/-- The events of the resolution of a template; one that is refused has none. -/
def events (resolver : Resolver) (template : Json) : List LogEvent :=
  match Template.classify template with
  | .ok classified =>
      LogEvent.resolving classified.directives.length :: resolver.eventsOf classified.directives
  | .error _ => []

/-- The events of the resolution of two templates, the second one after the first. -/
def eventsOfBoth (resolver : Resolver) (first second : Json) : List LogEvent :=
  resolver.events first ++
    match resolver.resolve first with
    | .ok _ => resolver.events second
    | .error _ => []

end Resolver

end PageContext
