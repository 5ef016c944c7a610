import PageContext.Command.Line
import PageContext.Log.Event
import PageContext.Page.Loader
import PageContext.Settings.Printer
import PageContext.Settings.Source
import PageContext.Store.Memory

/-!
# Commands in a workspace

A command is executed with the settings of a workspace and the files it finds.  Resolving reads the
template before the store is opened; preparing a page opens the store before any template is read.
Without a file for it, the store is empty.  Executing leaves a trace of events, also when it fails.
-/

namespace PageContext

/-- Why a command fails. -/
inductive CommandError where
  | load (cause : LoadError)
  | store (cause : StoreError)
  | template (cause : TemplateError)
  | query (cause : QueryError)
  | settings (cause : SettingsError)
deriving Repr, Inhabited

/-- The cause in words; what is not found may be a mistake in the settings. -/
def CommandError.message : CommandError → String
  | .load (.notFound path) => (LoadError.notFound path).message ++ " (check context_dir)"
  | .load cause => cause.message
  | .store cause => "Store error: " ++ cause.message
  | .template cause => "Resolve error: " ++ cause.message
  | .query cause => "Query error: " ++ cause.message
  | .settings cause => cause.message

/-- A computation that may fail or crash and leaves a trace of events. -/
abbrev Execution := ExceptT (Stop CommandError) (StateM (List LogEvent))

namespace Execution

def log (events : List LogEvent) : Execution Unit :=
  modify (· ++ events)

/-- A result that stops a command where there is none. -/
def check {ε α : Type} (asStop : ε → Stop CommandError) (result : Except ε α) : Execution α :=
  match result with
  | .ok value => return value
  | .error cause => throw (asStop cause)

/-- A result whose failure is that of a command. -/
def orFail {ε α : Type} (asCommandError : ε → CommandError) : Except ε α → Execution α :=
  check fun cause => .failure (asCommandError cause)

end Execution

/-- What commands are executed with. -/
structure Workspace where
  root : String
  settings : Settings
  files : Files
  now : Instant
  /-- Decides which records a random selection has. -/
  seed : Nat

namespace Workspace

def frame (workspace : Workspace) : TimeFrame :=
  ⟨workspace.settings.offset, workspace.now⟩

def contextPath (workspace : Workspace) : String :=
  workspace.settings.contextPath workspace.root

/-- The file with the records of the store: the one that a command names, or that of the
settings. -/
def fixturePath? (workspace : Workspace) (override : Option String) : Option String :=
  override.or (workspace.settings.fixturePath? workspace.root)

/-- The paths of the files that a command reads. -/
def paths (workspace : Workspace) : Command → List String
  | .resolve template store _ => template :: (workspace.fixturePath? store).toList
  | .page name store _ =>
      (workspace.fixturePath? store).toList ++
        [Page.globalPath workspace.contextPath, Page.path workspace.contextPath name]
  | .parse _ => []
  | .config => []

def openStore (workspace : Workspace) (override : Option String) : Execution MemoryStore := do
  match workspace.fixturePath? override with
  | none => do
      Execution.log [.noStore]
      return {}
  | some path => do
      let store ← Execution.orFail .store (MemoryStore.ofFile workspace.files path)
      let count := store.records.length
      Execution.log [.fixtureLoaded count, .storeReady path count]
      return store

/-- A resolver with a store and the parameters of a caller. -/
def resolver (workspace : Workspace) (store : MemoryStore) (caller : Option Params) : Resolver where
  frame := workspace.frame
  backend := store.backend workspace.seed
  limit := workspace.settings.directiveTimeout
  caller := caller

/-- The parameters of a caller; of parameters with one key the last one counts. -/
def callerParams (params : Params) : Option Params :=
  if params.isEmpty then none else some (Entries.ofPairs params)

def resolve (workspace : Workspace) (templatePath : String) (storePath : Option String)
    (params : Params) : Execution Json := do
  let template ← Execution.orFail .load (readTemplate workspace.files templatePath)
  let store ← workspace.openStore storePath
  let resolver := workspace.resolver store (callerParams params)
  Execution.log (resolver.events template)
  let resolution ← Execution.check (Stop.map .template) (resolver.resolve template)
  return resolution.value

def preparePage (workspace : Workspace) (name : String) (storePath : Option String)
    (params : Params) : Execution Json := do
  let store ← workspace.openStore storePath
  let caller := callerParams params
  let resolver := workspace.resolver store caller
  Execution.log [.pageStarted name]
  let (global, page) ←
    Execution.orFail .load (Page.readTemplates workspace.files workspace.contextPath name)
  Execution.log (resolver.eventsOfBoth global page)
  let prepared ← Execution.check (Stop.map .template)
    (resolver.preparePage global page (workspace.settings.pageOptions caller))
  Execution.log [.pageReady name]
  return prepared.value

/-- A query as a value, with its canonical directive. -/
def describe (query : Query) : Json :=
  .object [("module", .string query.moduleName), ("action", .string query.action),
    ("target", (query.target.map Json.string).getD .null),
    ("params", PageOptions.queryValue (some query.params)), ("canonical", .string query.render)]

def describeDirective (directive : String) : Execution Json := do
  return describe (← Execution.orFail .query (Query.parse directive))

/-- Executes a command and gives the text that it prints. -/
def execute (workspace : Workspace) : Command → Execution String
  | .resolve template store params => do
      return (← workspace.resolve template store params).pretty
  | .page name store params => do
      return (← workspace.preparePage name store params).pretty
  | .parse directive => do
      return (← describeDirective directive).pretty
  | .config =>
      match workspace.settings.toToml? with
      | some document => return document
      | none => throw (.failure (.settings .unprintable))

end Workspace

end PageContext
