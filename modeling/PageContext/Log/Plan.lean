import PageContext.Log.Event
import PageContext.Settings.Source

/-!
# Where log lines go

What is logged is decided by settings and by variables of the environment, which win.  The variable
with a filter replaces level and modules of the settings altogether, if it can be read.
-/

namespace PageContext

/-- The format of log lines. -/
inductive LogFormat where
  | text
  | json
deriving DecidableEq, Repr, Inhabited

/-- The place that log lines go to. -/
inductive LogOutput where
  | standardOutput
  | standardError
  | file
deriving DecidableEq, Repr, Inhabited

/-- Why logging cannot be set up. -/
inductive LogSetupError where
  | invalidDirective (text : String) (cause : DirectiveError)
  | invalidSetting (problem : LogProblem)
  | cannotCreateDirectory (cause : FileError)
  | cannotOpen (path : String) (cause : FileError)
deriving DecidableEq, Repr, Inhabited

def LogSetupError.message : LogSetupError → String
  | .invalidDirective text cause =>
      "Configuration error: Invalid log directive " ++ text ++ ": " ++ cause.message
  | .invalidSetting problem => problem.message
  | .cannotCreateDirectory cause =>
      "Configuration error: Failed to create log directory: " ++ cause.message
  | .cannotOpen path cause =>
      "Configuration error: Failed to open log file " ++ Text.quoted path ++ ": " ++ cause.message

/-- What is logged, how and where. -/
structure LogPlan where
  filter : LogFilter
  format : LogFormat
  output : LogOutput
  file : String
  color : Bool
deriving Repr, Inhabited

namespace LogPlan

/-- The directives in a text of modules with levels; entries that lack either are passed over. -/
def moduleDirectives (text : String) : List String :=
  (Text.pieces ',' text).filterMap fun entry =>
    (Text.cut '=' entry).bind fun (name, level) =>
      let name := Text.trim name
      let level := Text.trim level
      if name = "" || level = "" then none else some (name ++ "=" ++ level)

/-- Adds directives to a filter; all of them must be readable. -/
def withDirectives (filter : LogFilter) : List String → Except LogSetupError LogFilter
  | [] => .ok filter
  | text :: rest =>
      match LogDirective.parse text with
      | .ok directive => withDirectives (filter ++ [directive]) rest
      | .error cause => .error (.invalidDirective text cause)

/-- The filter in the environment, if there is one that can be read. -/
def environmentFilter? (environment : Environment) : Option LogFilter :=
  (Entries.get? "TRELLIS_LOG" environment).bind fun text => (LogFilter.parse text).toOption

/-- The filter of settings and of the modules in the environment. -/
def settingsFilter (environment : Environment) (settings : LogSettings) :
    Except LogSetupError LogFilter :=
  if settings.level = "off" then .ok [.static none 0]
  else
    let modules := settings.modules.map fun entry => entry.1 ++ "=" ++ entry.2
    let extra := ((Entries.get? "TRELLIS_LOG_MODULES" environment).map moduleDirectives).getD []
    withDirectives (LogFilter.parseReadable settings.level).1 (modules ++ extra)

/-- The directives of the settings that are passed over, with the reasons. -/
def ignored (environment : Environment) (settings : LogSettings) :
    List (String × DirectiveError) :=
  if (environmentFilter? environment).isSome || settings.level = "off" then []
  else (LogFilter.parseReadable settings.level).2

def format? (name : String) : Option LogFormat :=
  if name = "text" then some .text else if name = "json" then some .json else none

def output? (name : String) : Option LogOutput :=
  if name = "stdout" then some .standardOutput
  else if name = "stderr" then some .standardError
  else if name = "file" then some .file
  else none

/-- The format: the one in the environment if it can be read, else that of the settings. -/
def formatOf (environment : Environment) (settings : LogSettings) :
    Except LogSetupError LogFormat :=
  match (Entries.get? "TRELLIS_LOG_FORMAT" environment).bind format? with
  | some format => .ok format
  | none =>
      match format? settings.format with
      | some format => .ok format
      | none => .error (.invalidSetting (.invalidFormat settings.format))

/-- The output: the one in the environment if there is one, else that of the settings. -/
def outputOf (environment : Environment) (settings : LogSettings) :
    Except LogSetupError LogOutput :=
  let name := (Entries.get? "TRELLIS_LOG_OUTPUT" environment).getD settings.output
  match output? name with
  | some output => .ok output
  | none => .error (.invalidSetting (.invalidOutput name))

def ofSettings (environment : Environment) (settings : LogSettings) :
    Except LogSetupError LogPlan := do
  let filter ←
    match environmentFilter? environment with
    | some filter => .ok filter
    | none => settingsFilter environment settings
  return {
    filter := filter
    format := ← formatOf environment settings
    output := ← outputOf environment settings
    file := settings.file
    color := settings.color
  }

def shown (plan : LogPlan) (events : List LogEvent) : List LogEvent :=
  events.filter fun event => plan.filter.passes event.target event.level

/-- The lines about directives that are passed over. -/
def ignoredText (environment : Environment) (settings : LogSettings) : String :=
  String.join ((ignored environment settings).map fun (text, cause) =>
    "ignoring `" ++ text ++ "`: " ++ cause.message ++ "\n")

/-- Whether lines have colors: only text that does not go to a file. -/
def isColored (plan : LogPlan) : Bool :=
  plan.color && plan.output != .file && plan.format == .text

/-- A text between the codes that set and reset a style. -/
def styled (plan : LogPlan) (code text : String) : String :=
  if plan.isColored then "\x1b[" ++ code ++ "m" ++ text ++ "\x1b[0m" else text

def colorCode : LogLevel → String
  | .error => "31"
  | .warn => "33"
  | .info => "32"
  | .debug => "34"
  | .trace => "35"

/-- The value of a field in a line of text. -/
def fieldText : Json → String
  | .string text => text
  | value => value.compact

def timeText (time : Instant) : String :=
  time.textInZone "+00:00"

/-- A line of text for an event at a time. -/
def textLine (plan : LogPlan) (time : Instant) (event : LogEvent) : String :=
  let level := String.ofList (List.replicate (5 - event.level.name.length) ' ') ++ event.level.name
  let fields := event.fields.map fun (key, value) =>
    " " ++ plan.styled "3" key ++ plan.styled "2" "=" ++ fieldText value
  plan.styled "2" (timeText time) ++ " " ++ plan.styled (colorCode event.level) level ++ " " ++
    plan.styled "2" event.target ++ plan.styled "2" ":" ++ " " ++ event.message ++
    String.join fields ++ "\n"

/-- A line of JSON for an event at a time. -/
def jsonLine (time : Instant) (event : LogEvent) : String :=
  (Json.object [("timestamp", .string (timeText time)), ("level", .string event.level.name),
    ("fields", event.fieldsJson), ("target", .string event.target)]).compact ++ "\n"

def lines (plan : LogPlan) (time : Instant) (events : List LogEvent) : String :=
  String.join ((plan.shown events).map fun event =>
    match plan.format with
    | .text => plan.textLine time event
    | .json => jsonLine time event)

end LogPlan

end PageContext
