import PageContext.Calendar.Frame
import PageContext.Files.Path
import PageContext.Page.Context

/-!
# Settings

The settings say where templates and content are, which addresses pages link to, in which offset
dates are shown, how long a call to the store may take and what is logged where.  Settings can be
checked; each rule that they violate is one problem, and only settings without problems are used.
-/

namespace PageContext

/-- What is logged, how and where. -/
structure LogSettings where
  level : String := "info"
  format : String := "text"
  output : String := "stderr"
  /-- The file for the output `file`. -/
  file : String := "logs/trellis.log"
  color : Bool := true
  /-- The levels of single modules, sorted by their names. -/
  modules : List (String × String) := []
deriving DecidableEq, Repr, Inhabited

/-- All settings. -/
structure Settings where
  contextDirectory : String := "context"
  staticUrl : String := ""
  baseUrl : String := ""
  phpUrl : String := ""
  /-- The offset of local time in minutes east of universal time. -/
  utcOffsetMinutes : Int := -360
  /-- How many milliseconds a call to the store may take. -/
  directiveTimeout : Option Nat := none
  /-- The file with the records of the store. -/
  fixture : Option String := none
  logging : LogSettings := {}
deriving DecidableEq, Repr, Inhabited

/-- A rule on logging that settings violate. -/
inductive LogProblem where
  | invalidLevel (level : String)
  | invalidFormat (format : String)
  | invalidOutput (output : String)
  | emptyFile
deriving DecidableEq, Repr, Inhabited

/-- A rule that settings violate. -/
inductive SettingsProblem where
  | emptyContextDirectory
  /-- An address that ends with a slash, by the name of its setting. -/
  | trailingSlash (name address : String)
  | offsetOutOfRange (minutes : Int)
  | zeroTimeout
  | logging (problem : LogProblem)
deriving DecidableEq, Repr, Inhabited

namespace LogProblem

def message : LogProblem → String
  | .invalidLevel level => "Invalid log level: " ++ level
  | .invalidFormat format =>
      "Configuration error: Invalid log format: " ++ format ++ " (must be 'json' or 'text')"
  | .invalidOutput output =>
      "Configuration error: Invalid log output: " ++ output ++
        " (must be 'stdout', 'stderr' or 'file')"
  | .emptyFile => "Log file path cannot be empty when output is 'file'"

end LogProblem

namespace SettingsProblem

def message : SettingsProblem → String
  | .emptyContextDirectory => "Path 'context_dir': cannot be empty"
  | .trailingSlash name address =>
      "URL '" ++ name ++ "': " ++ Text.quoted address ++ " must not end with '/'"
  | .offsetOutOfRange minutes =>
      "Dates: utc_offset_minutes " ++ toString minutes ++
        " is out of range (must be within ±1439)"
  | .zeroTimeout => "Resolver: directive_timeout_ms must be greater than zero"
  | .logging problem => "Logging: " ++ problem.message

end SettingsProblem

namespace LogSettings

def levels : List String :=
  ["trace", "debug", "info", "warn", "error", "off"]

def formats : List String :=
  ["text", "json"]

def outputs : List String :=
  ["stdout", "stderr", "file"]

def problem? (settings : LogSettings) : Option LogProblem :=
  if !levels.contains settings.level then some (.invalidLevel settings.level)
  else if !formats.contains settings.format then some (.invalidFormat settings.format)
  else if !outputs.contains settings.output then some (.invalidOutput settings.output)
  else if settings.output = "file" && settings.file = "" then some .emptyFile
  else none

end LogSettings

namespace Settings

/-- The problem of an address: a slash at its end, unless it is nothing else. -/
def addressProblem? (name address : String) : Option SettingsProblem :=
  if 1 < address.utf8ByteSize && address.toList.getLast? == some '/' then
    some (.trailingSlash name address)
  else none

/-- The offset of local time in seconds, if the minutes fit into 32 bits and are less than a
day. -/
def offset? (settings : Settings) : Option Int :=
  if Text.fitsSigned 32 settings.utcOffsetMinutes then
    TimeFrame.offsetOfMinutes? settings.utcOffsetMinutes
  else none

/-- All problems, in a fixed order; of the problems of logging only the first one. -/
def problems (settings : Settings) : List SettingsProblem :=
  (if settings.contextDirectory = "" then [.emptyContextDirectory] else []) ++
    (addressProblem? "static_url" settings.staticUrl).toList ++
    (addressProblem? "base_url" settings.baseUrl).toList ++
    (addressProblem? "php_url" settings.phpUrl).toList ++
    (if settings.offset?.isNone then [.offsetOutOfRange settings.utcOffsetMinutes] else []) ++
    (if settings.directiveTimeout = some 0 then [.zeroTimeout] else []) ++
    (settings.logging.problem?.map .logging).toList

/-- The offset of local time in seconds; universal time if the setting is out of range. -/
def offset (settings : Settings) : Int :=
  settings.offset?.getD 0

/-- What is copied into the context of every page. -/
def pageOptions (settings : Settings) (query : Option Params) : PageOptions where
  staticUrl := settings.staticUrl
  baseUrl := settings.baseUrl
  phpUrl := settings.phpUrl
  query := query

/-- The directory of templates of a workspace. -/
def contextPath (settings : Settings) (workspace : String) : String :=
  Path.join workspace settings.contextDirectory

/-- The file with the records of a workspace's store. -/
def fixturePath? (settings : Settings) (workspace : String) : Option String :=
  settings.fixture.map (Path.join workspace)

end Settings

end PageContext
