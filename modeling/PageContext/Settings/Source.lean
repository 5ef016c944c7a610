import PageContext.Files.Basic
import PageContext.Settings.Reader
import PageContext.Toml.Reader

/-!
# Sources of settings

Settings come from several sources, each of which overrides those before it: the defaults, the
global file of the user, the files of the workspace, and the environment.  The files of a workspace
are the base file and one named after the environment the workspace runs in; a file that is named
explicitly takes the place of both.  Files that do not exist are passed over, except that the
explicit one must exist.

What loading leaves to the system it runs on is a parameter: where the account has its home, how
the text of a file is read, and in which order the variables of the environment are gone through.
-/

namespace PageContext

/-- The variables of the environment. -/
abbrev Environment := List (String × String)

/-- Why settings cannot be loaded. -/
inductive SettingsError where
  /-- The file that was named explicitly does not exist, or is no file of settings. -/
  | noSuchFile (path : String)
  | malformedFile (path : String) (cause : Toml.ReadError)
  | unreadable (cause : UnreadableSetting)
  /-- The settings violate rules. -/
  | invalid (problems : List SettingsProblem)
  /-- The settings cannot be written as a document. -/
  | unprintable
deriving DecidableEq, Repr, Inhabited

namespace SettingsError

def message (error : SettingsError) : String :=
  "Configuration error: " ++
    match error with
    | .noSuchFile path => "configuration file \"" ++ path ++ "\" not found"
    | .malformedFile path cause =>
        "TOML parse error at line " ++ toString cause.line ++ " in " ++ path
    | .unreadable cause => "invalid type for key `" ++ cause.name ++ "`"
    | .invalid problems => String.intercalate "; " (problems.map SettingsProblem.message)
    | .unprintable => "Cannot render configuration: out-of-range value for u64 type"

end SettingsError

namespace Toml

/-- A value of a document as a value of a layer. -/
def toSetting : Toml → SettingValue
  | .text value => .scalar (.text value)
  | .integer value => .scalar (.integer value)
  | .float value => .scalar (.float value)
  | .boolean value => .scalar (.boolean value)
  | .array _ items => .list (toItems items)
  | .table _ entries => .table (toSettings entries)
where
  /-- The items of an array as values of a layer. -/
  toItems : List Toml → List SettingValue
  | [] => []
  | item :: rest => toSetting item :: toItems rest
  /-- The entries of a table as entries of a layer. -/
  toSettings : List (String × Toml) → Layer
  | [] => []
  | (key, value) :: rest => (key, toSetting value) :: toSettings rest

end Toml

/-- What loading settings leaves to the system that it runs on. -/
structure SettingsHost where
  /-- The home directory of the account, for an environment without one. -/
  accountHome? : Option String := none
  /-- The layer that the text of a file stands for, its entries in the order in which they are gone
  through, by default that of the file. -/
  document : String → Except Toml.ReadError Layer :=
    fun text => (Toml.read text).map Toml.toSetting.toSettings
  /-- The order in which the settings of variables are gone through, which need not be that of the
  variables. -/
  arrange : Layer → Layer := id
  arrange_perm : ∀ layer, (arrange layer).Perm layer := by exact List.Perm.refl

namespace Settings

/-- The name of the directory and the files of settings in it. -/
def fileName : String := "config.toml"

def defaultLayer : Layer :=
  [("context_dir", .scalar (.text "context")),
    ("dates", .table [("utc_offset_minutes", .scalar (.integer (-360)))])]

/-- The path of the global file: below the directory of settings if one is given as an absolute
path, else below the home directory, which is that of the account if none is given. -/
def globalPath? (host : SettingsHost) (environment : Environment) : Option String :=
  let home? := (Entries.get? "HOME" environment).or host.accountHome?
  let directory :=
    match (Entries.get? "XDG_CONFIG_HOME" environment).filter Path.isAbsolute with
    | some directory => some directory
    | none => home?.map fun home => Path.join home ".config"
  directory.map fun directory => Path.join (Path.join directory "trellis") fileName

/-- The paths of the files of a workspace, the base file first. -/
def workspacePaths (environment : Environment) (workspace : String) : List String :=
  let directory := Path.join workspace "config"
  let name := (Entries.get? "TRELLIS_ENV" environment).getD "development"
  [Path.join directory fileName, Path.join directory (name ++ ".toml")]

/-- The paths at which settings are looked for. -/
def paths (host : SettingsHost) (environment : Environment) (workspace : String)
    (explicit : Option String) : List String :=
  let ofWorkspace :=
    match explicit with
    | some path => [path]
    | none => workspacePaths environment workspace
  ((globalPath? host environment).toList ++ ofWorkspace).flatMap fun path => [path, path ++ ".toml"]

/-- The file to read for a path: the file itself if its name says that it holds settings, or the
path with `.toml` added where there is no file. -/
def settingsFile? (files : Files) (path : String) : Option String :=
  if files.isFile path then
    if Path.extension? path = some "toml" then some path else none
  else if files.isFile (path ++ ".toml") then some (path ++ ".toml")
  else none

/-- The text of the file of settings at a path. -/
def settingsText? (files : Files) (path : String) : Option String :=
  (settingsFile? files path).bind fun file => (files.read file).toOption

def layerOfText (host : SettingsHost) (path text : String) : Except SettingsError Layer :=
  (host.document text).mapError (SettingsError.malformedFile path)

/-- The layer of a file that need not exist. -/
def optionalLayer (host : SettingsHost) (files : Files) (path : String) :
    Except SettingsError Layer :=
  match settingsText? files path with
  | some text => layerOfText host path text
  | none => .ok []

def requiredLayer (host : SettingsHost) (files : Files) (path : String) :
    Except SettingsError Layer :=
  match settingsText? files path with
  | some text => layerOfText host path text
  | none => .error (.noSuchFile path)

/-- The layer of a file that is passed over when nothing is at its path. -/
def existingLayer (host : SettingsHost) (files : Files) (path : String) :
    Except SettingsError Layer :=
  if files.exists? path then optionalLayer host files path else .ok []

/-- The scalar that the text of a variable stands for. -/
def variableScalar (text : String) : SettingScalar :=
  let lowered := Text.lowerAscii text
  if lowered = "true" then .boolean true
  else if lowered = "false" then .boolean false
  else
    match Text.signed? 64 text with
    | some value => .integer value
    | none =>
        match PlainNumber.ofText? text with
        | some value => .float value
        | none => .text text

/-- Replaces every pair of underscores by a dot. -/
def dotted : List Char → List Char
  | '_' :: '_' :: rest => '.' :: dotted rest
  | character :: rest => character :: dotted rest
  | [] => []

/-- The setting that a variable names with what stands behind the common beginning. -/
def variableKey? (name : String) : Option String :=
  (Text.dropStart? "trellis__".toList (Text.lowerAscii name).toList).map fun rest =>
    String.ofList (dotted rest)

def variableSetting? (binding : String × String) : Option (String × SettingValue) :=
  (variableKey? binding.1).map fun key => (key, .scalar (variableScalar binding.2))

/-- The settings of the variables: of those that name the same setting the last one counts, and
then the order of the variables is forgotten. -/
def environmentLayer (host : SettingsHost) (environment : Environment) : Layer :=
  host.arrange (Entries.ofPairs (environment.filterMap variableSetting?))

/-- Makes sure that the file that is named explicitly is there. -/
def requireFile (files : Files) (explicit : Option String) : Except SettingsError Unit :=
  match explicit with
  | some path => if files.exists? path then .ok () else .error (.noSuchFile path)
  | none => .ok ()

/-- The layers of the workspace, or the one of the file that takes their place. -/
def workspaceLayers (host : SettingsHost) (files : Files) (environment : Environment)
    (workspace : String) (explicit : Option String) : Except SettingsError (List Layer) :=
  match explicit with
  | some path => (requiredLayer host files path).map fun layer => [layer]
  | none => (workspacePaths environment workspace).mapM (existingLayer host files)

def globalLayer (host : SettingsHost) (files : Files) (environment : Environment) :
    Except SettingsError Layer :=
  match globalPath? host environment with
  | some path => existingLayer host files path
  | none => .ok []

/-- All layers, the lowest first.  A missing file is found before any other is read. -/
def layers (host : SettingsHost) (files : Files) (environment : Environment) (workspace : String)
    (explicit : Option String) : Except SettingsError (List Layer) := do
  requireFile files explicit
  let globalSettings ← globalLayer host files environment
  let workspaceSettings ← workspaceLayers host files environment workspace explicit
  return [defaultLayer, globalSettings] ++ workspaceSettings ++
    [environmentLayer host environment]

/-- Lays layers over each other, the lowest first. -/
def stack (layers : List Layer) : Layer :=
  layers.foldl (fun lower upper => Layer.overlaySource upper lower) []

def checked (settings : Settings) : Except SettingsError Settings :=
  match settings.problems with
  | [] => .ok settings
  | problems => .error (.invalid problems)

def load (host : SettingsHost) (files : Files) (environment : Environment) (workspace : String)
    (explicit : Option String) : Except SettingsError Settings := do
  let layers ← layers host files environment workspace explicit
  let settings ← (ofLayer (stack layers)).mapError .unreadable
  checked settings

end Settings

end PageContext
