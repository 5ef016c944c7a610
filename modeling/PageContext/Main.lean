import PageContext.Command.Program
import Std.Time.DateTime.Timestamp

/-!
# The executable

The executable looks at the command line, the environment, the clock and the files that a run may
need, lets the run take place on what was found, and writes what it leaves behind.
-/

namespace PageContext.Main

def usage : String :=
  "Resolve declarative context templates into page data\n\n" ++
  "Usage: trellis [OPTIONS] <COMMAND>\n\n" ++
  "Commands:\n" ++
  "  resolve  Resolve a context template file and print the result\n" ++
  "  page     Prepare the full context of a page from the context directory\n" ++
  "  parse    Parse a query directive and print its parts\n" ++
  "  config   Print the effective configuration as TOML\n" ++
  "  help     Print this message\n\n" ++
  "Options:\n" ++
  "      --workspace <WORKSPACE>    Workspace root directory [default: .]\n" ++
  "      --config <CONFIG>          Configuration file path\n" ++
  "      --verbose                  Enable verbose logging\n" ++
  "      --log-level <LOG_LEVEL>    Log level (trace, debug, info, warn, error, off)\n" ++
  "      --log-format <LOG_FORMAT>  Log format (json, text)\n" ++
  "  -h, --help                     Print help\n"

/-- The reason that the system gives for a failure. -/
def fileError : IO.Error → FileError
  | .noFileOrDirectory _ _ _ => .notFound
  | .inappropriateType _ 21 _ => .isADirectory
  | .inappropriateType _ _ _ => .notADirectory
  | error => .other (toString error)

def look (path : String) : IO (Except FileError FileState) := do
  try
    let bytes ← IO.FS.readBinFile path
    return match String.fromUTF8? bytes with
      | some text => .ok (.file text)
      | none => .error .notText
  catch error =>
    return match fileError error with
      | .isADirectory => .ok .directory
      | cause => .error cause

def lookAll (paths : List String) : IO (List (String × Except FileError FileState)) :=
  paths.mapM fun path => return (path, ← look path)

/-- The variables in the bytes that the system keeps for a process. -/
def bindings (bytes : ByteArray) : Environment :=
  let text := (String.fromUTF8? bytes).getD ""
  (Text.pieces '\x00' text).filterMap (Text.cut '=')

def environment : IO Environment := do
  try return bindings (← IO.FS.readBinFile "/proc/self/environ")
  catch _ => return []

/-- The number of the account that a process belongs to, in what the system says about it. -/
def accountNumber? (status : String) : Option String := do
  let line ← (Text.pieces '\n' status).find? fun line => line.startsWith "Uid:"
  (Text.pieces '\t' line)[1]?

/-- The home directory of an account in the table of accounts. -/
def homeOf? (table number : String) : Option String :=
  (Text.pieces '\n' table).findSome? fun line =>
    match Text.pieces ':' line with
    | [_, _, account, _, _, home, _] => if account = number && home ≠ "" then some home else none
    | _ => none

/-- What the system says about the account; accounts are looked up in the table of accounts
alone. -/
def host : IO SettingsHost := do
  try
    let status ← IO.FS.readFile "/proc/self/status"
    let table ← IO.FS.readFile "/etc/passwd"
    return { accountHome? := (accountNumber? status).bind (homeOf? table) }
  catch _ => return {}

def number (bytes : ByteArray) : Nat :=
  bytes.toList.foldl (fun value byte => 256 * value + byte.toNat) 0

def now : IO Instant := do
  let nanoseconds := (← Std.Time.Timestamp.now).toNanosecondsSinceUnixEpoch.val
  return ⟨nanoseconds / nanosecondsPerSecond, (nanoseconds % nanosecondsPerSecond).toNat⟩

/-- The files that the command of a line reads, if its settings can be loaded. -/
def commandPaths (invocation : Invocation) (line : CommandLine) : List String :=
  match invocation.settings line with
  | .ok settings =>
      let workspace : Workspace :=
        ⟨line.workspace, settings, invocation.files, invocation.now, invocation.seed⟩
      workspace.paths line.command
  | .error _ => []

/-- Looks at everything that a run may need. -/
def observe (arguments : List String) : IO Invocation := do
  let environment ← environment
  let host ← host
  let invocation : Invocation :=
    ⟨arguments, environment, .ofList [], ← now, number (← IO.getRandomBytes 16), host⟩
  match CommandLine.read arguments with
  | .error _ => return invocation
  | .ok line =>
      let settingsFiles ← lookAll
        (Settings.paths host environment line.workspace line.config)
      let invocation := { invocation with files := .ofList settingsFiles }
      let commandFiles ← lookAll (commandPaths invocation line)
      return { invocation with files := .ofList (settingsFiles ++ commandFiles) }

def openLog (path : String) : IO (Except LogSetupError IO.FS.Handle) := do
  let parent := Path.parent path
  try
    if parent ≠ "" then IO.FS.createDirAll parent
  catch error =>
    return .error (.cannotCreateDirectory (fileError error))
  try return .ok (← IO.FS.Handle.mk path .append)
  catch error => return .error (.cannotOpen path (fileError error))

def conclude (log : Option IO.FS.Handle) (ending : Ending) : IO UInt32 := do
  if let some handle := log then handle.putStr ending.logged
  (← IO.getStderr).putStr ending.errors
  (← IO.getStdout).putStr ending.output
  return ending.exitCode.toUInt32

/-- Writes how the program is used, to standard error unless help was asked for. -/
def explain (cause : ArgumentError) : IO Unit := do
  let stream ← if cause = .help then IO.getStdout else IO.getStderr
  stream.putStr usage

/-- A run of the program on what was seen. -/
def run (invocation : Invocation) : IO UInt32 := do
  match invocation.start with
  | .error ending => conclude none ending
  | .ok ready =>
      match ready.logFile? with
      | none => conclude none (ready.finish invocation)
      | some path =>
          match ← openLog path with
          | .ok handle => conclude (some handle) (ready.finish invocation)
          | .error cause => conclude none (ready.withoutLog cause)

end PageContext.Main

def main (arguments : List String) : IO UInt32 := do
  if let .error cause := PageContext.CommandLine.read arguments then
    PageContext.Main.explain cause
  PageContext.Main.run (← PageContext.Main.observe arguments)
