import PageContext.Command.Workspace
import PageContext.Log.Plan

/-!
# The program

A run of the program reads its command line, prepares logging, loads the settings, executes the
command, and prints the result or the reason why there is none.  Logging is prepared first, and
from the settings if they can be loaded, so that the reason why they cannot is logged as well.
-/

namespace PageContext

/-- What a run of the program can see. -/
structure Invocation where
  /-- The command line without the name of the program. -/
  arguments : List String
  environment : Environment
  files : Files
  now : Instant
  /-- Decides which records a random selection has. -/
  seed : Nat
  host : SettingsHost := {}

/-- What a run of the program leaves behind. -/
structure Ending where
  exitCode : Nat
  output : String := ""
  errors : String := ""
  /-- What is appended to the log file. -/
  logged : String := ""
deriving DecidableEq, Repr, Inhabited

/-- A run that is ready to execute its command. -/
structure ReadyRun where
  line : CommandLine
  plan : LogPlan
  /-- What has been written to standard error so far. -/
  errors : String := ""
deriving Repr, Inhabited

namespace Invocation

def settings (invocation : Invocation) (line : CommandLine) : Except SettingsError Settings :=
  Settings.load invocation.host invocation.files invocation.environment line.workspace line.config

/-- The settings of logging with what a command line puts in their place; those of settings that
cannot be loaded are the defaults. -/
def logSettings (invocation : Invocation) (line : CommandLine) : LogSettings :=
  let settings :=
    match invocation.settings line with
    | .ok settings => settings.logging
    | .error _ => {}
  let level := if line.verbose then "debug" else settings.level
  { settings with
    level := line.logLevel.getD level
    format := line.logFormat.getD settings.format }

/-- The end of a run whose command line is refused. -/
def refused (cause : ArgumentError) : Ending where
  exitCode := cause.exitCode

def unloggable (cause : LogSetupError) (errors : String) : Ending where
  exitCode := 1
  errors := errors ++ "Failed to initialize logging: " ++ cause.message ++ "\n"

/-- Reads the command line and prepares logging; an end in place of a run means that no command is
executed. -/
def start (invocation : Invocation) : Except Ending ReadyRun := do
  let line ← (CommandLine.read invocation.arguments).mapError refused
  let settings := invocation.logSettings line
  let errors := LogPlan.ignoredText invocation.environment settings
  let plan ← (LogPlan.ofSettings invocation.environment settings).mapError
    fun cause => unloggable cause errors
  return ⟨line, plan, errors⟩

/-- The event of a global file of settings that does not exist. -/
def globalFileEvents (invocation : Invocation) : List LogEvent :=
  match Settings.globalPath? invocation.host invocation.environment with
  | some path => if invocation.files.exists? path then [] else [.noGlobalFile path]
  | none => []

/-- Executes the command of a line: the text that it prints or the reason why it fails, and the
events on the way. -/
def execute (invocation : Invocation) (line : CommandLine) :
    Except (Stop String) String × List LogEvent :=
  match invocation.settings line with
  | .error cause =>
      (.error (.failure ("Cannot load workspace " ++ line.workspace ++ ": " ++ cause.message)), [])
  | .ok settings =>
      let workspace : Workspace :=
        ⟨line.workspace, settings, invocation.files, invocation.now, invocation.seed⟩
      let (result, events) := (workspace.execute line.command).run []
      (result.mapError (Stop.map CommandError.message), events)

end Invocation

namespace ReadyRun

/-- The file that must be opened for the log. -/
def logFile? (run : ReadyRun) : Option String :=
  if run.plan.output = .file then some run.plan.file else none

/-- The end of a run whose log file cannot be opened. -/
def withoutLog (run : ReadyRun) (cause : LogSetupError) : Ending :=
  Invocation.unloggable cause run.errors

/-- Adds log lines in front of what an ending has at the place that they go to. -/
def withLog (run : ReadyRun) (lines : String) (ending : Ending) : Ending :=
  match run.plan.output with
  | .standardOutput => { ending with output := lines ++ ending.output }
  | .standardError => { ending with errors := lines ++ ending.errors }
  | .file => { ending with logged := lines ++ ending.logged }

/-- The end of a run by the result of its command.  Of the report on a crash only the reason is
given, not the places in the program. -/
def endingOf : Except (Stop String) String → Ending
  | .ok output => { exitCode := 0, output := output ++ "\n" }
  | .error (.failure reason) => { exitCode := 1, errors := "Error: " ++ reason ++ "\n" }
  | .error .crash => { exitCode := 101, errors := "Local time out of range for `NaiveDateTime`\n" }

/-- The last event of a run by the result of its command; a crash leaves none. -/
def lastEvents : Except (Stop String) String → List LogEvent
  | .ok _ => [.commandCompleted]
  | .error (.failure reason) => [.commandFailed reason]
  | .error .crash => []

/-- Executes the command of a run whose log file, if it has one, is open. -/
def finish (run : ReadyRun) (invocation : Invocation) : Ending :=
  let (result, events) := invocation.execute run.line
  let events :=
    [LogEvent.programStarted] ++ invocation.globalFileEvents ++ events ++ lastEvents result
  let ending := run.withLog (run.plan.lines invocation.now events) (endingOf result)
  { ending with errors := run.errors ++ ending.errors }

end ReadyRun

end PageContext
