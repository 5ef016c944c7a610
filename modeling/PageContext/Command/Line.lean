import PageContext.Command.Scan

/-!
# The command line

A command line holds options of the program, the name of a command, and the arguments of that
command.  The arguments of the command are checked before the options in front of it are complete.
The word `help` stands for a request for help with the commands that follow it.
-/

namespace PageContext

/-- A command. -/
inductive Command where
  /-- Resolves the template in a file. -/
  | resolve (template : String) (store : Option String) (params : Params)
  /-- Prepares the context of a page. -/
  | page (name : String) (store : Option String) (params : Params)
  /-- Describes a directive. -/
  | parse (directive : String)
  /-- Writes the settings. -/
  | config
deriving DecidableEq, Repr, Inhabited

/-- What a command line asks for. -/
structure CommandLine where
  command : Command
  workspace : String := "."
  /-- The file of settings that takes the place of those of the workspace. -/
  config : Option String := none
  verbose : Bool := false
  logLevel : Option String := none
  logFormat : Option String := none
deriving DecidableEq, Repr, Inhabited

namespace Command

/-- The kinds of commands. -/
inductive Kind where
  | resolve
  | page
  | parse
  | config
deriving DecidableEq, Repr, Inhabited

namespace Kind

def ofName? (name : String) : Option Kind :=
  if name = "resolve" then some .resolve
  else if name = "page" then some .page
  else if name = "parse" then some .parse
  else if name = "config" then some .config
  else none

/-- The options of commands that use a store. -/
def storeOptions : List (String × ArgumentKind) :=
  [("store", .path), ("param", .param)]

def scope : Kind → ArgumentScope
  | .resolve => { options := storeOptions, positional := some ("template", .path) }
  | .page => { options := storeOptions, positional := some ("name", .text) }
  | .parse => { options := [], positional := some ("directive", .text) }
  | .config => { options := [] }

end Kind

def required (scan : ArgumentScan) (name : String) : Except ArgumentError String :=
  match scan.value? name with
  | some value => .ok value
  | none => .error .missingArgument

def ofArguments (kind : Kind) (arguments : List String) : Except ArgumentError Command := do
  let scan ← ArgumentScan.run kind.scope arguments
  match kind with
  | .resolve =>
      return .resolve (← required scan "template") (scan.value? "store") (scan.params "param")
  | .page => return .page (← required scan "name") (scan.value? "store") (scan.params "param")
  | .parse => return .parse (← required scan "directive")
  | .config => return .config

end Command

namespace CommandLine

def scope : ArgumentScope where
  options :=
    [("workspace", .path), ("config", .path), ("verbose", .flag), ("log-level", .text),
      ("log-format", .text)]
  commands := ["resolve", "page", "parse", "config", "help"]

/-- The refusal of a request for help with a command, given by the names that lead to it. -/
def helpWith : List String → ArgumentError
  | [] => .help
  | [name] => if scope.commands.contains name then .help else .unknownCommand
  | _ => .unknownCommand

/-- The refusal of a line that has no command. -/
def withoutCommand (scan : ArgumentScan) : ArgumentError :=
  if scan.accepted.isEmpty then .nothingGiven else .missingCommand

/-- A command with the options in front of it. -/
def ofScan (scan : ArgumentScan) (command : Command) : CommandLine where
  command := command
  workspace := (scan.value? "workspace").getD "."
  config := scan.value? "config"
  verbose := scan.has "verbose"
  logLevel := scan.value? "log-level"
  logFormat := scan.value? "log-format"

/-- Whether the next argument may be the name of a command. -/
def mayName (scan : ArgumentScan) : Bool :=
  !scan.onlyPositional && !scan.awaitsValue

def readFrom (scan : ArgumentScan) : List String → Except ArgumentError CommandLine
  | [] => do throw (withoutCommand (← scan.settle))
  | argument :: rest =>
      if mayName scan && argument = "help" then .error (helpWith rest)
      else
        match (Command.Kind.ofName? argument).filter fun _ => mayName scan with
        | some kind => do
            let command ← Command.ofArguments kind rest
            return ofScan (← scan.settle) command
        | none => do readFrom (← scan.step scope argument) rest

/-- Reads a command line, without the name of the program. -/
def read (arguments : List String) : Except ArgumentError CommandLine :=
  readFrom {} arguments

end CommandLine

end PageContext
