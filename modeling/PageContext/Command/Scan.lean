import PageContext.Params

/-!
# Scanning arguments

The arguments of a program or of one of its commands are scanned from left to right.  An option is
written `--name value` or `--name=value`, a flag is written `--name`, and what is neither is the one
positional argument that a command may have.  Behind the separator `--` every argument is
positional.  A value is checked when the next thing is accepted, so that an argument that nothing
allows is found before a bad value in front of it.
-/

namespace PageContext

/-- Why arguments are refused. -/
inductive ArgumentError where
  /-- Help is asked for. -/
  | help
  /-- There are no arguments at all. -/
  | nothingGiven
  | missingCommand
  | unknownCommand
  | unknownArgument
  | missingArgument
  /-- An option without a value, or an empty path. -/
  | missingValue
  | namelessParam
  /-- A flag with a value. -/
  | valueOfFlag
  | repeatedOption
deriving DecidableEq, Repr, Inhabited

/-- The code with which a program ends that refuses its arguments. -/
def ArgumentError.exitCode (error : ArgumentError) : Nat :=
  if error = .help then 0 else 2

/-- How the value of an argument is read. -/
inductive ArgumentKind where
  /-- Without a value. -/
  | flag
  /-- A path, which must not be empty. -/
  | path
  | text
  /-- A parameter, which may be given repeatedly and must have a name. -/
  | param
deriving DecidableEq, Repr, Inhabited

def ArgumentKind.problem? (kind : ArgumentKind) (value : String) : Option ArgumentError :=
  match kind with
  | .flag => none
  | .text => none
  | .path => if value = "" then some .missingValue else none
  | .param =>
      match Params.ofArgument value with
      | .ok _ => none
      | .error _ => some .namelessParam

/-- What may be given to a program or to one of its commands. -/
structure ArgumentScope where
  options : List (String × ArgumentKind)
  /-- The positional argument. -/
  positional : Option (String × ArgumentKind) := none
  /-- The commands that may follow. -/
  commands : List String := []
deriving Repr, Inhabited

/-- The form of an argument in front of the separator. -/
inductive ArgumentForm where
  | separator
  /-- Two dashes and a name, with a value behind an equals sign or without. -/
  | long (name : String) (value : Option String)
  /-- One dash and letters. -/
  | short (letter : Char)
  | plain
deriving DecidableEq, Repr, Inhabited

def ArgumentForm.ofText (argument : String) : ArgumentForm :=
  match argument.toList with
  | ['-', '-'] => .separator
  | '-' :: '-' :: rest =>
      match Text.cut '=' (String.ofList rest) with
      | some (name, value) => .long name (some value)
      | none => .long (String.ofList rest) none
  | '-' :: letter :: _ => .short letter
  | _ => .plain

/-- An argument whose value has not been checked yet. -/
structure PendingArgument where
  name : String
  kind : ArgumentKind
  value : Option String
deriving DecidableEq, Repr, Inhabited

/-- What has been scanned so far. -/
structure ArgumentScan where
  /-- The accepted arguments with their values, in the order of the line. -/
  accepted : List (String × String) := []
  pending : Option PendingArgument := none
  /-- Whether the separator has been passed. -/
  onlyPositional : Bool := false
deriving DecidableEq, Repr, Inhabited

namespace ArgumentScan

/-- Whether an argument has been accepted. -/
def has (scan : ArgumentScan) (name : String) : Bool :=
  scan.accepted.any fun entry => entry.1 = name

def value? (scan : ArgumentScan) (name : String) : Option String :=
  (scan.accepted.find? fun entry => entry.1 = name).map Prod.snd

/-- The parameters that have been given, in the order of the line and with all repetitions. -/
def params (scan : ArgumentScan) (name : String) : Params :=
  (scan.accepted.filter fun entry => entry.1 = name).map fun entry => Params.ofPair entry.2

/-- Whether the next argument is the value of an option. -/
def awaitsValue (scan : ArgumentScan) : Bool :=
  scan.pending.any fun pending => pending.value.isNone

def accept (scan : ArgumentScan) (name : String) (kind : ArgumentKind) (value : String) :
    Except ArgumentError ArgumentScan :=
  if kind ≠ .param && scan.has name then .error .repeatedOption
  else
    match kind.problem? value with
    | some error => .error error
    | none => .ok { scan with accepted := scan.accepted ++ [(name, value)] }

def settle (scan : ArgumentScan) : Except ArgumentError ArgumentScan :=
  match scan.pending with
  | none => .ok scan
  | some { value := none, .. } => .error .missingValue
  | some { name, kind, value := some value } => { scan with pending := none }.accept name kind value

/-- Settles and refuses with a request for help. -/
def askForHelp (scan : ArgumentScan) : Except ArgumentError ArgumentScan := do
  let _ ← scan.settle
  throw .help

def option (scope : ArgumentScope) (scan : ArgumentScan) (name : String) (value : Option String) :
    Except ArgumentError ArgumentScan :=
  match (scope.options.find? fun entry => entry.1 = name).map Prod.snd, value with
  | some .flag, none => do (← scan.settle).accept name .flag ""
  | some .flag, some _ => .error .valueOfFlag
  | some kind, some value => do (← scan.settle).accept name kind value
  | some kind, none => do return { ← scan.settle with pending := some ⟨name, kind, none⟩ }
  | none, none => if name = "help" then scan.askForHelp else .error .unknownArgument
  | none, some _ => .error (if name = "help" then .valueOfFlag else .unknownArgument)

/-- Why an argument is refused that stands where nothing more is expected. -/
def surplus (scope : ArgumentScope) (scan : ArgumentScan) (argument : String) : ArgumentError :=
  if scope.commands.isEmpty || (scan.onlyPositional && scope.commands.contains argument) then
    .unknownArgument
  else .unknownCommand

/-- Whether the positional argument with a name has been given. -/
def hasPositional (scan : ArgumentScan) (name : String) : Bool :=
  scan.has name || scan.pending.any fun pending => pending.name = name

def positional (scope : ArgumentScope) (scan : ArgumentScan) (argument : String) :
    Except ArgumentError ArgumentScan :=
  match scope.positional with
  | some (name, kind) =>
      if scan.hasPositional name then .error (surplus scope scan argument)
      else do return { ← scan.settle with pending := some ⟨name, kind, some argument⟩ }
  | none => .error (surplus scope scan argument)

/-- Scans an argument that is the value of an option or positional. -/
def plain (scope : ArgumentScope) (scan : ArgumentScan) (argument : String) :
    Except ArgumentError ArgumentScan :=
  match scan.pending with
  | some { name, kind, value := none } =>
      .ok { scan with pending := some ⟨name, kind, some argument⟩ }
  | _ => scan.positional scope argument

def step (scope : ArgumentScope) (scan : ArgumentScan) (argument : String) :
    Except ArgumentError ArgumentScan :=
  if scan.onlyPositional then scan.positional scope argument
  else
    match ArgumentForm.ofText argument with
    | .separator => .ok { scan with onlyPositional := true }
    | .long name value => scan.option scope name value
    | .short letter => if letter = 'h' then scan.askForHelp else .error .unknownArgument
    | .plain => scan.plain scope argument

def run (scope : ArgumentScope) (arguments : List String) : Except ArgumentError ArgumentScan := do
  (← arguments.foldlM (step scope) {}).settle

end ArgumentScan

end PageContext
