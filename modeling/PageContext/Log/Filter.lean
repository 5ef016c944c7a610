import PageContext.Settings.Basic

/-!
# Filters of log events

A filter is a list of directives.  A directive sets a level for all events, or for those whose
target begins with a given text, and an event passes when the most specific directive for its target
sets its level or a more verbose one.  Directives are written `level`, `target` or `target=level`,
with commas between them; a target alone lets every level pass.
-/

namespace PageContext

/-- How important an event is. -/
inductive LogLevel where
  | error
  | warn
  | info
  | debug
  | trace
deriving DecidableEq, Repr, Inhabited

namespace LogLevel

/-- How verbose a log must be to show the level. -/
def verbosity : LogLevel → Nat
  | .error => 1
  | .warn => 2
  | .info => 3
  | .debug => 4
  | .trace => 5

def name : LogLevel → String
  | .error => "ERROR"
  | .warn => "WARN"
  | .info => "INFO"
  | .debug => "DEBUG"
  | .trace => "TRACE"

end LogLevel

/-- A directive of a filter. -/
inductive LogDirective where
  /-- The verbosity for targets that begin with a text, or for all targets without one. -/
  | static (target : Option String) (verbosity : Nat)
  /-- A directive for events inside of spans, of which there are none. -/
  | inSpan
deriving DecidableEq, Repr, Inhabited

/-- Why a directive cannot be read. -/
inductive DirectiveError where
  | malformed
  | unknownLevel
deriving DecidableEq, Repr, Inhabited

def DirectiveError.message : DirectiveError → String
  | .malformed => "invalid filter directive"
  | .unknownLevel =>
      "error parsing level filter: expected one of \"off\", \"error\", \"warn\", \"info\", " ++
        "\"debug\", \"trace\", or a number 0-5"

namespace LogDirective

/-- The verbosity that lets every event pass. -/
def greatestVerbosity : Nat := 5

/-- The verbosity of a level given by its name in any case, or by a number; the empty text stands
for errors. -/
def verbosity? (text : String) : Option Nat :=
  match (Text.unsigned? 64 text).filter (· ≤ greatestVerbosity) with
  | some number => some number
  | none =>
      let lowered := Text.lowerAscii text
      if lowered = "" || lowered = "error" then some 1
      else if lowered = "off" then some 0
      else if lowered = "warn" then some 2
      else if lowered = "info" then some 3
      else if lowered = "debug" then some 4
      else if lowered = "trace" then some 5
      else none

/-- The verbosity of a level; nothing stands for all levels. -/
def levelVerbosity (text : String) : Except DirectiveError Nat :=
  if text = "" then .ok greatestVerbosity
  else
    match verbosity? text with
    | some verbosity => .ok verbosity
    | none => .error .unknownLevel

/-- The verbosity behind an equals sign.  A level ends at the first comma, which only blanks may
follow. -/
def assignedVerbosity (text : String) : Except DirectiveError Nat :=
  match Text.cut ',' text with
  | none => levelVerbosity text
  | some (level, rest) => do
      let verbosity ← levelVerbosity level
      if rest.toList.all Text.isBlank then return verbosity else throw .malformed

/-- Whether a directive may begin with a character. -/
def mayBegin (character : Char) : Bool :=
  character == '-' || character == ':' || character == '_' || character == '[' ||
    character.isAlphanum || (128 ≤ character.toNat && !Text.isBlank character)

/-- A directive without an equals sign: a level, or a target that lets every level pass. -/
def ofWord (word : String) : LogDirective :=
  match verbosity? word with
  | some verbosity => .static none verbosity
  | none => .static (some word) greatestVerbosity

/-- Reads the part of a directive behind a bracketed span. -/
def ofSpan (target span rest : String) : Except DirectiveError LogDirective := do
  let verbosity ←
    match rest.toList with
    | '=' :: level => assignedVerbosity (String.ofList level)
    | behind => if behind.all Text.isBlank then .ok greatestVerbosity else .error .malformed
  if span ≠ "" then return .inSpan
  else return .static (if target = "" then none else some target) verbosity

/-- Reads a directive.  Blanks are not removed: a level with blanks at its ends is no level.  Only
behind a comma at the end they are passed over. -/
def parse (text : String) : Except DirectiveError LogDirective := do
  let blankInFront := (text.toList.head?.map Text.isBlank).getD false
  if !((Text.trimmed text.toList).head?.map mayBegin).getD false then throw .malformed
  let front := String.ofList (text.toList.takeWhile fun character =>
    character ≠ '=' && character ≠ '[' && character ≠ ',')
  match text.toList.drop front.length with
  | '=' :: level =>
      if blankInFront then throw .unknownLevel
      else return .static (some front) (← assignedVerbosity (String.ofList level))
  | '[' :: rest =>
      match Text.cut ']' (String.ofList rest) with
      | some (span, rest) => ofSpan front span rest
      | none => throw .malformed
  | ',' :: rest => if rest.all Text.isBlank then return ofWord text else throw .malformed
  | _ => return ofWord text

end LogDirective

/-- The directives of a filter, the later ones overriding earlier ones for the same target. -/
abbrev LogFilter := List LogDirective

namespace LogFilter

/-- A filter with no directive shows errors. -/
def ofDirectives (directives : List LogDirective) : LogFilter :=
  if directives.isEmpty then [.static none 1] else directives

def pieces (text : String) : List String :=
  (Text.pieces ',' text).filter (· ≠ "")

/-- Reads a filter all of whose directives must be readable. -/
def parse (text : String) : Except DirectiveError LogFilter := do
  return ofDirectives (← (pieces text).mapM LogDirective.parse)

/-- Reads the directives that are readable; the others are given with the reason. -/
def parseReadable (text : String) : LogFilter × List (String × DirectiveError) :=
  let read := (pieces text).map fun piece => (piece, LogDirective.parse piece)
  (ofDirectives (read.filterMap fun (_, result) => result.toOption),
    read.filterMap fun (piece, result) =>
      match result with
      | .ok _ => none
      | .error cause => some (piece, cause))

/-- How specific a directive is for a target; none if it says nothing about it. -/
def specificity? (target : String) : LogDirective → Option Nat
  | .static none _ => some 0
  | .static (some start) _ =>
      if start.toList.isPrefixOf target.toList then some (start.utf8ByteSize + 1) else none
  | .inSpan => none

/-- The verbosity for a target, `best` being the specificity and verbosity found so far. -/
def verbosityFrom (target : String) (best : Option (Nat × Nat)) : LogFilter → Option (Nat × Nat)
  | [] => best
  | directive :: rest =>
      match directive, specificity? target directive with
      | .static _ verbosity, some specificity =>
          if (best.map Prod.fst).getD 0 ≤ specificity then
            verbosityFrom target (some (specificity, verbosity)) rest
          else verbosityFrom target best rest
      | _, _ => verbosityFrom target best rest

/-- Whether an event with a target and a level passes. -/
def passes (filter : LogFilter) (target : String) (level : LogLevel) : Bool :=
  match verbosityFrom target none filter with
  | some (_, verbosity) => level.verbosity ≤ verbosity
  | none => false

end LogFilter

end PageContext
