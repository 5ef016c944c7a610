import PageContext.Params
import PageContext.Text.Word

/-!
# Query directives

A directive such as `{cms}/list/article?limit=5` names a module in braces, an action, a target that
may be missing, and parameters that may be missing.  Module and action consist of word characters;
a target has neither a slash nor a question mark; parameters run to the end of the line, which is
the end of the text.
-/

namespace PageContext

/-- A query decoded from a directive. -/
structure Query where
  moduleName : String
  action : String
  target : Option String
  params : Params
deriving DecidableEq, Repr

namespace Query

/-- A non-empty run of word characters and the text behind it. -/
def readWord? (characters : List Char) : Option (List Char × List Char) :=
  match characters.takeWhile Text.isWordCharacter with
  | [] => none
  | word => some (word, characters.dropWhile Text.isWordCharacter)

/-- Whether a character may stand in a target. -/
def isTargetCharacter (character : Char) : Bool :=
  character != '/' && character != '?'

/-- Reads the target behind an action: none without a slash, and not empty after one. -/
def readTarget? (characters : List Char) : Option (Option (List Char) × List Char) :=
  match characters with
  | '/' :: rest =>
      match rest.takeWhile isTargetCharacter with
      | [] => none
      | target => some (some target, rest.dropWhile isTargetCharacter)
  | _ => some (none, characters)

/-- Reads the parameters at the end of a directive: nothing, or one line after a question mark. -/
def readParams? (characters : List Char) : Option Params :=
  match characters with
  | [] => some []
  | '?' :: line => if '\n' ∈ line then none else some (Params.ofText (String.ofList line))
  | _ => none

def parse? (directive : String) : Option Query :=
  match directive.toList with
  | '\x7b' :: rest => do
      let (moduleName, rest) ← readWord? rest
      match rest with
      | '\x7d' :: '/' :: rest =>
          let (action, rest) ← readWord? rest
          let (target, rest) ← readTarget? rest
          let params ← readParams? rest
          return {
            moduleName := String.ofList moduleName
            action := String.ofList action
            target := target.map String.ofList
            params := params
          }
      | _ => none
  | _ => none

def paramText : String × Option String → String
  | (key, none) => key
  | (key, some value) => key ++ "=" ++ value

/-- Parameters with ampersands between them, and a question mark in front if there are any. -/
def paramsText : Params → String
  | [] => ""
  | param :: params => "?" ++ String.intercalate "&" ((param :: params).map paramText)

def render (query : Query) : String :=
  "\x7b" ++ query.moduleName ++ "\x7d/" ++ query.action ++
    (match query.target with
      | some target => "/" ++ target
      | none => "") ++
    paramsText query.params

end Query

end PageContext
