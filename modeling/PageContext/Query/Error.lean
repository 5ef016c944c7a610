import PageContext.Store.Call
import PageContext.Transform.Error

/-!
# Failures of queries

A query fails because its directive is malformed, because it leads nowhere, because the store or a
transform fails, or because the store takes too long.
-/

namespace PageContext

/-- Why a query has no result. -/
inductive QueryError where
  /-- The text is no directive. -/
  | malformed (text : String)
  | unknownModule (name : String)
  | unknownAction (moduleName action : String)
  | missingTarget (action : String)
  | unknownTimelineUnit (unit : String)
  /-- The store did not answer within a number of milliseconds. -/
  | timedOut (milliseconds : Nat)
  | store (cause : StoreError)
  | transform (cause : TransformError)
deriving Repr, Inhabited

/-- A number of milliseconds in seconds if it is a second or more, without zeros at the end. -/
def durationText (milliseconds : Nat) : String :=
  if milliseconds = 0 then "0ns"
  else if milliseconds < 1000 then toString milliseconds ++ "ms"
  else
    let fraction := ((Text.padded 3 (milliseconds % 1000)).toList.reverse.dropWhile
      (· = '0')).reverse
    toString (milliseconds / 1000) ++
      (if fraction.isEmpty then "" else "." ++ String.ofList fraction) ++ "s"

def QueryError.message : QueryError → String
  | .malformed text => "Cannot parse query: " ++ Text.quoted text
  | .unknownModule name => "Unknown query module: " ++ name
  | .unknownAction moduleName action => "Unknown query action: " ++ moduleName ++ "/" ++ action
  | .missingTarget action => "Query action " ++ action ++ " requires a target"
  | .unknownTimelineUnit unit => "Unknown timeline type: " ++ unit
  | .timedOut milliseconds => "Query timed out after " ++ durationText milliseconds
  | .store cause => "Backend error: " ++ cause.message
  | .transform cause => "Pipeline error: " ++ cause.message

end PageContext
