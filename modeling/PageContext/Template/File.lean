import PageContext.Files.Basic
import PageContext.Json.Reader

/-!
# Templates in files

A template is read from a file that holds one JSON text.
-/

namespace PageContext

/-- Why there is no template at a path. -/
inductive LoadError where
  | notFound (path : String)
  | unreadable (cause : FileError)
  | invalidJson (path : String) (cause : JsonError)
deriving DecidableEq, Repr, Inhabited

def LoadError.message : LoadError → String
  | .notFound path => "Template not found: " ++ path
  | .unreadable cause => "I/O error: " ++ cause.message
  | .invalidJson path cause => "Invalid JSON in " ++ path ++ ": " ++ cause.message

def readTemplate (files : Files) (path : String) : Except LoadError Json :=
  match files.read path with
  | .error .notFound => .error (.notFound path)
  | .error cause => .error (.unreadable cause)
  | .ok text =>
      match Json.read text with
      | .ok value => .ok value
      | .error cause => .error (.invalidJson path cause)

end PageContext
