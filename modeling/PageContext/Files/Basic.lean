/-!
# Files

The program looks at files through a view that says what a path leads to: the text of a file, a
directory, or the reason why there is neither.
-/

namespace PageContext

/-- Why a path leads to no text. -/
inductive FileError where
  | notFound
  /-- A file stands where the path needs a directory. -/
  | notADirectory
  /-- A directory stands where the path needs a file. -/
  | isADirectory
  /-- The path has a null character. -/
  | invalidPath
  | nameTooLong
  /-- The file exists and is not encoded text. -/
  | notText
  /-- Any other reason that the system gives. -/
  | other (reason : String)
deriving DecidableEq, Repr, Inhabited

namespace FileError

def message : FileError → String
  | .notFound => "No such file or directory (os error 2)"
  | .notADirectory => "Not a directory (os error 20)"
  | .isADirectory => "Is a directory (os error 21)"
  | .invalidPath => "file name contained an unexpected NUL byte"
  | .nameTooLong => "File name too long (os error 36)"
  | .notText => "stream did not contain valid UTF-8"
  | .other reason => reason

end FileError

/-- What exists at the end of a path. -/
inductive FileState where
  | directory
  | file (text : String)
deriving DecidableEq, Repr, Inhabited

/-- A view of files. -/
structure Files where
  /-- What a path leads to. -/
  look : String → Except FileError FileState

namespace Files

/-- The view of what has been found at some paths; nothing is at any other. -/
def ofList (found : List (String × Except FileError FileState)) : Files where
  look path := ((found.find? fun entry => entry.1 = path).map Prod.snd).getD (.error .notFound)

def read (files : Files) (path : String) : Except FileError String :=
  match files.look path with
  | .ok (.file text) => .ok text
  | .ok .directory => .error .isADirectory
  | .error cause => .error cause

/-- Whether a path leads to a file or a directory; a file that is no text exists as well. -/
def exists? (files : Files) (path : String) : Bool :=
  match files.look path with
  | .ok _ => true
  | .error cause => cause = .notText

def isFile (files : Files) (path : String) : Bool :=
  match files.look path with
  | .ok (.file _) => true
  | .ok .directory => false
  | .error cause => cause = .notText

end Files

end PageContext
