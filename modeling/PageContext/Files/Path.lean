import PageContext.Text.Split

/-!
# Paths

A path is a text whose pieces stand between slashes.  It is absolute when it begins with a slash.
Joining appends a relative path and lets an absolute one replace everything in front of it.
-/

namespace PageContext.Path

def isAbsolute (path : String) : Bool :=
  path.toList.head? == some '/'

/-- Joins two paths with a slash between them; an absolute second path stands alone. -/
def join (base path : String) : String :=
  if isAbsolute path then path
  else if base = "" || base.toList.getLast? == some '/' then base ++ path
  else base ++ "/" ++ path

/-- The pieces between slashes that name something: empty pieces and single dots do not. -/
def names (path : String) : List String :=
  (Text.pieces '/' path).filter fun piece => piece ≠ "" && piece ≠ "."

/-- The last of the names in a path, unless it leads upwards. -/
def lastName? (path : String) : Option String :=
  (names path).getLast?.filter (· ≠ "..")

/-- What follows the last dot of a name, if the dot is not its first character. -/
def extension? (path : String) : Option String :=
  (lastName? path).bind fun name =>
    let characters := name.toList.reverse
    match characters.dropWhile (· ≠ '.') with
    | _ :: _ :: _ => some (String.ofList (characters.takeWhile (· ≠ '.')).reverse)
    | _ => none

/-- The directory that holds what a path leads to, empty for a single name. -/
def parent (path : String) : String :=
  let characters := path.toList.reverse
  let withoutSlashes := characters.dropWhile (· = '/')
  let front := withoutSlashes.dropWhile (· ≠ '/')
  let directory := front.dropWhile (· = '/')
  if directory.isEmpty && !front.isEmpty then "/" else String.ofList directory.reverse

end PageContext.Path
