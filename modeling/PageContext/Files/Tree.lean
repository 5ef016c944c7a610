import PageContext.Files.Basic
import PageContext.Files.Path

/-!
# Trees of files

A tree of files is a set of directories, texts at other places, and a current directory from which
relative paths start.  A path is walked piece by piece: what it passes through must be directories,
a single dot stays and two dots go up, the root being above itself.
-/

namespace PageContext

/-- The names from a place up to the root. -/
abbrev Place := List String

/-- Directories and files by their places. -/
structure FileTree where
  directories : List Place
  files : List (Place × String)
  current : Place
deriving Repr, Inhabited

namespace FileTree

/-- The longest name of a file or directory, in bytes. -/
def longestName : Nat := 255

/-- The shortest path, in bytes, that is too long. -/
def tooLongPath : Nat := 4096

def stateAt? (tree : FileTree) (place : Place) : Option FileState :=
  match tree.files.find? fun file => file.1 == place with
  | some file => some (.file file.2)
  | none => if place.isEmpty || tree.directories.contains place then some .directory else none

/-- One step of a walk, which leads to a place that may not exist. -/
def step (place : Place) (piece : String) : Except FileError Place :=
  if piece = "" || piece = "." then .ok place
  else if piece = ".." then .ok place.tail
  else if longestName < piece.utf8ByteSize then .error .nameTooLong
  else .ok (piece :: place)

/-- Walks from an existing place to the end of a path. -/
def walk (tree : FileTree) : List String → Place → Except FileError Place
  | [], place => .ok place
  | piece :: pieces, place =>
      match tree.stateAt? place with
      | some .directory => do
          let next ← step place piece
          if (tree.stateAt? next).isNone then throw .notFound
          else walk tree pieces next
      | _ => .error .notADirectory

def start (tree : FileTree) (path : String) : Place :=
  if Path.isAbsolute path then [] else tree.current

/-- Refuses paths that name nothing at all. -/
def checkPath (path : String) : Except FileError Unit :=
  if path.toList.any fun character => character.toNat = 0 then .error .invalidPath
  else if path = "" then .error .notFound
  else if tooLongPath ≤ path.utf8ByteSize then .error .nameTooLong
  else .ok ()

def find (tree : FileTree) (path : String) : Except FileError Place := do
  checkPath path
  tree.walk (Text.pieces '/' path) (tree.start path)

def look (tree : FileTree) (path : String) : Except FileError FileState := do
  let place ← tree.find path
  match tree.stateAt? place with
  | some state => return state
  | none => throw .notFound

def view (tree : FileTree) : Files :=
  ⟨tree.look⟩

/-- The tree with a directory at a place and at every place above it. -/
def addDirectory (tree : FileTree) : Place → FileTree
  | [] => tree
  | name :: above =>
      let tree := tree.addDirectory above
      if tree.directories.contains (name :: above) then tree
      else { tree with directories := (name :: above) :: tree.directories }

/-- The tree with a text at a place, in place of what was there. -/
def putFile (tree : FileTree) (place : Place) (text : String) : FileTree :=
  { tree with files := (place, text) :: tree.files.filter fun file => file.1 != place }

/-- The tree with a directory at a place where nothing is. -/
def addMissing (tree : FileTree) (place : Place) : FileTree :=
  if (tree.stateAt? place).isSome then tree else tree.addDirectory place

/-- Walks along a path and creates the directories that are missing. -/
def createDirectories (tree : FileTree) : List String → Place → Except FileError (FileTree × Place)
  | [], place =>
      match tree.stateAt? place with
      | some (.file _) => .error .notADirectory
      | _ => .ok (tree, place)
  | piece :: pieces, place =>
      match tree.stateAt? place with
      | some .directory => do
          let next ← step place piece
          (tree.addMissing next).createDirectories pieces next
      | _ => .error .notADirectory

/-- Creates the directories above a path that are missing. -/
def createParents (tree : FileTree) (path : String) : Except FileError FileTree := do
  let parent := Path.parent path
  if parent = "" then return tree
  else
    checkPath parent
    let (tree, _) ← tree.createDirectories (Text.pieces '/' parent) (tree.start parent)
    return tree

/-- The place of the file at a path, which need not exist. -/
def placeOfFile (tree : FileTree) (path : String) : Except FileError Place := do
  checkPath path
  match (Text.pieces '/' path).reverse with
  | [] => throw .notFound
  | name :: above =>
      if name = "" || name = "." || name = ".." then throw .isADirectory
      else step (← tree.walk above.reverse (tree.start path)) name

/-- Appends a text to the file at a path, which is created if it is missing. -/
def append (tree : FileTree) (path text : String) : Except FileError FileTree := do
  let place ← tree.placeOfFile path
  match tree.stateAt? place with
  | some .directory => throw .isADirectory
  | some (.file before) => return tree.putFile place (before ++ text)
  | none => return tree.putFile place text

end FileTree

end PageContext
