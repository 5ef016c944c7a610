import PageContext.Toml.Scalar

/-!
# Reading TOML

A document is a sequence of headers in brackets and assignments, each of which ends with its line;
empty lines and comments may stand anywhere between them.  Keys are bare or quoted and may be joined
by dots.  Values are single ones, arrays, which may extend over several lines, and inline tables.
-/

namespace PageContext.Toml

/-- A statement that is not understood, or that contradicts those before it, by the line in which it
begins. -/
structure ReadError where
  line : Nat
deriving DecidableEq, Repr, Inhabited

/-! ## Lines -/

/-- What is left behind a comment, if there is one. -/
def skipComment? (characters : List Char) : Option (List Char) :=
  match characters with
  | '#' :: rest =>
      if (rest.takeWhile (· ≠ '\n')).any isControl then none else some (rest.dropWhile (· ≠ '\n'))
  | _ => some characters

/-- What is left behind a line of which only a comment, or nothing, is left. -/
def skipLineEnd? (characters : List Char) : Option (List Char) :=
  (skipComment? (skipBlanks characters)).bind fun rest =>
    match rest with
    | [] => some []
    | '\n' :: rest => some rest
    | _ => none

/-- What is left behind blanks, comments and line ends; `fuel` exceeds the length of the text. -/
def skipLines? : (fuel : Nat) → List Char → Option (List Char)
  | 0, _ => none
  | fuel + 1, characters =>
      (skipComment? (skipBlanks characters)).bind fun rest =>
        match rest with
        | '\n' :: rest => skipLines? fuel rest
        | rest => some rest

/-! ## Keys -/

/-- Whether a character may stand in a bare key. -/
def isBareCharacter (character : Char) : Bool :=
  character.isAlphanum || character == '_' || character == '-'

def readKey? (characters : List Char) : Option (String × List Char) :=
  match characters.takeWhile isBareCharacter with
  | [] => readText? characters
  | key => some (String.ofList key, characters.dropWhile isBareCharacter)

/-- Reads keys joined by dots, and the blanks around them; `fuel` exceeds the length of the text. -/
def readKeys? : (fuel : Nat) → List Char → Option (List String × List Char)
  | 0, _ => none
  | fuel + 1, characters => do
      let (key, rest) ← readKey? (skipBlanks characters)
      match skipBlanks rest with
      | '.' :: rest => do
          let (keys, rest) ← readKeys? fuel rest
          return (key :: keys, rest)
      | rest => return ([key], rest)

/-! ## Values -/

mutual

/-- Reads a value; `fuel` exceeds the number of steps a text of its length can need. -/
def readValue? : (fuel : Nat) → List Char → Option (Toml × List Char)
  | 0, _ => none
  | fuel + 1, characters =>
      match characters with
      | '\x7b' :: rest => do
          let (assignments, rest) ←
            match skipBlanks rest with
            | '\x7d' :: rest => some ([], rest)
            | rest => readAssignments? fuel rest
          let entries ← ofAssignments assignments []
          return (.table .inline entries, rest)
      | '[' :: rest => do
          let (items, rest) ← readItems? fuel rest
          return (.array false items, rest)
      | '"' :: '"' :: '"' :: rest =>
          (readLongText? '"' rest).map fun (value, rest) => (.text value, rest)
      | '\'' :: '\'' :: '\'' :: rest =>
          (readLongText? '\'' rest).map fun (value, rest) => (.text value, rest)
      | '"' :: _ => (readText? characters).map fun (value, rest) => (.text value, rest)
      | '\'' :: _ => (readText? characters).map fun (value, rest) => (.text value, rest)
      | _ =>
          let (word, rest) := wordOf characters
          (word? word).map fun value => (value, rest)

/-- Reads the items of an array up to its closing bracket; a comma may stand behind the last one. -/
def readItems? : (fuel : Nat) → List Char → Option (List Toml × List Char)
  | 0, _ => none
  | fuel + 1, characters => do
      match ← skipLines? (characters.length + 1) characters with
      | ']' :: rest => return ([], rest)
      | rest => do
          let (item, rest) ← readValue? fuel rest
          match ← skipLines? (rest.length + 1) rest with
          | ']' :: rest => return ([item], rest)
          | ',' :: rest => do
              let (items, rest) ← readItems? fuel rest
              return (item :: items, rest)
          | _ => none

/-- Reads the assignments of an inline table up to its closing brace; there is at least one. -/
def readAssignments? : (fuel : Nat) → List Char →
    Option (List (List String × Toml) × List Char)
  | 0, _ => none
  | fuel + 1, characters => do
      let (keys, rest) ← readKeys? (characters.length + 1) characters
      match rest with
      | '=' :: rest => do
          let (value, rest) ← readValue? fuel (skipBlanks rest)
          match skipBlanks rest with
          | '\x7d' :: rest => return ([(keys, value)], rest)
          | ',' :: rest => do
              let (assignments, rest) ← readAssignments? fuel rest
              return ((keys, value) :: assignments, rest)
          | _ => none
      | _ => none

end

/-! ## Documents -/

/-- What a statement says. -/
inductive Statement where
  | header (keys : List String)
  | arrayHeader (keys : List String)
  | assignment (keys : List String) (value : Toml)
deriving Repr, Inhabited

/-- Reads a statement without the end of its line. -/
def readStatement? (characters : List Char) : Option (Statement × List Char) :=
  match characters with
  | '[' :: '[' :: rest => do
      match ← readKeys? (rest.length + 1) rest with
      | (keys, ']' :: ']' :: rest) => return (.arrayHeader keys, rest)
      | _ => none
  | '[' :: rest => do
      match ← readKeys? (rest.length + 1) rest with
      | (keys, ']' :: rest) => return (.header keys, rest)
      | _ => none
  | _ => do
      match ← readKeys? (characters.length + 1) characters with
      | (keys, '=' :: rest) => do
          let rest := skipBlanks rest
          let (value, rest) ← readValue? (rest.length + 1) rest
          return (.assignment keys value, rest)
      | _ => none

/-- The document and the keys of the header under which the next statement stands, after a
statement. -/
def addStatement? (document : Table) (header : List String) :
    Statement → Option (Table × List String)
  | .header keys => (atHeader openLast keys document).map fun document => (document, keys)
  | .arrayHeader keys => (atHeader addLast keys document).map fun document => (document, keys)
  | .assignment keys value =>
      (changeAt (assign value keys) header document).map fun document => (document, header)

/-- Reads a statement with the end of its line and adds it to a document. -/
def nextStatement? (document : Table) (header : List String) (characters : List Char) :
    Option ((Table × List String) × List Char) := do
  let (statement, rest) ← readStatement? characters
  let rest ← skipLineEnd? rest
  return (← addStatement? document header statement, rest)

/-- Adds the statements of a text to a document; `fuel` exceeds the length of the text, and `lineOf`
tells the line in which the rest of the text begins. -/
def addStatements (lineOf : List Char → Nat) : (fuel : Nat) → Table → List String → List Char →
    Except ReadError Table
  | 0, _, _, characters => .error ⟨lineOf characters⟩
  | fuel + 1, document, header, characters =>
      match skipLines? (characters.length + 1) characters with
      | none => .error ⟨lineOf characters⟩
      | some [] => .ok document
      | some rest =>
          match nextStatement? document header rest with
          | some ((document, header), rest) => addStatements lineOf fuel document header rest
          | none => .error ⟨lineOf rest⟩

/-- A text with single line feeds at the ends of its lines. -/
def withoutReturns : List Char → List Char
  | '\r' :: '\n' :: rest => '\n' :: withoutReturns rest
  | character :: rest => character :: withoutReturns rest
  | [] => []

/-- Reads a document; a mark of the byte order in front is dropped. -/
def read (text : String) : Except ReadError Table :=
  let characters :=
    match text.toList with
    | first :: rest => if first.toNat = 0xFEFF then rest else first :: rest
    | [] => []
  let characters := withoutReturns characters
  let lineOf (rest : List Char) := characters.count '\n' - rest.count '\n' + 1
  addStatements lineOf (characters.length + 1) [] [] characters

end PageContext.Toml
