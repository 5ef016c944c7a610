import PageContext.Text.Quoted

/-!
# Writing TOML

A text is written in the first of several forms that shows it without escapes: between double
quotes, between single quotes, between three double quotes, between three single quotes.  Only if
none of them can, it is written with escapes.
-/

namespace PageContext.Toml

/-- What of a text decides how it is written. -/
structure Shape where
  /-- The greatest number of single quotes in a row. -/
  singleQuotes : Nat
  /-- The greatest number of double quotes in a row. -/
  doubleQuotes : Nat
  escapes : Bool
  controls : Bool
  newLines : Bool
deriving DecidableEq, Repr

/-- The greatest number of adjacent occurrences of a character, `current` of them just before. -/
def longestRun (wanted : Char) (current best : Nat) : List Char → Nat
  | [] => best
  | character :: rest =>
      if character = wanted then longestRun wanted (current + 1) (max best (current + 1)) rest
      else longestRun wanted 0 best rest

/-- Whether a character must be escaped wherever escapes are possible. -/
def isHidden (character : Char) : Bool :=
  (character.toNat < 32 && character ≠ '\t' && character ≠ '\n') || character.toNat = 127

def shapeOf (characters : List Char) : Shape where
  singleQuotes := longestRun '\'' 0 0 characters
  doubleQuotes := longestRun '"' 0 0 characters
  escapes := characters.contains '\\'
  controls := characters.any isHidden
  newLines := characters.contains '\n'

/-- A character other than a double quote in a string with escapes, which may extend over several
lines. -/
def escaped (multiline : Bool) (character : Char) : List Char :=
  if character.toNat = 8 then ['\\', 'b']
  else if character = '\t' then ['\\', 't']
  else if character = '\n' then (if multiline then ['\n'] else ['\\', 'n'])
  else if character.toNat = 12 then ['\\', 'f']
  else if character = '\r' then ['\\', 'r']
  else if character = '\\' then ['\\', '\\']
  else if isHidden character then
    ['\\', 'u', '0', '0'] ++
      [character.toNat / 16, character.toNat % 16].map fun digit => (Text.hexDigit digit).toUpper
  else [character]

/-- The characters of a string with escapes, of which `quotes` double quotes precede.  On several
lines two double quotes in a row stand as they are, on one line none. -/
def escapedFrom (multiline : Bool) (quotes : Nat) : List Char → List Char
  | [] => []
  | character :: rest =>
      if character = '"' then
        if quotes < (if multiline then 2 else 0) then
          '"' :: escapedFrom multiline (quotes + 1) rest
        else ['\\', '"'] ++ escapedFrom multiline 0 rest
      else escaped multiline character ++ escapedFrom multiline 0 rest

/-- Puts a text between delimiters, on a line of its own if it extends over several lines. -/
def delimited (delimiter : String) (newLine : Bool) (body : List Char) : String :=
  delimiter ++ (if newLine then "\n" else "") ++ String.ofList body ++ delimiter

def textValue (text : String) : String :=
  let characters := text.toList
  let shape := shapeOf characters
  let oneLine := delimited "\"" false (escapedFrom false 0 characters)
  let lines := delimited "\"\"\"" shape.newLines (escapedFrom true 0 characters)
  if !shape.controls && !shape.escapes && shape.doubleQuotes = 0 && !shape.newLines then oneLine
  else if !shape.controls && shape.singleQuotes = 0 && !shape.newLines then
    delimited "'" false characters
  else if !shape.controls && !shape.escapes && shape.doubleQuotes ≤ 2 then lines
  else if !shape.controls && shape.singleQuotes ≤ 2 then
    delimited "'''" shape.newLines characters
  else if shape.newLines then lines
  else oneLine

def isBareKey (key : List Char) : Bool :=
  !key.isEmpty && key.all fun character =>
    character.isAlphanum || character == '_' || character == '-'

def keyText (key : String) : String :=
  let characters := key.toList
  let shape := shapeOf characters
  let escapedKey := delimited "\"" false (escapedFrom false 0 characters)
  if isBareKey characters then key
  else if shape.controls || shape.newLines then escapedKey
  else if !shape.escapes && shape.doubleQuotes = 0 then escapedKey
  else if shape.singleQuotes = 0 then delimited "'" false characters
  else escapedKey

end PageContext.Toml
