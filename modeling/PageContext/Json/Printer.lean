import PageContext.Json.Basic
import PageContext.Number.Layout
import PageContext.Text.Quoted

/-!
# JSON text

A value is printed compactly, without any blank, or indented by two blanks per level.  Keys come in
the order of the object.  A string escapes the quote, the backslash and the characters below the
blank, and nothing else.
-/

namespace PageContext.Json

def escapedCharacter (character : Char) : List Char :=
  if character = '"' then ['\\', '"']
  else if character = '\\' then ['\\', '\\']
  else if character.toNat = 8 then ['\\', 'b']
  else if character = '\t' then ['\\', 't']
  else if character = '\n' then ['\\', 'n']
  else if character.toNat = 12 then ['\\', 'f']
  else if character = '\r' then ['\\', 'r']
  else if character.toNat < 32 then
    ['\\', 'u', '0', '0',
      Text.hexDigit (character.toNat / 16), Text.hexDigit (character.toNat % 16)]
  else [character]

def stringText (value : String) : String :=
  String.ofList ('"' :: value.toList.flatMap escapedCharacter ++ ['"'])

/-- A number: digits for an integer, the shortest digits for a floating-point number. -/
def numberText : Number → String
  | .integer value => toString value
  | .float value => NumberLayout.json.text value

mutual

def compact : Json → String
  | .null => "null"
  | .bool value => if value then "true" else "false"
  | .number value => numberText value
  | .string value => stringText value
  | .array items => "[" ++ compactItems items ++ "]"
  | .object entries => "\x7b" ++ compactEntries entries ++ "\x7d"

/-- The items of an array with commas between them. -/
def compactItems : List Json → String
  | [] => ""
  | [item] => compact item
  | item :: next :: rest => compact item ++ "," ++ compactItems (next :: rest)

/-- The entries of an object with commas between them. -/
def compactEntries : List (String × Json) → String
  | [] => ""
  | [(key, value)] => stringText key ++ ":" ++ compact value
  | (key, value) :: next :: rest =>
      stringText key ++ ":" ++ compact value ++ "," ++ compactEntries (next :: rest)

end

/-- A line break and the indentation of a level. -/
private def newLine (level : Nat) : String :=
  String.ofList ('\n' :: List.replicate (2 * level) ' ')

mutual

/-- The text of a value that stands at a level of nesting, one item or entry a line. -/
def prettyAt (level : Nat) : Json → String
  | .array [] => "[]"
  | .array (item :: rest) =>
      "[" ++ prettyItems (level + 1) (item :: rest) ++ newLine level ++ "]"
  | .object [] => "\x7b\x7d"
  | .object (entry :: rest) =>
      "\x7b" ++ prettyEntries (level + 1) (entry :: rest) ++ newLine level ++ "\x7d"
  | .null => "null"
  | .bool value => if value then "true" else "false"
  | .number value => numberText value
  | .string value => stringText value

/-- The items of an array, each on a line of its own. -/
def prettyItems (level : Nat) : List Json → String
  | [] => ""
  | [item] => newLine level ++ prettyAt level item
  | item :: next :: rest =>
      newLine level ++ prettyAt level item ++ "," ++ prettyItems level (next :: rest)

/-- The entries of an object, each on a line of its own. -/
def prettyEntries (level : Nat) : List (String × Json) → String
  | [] => ""
  | [(key, value)] => newLine level ++ stringText key ++ ": " ++ prettyAt level value
  | (key, value) :: next :: rest =>
      newLine level ++ stringText key ++ ": " ++ prettyAt level value ++ "," ++
        prettyEntries level (next :: rest)

end

def pretty (value : Json) : String :=
  prettyAt 0 value

end PageContext.Json
