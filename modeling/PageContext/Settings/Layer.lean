import PageContext.Number.Decimal
import PageContext.Number.Layout
import PageContext.Entries
import PageContext.Text.Split

/-!
# Layers of settings

Settings are collected from several layers before they are read.  A layer is a tree of tables with
scalars and lists at its leaves.  Laying one over another replaces the leaves that the upper one
sets and keeps all others: tables are joined key by key, and anything else gives way as a whole.
Keys are compared in lower case, as far as their letters are ASCII.
-/

namespace PageContext

/-- A single value in a layer. -/
inductive SettingScalar where
  | text (value : String)
  | integer (value : Int)
  | boolean (value : Bool)
  | float (value : PlainNumber)
deriving DecidableEq, Repr, Inhabited

/-- A value in a layer. -/
inductive SettingValue where
  | scalar (value : SettingScalar)
  | list (items : List SettingValue)
  | table (entries : List (String × SettingValue))
deriving Repr, Inhabited

/-- A leaf of a layer: a value that is no table. -/
inductive PlainSetting where
  | scalar (value : SettingScalar)
  | list (items : List SettingValue)
deriving Repr, Inhabited

/-- A layer: values under their keys. -/
abbrev Layer := List (String × SettingValue)

namespace SettingValue

/-- The entries of a table, none for anything else. -/
def entriesOrNone : SettingValue → Layer
  | .table entries => entries
  | .scalar _ => []
  | .list _ => []

/-- The leaf that a value is, unless it is a table. -/
def plain? : SettingValue → Option PlainSetting
  | .scalar value => some (.scalar value)
  | .list items => some (.list items)
  | .table _ => none

/-- The entries of the table under a key, none if there is no table. -/
def tableUnder (key : String) (layer : Layer) : Layer :=
  ((Entries.get? key layer).map entriesOrNone).getD []

def textOf : SettingScalar → String
  | .text value => value
  | .integer value => toString value
  | .boolean value => if value then "true" else "false"
  | .float (.finite number) => NumberLayout.plain.text number
  | .float (.infinite negative) => if negative then "-inf" else "inf"
  | .float .undefined => "NaN"

end SettingValue

namespace Layer

mutual

/-- Sets the value under a key.  A table is joined with the table that is there; an empty one
changes nothing that is there. -/
def set (key : String) : SettingValue → Layer → Layer
  | .scalar value, layer => Entries.insert (Text.lowerAscii key) (.scalar value) layer
  | .list items, layer => Entries.insert (Text.lowerAscii key) (.list items) layer
  | .table [], layer =>
      if Entries.contains (Text.lowerAscii key) layer then layer
      else Entries.insert (Text.lowerAscii key) (.table []) layer
  | .table (entry :: entries), layer =>
      let below := SettingValue.tableUnder (Text.lowerAscii key) layer
      Entries.insert (Text.lowerAscii key) (.table (overlay (entry :: entries) below)) layer

def overlay : Layer → Layer → Layer
  | [], layer => layer
  | (key, value) :: rest, layer => overlay rest (set key value layer)

end

/-- Sets the value at the end of a list of keys; whatever is no table on the way gives way to
one. -/
def setAt (value : SettingValue) : List String → Layer → Layer
  | [], layer => layer
  | [key], layer => set key value layer
  | key :: next :: keys, layer =>
      let lowered := Text.lowerAscii key
      Entries.insert lowered
        (.table (setAt value (next :: keys) (SettingValue.tableUnder lowered layer))) layer

/-- Whether a character may stand in a key that dots can join to others. -/
def isPathCharacter (character : Char) : Bool :=
  character.isAlphanum || character == ' ' || character == '_' || character == '-'

/-- The keys that a dotted key consists of; a key with any other character stands alone.  Brackets,
which could name an item of a list, are such characters here: keys with them are not covered. -/
def keysOf (key : String) : List String :=
  let keys := Text.pieces '.' key
  if keys.all fun piece => piece ≠ "" && piece.toList.all isPathCharacter then keys else [key]

/-- Lays a whole source over a layer; the outermost keys may be dotted. -/
def overlaySource (source layer : Layer) : Layer :=
  source.foldl (fun result entry => setAt entry.2 (keysOf entry.1) result) layer

/-- The leaf at the end of a list of keys. -/
def leaf? : List String → Layer → Option PlainSetting
  | [], _ => none
  | [key], layer => (Entries.get? key layer).bind SettingValue.plain?
  | key :: next :: keys, layer => leaf? (next :: keys) (SettingValue.tableUnder key layer)

end Layer

end PageContext
