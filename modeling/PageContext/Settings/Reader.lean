import PageContext.Settings.Json
import PageContext.Settings.Layer

/-!
# Reading settings from a layer

The settings are the leaves of a layer at fixed places.  A scalar of another kind than its setting
is converted where that has a meaning: every scalar has a text, and texts, integers and booleans
stand for each other.  A list in the place of a section gives the settings of the section in their
fixed order.  Otherwise a leaf in the place of a table, or a list or a table in the place of a
scalar, cannot be read.
-/

namespace PageContext

/-- Settings that cannot be read, by the name of the setting. -/
structure UnreadableSetting where
  name : String
deriving DecidableEq, Repr, Inhabited

namespace SettingScalar

/-- The words that stand for true and one. -/
def trueWords : List String := ["true", "on", "yes"]

/-- The words that stand for false and zero. -/
def falseWords : List String := ["false", "off", "no"]

def limited (least greatest value : Int) : Int :=
  max least (min greatest value)

def nearest (least greatest : Int) : PlainNumber → Int
  | .finite number => limited least greatest number.roundAwayFromZero
  | .infinite negative => if negative then least else greatest
  | .undefined => 0

def integerOfText? (read : String → Option Int) (text : String) : Option Int :=
  let lowered := Text.lowerAscii text
  if trueWords.contains lowered then some 1
  else if falseWords.contains lowered then some 0
  else read text

/-- The signed integer of 64 bits that a scalar stands for. -/
def signed? : SettingScalar → Option Int
  | .integer value => some value
  | .boolean value => some (if value then 1 else 0)
  | .float value => some (nearest (-Nat.pow 2 63) (Nat.pow 2 63 - 1) value)
  | .text value => integerOfText? (Text.signed? 64) value

/-- The unsigned integer of 64 bits that a scalar stands for. -/
def unsigned? : SettingScalar → Option Nat
  | .integer value => if value < 0 then none else some value.toNat
  | .boolean value => some (if value then 1 else 0)
  | .float value => some (nearest 0 (Nat.pow 2 64 - 1) value).toNat
  | .text value =>
      (integerOfText? (fun text => (Text.unsigned? 64 text).map Int.ofNat) value).map Int.toNat

def boolean? : SettingScalar → Option Bool
  | .boolean value => some value
  | .integer value => some (value != 0)
  | .float (.finite number) => some (!number.isZero)
  | .float _ => some true
  | .text value =>
      let lowered := Text.lowerAscii value
      if lowered = "1" || trueWords.contains lowered then some true
      else if lowered = "0" || falseWords.contains lowered then some false
      else none

end SettingScalar

namespace Settings

/-- The table under a key, empty if it is missing. -/
def tableOf (key : String) (layer : Layer) : Except UnreadableSetting Layer :=
  match Entries.get? key layer with
  | none => .ok []
  | some (.table entries) => .ok entries
  | some _ => .error ⟨key⟩

/-- The section under a key, empty if it is missing.  The items of a list stand under the names of
the section; a short list leaves the last ones out, and what is too much in a long one is not
looked at. -/
def sectionOf (key : String) (layer : Layer) : Except UnreadableSetting Layer :=
  match Entries.get? key layer with
  | some (.list items) => .ok ((sectionNames key).zip items)
  | _ => tableOf key layer

/-- The value under a key, if there is one. -/
def scalarOf {α : Type} (read : SettingScalar → Option α) (key : String) (layer : Layer) :
    Except UnreadableSetting (Option α) :=
  match Entries.get? key layer with
  | none => .ok none
  | some (.scalar value) =>
      match read value with
      | some result => .ok (some result)
      | none => .error ⟨key⟩
  | some _ => .error ⟨key⟩

def textOr (default key : String) (layer : Layer) : Except UnreadableSetting String := do
  let text ← scalarOf (fun value => some (SettingValue.textOf value)) key layer
  return text.getD default

/-- The texts in a section, sorted by key. -/
def textsOf : Layer → Except UnreadableSetting (List (String × String))
  | [] => .ok []
  | (key, .scalar value) :: rest => do
      return (key, SettingValue.textOf value) :: (← textsOf rest)
  | (key, _) :: _ => .error ⟨key⟩

def loggingOf (layer : Layer) : Except UnreadableSetting LogSettings := do
  let default : LogSettings := {}
  return {
    level := ← textOr default.level "level" layer
    format := ← textOr default.format "format" layer
    output := ← textOr default.output "output" layer
    file := ← textOr default.file "file" layer
    color := (← scalarOf SettingScalar.boolean? "color" layer).getD default.color
    modules := sortedByKey (← textsOf (← tableOf "modules" layer))
  }

def ofLayer (layer : Layer) : Except UnreadableSetting Settings := do
  let default : Settings := {}
  let urls ← sectionOf "urls" layer
  let dates ← sectionOf "dates" layer
  let resolver ← sectionOf "resolver" layer
  let store ← sectionOf "store" layer
  let minutes ← scalarOf SettingScalar.signed? "utc_offset_minutes" dates
  return {
    contextDirectory := ← textOr default.contextDirectory "context_dir" layer
    staticUrl := ← textOr default.staticUrl "static_url" urls
    baseUrl := ← textOr default.baseUrl "base_url" urls
    phpUrl := ← textOr default.phpUrl "php_url" urls
    utcOffsetMinutes := minutes.getD default.utcOffsetMinutes
    directiveTimeout := ← scalarOf SettingScalar.unsigned? "directive_timeout_ms" resolver
    fixture := ← scalarOf (fun value => some (SettingValue.textOf value)) "fixture" store
    logging := ← loggingOf (← sectionOf "logging" layer)
  }

end Settings

end PageContext
