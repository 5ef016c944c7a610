import PageContext.Json.Printer
import PageContext.Text.Quoted

/-!
# Failures of transforms

A specification can be no specification at all, name no transform, or carry settings that cannot be
read; a transform can be given a value that is no array, or settings that move a date out of the
representable range.
-/

namespace PageContext

/-- What a setting of a fixed kind should have been. -/
inductive ExpectedKind where
  | text
  | unit
  | textOrMap
deriving DecidableEq, Repr, Inhabited

/-- Why the settings of a transform cannot be used. -/
inductive SettingError where
  /-- A text that is no integer. -/
  | notAnInteger (text : String)
  /-- A value of a kind that never stands for an integer. -/
  | integerExpected (value : Json)
  | negativeSize
  /-- An item of a list of texts that is no text. -/
  | textExpected (item : Json)
  /-- A value that is neither a text nor a list of texts. -/
  | textsExpected (value : Json)
  | unknownSortOrder (text : String)
  /-- A value of another kind than the setting has. -/
  | wrongKind (value : Json) (expected : ExpectedKind)
  | unknownYearMode (text : String)
  /-- An object in place of a year mode that does not have exactly one key. -/
  | notSingleKey
  /-- The hours offset moves a date out of the representable range. -/
  | outOfRange
deriving Repr, Inhabited

/-- Why a chain of transforms fails. -/
inductive TransformError where
  | unknownAction (name : String)
  | invalidSpec (spec : Json)
  | invalidParams (action : String) (cause : SettingError)
  /-- A value that is no array where one is needed. -/
  | notAnArray (action : String) (value : Json)
deriving Repr, Inhabited

/-- A value as messages about its kind show it. -/
def Json.kindText : Json → String
  | .null => "null"
  | .bool value => "boolean `" ++ (if value then "true" else "false") ++ "`"
  | .number (.integer value) => "integer `" ++ toString value ++ "`"
  | .number (.float value) => "floating point `" ++ NumberLayout.json.text value ++ "`"
  | .string value => "string " ++ Text.quoted value
  | .array _ => "sequence"
  | .object _ => "map"

namespace ExpectedKind

def name : ExpectedKind → String
  | .text => "a string"
  | .unit => "unit"
  | .textOrMap => "string or map"

end ExpectedKind

namespace SettingError

def message : SettingError → String
  | .notAnInteger text => "expected an integer, got " ++ Text.quoted text
  | .integerExpected value => "expected an integer, got " ++ value.compact
  | .negativeSize => "expected a non-negative size"
  | .textExpected item => "expected a string, got " ++ item.compact
  | .textsExpected value => "expected a string or a list of strings, got " ++ value.compact
  | .unknownSortOrder text => "unknown sort order " ++ Text.quoted text
  | .wrongKind value expected =>
      "invalid type: " ++ value.kindText ++ ", expected " ++ expected.name
  | .unknownYearMode text =>
      "unknown variant `" ++ text ++ "`, expected one of `default`, `always`, `never`"
  | .notSingleKey => "invalid value: map, expected map with a single key"
  | .outOfRange => "hoursOffset moves a date out of the representable range"

end SettingError

namespace TransformError

def message : TransformError → String
  | .unknownAction name => "Unknown process type: " ++ name
  | .invalidSpec spec => "Invalid process spec: " ++ spec.compact
  | .invalidParams action cause => "Invalid parameters for " ++ action ++ ": " ++ cause.message
  | .notAnArray action value => action ++ " expects an array, got " ++ value.kindName

end TransformError

end PageContext
