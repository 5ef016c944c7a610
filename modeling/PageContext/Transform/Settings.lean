import PageContext.Text.Blank
import PageContext.Text.Integer
import PageContext.Text.Split
import PageContext.Transform.Basic
import PageContext.Transform.Error

/-!
# Reading specifications of transforms

A specification is the name of a transform, or an object with the name under `action` and the
settings under their own names.  Settings are read leniently: an integer may be given as a text or
a floating-point number, a boolean as a text or a number, a list as its sole item.  They are read
in the order of the object, and the first one that cannot be read decides; keys that are no
settings are ignored.
-/

namespace PageContext

namespace Setting

/-- Reads an integer of 64 bits: a number without its fraction, a text, or null for zero. -/
def integer : Json → Except SettingError Int
  | .number value => .ok value.toSigned
  | .string text =>
      match Text.signed? 64 (Text.trim text) with
      | some value => .ok value
      | none => .error (.notAnInteger text)
  | .null => .ok 0
  | value => .error (.integerExpected value)

/-- Reads an integer that is not negative. -/
def size (value : Json) : Except SettingError Nat := do
  match ← integer value with
  | .ofNat size => return size
  | .negSucc _ => throw .negativeSize

/-- Reads a boolean; only `true` and `1` among texts, and any number but zero, are true. -/
def boolean : Json → Bool
  | .bool value => value
  | .string text => text = "true" || text = "1"
  | .number value => !value.isZero
  | _ => false

def textItems : List Json → Except SettingError (List String)
  | [] => .ok []
  | .string text :: rest => (textItems rest).map (text :: ·)
  | item :: _ => .error (.textExpected item)

/-- Reads a list of texts: an array, a sole text, or null for none. -/
def texts : Json → Except SettingError (List String)
  | .null => .ok []
  | .string text => .ok [text]
  | .array items => textItems items
  | value => .error (.textsExpected value)

/-- Reads a list of values: an array, a sole value, or null for none. -/
def values : Json → List Json
  | .null => []
  | .array items => items
  | value => [value]

def text : Json → Except SettingError String
  | .string text => .ok text
  | value => .error (.wrongKind value .text)

def optionalText : Json → Except SettingError (Option String)
  | .null => .ok none
  | value => (text value).map some

/-- Reads the directions of sort keys, in any case. -/
def orders (value : Json) : Except SettingError (List SortOrder) := do
  (← texts value).mapM fun text =>
    let lowered := Text.lowerAscii text
    if lowered = "asc" then return .ascending
    else if lowered = "desc" then return .descending
    else throw (.unknownSortOrder lowered)

def yearModeNamed (name : String) : Except SettingError YearMode :=
  if name = "default" then .ok .whenDifferent
  else if name = "always" then .ok .always
  else if name = "never" then .ok .never
  else .error (.unknownYearMode name)

/-- Reads a year mode: its name, or an object with its name as only key and null under it. -/
def yearMode : Json → Except SettingError YearMode
  | .string name => yearModeNamed name
  | .object [(name, value)] => do
      let mode ← yearModeNamed name
      match value with
      | .null => return mode
      | value => throw (.wrongKind value .unit)
  | .object _ => .error .notSingleKey
  | value => .error (.wrongKind value .textOrMap)

/-- Reads settings one after the other: `read` takes a key, its value and the settings so far. -/
def readAll {α : Type} (read : String → Json → α → Except SettingError α) :
    List (String × Json) → α → Except SettingError α
  | [], settings => .ok settings
  | (key, value) :: rest, settings => do readAll read rest (← read key value settings)

def displayStyle (key : String) (value : Json) (style : DisplayStyle) :
    Except SettingError DisplayStyle := do
  if key = "relativeDays" then return { style with relativeDays := ← integer value }
  else if key = "hoursOffset" then return { style with hoursOffset := ← integer value }
  else if key = "year" then return { style with year := ← yearMode value }
  else if key = "shortMonth" then return { style with shortMonth := boolean value }
  else return style

def hoursOffset (key : String) (value : Json) (hours : Int) : Except SettingError Int :=
  if key = "hoursOffset" then integer value else .ok hours

def articleDateRule (key : String) (value : Json) (rule : ArticleDateRule) :
    Except SettingError ArticleDateRule := do
  if key = "input" then return { rule with input := ← texts value }
  else if key = "shortDateField" then return { rule with shortDateField := ← text value }
  else if key = "fullDateField" then return { rule with fullDateField := ← text value }
  else return rule

def headingRule (key : String) (value : Json) (rule : HeadingRule) :
    Except SettingError HeadingRule := do
  if key = "hoursOffset" then return { rule with hoursOffset := ← integer value }
  else if key = "showYearInMonth" then return { rule with showYearInMonth := boolean value }
  else return rule

def limitSize (key : String) (value : Json) (current : Nat) : Except SettingError Nat :=
  if key = "size" then size value else .ok current

/-- Reads a setting of the removal of duplicates. -/
def dedupRule (key : String) (value : Json) (rule : DedupRule) :
    Except SettingError DedupRule := do
  if key = "dedupField" then return { rule with dedupField := ← optionalText value }
  else if key = "priorityField" then return { rule with priorityField := ← optionalText value }
  else if key = "priorityValues" then return { rule with priorityValues := values value }
  else return rule

def sortRule (key : String) (value : Json) (rule : SortRule) : Except SettingError SortRule := do
  if key = "fields" then return { rule with fields := ← texts value }
  else if key = "orders" then return { rule with orders := ← orders value }
  else return rule

def projection (key : String) (value : Json) (current : Projection) :
    Except SettingError Projection := do
  if key = "fields" then return { current with fields := ← texts value }
  else if key = "removeEmpty" then return { current with removeEmpty := boolean value }
  else return current

/-- Reads the value that stands in for a missing first item. -/
def defaultItem (key : String) (value : Json) (current : Json) : Except SettingError Json :=
  if key = "default" then .ok value else .ok current

def imageFields (key : String) (value : Json) (current : List String) :
    Except SettingError (List String) :=
  if key = "fields" then texts value else .ok current

end Setting

namespace Transform

/-- The image fields that are derived unless a specification names others. -/
def allImageFields : List String :=
  ["heroImage", "heroLink", "thumbImage"]

/-- The transform with a name and the given settings. -/
def ofSettings (name : String) (settings : List (String × Json)) :
    Except TransformError Transform :=
  let inAction {α : Type} (read : Except SettingError α) : Except TransformError α :=
    read.mapError (.invalidParams name)
  match name with
  | "CalendarEvents" => .ok .calendarEvents
  | "TimeAgo" => .ok .timeAgo
  | "TimeAgoInDays" =>
      (inAction (Setting.readAll Setting.hoursOffset settings 0)).map .timeAgoInDays
  | "DisplayDate" =>
      (inAction (Setting.readAll Setting.displayStyle settings {})).map .displayDate
  | "ArticleDate" =>
      (inAction (Setting.readAll Setting.articleDateRule settings {})).map .articleDate
  | "GroupByDate" => .ok .groupByDate
  | "AddYearMonthHeadings" =>
      (inAction (Setting.readAll Setting.headingRule settings {})).map .addYearMonthHeadings
  | "Limit" => (inAction (Setting.readAll Setting.limitSize settings 10)).map .limit
  | "RemoveDuplicates" =>
      (inAction (Setting.readAll Setting.dedupRule settings {})).map .removeDuplicates
  | "RemoveDuplicatesFromGroups" =>
      (inAction (Setting.readAll Setting.dedupRule settings {})).map .removeDuplicatesFromGroups
  | "Sort" => (inAction (Setting.readAll Setting.sortRule settings {})).map .sort
  | "SortEachGroup" =>
      (inAction (Setting.readAll Setting.sortRule settings {})).map .sortEachGroup
  | "Project" => (inAction (Setting.readAll Setting.projection settings {})).map .project
  | "FirstItem" =>
      (inAction (Setting.readAll Setting.defaultItem settings (.object []))).map .firstItem
  | "NormalizeImages" =>
      (inAction (Setting.readAll Setting.imageFields settings allImageFields)).map
        .normalizeImages
  | name => .error (.unknownAction name)

/-- Reads a specification.  Taking out the key `action` moves the last setting into its place. -/
def ofSpec (spec : Json) : Except TransformError Transform :=
  match spec with
  | .string name => ofSettings name []
  | .object entries =>
      match Entries.get? "action" entries with
      | some (.string name) => ofSettings name (Entries.swapRemove "action" entries)
      | _ => .error (.invalidSpec spec)
  | _ => .error (.invalidSpec spec)

end Transform

end PageContext
