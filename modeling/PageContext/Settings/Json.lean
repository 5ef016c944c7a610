import PageContext.Settings.Basic

/-!
# Settings in JSON

Settings can be given as a JSON value and written as one.  A section is an object, or an array with
the values of the section in their fixed order; missing values are those of the default settings,
and keys that are no settings are ignored.  Every value must be of the kind of its setting.
-/

namespace PageContext.Settings

/-- The names of the settings in a section in their fixed order. -/
def sectionNames (key : String) : List String :=
  match key with
  | "urls" => ["static_url", "base_url", "php_url"]
  | "dates" => ["utc_offset_minutes"]
  | "resolver" => ["directive_timeout_ms"]
  | "store" => ["fixture"]
  | "logging" => ["level", "format", "output", "file", "color", "modules"]
  | _ => []

/-- The values of a section in their fixed order. -/
def sectionValues? (names : List String) : Json → Option (List (Option Json))
  | .object entries => some (names.map fun name => Entries.get? name entries)
  | .array items =>
      if items.length ≤ names.length then
        some (items.map some ++ List.replicate (names.length - items.length) none)
      else none
  | _ => none

def valueOr? {α : Type} (read : Json → Option α) (default : α) : Option Json → Option α
  | none => some default
  | some value => read value

def nullOr? {α : Type} (read : Json → Option α) : Json → Option (Option α)
  | .null => some none
  | value => (read value).map some

def signedInt? : Json → Option Int
  | .number (.integer value) => if Text.fitsSigned 64 value then some value else none
  | _ => none

def unsignedInt? : Json → Option Nat
  | .number (.integer (.ofNat value)) => if value < Nat.pow 2 64 then some value else none
  | _ => none

def boolean? : Json → Option Bool
  | .bool value => some value
  | _ => none

def sortedByKey {α : Type} (entries : List (String × α)) : List (String × α) :=
  entries.mergeSort fun left right => left.1 ≤ right.1

def textEntry? (entry : String × Json) : Option (String × String) :=
  entry.2.text?.map fun text => (entry.1, text)

/-- Reads texts under keys, sorted by key. -/
def textMap? : Json → Option (List (String × String))
  | .object entries => (entries.mapM textEntry?).map sortedByKey
  | _ => none

/-- Reads the addresses into some settings. -/
def addresses? (settings : Settings) (value : Json) : Option Settings := do
  match ← sectionValues? (sectionNames "urls") value with
  | [staticUrl, baseUrl, phpUrl] =>
      return { settings with
        staticUrl := ← valueOr? Json.text? settings.staticUrl staticUrl
        baseUrl := ← valueOr? Json.text? settings.baseUrl baseUrl
        phpUrl := ← valueOr? Json.text? settings.phpUrl phpUrl }
  | _ => none

/-- Reads the section on dates into some settings. -/
def dates? (settings : Settings) (value : Json) : Option Settings := do
  match ← sectionValues? (sectionNames "dates") value with
  | [minutes] =>
      return { settings with
        utcOffsetMinutes := ← valueOr? signedInt? settings.utcOffsetMinutes minutes }
  | _ => none

/-- Reads the section on resolving into some settings. -/
def limits? (settings : Settings) (value : Json) : Option Settings := do
  match ← sectionValues? (sectionNames "resolver") value with
  | [timeout] =>
      return { settings with
        directiveTimeout := ← valueOr? (nullOr? unsignedInt?) settings.directiveTimeout timeout }
  | _ => none

/-- Reads the section on the store into some settings. -/
def store? (settings : Settings) (value : Json) : Option Settings := do
  match ← sectionValues? (sectionNames "store") value with
  | [fixture] =>
      return { settings with fixture := ← valueOr? (nullOr? Json.text?) settings.fixture fixture }
  | _ => none

def logging? (value : Json) : Option LogSettings := do
  let default : LogSettings := {}
  match ← sectionValues? (sectionNames "logging") value with
  | [level, format, output, file, color, modules] =>
      return {
        level := ← valueOr? Json.text? default.level level
        format := ← valueOr? Json.text? default.format format
        output := ← valueOr? Json.text? default.output output
        file := ← valueOr? Json.text? default.file file
        color := ← valueOr? boolean? default.color color
        modules := ← valueOr? textMap? default.modules modules
      }
  | _ => none

/-- Reads a section into some settings, if it is there. -/
def withSection? (read : Settings → Json → Option Settings) (value : Option Json)
    (settings : Settings) : Option Settings :=
  match value with
  | none => some settings
  | some value => read settings value

def ofJson? (value : Json) : Option Settings := do
  match ← sectionValues? ["context_dir", "urls", "dates", "resolver", "store", "logging"] value with
  | [contextDirectory, urls, dates, resolver, store, logging] =>
      let settings : Settings := {}
      let settings := { settings with
        contextDirectory := ← valueOr? Json.text? settings.contextDirectory contextDirectory
        logging := ← valueOr? logging? settings.logging logging }
      let settings ← withSection? addresses? urls settings
      let settings ← withSection? dates? dates settings
      let settings ← withSection? limits? resolver settings
      withSection? store? store settings
  | _ => none

def optionalText (text : Option String) : Json :=
  (text.map Json.string).getD .null

/-- The section on logging as a JSON value. -/
def loggingJson (logging : LogSettings) : Json :=
  .object [("level", .string logging.level), ("format", .string logging.format),
    ("output", .string logging.output), ("file", .string logging.file),
    ("color", .bool logging.color),
    ("modules", .object (logging.modules.map fun entry => (entry.1, .string entry.2)))]

/-- Settings as a JSON value with all sections. -/
def toJson (settings : Settings) : Json :=
  let timeout := (settings.directiveTimeout.map fun timeout => Json.int timeout).getD .null
  .object [("context_dir", .string settings.contextDirectory),
    ("urls", .object [("static_url", .string settings.staticUrl),
      ("base_url", .string settings.baseUrl), ("php_url", .string settings.phpUrl)]),
    ("dates", .object [("utc_offset_minutes", .int settings.utcOffsetMinutes)]),
    ("resolver", .object [("directive_timeout_ms", timeout)]),
    ("store", .object [("fixture", optionalText settings.fixture)]),
    ("logging", loggingJson settings.logging)]

end PageContext.Settings
