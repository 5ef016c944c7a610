import PageContext.Settings.Basic
import PageContext.Toml.Printer

/-!
# Settings in TOML

Settings are written as a TOML document: the setting outside of sections first, then the sections
in a fixed order with an empty line before each.  Settings without a value are left out, sections
without settings are not.
-/

namespace PageContext.Settings

def settingLine (key value : String) : String :=
  key ++ " = " ++ value ++ "\n"

def sectionText (name : String) (lines : List String) : String :=
  "\n[" ++ name ++ "]\n" ++ String.join lines

def greatestInteger : Nat := Nat.pow 2 63 - 1

/-- The settings as a document; none if a number is too large for one. -/
def toToml? (settings : Settings) : Option String :=
  let logging := settings.logging
  if greatestInteger < settings.directiveTimeout.getD 0 then none
  else
    some (settingLine "context_dir" (Toml.textValue settings.contextDirectory) ++
      sectionText "urls"
        [settingLine "static_url" (Toml.textValue settings.staticUrl),
          settingLine "base_url" (Toml.textValue settings.baseUrl),
          settingLine "php_url" (Toml.textValue settings.phpUrl)] ++
      sectionText "dates"
        [settingLine "utc_offset_minutes" (toString settings.utcOffsetMinutes)] ++
      sectionText "resolver"
        (settings.directiveTimeout.map fun timeout =>
          settingLine "directive_timeout_ms" (toString timeout)).toList ++
      sectionText "store"
        (settings.fixture.map fun path => settingLine "fixture" (Toml.textValue path)).toList ++
      sectionText "logging"
        [settingLine "level" (Toml.textValue logging.level),
          settingLine "format" (Toml.textValue logging.format),
          settingLine "output" (Toml.textValue logging.output),
          settingLine "file" (Toml.textValue logging.file),
          settingLine "color" (if logging.color then "true" else "false")] ++
      sectionText "logging.modules"
        (logging.modules.map fun entry =>
          settingLine (Toml.keyText entry.1) (Toml.textValue entry.2)))

end PageContext.Settings
