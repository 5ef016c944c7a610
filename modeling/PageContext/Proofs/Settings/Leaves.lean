import PageContext.Proofs.Sorting
import PageContext.Proofs.Success
import PageContext.Settings.Reader

/-!
# The leaves of settings

Each single setting is the leaf of a layer at fixed keys, or the item at a fixed place of a list
that stands for its section.  A scalar there is converted to the kind of the setting, and without a
scalar there the setting is that of the default settings.
-/

namespace PageContext

/-- A single setting. -/
inductive Leaf where
  | contextDirectory
  | staticUrl
  | baseUrl
  | phpUrl
  | utcOffsetMinutes
  | directiveTimeout
  | fixture
  | logLevel
  | logFormat
  | logOutput
  | logFile
  | logColor
  /-- The level of a module. -/
  | logModule (name : String)
deriving DecidableEq

namespace Leaf

def keys : Leaf → List String
  | .contextDirectory => ["context_dir"]
  | .staticUrl => ["urls", "static_url"]
  | .baseUrl => ["urls", "base_url"]
  | .phpUrl => ["urls", "php_url"]
  | .utcOffsetMinutes => ["dates", "utc_offset_minutes"]
  | .directiveTimeout => ["resolver", "directive_timeout_ms"]
  | .fixture => ["store", "fixture"]
  | .logLevel => ["logging", "level"]
  | .logFormat => ["logging", "format"]
  | .logOutput => ["logging", "output"]
  | .logFile => ["logging", "file"]
  | .logColor => ["logging", "color"]
  | .logModule name => ["logging", "modules", name]

theorem keys_ne_nil (leaf : Leaf) : leaf.keys ≠ [] := by
  cases leaf <;> simp [keys]

/-- A scalar in the kind of the setting. -/
def convert? (scalar : SettingScalar) : Leaf → Option SettingScalar
  | .utcOffsetMinutes => scalar.signed?.map .integer
  | .directiveTimeout => scalar.unsigned?.map fun value : Nat => .integer value
  | .logColor => scalar.boolean?.map .boolean
  | _ => some (.text (SettingValue.textOf scalar))

end Leaf

namespace PlainSetting

def scalar? : PlainSetting → Option SettingScalar
  | .scalar value => some value
  | .list _ => none

theorem bind_scalar?_eq_some_iff {given : Option PlainSetting} {scalar : SettingScalar} :
    given.bind scalar? = some scalar ↔ given = some (.scalar scalar) := by
  rcases given with _ | (value | items) <;> simp [scalar?]

end PlainSetting

namespace Settings

/-- The value of a single setting, if it has one. -/
def leaf? (settings : Settings) : Leaf → Option SettingScalar
  | .contextDirectory => some (.text settings.contextDirectory)
  | .staticUrl => some (.text settings.staticUrl)
  | .baseUrl => some (.text settings.baseUrl)
  | .phpUrl => some (.text settings.phpUrl)
  | .utcOffsetMinutes => some (.integer settings.utcOffsetMinutes)
  | .directiveTimeout => settings.directiveTimeout.map fun value : Nat => .integer value
  | .fixture => settings.fixture.map .text
  | .logLevel => some (.text settings.logging.level)
  | .logFormat => some (.text settings.logging.format)
  | .logOutput => some (.text settings.logging.output)
  | .logFile => some (.text settings.logging.file)
  | .logColor => some (.boolean settings.logging.color)
  | .logModule name => (Entries.get? name settings.logging.modules).map .text

/-- Settings show what a leaf has been given: the scalar in the kind of the setting, or the default
if there is none.  A list is never shown. -/
inductive Shows (settings : Settings) (leaf : Leaf) : Option PlainSetting → Prop where
  | given {scalar shown : SettingScalar} (converts : leaf.convert? scalar = some shown)
      (isShown : settings.leaf? leaf = some shown) : Shows settings leaf (some (.scalar scalar))
  | default (isDefault : settings.leaf? leaf = ({} : Settings).leaf? leaf) :
      Shows settings leaf none

end Settings

namespace Layer

/-- The item for some keys in the section under a key for which a list stands: the item at the place
of the first of them in the section, or what is below it. -/
def item? (key : String) (keys : List String) (items : List SettingValue) : Option PlainSetting :=
  leaf? keys ((Settings.sectionNames key).zip items)

/-- The leaf that a layer has for the setting at some keys. -/
def setting? : List String → Layer → Option PlainSetting
  | key :: name :: keys, layer =>
      match leaf? [key] layer with
      | some (.list items) => item? key (name :: keys) items
      | _ => leaf? (key :: name :: keys) layer
  | keys, layer => leaf? keys layer

end Layer

namespace Settings

/-! ## Parts of a layer that are read -/

theorem leaf?_of_tableOf {key : String} {layer inner : Layer}
    (isRead : tableOf key layer = .ok inner) (name : String) (keys : List String) :
    Layer.leaf? (key :: name :: keys) layer = Layer.leaf? (name :: keys) inner := by
  have isTable : SettingValue.tableUnder key layer = inner := by
    rw [tableOf] at isRead
    rw [SettingValue.tableUnder]
    split at isRead
    · next absent => simpa [absent] using Except.ok.inj isRead
    · next entries isEntries =>
      simpa [isEntries, SettingValue.entriesOrNone] using Except.ok.inj isRead
    · simp at isRead
  rw [Layer.leaf?, isTable]

theorem setting?_of_sectionOf {key : String} {layer inner : Layer}
    (isRead : sectionOf key layer = .ok inner) (name : String) (keys : List String) :
    Layer.setting? (key :: name :: keys) layer = Layer.leaf? (name :: keys) inner := by
  rw [sectionOf] at isRead
  rw [Layer.setting?, Layer.leaf?]
  split at isRead
  · next items isList =>
    rw [isList, ← Except.ok.inj isRead]
    rfl
  · next noList =>
    rw [leaf?_of_tableOf isRead]
    cases found : Entries.get? key layer with
    | none => rfl
    | some value =>
        cases value with
        | scalar value => rfl
        | list items => exact absurd found (noList items)
        | table entries => rfl

theorem scalarOf_eq_ok {α : Type} {read : SettingScalar → Option α} {key : String} {layer : Layer}
    {result : Option α} (isRead : scalarOf read key layer = .ok result) :
    Layer.leaf? [key] layer = none ∧ result = none ∨
      ∃ scalar value, Layer.leaf? [key] layer = some (.scalar scalar) ∧
        read scalar = some value ∧ result = some value := by
  rw [scalarOf] at isRead
  rw [Layer.leaf?]
  split at isRead
  · next absent => simp_all
  · next scalar isScalar =>
    split at isRead
    · next value isValue =>
      right
      exact ⟨scalar, value, by rw [isScalar]; rfl, isValue, (Except.ok.inj isRead).symm⟩
    · simp at isRead
  · simp at isRead

theorem textOr_eq_ok_iff {default key : String} {layer : Layer} {text : String} :
    textOr default key layer = .ok text ↔
      ∃ given, scalarOf (fun value => some (SettingValue.textOf value)) key layer = .ok given ∧
        given.getD default = text := by
  simp only [textOr, Except.bind_eq_ok_iff, Except.pure_eq_ok_iff]

theorem get?_of_textsOf {layer : Layer} {texts : List (String × String)}
    (isRead : textsOf layer = .ok texts) (name : String) :
    Layer.leaf? [name] layer = none ∧ Entries.get? name texts = none ∨
      ∃ scalar, Layer.leaf? [name] layer = some (.scalar scalar) ∧
        Entries.get? name texts = some (SettingValue.textOf scalar) := by
  induction layer generalizing texts with
  | nil =>
      simp only [textsOf, Except.ok.injEq] at isRead
      subst isRead
      exact .inl ⟨rfl, rfl⟩
  | cons entry rest hypothesis =>
      rcases entry with ⟨key, value⟩
      cases value with
      | list items => simp [textsOf] at isRead
      | table entries => simp [textsOf] at isRead
      | scalar value =>
          simp only [textsOf, Except.bind_eq_ok_iff, Except.pure_eq_ok_iff] at isRead
          rcases isRead with ⟨others, isOthers, rfl⟩
          by_cases same : key = name
          · exact .inr ⟨value, by simp [Entries.get?, Layer.leaf?, same, SettingValue.plain?],
              by simp [Entries.get?, same]⟩
          · simpa [Entries.get?, Layer.leaf?, same] using hypothesis isOthers

theorem get?_sortedByKey {α : Type} (key : String) (entries : List (String × α)) :
    Entries.get? key (sortedByKey entries) = Entries.get? key entries := by
  have sameFilter : (sortedByKey entries).filter (fun entry => entry.1 = key) =
      entries.filter fun entry => entry.1 = key := by
    refine filter_mergeSort ?_ ?_ ?_ entries
    · simp only [decide_eq_true_iff]
      intro first second third
      exact String.le_trans
    · simp only [Bool.or_eq_true, decide_eq_true_iff]
      intro first second
      exact String.le_total first.1 second.1
    · simp only [decide_eq_true_iff]
      intro first second isFirst isSecond
      have same : first.1 = second.1 := isFirst.trans isSecond.symm
      exact same ▸ String.le_refl first.1
  rw [Entries.get?_eq_head?_filter, Entries.get?_eq_head?_filter, sameFilter]

/-! ## Settings that are read -/

section

variable {settings : Settings} {leaf : Leaf} {key : String} {layer : Layer}

theorem shows_of_scalarOf {α : Type} {read : SettingScalar → Option α} {result : Option α}
    (write : α → SettingScalar) (isRead : scalarOf read key layer = .ok result)
    (converts : ∀ scalar, leaf.convert? scalar = (read scalar).map write)
    (isShown : settings.leaf? leaf = (result.map write).or (({} : Settings).leaf? leaf)) :
    settings.Shows leaf (Layer.leaf? [key] layer) := by
  rcases scalarOf_eq_ok isRead with ⟨absent, rfl⟩ | ⟨scalar, value, isScalar, isValue, rfl⟩
  · rw [absent]
    exact .default isShown
  · rw [isScalar]
    exact .given (by rw [converts, isValue]; rfl) isShown

theorem shows_of_textOr {default text : String} (isRead : textOr default key layer = .ok text)
    (converts : ∀ scalar, leaf.convert? scalar = some (.text (SettingValue.textOf scalar)))
    (isDefault : ({} : Settings).leaf? leaf = some (.text default))
    (isShown : settings.leaf? leaf = some (.text text)) :
    settings.Shows leaf (Layer.leaf? [key] layer) := by
  rcases textOr_eq_ok_iff.mp isRead with ⟨given, isGiven, rfl⟩
  refine shows_of_scalarOf .text isGiven converts ?_
  rw [isShown, isDefault]
  cases given <;> rfl

end

/-- Settings that are read from a layer show the leaves of the layer. -/
theorem shows_of_ofLayer {layer : Layer} {settings : Settings}
    (isRead : ofLayer layer = .ok settings) (leaf : Leaf) :
    settings.Shows leaf (layer.setting? leaf.keys) := by
  simp only [ofLayer, loggingOf, Except.bind_eq_ok_iff, Except.pure_eq_ok_iff] at isRead
  rcases isRead with ⟨urls, isUrls, dates, isDates, resolver, isResolver, store, isStore, minutes,
    isMinutes, directory, isDirectory, staticUrl, isStaticUrl, baseUrl, isBaseUrl, phpUrl, isPhpUrl,
    timeout, isTimeout, fixture, isFixture, logged, isLogged, logging, isLogging, rfl⟩
  rcases isLogging with ⟨level, isLevel, format, isFormat, output, isOutput, file, isFile, color,
    isColor, modules, isModules, texts, isTexts, rfl⟩
  cases leaf with
  | contextDirectory =>
      rw [Leaf.keys, Layer.setting?]
      · exact shows_of_textOr isDirectory (fun _ => rfl) rfl rfl
      · simp
  | staticUrl =>
      rw [Leaf.keys, setting?_of_sectionOf isUrls]
      exact shows_of_textOr isStaticUrl (fun _ => rfl) rfl rfl
  | baseUrl =>
      rw [Leaf.keys, setting?_of_sectionOf isUrls]
      exact shows_of_textOr isBaseUrl (fun _ => rfl) rfl rfl
  | phpUrl =>
      rw [Leaf.keys, setting?_of_sectionOf isUrls]
      exact shows_of_textOr isPhpUrl (fun _ => rfl) rfl rfl
  | utcOffsetMinutes =>
      rw [Leaf.keys, setting?_of_sectionOf isDates]
      refine shows_of_scalarOf .integer isMinutes (fun _ => rfl) ?_
      cases minutes <;> rfl
  | directiveTimeout =>
      rw [Leaf.keys, setting?_of_sectionOf isResolver]
      refine shows_of_scalarOf (fun value : Nat => .integer value) isTimeout (fun _ => rfl) ?_
      cases timeout <;> rfl
  | fixture =>
      rw [Leaf.keys, setting?_of_sectionOf isStore]
      refine shows_of_scalarOf .text isFixture (fun _ => rfl) ?_
      cases fixture <;> rfl
  | logLevel =>
      rw [Leaf.keys, setting?_of_sectionOf isLogged]
      exact shows_of_textOr isLevel (fun _ => rfl) rfl rfl
  | logFormat =>
      rw [Leaf.keys, setting?_of_sectionOf isLogged]
      exact shows_of_textOr isFormat (fun _ => rfl) rfl rfl
  | logOutput =>
      rw [Leaf.keys, setting?_of_sectionOf isLogged]
      exact shows_of_textOr isOutput (fun _ => rfl) rfl rfl
  | logFile =>
      rw [Leaf.keys, setting?_of_sectionOf isLogged]
      exact shows_of_textOr isFile (fun _ => rfl) rfl rfl
  | logColor =>
      rw [Leaf.keys, setting?_of_sectionOf isLogged]
      refine shows_of_scalarOf .boolean isColor (fun _ => rfl) ?_
      cases color <;> rfl
  | logModule name =>
      rw [Leaf.keys, setting?_of_sectionOf isLogged, leaf?_of_tableOf isModules]
      have sorted := get?_sortedByKey name texts
      rcases get?_of_textsOf isTexts name with ⟨absent, isAbsent⟩ | ⟨scalar, isScalar, isText⟩
      · rw [absent]
        exact .default (by simp [leaf?, sorted, isAbsent])
      · rw [isScalar]
        exact .given rfl (by simp [leaf?, sorted, isText])

end Settings

end PageContext
