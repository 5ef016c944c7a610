import PageContext.Proofs.Number.Numerals
import PageContext.Proofs.Settings.Layering

/-!
# Texts in variables

The text of a variable is taken for a boolean, an integer or another number where it reads as one,
and a setting that is a text is given the text of what has been read.  A text that is none of these
arrives as it is; any other one arrives as it is only if it is already written in the way in which
such a value is written.
-/

namespace PageContext

namespace Settings

/-! ## Texts and what they arrive as -/

/-- What a setting that is a text becomes when a variable has a given text. -/
inductive ArrivesAs (text : String) : String → Prop where
  /-- The words for true and false arrive in lower case. -/
  | word (isWord : Text.lowerAscii text = "true" ∨ Text.lowerAscii text = "false") :
      ArrivesAs text (Text.lowerAscii text)
  /-- Integers of 64 bits arrive without a plus sign and without zeros in front. -/
  | integer {value : Int} (isInteger : Text.signed? 64 text = some value) :
      ArrivesAs text (toString value)
  /-- Other numerals arrive with the fewest digits of the nearest binary number. -/
  | number {value : PlainNumber} (noInteger : Text.signed? 64 text = none)
      (isNumber : PlainNumber.ofText? text = some value) :
      ArrivesAs text (SettingValue.textOf (.float value))
  | same (noWord : Text.lowerAscii text ≠ "true" ∧ Text.lowerAscii text ≠ "false")
      (noNumeral : ¬IsNumeral text) : ArrivesAs text text

/-- A text that arrives as it is. -/
inductive IsKept (text : String) : Prop where
  | word (isWord : text = "true" ∨ text = "false")
  | integer {value : Int} (fits : Text.fitsSigned 64 value = true) (isText : text = toString value)
  | number {value : PlainNumber} (noInteger : Text.signed? 64 text = none)
      (isNumber : PlainNumber.ofText? text = some value)
      (isText : text = SettingValue.textOf (.float value))
  | other (noWord : Text.lowerAscii text ≠ "true" ∧ Text.lowerAscii text ≠ "false")
      (noNumeral : ¬IsNumeral text)

theorem ofText?_eq_none_iff {text : String} :
    PlainNumber.ofText? text = none ↔ ¬IsNumeral text := by
  rw [← ofText?_isSome_iff, Option.not_isSome_iff_eq_none]

theorem exists_arrivesAs (text : String) : ∃ shown, ArrivesAs text shown := by
  by_cases isWord : Text.lowerAscii text = "true" ∨ Text.lowerAscii text = "false"
  · exact ⟨_, .word isWord⟩
  rw [not_or] at isWord
  cases isInteger : Text.signed? 64 text with
  | some value => exact ⟨_, .integer isInteger⟩
  | none =>
      cases isNumber : PlainNumber.ofText? text with
      | some value => exact ⟨_, .number isInteger isNumber⟩
      | none => exact ⟨_, .same isWord (ofText?_eq_none_iff.mp isNumber)⟩

theorem ArrivesAs.eq_textOf {text shown : String} (arrives : ArrivesAs text shown) :
    shown = SettingValue.textOf (variableScalar text) := by
  cases arrives with
  | word isWord =>
      rcases isWord with isTrue | isFalse
      · simp [variableScalar, isTrue, SettingValue.textOf]
      · simp [variableScalar, isFalse, SettingValue.textOf]
  | integer isInteger =>
      have noWord := (isNumeral_of_signed? isInteger).lowerAscii_ne
      simp [variableScalar, noWord, isInteger, SettingValue.textOf]
  | number noInteger isNumber =>
      have isNumeral : IsNumeral text := ofText?_isSome_iff.mp (Option.isSome_of_mem isNumber)
      simp [variableScalar, isNumeral.lowerAscii_ne, noInteger, isNumber]
  | same noWord noNumeral =>
      have noInteger : Text.signed? 64 text = none := by
        rw [Option.eq_none_iff_forall_ne_some]
        intro value isInteger
        exact noNumeral (isNumeral_of_signed? isInteger)
      simp [variableScalar, noWord, noInteger, ofText?_eq_none_iff.mpr noNumeral,
        SettingValue.textOf]

/-- A text arrives as the text of the scalar that it is taken for. -/
theorem arrivesAs_textOf (text : String) :
    ArrivesAs text (SettingValue.textOf (variableScalar text)) := by
  rcases exists_arrivesAs text with ⟨shown, arrives⟩
  exact arrives.eq_textOf ▸ arrives

theorem IsKept.arrivesAs {text : String} (isKept : IsKept text) : ArrivesAs text text := by
  cases isKept with
  | word isWord =>
      have isLower : Text.lowerAscii text = text := by
        rcases isWord with rfl | rfl <;> decide
      have arrives : ArrivesAs text (Text.lowerAscii text) := .word (by rwa [isLower])
      rwa [isLower] at arrives
  | integer fits isText =>
      have isInteger := Text.signed?_toString fits
      rw [← isText] at isInteger
      have arrives := ArrivesAs.integer isInteger
      rwa [← isText] at arrives
  | number noInteger isNumber isText =>
      have arrives := ArrivesAs.number noInteger isNumber
      rwa [← isText] at arrives
  | other noWord noNumeral => exact .same noWord noNumeral

/-- A text arrives as it is exactly if it is kept. -/
theorem ArrivesAs.eq_iff {text shown : String} (arrives : ArrivesAs text shown) :
    shown = text ↔ IsKept text := by
  constructor
  · intro same
    cases arrives with
    | word isWord =>
        rw [same] at isWord
        exact .word isWord
    | @integer value isInteger =>
        have fits : Text.fitsSigned 64 value = true := (Option.filter_eq_some_iff.mp isInteger).2
        exact .integer fits same.symm
    | number noInteger isNumber => exact .number noInteger isNumber same.symm
    | same noWord noNumeral => exact .other noWord noNumeral
  · intro isKept
    exact arrives.eq_textOf.trans isKept.arrivesAs.eq_textOf.symm

/-! ## Variables as writes -/

/-- The keys at which a variable with a name sets a scalar. -/
def variableKeys? (name : String) : Option (List String) :=
  (variableKey? name).map fun key => (Layer.keysOf key).map Text.lowerAscii

/-- A variable sets nothing at some keys, around them or below them. -/
def IsApart (keys : List String) (binding : String × String) : Prop :=
  ∀ others ∈ variableKeys? binding.1, ¬others <+: keys ∧ ¬keys <+: others

theorem effect?_eq_none_of_isApart {keys : List String} {binding : String × String}
    (isApart : IsApart keys binding) {key : String} (isKey : variableKey? binding.1 = some key)
    (value : Option PlainSetting) :
    Write.effect? keys ⟨(Layer.keysOf key).map Text.lowerAscii, value⟩ = none := by
  rcases isApart _ (by rw [variableKeys?, isKey]; rfl) with ⟨notAround, notBelow⟩
  exact Write.effect?_eq_none_of_apart notAround notBelow

/-- The environment writes the scalars of its variables, in any order. -/
theorem mem_writes_environmentLayer {host : SettingsHost} {environment : Environment}
    {write : Write} :
    write ∈ (environmentLayer host environment).writes ↔
      ∃ entry ∈ Entries.ofPairs (environment.filterMap variableSetting?),
        write ∈ (Layer.writesOfValue entry.2).map
          (Write.below ((Layer.keysOf entry.1).map Text.lowerAscii)) := by
  simp only [Layer.writes, environmentLayer, List.mem_flatMap, (host.arrange_perm _).mem_iff]

/-- Whatever the environment writes is the scalar that one of its variables is taken for. -/
theorem exists_variable_of_mem_writes {host : SettingsHost} {environment : Environment}
    {write : Write} (isWrite : write ∈ (environmentLayer host environment).writes) :
    ∃ binding ∈ environment, ∃ key, variableKey? binding.1 = some key ∧
      (key, .scalar (variableScalar binding.2)) ∈
        Entries.ofPairs (environment.filterMap variableSetting?) ∧
      write = ⟨(Layer.keysOf key).map Text.lowerAscii,
        some (.scalar (variableScalar binding.2))⟩ := by
  rcases mem_writes_environmentLayer.mp isWrite with ⟨entry, isEntry, isWrite⟩
  rcases List.mem_filterMap.mp (Entries.mem_of_mem_ofPairs isEntry) with
    ⟨binding, isBinding, isVariable⟩
  rcases Option.map_eq_some_iff.mp isVariable with ⟨key, isKey, rfl⟩
  simp only [Layer.writesOfValue, List.map_cons, List.map_nil, List.mem_singleton, Write.below,
    List.append_nil] at isWrite
  exact ⟨binding, isBinding, key, isKey, isEntry, isWrite⟩

/-- Of the variables that name one setting, the last one is what the environment has for it. -/
theorem mem_ofPairs_variables {key name : String} (isKey : variableKey? name = some key)
    (value : String) (before : Environment) {after : Environment}
    (noLater : ∀ binding ∈ after, variableKey? binding.1 ≠ some key) :
    (key, .scalar (variableScalar value)) ∈
      Entries.ofPairs ((before ++ (name, value) :: after).filterMap variableSetting?) := by
  have isEntry : variableSetting? (name, value) = some (key, .scalar (variableScalar value)) := by
    rw [variableSetting?, isKey, Option.map_some]
  have nothingLater : (after.filterMap variableSetting?).reverse.find? (·.1 == key) = none := by
    rw [List.find?_eq_none]
    intro entry member
    rcases List.mem_filterMap.mp (List.mem_reverse.mp member) with ⟨binding, isLater, isEntry⟩
    rcases Option.map_eq_some_iff.mp isEntry with ⟨other, isOther, rfl⟩
    simp only [beq_iff_eq]
    rintro rfl
    exact noLater binding isLater isOther
  refine Entries.mem_of_get? ?_
  rw [Entries.ofPairs, Entries.get?_insertAll_eq_find?, List.filterMap_append,
    List.filterMap_cons_some isEntry, List.reverse_append, List.reverse_cons, List.append_assoc,
    List.find?_append, nothingLater, Option.none_or]
  simp

/-- If the other variables are apart from some keys, or come before and name the same setting, the
environment leaves at the keys what the last variable for them says. -/
theorem effect?_environmentLayer {keys : List String} {name : String}
    (isVariable : variableKeys? name = some keys) (host : SettingsHost) (value : String)
    {before after : Environment}
    (noOther : ∀ binding ∈ before,
      IsApart keys binding ∨ variableKey? binding.1 = variableKey? name)
    (noLater : ∀ binding ∈ after, IsApart keys binding) :
    (environmentLayer host (before ++ (name, value) :: after)).effect? keys =
      some (some (.scalar (variableScalar value))) := by
  rcases Option.map_eq_some_iff.mp isVariable with ⟨key, isKey, rfl⟩
  have inEntries : (key, .scalar (variableScalar value)) ∈
      Entries.ofPairs ((before ++ (name, value) :: after).filterMap variableSetting?) := by
    refine mem_ofPairs_variables isKey value before ?_
    intro binding isLater same
    rcases noLater binding isLater _ (by rw [variableKeys?, same]; rfl) with ⟨notAround, _⟩
    exact notAround (List.prefix_refl _)
  have isWrite : ⟨(Layer.keysOf key).map Text.lowerAscii, some (.scalar (variableScalar value))⟩ ∈
      (environmentLayer host (before ++ (name, value) :: after)).writes := by
    rw [mem_writes_environmentLayer]
    exact ⟨_, inEntries, by simp [Layer.writesOfValue, Write.below]⟩
  refine Layer.effect?_eq_of_mem_writes isWrite (by simp [Write.effect?]) ?_
  intro other isOther
  rcases exists_variable_of_mem_writes isOther with ⟨binding, isBinding, otherKey, isOtherKey,
    isEntry, rfl⟩
  by_cases same : otherKey = key
  · subst same
    have distinct := Entries.distinctKeys_ofPairs
      ((before ++ (name, value) :: after).filterMap variableSetting?)
    have sameValue := (Entries.get?_of_mem distinct isEntry).symm.trans
      (Entries.get?_of_mem distinct inEntries)
    simp only [Option.some.injEq, SettingValue.scalar.injEq] at sameValue
    left
    simp [Write.effect?, sameValue]
  · right
    refine effect?_eq_none_of_isApart ?_ isOtherKey _
    rcases List.mem_append.mp isBinding with isEarlier | isLater
    · rcases noOther binding isEarlier with isApart | sameKey
      · exact isApart
      · exact absurd (Option.some.inj (isOtherKey.symm.trans (sameKey.trans isKey))) same
    · rcases List.mem_cons.mp isLater with rfl | isLater
      · exact absurd (Option.some.inj (isOtherKey.symm.trans isKey)) same
      · exact noLater binding isLater

/-! ## Settings that are texts -/

/-- The settings that are texts, with the names of their variables. -/
def textVariables : List (Leaf × String) :=
  [(.contextDirectory, "TRELLIS__CONTEXT_DIR"), (.staticUrl, "TRELLIS__URLS__STATIC_URL"),
    (.baseUrl, "TRELLIS__URLS__BASE_URL"), (.phpUrl, "TRELLIS__URLS__PHP_URL"),
    (.fixture, "TRELLIS__STORE__FIXTURE"), (.logLevel, "TRELLIS__LOGGING__LEVEL"),
    (.logFormat, "TRELLIS__LOGGING__FORMAT"), (.logOutput, "TRELLIS__LOGGING__OUTPUT"),
    (.logFile, "TRELLIS__LOGGING__FILE")]

theorem variableKeys?_of_mem {leaf : Leaf} {name : String}
    (isVariable : (leaf, name) ∈ textVariables) : variableKeys? name = some leaf.keys := by
  have inTable : ∀ entry ∈ textVariables, variableKeys? entry.2 = some entry.1.keys := by
    decide +kernel
  exact inTable (leaf, name) isVariable

theorem convert?_of_mem {leaf : Leaf} {name : String} (isVariable : (leaf, name) ∈ textVariables)
    (scalar : SettingScalar) :
    leaf.convert? scalar = some (.text (SettingValue.textOf scalar)) := by
  have inTable : ∀ entry ∈ textVariables,
      entry.1.convert? scalar = some (.text (SettingValue.textOf scalar)) := by
    simp [textVariables, Leaf.convert?]
  exact inTable (leaf, name) isVariable

/-- The environment is the highest layer. -/
theorem exists_lower {host : SettingsHost} {files : Files} {environment : Environment}
    {workspace : String} {explicit : Option String} {sources : List Layer}
    (isSources : Sources host files environment workspace explicit sources) :
    ∃ lower, sources = lower ++ [environmentLayer host environment] := by
  cases isSources with
  | workspace _ _ _ => exact ⟨[_, _, _, _], rfl⟩
  | explicit _ _ _ => exact ⟨[_, _, _], rfl⟩

/-- A setting that is a text shows the text of the scalar that its last variable is taken for. -/
theorem leaf?_of_textVariable {leaf : Leaf} {name value : String}
    (isVariable : (leaf, name) ∈ textVariables) {host : SettingsHost} {files : Files}
    {before after : Environment} {workspace : String} {explicit : Option String}
    {settings : Settings}
    (noOther : ∀ binding ∈ before,
      IsApart leaf.keys binding ∨ variableKey? binding.1 = variableKey? name)
    (noLater : ∀ binding ∈ after, IsApart leaf.keys binding)
    (loaded : load host files (before ++ (name, value) :: after) workspace explicit =
      .ok settings) :
    settings.leaf? leaf = some (.text (SettingValue.textOf (variableScalar value))) := by
  rcases load_eq_ok_iff.mp loaded with ⟨sources, isLayers, isRead, _⟩
  rcases exists_lower (sources_of_layers isLayers) with ⟨lower, rfl⟩
  have isEffect := effect?_environmentLayer (variableKeys?_of_mem isVariable) host value noOther
    noLater
  have isLeaf : Layer.leaf? leaf.keys
      (stack (lower ++ [environmentLayer host (before ++ (name, value) :: after)])) =
        some (.scalar (variableScalar value)) := by
    rw [leaf?_stack, List.reverse_append, List.reverse_singleton, List.singleton_append,
      List.findSome?_cons_of_isSome (by rw [isEffect]; rfl), isEffect, Option.join_some]
  have shows := shows_of_ofLayer isRead leaf
  rw [Layer.setting?_of_leaf? isLeaf] at shows
  cases shows with
  | given converts isShown =>
      rw [convert?_of_mem isVariable, Option.some.injEq] at converts
      rw [isShown, converts]

/-- A setting that is a text becomes what the text of its last variable arrives as, if no other
variable sets something at its leaf, around it or below it.  This is the text itself exactly for the
texts that are kept: the words for true and false in lower case, integers and other numbers that are
written as they are printed, and whatever is neither such a word in any case nor a numeral. -/
theorem text_variable_arrives {leaf : Leaf} {name value : String}
    (isVariable : (leaf, name) ∈ textVariables) {host : SettingsHost} {files : Files}
    {before after : Environment} {workspace : String} {explicit : Option String}
    {settings : Settings}
    (noOther : ∀ binding ∈ before,
      IsApart leaf.keys binding ∨ variableKey? binding.1 = variableKey? name)
    (noLater : ∀ binding ∈ after, IsApart leaf.keys binding)
    (loaded : load host files (before ++ (name, value) :: after) workspace explicit =
      .ok settings) :
    (∃ shown, ArrivesAs value shown ∧ settings.leaf? leaf = some (.text shown)) ∧
      (settings.leaf? leaf = some (.text value) ↔ IsKept value) := by
  have isShown := leaf?_of_textVariable isVariable noOther noLater loaded
  have arrives := arrivesAs_textOf value
  refine ⟨⟨_, arrives, isShown⟩, ?_⟩
  rw [isShown, Option.some.injEq, SettingScalar.text.injEq, arrives.eq_iff]

/-- An address arrives as it is, whatever variables beside it set and in whichever order they are
gone through. -/
theorem text_variable_arrives_address :
    let host : SettingsHost := { arrange := List.reverse, arrange_perm := List.reverse_perm }
    let environment : Environment :=
      [("trellis__urls__base_url", "b"), ("TRELLIS__URLS__BASE_URL", "https://a/1.0"),
        ("TRELLIS__URLS__PHP_URL", "TRUE")]
    let settings : Settings := { baseUrl := "https://a/1.0", phpUrl := "true" }
    load host (Files.ofList []) environment "/ws" none = .ok settings ∧
      settings.leaf? .baseUrl = some (.text "https://a/1.0") ∧ IsKept "https://a/1.0" := by
  intro host environment settings
  have loaded : load host (Files.ofList []) ([("trellis__urls__base_url", "b")] ++
      ("TRELLIS__URLS__BASE_URL", "https://a/1.0") :: [("TRELLIS__URLS__PHP_URL", "TRUE")])
      "/ws" none = .ok settings := by
    decide +kernel
  have noOther : ∀ binding ∈ [("trellis__urls__base_url", "b")],
      IsApart Leaf.baseUrl.keys binding ∨
        variableKey? binding.1 = variableKey? "TRELLIS__URLS__BASE_URL" := by
    intro binding isEarlier
    obtain rfl := List.mem_singleton.mp isEarlier
    right
    decide +kernel
  have noLater : ∀ binding ∈ [("TRELLIS__URLS__PHP_URL", "TRUE")],
      IsApart Leaf.baseUrl.keys binding := by
    intro binding isLater others isOthers
    obtain rfl := List.mem_singleton.mp isLater
    have isPhp : variableKeys? "TRELLIS__URLS__PHP_URL" = some ["urls", "php_url"] := by decide
    rw [isPhp] at isOthers
    obtain rfl := Option.some.inj isOthers
    decide
  have isBase : (Leaf.baseUrl, "TRELLIS__URLS__BASE_URL") ∈ textVariables := by decide
  have isKept : IsKept "https://a/1.0" := .other (by decide) (by decide)
  have arrives := text_variable_arrives isBase noOther noLater loaded
  exact ⟨loaded, arrives.2.mpr isKept, isKept⟩

/-- Texts of variables do not always arrive as they are: a name of digits loses its zeros. -/
theorem not_forall_text_variable_arrives :
    ¬∀ (leaf : Leaf) (name value : String) (host : SettingsHost) (files : Files)
      (environment : Environment) (workspace : String) (explicit : Option String)
      (settings : Settings),
      (leaf, name) ∈ textVariables → Entries.get? name environment = some value →
        load host files environment workspace explicit = .ok settings →
          settings.leaf? leaf = some (.text value) := by
  intro arrive
  have loaded : load {} (Files.ofList []) [("TRELLIS__CONTEXT_DIR", "007")] "/ws" none =
      .ok { contextDirectory := "7" } := by
    decide +kernel
  have isShown := arrive .contextDirectory "TRELLIS__CONTEXT_DIR" "007" _ _ _ _ _ _ (by decide)
    (by decide) loaded
  exact absurd isShown (by decide)

end Settings

end PageContext
