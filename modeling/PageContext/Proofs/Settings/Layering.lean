import PageContext.Proofs.Settings.Leaves
import PageContext.Proofs.Settings.Writes

/-!
# Which layer decides a setting

Settings are loaded from the defaults, the global file, the files of the workspace or the one that
takes their place, and the environment.  For each single setting the highest of these layers that
does something to its leaf decides.  A layer may give the leaf, or drop what lower layers gave by
writing around it or below it; setting one leaf of a table does nothing to the others.  Where what
is decided for a section is a list, the setting is the item at its place.
-/

namespace PageContext

namespace Layer

/-- A source drops a leaf: it gives none, and writes around the leaf or below it. -/
def Drops (source : Layer) (keys : List String) : Prop :=
  source.given? keys = none ∧ ∃ write ∈ source.writes, write.Blocks keys

/-- A source spares a leaf: it neither gives nor drops it. -/
def Spares (source : Layer) (keys : List String) : Prop :=
  source.given? keys = none ∧ ∀ write ∈ source.writes, ¬write.Blocks keys

theorem effect?_eq_none_iff {source : Layer} {keys : List String} :
    source.effect? keys = none ↔ source.Spares keys := by
  constructor
  · intro nothing
    refine ⟨by rw [given?_eq, nothing]; rfl, ?_⟩
    intro write member blocks
    have notGiven : source.given? keys = none := by rw [given?_eq, nothing]; rfl
    have drops := effect?_eq_some_none_iff.mpr ⟨notGiven, write, member, blocks⟩
    simp [nothing] at drops
  · rintro ⟨notGiven, spared⟩
    cases effect : source.effect? keys with
    | none => rfl
    | some plain =>
        cases plain with
        | none =>
            rcases effect?_eq_some_none_iff.mp effect with ⟨_, write, member, blocks⟩
            exact absurd blocks (spared write member)
        | some plain => simp [effect?_eq_some_some_iff.mp effect] at notGiven

/-- The highest of some layers that does not spare a leaf decides what it is given. -/
inductive Decided (keys : List String) : List Layer → Option PlainSetting → Prop where
  | spared {layers : List Layer} (spare : ∀ source ∈ layers, source.Spares keys) :
      Decided keys layers none
  | given {lower upper : List Layer} {source : Layer} {plain : PlainSetting}
      (isGiven : source.given? keys = some plain) (spare : ∀ other ∈ upper, other.Spares keys) :
      Decided keys (lower ++ source :: upper) (some plain)
  | dropped {lower upper : List Layer} {source : Layer} (drops : source.Drops keys)
      (spare : ∀ other ∈ upper, other.Spares keys) : Decided keys (lower ++ source :: upper) none

theorem findSome?_effect?_eq_none_iff {keys : List String} {layers : List Layer} :
    layers.reverse.findSome? (effect? keys) = none ↔ ∀ source ∈ layers, source.Spares keys := by
  simp only [List.findSome?_eq_none_iff, List.mem_reverse, effect?_eq_none_iff]

theorem findSome?_effect?_of_spares {keys : List String} {lower upper : List Layer}
    {source : Layer} {effect : Option PlainSetting} (isEffect : source.effect? keys = some effect)
    (spare : ∀ other ∈ upper, other.Spares keys) :
    (lower ++ source :: upper).reverse.findSome? (effect? keys) = some effect := by
  have nothing := findSome?_effect?_eq_none_iff.mpr spare
  simp [List.findSome?_append, nothing, isEffect]

theorem decided_iff {keys : List String} {layers : List Layer} {given : Option PlainSetting} :
    Decided keys layers given ↔
      given = (layers.reverse.findSome? (effect? keys)).join := by
  constructor
  · intro decided
    cases decided with
    | spared spare =>
        rw [findSome?_effect?_eq_none_iff.mpr spare]
        rfl
    | given isGiven spare =>
        rw [findSome?_effect?_of_spares (effect?_eq_some_some_iff.mpr isGiven) spare]
        rfl
    | dropped drops spare =>
        rw [findSome?_effect?_of_spares (effect?_eq_some_none_iff.mpr drops) spare]
        rfl
  · rintro rfl
    cases found : layers.reverse.findSome? (effect? keys) with
    | none => exact .spared (findSome?_effect?_eq_none_iff.mp found)
    | some effect =>
        rcases List.findSome?_eq_some_iff.mp found with
          ⟨upper, source, lower, isSplit, isEffect, nothing⟩
        have isLayers : layers = lower.reverse ++ source :: upper.reverse := by
          rw [← List.reverse_reverse layers, isSplit]
          simp
        have spare : ∀ other ∈ upper.reverse, other.Spares keys := fun other member =>
          effect?_eq_none_iff.mp (nothing other (List.mem_reverse.mp member))
        subst isLayers
        cases effect with
        | none => exact .dropped (effect?_eq_some_none_iff.mp isEffect) spare
        | some plain => exact .given (effect?_eq_some_some_iff.mp isEffect) spare

/-- A leaf at the keys of a setting leaves no room for a list in the place of its section. -/
theorem setting?_of_leaf? {keys : List String} {layer : Layer} {plain : PlainSetting}
    (isLeaf : leaf? keys layer = some plain) : setting? keys layer = some plain := by
  rcases keys with _ | ⟨key, _ | ⟨name, keys⟩⟩
  · exact isLeaf
  · exact isLeaf
  · rw [setting?]
    split
    · next items isList =>
      rw [leaf?_cons] at isList isLeaf
      cases found : Entries.get? key layer with
      | none => simp [found] at isLeaf
      | some value =>
          cases value with
          | scalar value => simp [found, SettingValue.leaf?] at isLeaf
          | list items => simp [found, SettingValue.leaf?] at isLeaf
          | table entries => simp [found, SettingValue.leaf?, leaf?] at isList
    · exact isLeaf

theorem existsUnique_decided (keys : List String) (layers : List Layer) :
    ∃! given, Decided keys layers given :=
  ⟨_, decided_iff.mpr rfl, fun _ decided => decided_iff.mp decided⟩

end Layer

/-- What some layers give the setting at some keys.  If a list is decided for the section, it is the
item at the place of the setting; otherwise it is what is decided for the keys themselves. -/
inductive Layer.Gives (layers : List Layer) : List String → Option PlainSetting → Prop where
  | outside {key : String} {given : Option PlainSetting} (decided : Decided [key] layers given) :
      Gives layers [key] given
  | inSection {key name : String} {keys : List String} {given : Option PlainSetting}
      (noList : ∀ items, ¬Decided [key] layers (some (.list items)))
      (decided : Decided (key :: name :: keys) layers given) :
      Gives layers (key :: name :: keys) given
  | inList {key name : String} {keys : List String} {items : List SettingValue}
      (isList : Decided [key] layers (some (.list items))) :
      Gives layers (key :: name :: keys) (item? key (name :: keys) items)

namespace Settings

/-- The layers from which settings are loaded, the lowest first. -/
inductive Sources (host : SettingsHost) (files : Files) (environment : Environment)
    (workspace : String) : Option String → List Layer → Prop where
  | workspace {global base named : Layer}
      (isGlobal : globalLayer host files environment = .ok global)
      (isBase : existingLayer host files
        (Path.join (Path.join workspace "config") "config.toml") = .ok base)
      (isNamed : existingLayer host files (Path.join (Path.join workspace "config")
        ((Entries.get? "TRELLIS_ENV" environment).getD "development" ++ ".toml")) = .ok named) :
      Sources host files environment workspace none
        [defaultLayer, global, base, named, environmentLayer host environment]
  | explicit {path : String} {global named : Layer} (isThere : files.exists? path = true)
      (isGlobal : globalLayer host files environment = .ok global)
      (isNamed : requiredLayer host files path = .ok named) :
      Sources host files environment workspace (some path)
        [defaultLayer, global, named, environmentLayer host environment]

variable {host : SettingsHost} {files : Files} {environment : Environment} {workspace : String}
  {explicit : Option String} {sources : List Layer} {settings : Settings}

/-- The layers that lie over each other have for a setting what they give it. -/
theorem gives_iff {keys : List String} (present : keys ≠ []) {given : Option PlainSetting} :
    Layer.Gives sources keys given ↔ Layer.setting? keys (stack sources) = given := by
  have decided_iff (keys : List String) (given : Option PlainSetting) :
      Layer.Decided keys sources given ↔ Layer.leaf? keys (stack sources) = given := by
    rw [Layer.decided_iff, leaf?_stack, eq_comm]
  constructor
  · rintro (decided | ⟨noList, decided⟩ | isList)
    · exact (decided_iff _ _).mp decided
    · rw [← (decided_iff _ _).mp decided, Layer.setting?]
      split
      · next items isList => exact absurd ((decided_iff _ _).mpr isList) (noList items)
      · rfl
    · rw [Layer.setting?, (decided_iff _ _).mp isList]
  · rintro rfl
    rcases keys with _ | ⟨key, _ | ⟨name, keys⟩⟩
    · contradiction
    · exact .outside ((decided_iff _ _).mpr rfl)
    · rw [Layer.setting?]
      split
      · next items isList => exact .inList ((decided_iff _ _).mpr isList)
      · next noList =>
        refine .inSection ?_ ((decided_iff _ _).mpr rfl)
        intro items isList
        exact noList items ((decided_iff _ _).mp isList)

theorem sources_of_layers
    (isLayers : layers host files environment workspace explicit = .ok sources) :
    Sources host files environment workspace explicit sources := by
  simp only [layers, Except.bind_eq_ok_iff, Except.pure_eq_ok_iff] at isLayers
  rcases isLayers with ⟨_, isThere, global, isGlobal, others, isOthers, rfl⟩
  cases explicit with
  | none =>
      simp only [workspaceLayers, workspacePaths, List.mapM_cons, List.mapM_nil,
        Except.bind_eq_ok_iff, Except.pure_eq_ok_iff] at isOthers
      rcases isOthers with ⟨base, isBase, _, ⟨named, isNamed, _, rfl, rfl⟩, rfl⟩
      exact .workspace isGlobal isBase isNamed
  | some path =>
      simp only [workspaceLayers, Except.map_eq_ok_iff] at isOthers
      rcases isOthers with ⟨named, isNamed, rfl⟩
      simp only [requireFile, ite_eq_left_iff, reduceCtorEq, imp_false] at isThere
      exact .explicit (by simpa using isThere) isGlobal isNamed

theorem checked_eq_ok_iff {candidate : Settings} :
    checked candidate = .ok settings ↔ candidate.problems = [] ∧ candidate = settings := by
  rw [checked]
  split
  · next noProblem => simp [noProblem]
  · next hasProblem =>
    simp only [reduceCtorEq, false_iff, not_and]
    intro noProblem
    exact absurd noProblem hasProblem

theorem load_eq_ok_iff :
    load host files environment workspace explicit = .ok settings ↔
      ∃ sources, layers host files environment workspace explicit = .ok sources ∧
        ofLayer (stack sources) = .ok settings ∧ settings.problems = [] := by
  simp only [load, Except.bind_eq_ok_iff, Except.mapError_eq_ok_iff, checked_eq_ok_iff]
  constructor
  · rintro ⟨sources, isLayers, _, isRead, noProblem, rfl⟩
    exact ⟨sources, isLayers, isRead, noProblem⟩
  · rintro ⟨sources, isLayers, isRead, noProblem⟩
    exact ⟨sources, isLayers, settings, isRead, noProblem, rfl⟩

theorem load_of_missing {path : String} (isMissing : files.exists? path = false) :
    load host files environment workspace (some path) = .error (.noSuchFile path) := by
  simp [load, layers, requireFile, isMissing, bind, Except.bind]

/-- When settings are loaded, every single setting shows what the layers give it.  For each leaf the
highest layer that does something to it decides; layers whose writes part from the keys of a leaf
spare it.  A file that is named explicitly must be there; other files that are missing are passed
over. -/
theorem load_layered (host : SettingsHost) (files : Files) (environment : Environment)
    (workspace : String) (explicit : Option String) :
    (∀ settings, load host files environment workspace explicit = .ok settings →
      ∃ sources, layers host files environment workspace explicit = .ok sources ∧
        Sources host files environment workspace explicit sources ∧
        ∀ (leaf : Leaf) given, Layer.Gives sources leaf.keys given →
          settings.Shows leaf given) ∧
    (∀ (keys : List String) (sources : List Layer), ∃! given, Layer.Decided keys sources given) ∧
    (∀ (keys : List String) (sources : List Layer), keys ≠ [] →
      ∃! given, Layer.Gives sources keys given) ∧
    (∀ (source : Layer) (keys : List String),
      (∀ write ∈ source.writes, ¬write.keys <+: keys ∧ ¬keys <+: write.keys) →
        source.Spares keys) ∧
    (∀ path, explicit = some path → files.exists? path = false →
      load host files environment workspace explicit = .error (.noSuchFile path)) ∧
    ∀ path, files.exists? path = false → existingLayer host files path = .ok [] := by
  refine ⟨?_, Layer.existsUnique_decided, ?_, ?_, ?_, ?_⟩
  · intro settings loaded
    rcases load_eq_ok_iff.mp loaded with ⟨sources, isLayers, isRead, _⟩
    refine ⟨sources, isLayers, sources_of_layers isLayers, ?_⟩
    intro leaf given gives
    rw [← (gives_iff leaf.keys_ne_nil).mp gives]
    exact shows_of_ofLayer isRead leaf
  · intro keys sources present
    refine ⟨_, (gives_iff present).mpr rfl, ?_⟩
    intro given gives
    exact ((gives_iff present).mp gives).symm
  · intro source keys apart
    exact Layer.effect?_eq_none_iff.mp (Layer.effect?_eq_none_of_apart apart)
  · rintro path rfl isMissing
    exact load_of_missing isMissing
  · intro path isMissing
    simp [existingLayer, isMissing]

/-- The conclusion for three layers that each set another address, on a host that knows the home
directory and turns the variables round. -/
theorem load_layered_addresses :
    let host : SettingsHost :=
      { accountHome? := some "/home", arrange := List.reverse, arrange_perm := List.reverse_perm }
    let files := Files.ofList [
      ("/home/.config/trellis/config.toml", .ok (.file "urls.base_url = \"a\"\nurls.php_url = \"x\"")),
      ("/ws/config/config.toml", .ok (.file "[urls]\nstatic_url = \"b\""))]
    let environment : Environment :=
      [("TRELLIS__URLS__PHP_URL", "c"), ("TRELLIS__LOGGING__COLOR", "off")]
    let settings : Settings :=
      { staticUrl := "b", baseUrl := "a", phpUrl := "c", logging := { color := false } }
    load host files environment "/ws" none = .ok settings ∧
      ∃ sources, Sources host files environment "/ws" none sources ∧
        Layer.Gives sources ["urls", "base_url"] (some (.scalar (.text "a"))) ∧
        Layer.Gives sources ["urls", "php_url"] (some (.scalar (.text "c"))) ∧
        settings.Shows .baseUrl (some (.scalar (.text "a"))) ∧
        settings.Shows .phpUrl (some (.scalar (.text "c"))) := by
  intro host files environment settings
  have loaded : load host files environment "/ws" none = .ok settings := by decide +kernel
  rcases (load_layered host files environment "/ws" none).1 settings loaded with
    ⟨sources, isLayers, isSources, shows⟩
  have evaluated (keys : List String) :
      (Layer.setting? keys (stack sources)).bind PlainSetting.scalar? =
        (layers host files environment "/ws" none).toOption.bind fun sources =>
          (Layer.setting? keys (stack sources)).bind PlainSetting.scalar? := by
    rw [isLayers]
    rfl
  have isBase : Layer.Gives sources ["urls", "base_url"] (some (.scalar (.text "a"))) := by
    rw [gives_iff (by simp), ← PlainSetting.bind_scalar?_eq_some_iff, evaluated]
    decide +kernel
  have isPhp : Layer.Gives sources ["urls", "php_url"] (some (.scalar (.text "c"))) := by
    rw [gives_iff (by simp), ← PlainSetting.bind_scalar?_eq_some_iff, evaluated]
    decide +kernel
  exact ⟨loaded, sources, isSources, isBase, isPhp, shows .baseUrl _ isBase, shows .phpUrl _ isPhp⟩

/-- The highest layer that gives a leaf does not always decide: a layer above it may put a scalar in
the place of the table around the leaf, and a third one a table in its place again. -/
theorem not_forall_shows_highest_given :
    ¬∀ (host : SettingsHost) (files : Files) (environment : Environment) (workspace : String)
      (explicit : Option String) (settings : Settings) (sources : List Layer),
      load host files environment workspace explicit = .ok settings →
      Sources host files environment workspace explicit sources →
      ∀ (leaf : Leaf) (plain : PlainSetting),
        sources.reverse.findSome? (Layer.given? leaf.keys) = some plain →
          settings.Shows leaf (some plain) := by
  intro highest
  let files := Files.ofList [
    ("/home/.config/trellis/config.toml", .ok (.file "[urls]\nbase_url = \"https://a\"")),
    ("/ws/config/config.toml", .ok (.file "urls = 5")),
    ("/ws/config/development.toml", .ok (.file "[urls]\nstatic_url = \"https://b\""))]
  let environment : Environment := [("HOME", "/home")]
  let settings : Settings := { staticUrl := "https://b" }
  have loaded : load {} files environment "/ws" none = .ok settings := by decide +kernel
  rcases load_eq_ok_iff.mp loaded with ⟨sources, isLayers, _⟩
  have isHighest : sources.reverse.findSome? (Layer.given? Leaf.baseUrl.keys) =
      some (.scalar (.text "https://a")) := by
    have evaluated : (layers {} files environment "/ws" none).toOption.bind (fun sources =>
        (sources.reverse.findSome? (Layer.given? Leaf.baseUrl.keys)).bind
          PlainSetting.scalar?) = some (.text "https://a") := by decide +kernel
    rw [isLayers] at evaluated
    exact PlainSetting.bind_scalar?_eq_some_iff.mp evaluated
  have shown := highest {} files environment "/ws" none settings sources loaded
    (sources_of_layers isLayers) .baseUrl _ isHighest
  cases shown with
  | given converts isShown =>
      rw [← converts] at isShown
      exact absurd isShown (by decide)

end Settings

end PageContext
