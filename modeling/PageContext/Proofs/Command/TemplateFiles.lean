import PageContext.Command.Workspace
import PageContext.Proofs.Json.Reading
import PageContext.Proofs.Template.Refusals

/-!
# Templates that are read from files

A text that is read as JSON is nested less deeply than a template may be.  A template that comes
from a file is therefore never refused, and what goes wrong when it is resolved has gone wrong
before: the file is missing, cannot be read or is no JSON text, or a command has no store.

The result of a command does not depend on the events before it, so that commands are described by
the results of their parts.
-/

namespace PageContext

/-! ## Depth -/

/-- A container that keys lead to lies one level deeper than there are keys. -/
theorem Template.Reaches.length_lt {value : Json} {keys : List String}
    {entries : List (String × Json)} (reaches : Template.Reaches value keys (.object entries))
    {levels : Nat} (nests : value.NestsWithin levels) : keys.length < levels := by
  generalize isNode : Json.object entries = node at reaches
  induction reaches generalizing levels with
  | here value =>
      subst isNode
      cases nests with
      | object inside => exact Nat.succ_pos _
  | inside container member _ hypothesis =>
      cases nests with
      | object inside => exact Nat.succ_lt_succ (hypothesis (inside _ member) isNode)

/-- What has been read as JSON is nowhere nested too deeply for a template. -/
theorem Template.exists_classify_eq_ok_of_read {text : String} {value : Json}
    (isRead : Json.read text = .ok value) :
    ∃ template, Template.classify value = .ok template := by
  rw [← Except.cause?_eq_none_iff, Template.classify, Template.cause?_classifyAt,
    Option.map_eq_none_iff, Option.eq_none_iff_forall_ne_some]
  intro found isFound
  rcases Template.exists_deepContainer_iff.mp ⟨found, isFound⟩ with
    ⟨keys, entries, isDeep, _, reaches⟩
  have tooShort := reaches.length_lt (Json.nestsWithin_of_read isRead)
  have isLimit : Json.levelLimit = 127 := rfl
  have isDepth : Template.depthLimit = 128 := rfl
  omega

theorem exists_classify_eq_ok_of_readTemplate {files : Files} {path : String} {value : Json}
    (isRead : readTemplate files path = .ok value) :
    ∃ template, Template.classify value = .ok template := by
  rw [readTemplate] at isRead
  split at isRead
  · contradiction
  · contradiction
  · next text _ =>
    cases isJson : Json.read text with
    | error cause => simp [isJson] at isRead
    | ok other =>
        simp only [isJson, Except.ok.injEq] at isRead
        subst isRead
        exact Template.exists_classify_eq_ok_of_read isJson

theorem Resolver.resolve_ne_failure (resolver : Resolver) {value : Json}
    (accepted : ∃ template, Template.classify value = .ok template) (cause : TemplateError) :
    resolver.resolve value ≠ .error (.failure cause) := by
  rcases accepted with ⟨template, classified⟩
  simp [resolve_eq_failure_iff, classified]

/-! ## Failures to read -/

/-- There is no template at a path: the file is missing, cannot be read or is no JSON text. -/
inductive LacksTemplate (files : Files) (path : String) : LoadError → Prop where
  | missing (fails : files.read path = .error .notFound) :
      LacksTemplate files path (.notFound path)
  | unreadable {cause : FileError} (isThere : cause ≠ .notFound)
      (fails : files.read path = .error cause) : LacksTemplate files path (.unreadable cause)
  | invalidJson {text : String} {cause : JsonError} (isText : files.read path = .ok text)
      (fails : Json.read text = .error cause) : LacksTemplate files path (.invalidJson path cause)

theorem readTemplate_eq_error_iff {files : Files} {path : String} {cause : LoadError} :
    readTemplate files path = .error cause ↔ LacksTemplate files path cause := by
  constructor
  · intro fails
    rw [readTemplate] at fails
    split at fails
    · next isMissing =>
      obtain rfl : LoadError.notFound path = cause := by simpa using fails
      exact .missing isMissing
    · next fileCause isThere isUnreadable =>
      obtain rfl : LoadError.unreadable fileCause = cause := by simpa using fails
      exact .unreadable isThere isUnreadable
    · next text isText =>
      cases isJson : Json.read text with
      | ok value => simp [isJson] at fails
      | error jsonCause =>
          obtain rfl : LoadError.invalidJson path jsonCause = cause := by simpa [isJson] using fails
          exact .invalidJson isText isJson
  · intro lacks
    cases lacks with
    | missing fails => simp [readTemplate, fails]
    | unreadable isThere fails => simp [readTemplate, fails]
    | invalidJson isText fails => simp [readTemplate, isText, fails]

/-- A page lacks a template: its name is refused, or there is no template at one of the two
paths. -/
inductive Page.LacksTemplates (files : Files) (directory name : String) : LoadError → Prop where
  | refused (refused : Page.isRefused name) :
      LacksTemplates files directory name (.notFound (Page.path directory name))
  | global {cause : LoadError} (accepted : ¬ Page.isRefused name)
      (lacks : LacksTemplate files (Page.globalPath directory) cause) :
      LacksTemplates files directory name cause
  | page {cause : LoadError} {global : Json} (accepted : ¬ Page.isRefused name)
      (isRead : readTemplate files (Page.globalPath directory) = .ok global)
      (lacks : LacksTemplate files (Page.path directory name) cause) :
      LacksTemplates files directory name cause

theorem Page.readTemplates_eq_error_iff {files : Files} {directory name : String}
    {cause : LoadError} :
    Page.readTemplates files directory name = .error cause ↔
      Page.LacksTemplates files directory name cause := by
  rw [readTemplates, path?]
  by_cases refused : isRefused name
  · rw [if_pos refused]
    constructor
    · intro fails
      obtain rfl : LoadError.notFound (path directory name) = cause := by
        simpa [bind, Except.bind] using fails
      exact .refused refused
    · intro lacks
      cases lacks with
      | refused _ => rfl
      | global accepted _ => contradiction
      | page accepted _ _ => contradiction
  · rw [if_neg refused]
    simp only [Except.bind_eq_error_iff, readTemplate_eq_error_iff, reduceCtorEq, false_or,
      Except.ok.injEq, exists_eq_left']
    constructor
    · rintro (lacks | ⟨global, isRead, lacks | ⟨_, _, impossible⟩⟩)
      · exact .global refused lacks
      · exact .page refused isRead lacks
      · cases impossible
    · intro lacks
      cases lacks with
      | refused _ => contradiction
      | global _ lacks => exact .inl lacks
      | page _ isRead lacks => exact .inr ⟨_, isRead, .inl lacks⟩

/-- Templates that have been read do not fail; all that can happen to them is a crash. -/
theorem Resolver.preparePage_ne_failure_of_readTemplates (resolver : Resolver) {files : Files}
    {directory name : String} {global page : Json} {options : PageOptions}
    (areRead : Page.readTemplates files directory name = .ok (global, page))
    (cause : TemplateError) :
    resolver.preparePage global page options ≠ .error (.failure cause) := by
  simp only [Page.readTemplates, Except.bind_eq_ok_iff, Except.pure_eq_ok_iff,
    Prod.mk.injEq] at areRead
  rcases areRead with ⟨path, _, global, globalIsRead, page, pageIsRead, rfl, rfl⟩
  intro fails
  simp only [preparePage, Except.bind_eq_error_iff, Except.pure_ne_error, and_false, exists_false,
    or_false] at fails
  rcases fails with globalFails | ⟨_, _, pageFails⟩
  · exact Resolver.resolve_ne_failure _ (exists_classify_eq_ok_of_readTemplate globalIsRead) _
      globalFails
  · exact Resolver.resolve_ne_failure _ (exists_classify_eq_ok_of_readTemplate pageIsRead) _ pageFails

/-- Preparing a page fails exactly when a template cannot be read. -/
theorem Resolver.loadPage_eq_failure_iff (resolver : Resolver) {files : Files}
    {directory name : String} {options : PageOptions} {cause : PageError} :
    resolver.loadPage files directory name options = .error (.failure cause) ↔
      ∃ inner, Page.LacksTemplates files directory name inner ∧ cause = .load inner := by
  simp only [loadPage, Except.bind_eq_error_iff, Except.mapError_eq_error_iff,
    Page.readTemplates_eq_error_iff, Except.mapError_eq_ok_iff, Stop.failure.injEq]
  constructor
  · rintro (⟨inner, lacks, rfl⟩ | ⟨⟨global, page⟩, areRead, stop, fails, isStop⟩)
    · exact ⟨inner, lacks, rfl⟩
    · rcases Stop.map_eq_failure_iff.mp isStop with ⟨inner, rfl, _⟩
      exact absurd fails (resolver.preparePage_ne_failure_of_readTemplates areRead inner)
  · rintro ⟨inner, lacks, rfl⟩
    exact .inl ⟨inner, lacks, rfl⟩

/-! ## The results of commands -/

namespace Execution

variable {α β : Type}

/-- A computation ends with a result whatever happened before it. -/
def Ends (execution : Execution α) (result : Except (Stop CommandError) α) : Prop :=
  ∀ events, (execution.run events).1 = result

theorem ends_pure (value : α) : (pure value : Execution α).Ends (.ok value) := fun _ => rfl

theorem ends_log (events : List LogEvent) : (log events).Ends (.ok ()) := fun _ => rfl

theorem ends_check {ε : Type} (asStop : ε → Stop CommandError) (result : Except ε α) :
    (check asStop result).Ends (result.mapError asStop) := by
  intro events
  cases result <;> rfl

theorem ends_orFail {ε : Type} (asCommandError : ε → CommandError) (result : Except ε α) :
    (orFail asCommandError result).Ends
      (result.mapError fun cause => .failure (asCommandError cause)) :=
  ends_check _ result

theorem run_bind (execution : Execution α) (next : α → Execution β) (events : List LogEvent) :
    (execution >>= next).run events =
      match execution.run events with
      | (.ok value, more) => (next value).run more
      | (.error cause, more) => (.error cause, more) := by
  simp only [ExceptT.run, bind, ExceptT.bind, ExceptT.mk, StateT.bind, ExceptT.bindCont]
  rcases execution events with ⟨outcome, more⟩
  cases outcome <;> rfl

theorem Ends.bind {execution : Execution α} {next : α → Execution β}
    {result : Except (Stop CommandError) α} {results : α → Except (Stop CommandError) β}
    (ends : execution.Ends result) (nextEnds : ∀ value, (next value).Ends (results value)) :
    (execution >>= next).Ends (result >>= results) := by
  intro events
  have isResult := ends events
  rw [run_bind]
  rcases isRun : execution.run events with ⟨outcome, more⟩
  rw [isRun] at isResult
  subst isResult
  cases outcome with
  | ok value => exact nextEnds value more
  | error cause => rfl

end Execution

namespace Workspace

/-- The store that a command works with. -/
def store (workspace : Workspace) (override : Option String) : Except CommandError MemoryStore :=
  match workspace.fixturePath? override with
  | none => .ok {}
  | some path => (MemoryStore.ofFile workspace.files path).mapError .store

/-- A command has no store: the file with its records cannot be loaded. -/
inductive LacksStore (workspace : Workspace) (override : Option String) : StoreError → Prop where
  | fixture {path : String} {cause : StoreError}
      (isFixture : workspace.fixturePath? override = some path)
      (fails : MemoryStore.ofFile workspace.files path = .error cause) :
      LacksStore workspace override cause

theorem store_eq_error_iff {workspace : Workspace} {override : Option String}
    {cause : CommandError} :
    workspace.store override = .error cause ↔
      ∃ inner, workspace.LacksStore override inner ∧ cause = .store inner := by
  constructor
  · intro fails
    rw [store] at fails
    split at fails
    · contradiction
    · next path isFixture =>
      rcases Except.mapError_eq_error_iff.mp fails with ⟨inner, isInner, rfl⟩
      exact ⟨inner, .fixture isFixture isInner, rfl⟩
  · rintro ⟨inner, ⟨isFixture, fails⟩, rfl⟩
    simp [store, isFixture, fails]

theorem ends_openStore (workspace : Workspace) (override : Option String) :
    (workspace.openStore override).Ends ((workspace.store override).mapError .failure) := by
  rw [openStore, store]
  cases workspace.fixturePath? override with
  | none => exact (Execution.ends_log _).bind fun _ => Execution.ends_pure _
  | some path =>
      dsimp only
      have ends := (Execution.ends_orFail CommandError.store
        (MemoryStore.ofFile workspace.files path)).bind fun store =>
          (Execution.ends_log [.fixtureLoaded store.records.length,
            .storeReady path store.records.length]).bind fun _ => Execution.ends_pure store
      cases isStore : MemoryStore.ofFile workspace.files path <;> rw [isStore] at ends <;> exact ends

theorem ends_resolve (workspace : Workspace) (path : String) (override : Option String)
    (params : Params) :
    (workspace.resolve path override params).Ends (do
      let template ← (readTemplate workspace.files path).mapError fun cause => .failure (.load cause)
      let store ← (workspace.store override).mapError .failure
      let resolver := workspace.resolver store (callerParams params)
      let resolution ← (resolver.resolve template).mapError (Stop.map .template)
      return resolution.value) :=
  (Execution.ends_orFail _ _).bind fun _ => (ends_openStore _ _).bind fun _ =>
    (Execution.ends_log _).bind fun _ => (Execution.ends_check _ _).bind fun _ =>
      Execution.ends_pure _

theorem ends_preparePage (workspace : Workspace) (name : String) (override : Option String)
    (params : Params) :
    (workspace.preparePage name override params).Ends (do
      let store ← (workspace.store override).mapError .failure
      let resolver := workspace.resolver store (callerParams params)
      let templates ← (Page.readTemplates workspace.files workspace.contextPath name).mapError
        fun cause => .failure (.load cause)
      let prepared ← (resolver.preparePage templates.1 templates.2
        (workspace.settings.pageOptions (callerParams params))).mapError (Stop.map .template)
      return prepared.value) :=
  (ends_openStore _ _).bind fun _ => (Execution.ends_log _).bind fun _ =>
    (Execution.ends_orFail _ _).bind fun _ => (Execution.ends_log _).bind fun _ =>
      (Execution.ends_check _ _).bind fun _ => (Execution.ends_log _).bind fun _ =>
        Execution.ends_pure _

/-- Why a command fails.  No command fails because a template is refused. -/
inductive Fails (workspace : Workspace) : Command → CommandError → Prop where
  | resolveTemplate {path : String} {override : Option String} {params : Params}
      {cause : LoadError} (lacks : LacksTemplate workspace.files path cause) :
      Fails workspace (.resolve path override params) (.load cause)
  | resolveStore {path : String} {override : Option String} {params : Params} {template : Json}
      {cause : StoreError} (isRead : readTemplate workspace.files path = .ok template)
      (lacks : workspace.LacksStore override cause) :
      Fails workspace (.resolve path override params) (.store cause)
  | pageStore {name : String} {override : Option String} {params : Params} {cause : StoreError}
      (lacks : workspace.LacksStore override cause) :
      Fails workspace (.page name override params) (.store cause)
  | pageTemplates {name : String} {override : Option String} {params : Params}
      {store : MemoryStore} {cause : LoadError} (isOpen : workspace.store override = .ok store)
      (lacks : Page.LacksTemplates workspace.files workspace.contextPath name cause) :
      Fails workspace (.page name override params) (.load cause)
  | directive {directive : String} {cause : QueryError}
      (fails : Query.parse directive = .error cause) :
      Fails workspace (.parse directive) (.query cause)
  | unprintable (isUnprintable : workspace.settings.toToml? = none) :
      Fails workspace .config (.settings .unprintable)

section

variable {workspace : Workspace} {events : List LogEvent} {cause : CommandError}

theorem execute_resolve_eq_failure_iff {path : String} {override : Option String}
    {params : Params} :
    ((workspace.execute (.resolve path override params)).run events).1 = .error (.failure cause) ↔
      workspace.Fails (.resolve path override params) cause := by
  have ends := (ends_resolve workspace path override params).bind
    fun value => Execution.ends_pure value.pretty
  rw [execute, ends events]
  simp only [Except.bind_eq_error_iff, Except.mapError_eq_error_iff, Except.mapError_eq_ok_iff,
    readTemplate_eq_error_iff, store_eq_error_iff, Except.pure_ne_error, Stop.failure.injEq,
    reduceCtorEq, and_false, exists_false, or_false]
  constructor
  · rintro (⟨inner, lacks, rfl⟩ |
      ⟨template, isRead, ⟨_, ⟨inner, lacks, rfl⟩, rfl⟩ | ⟨store, _, stop, refused, isStop⟩⟩)
    · exact .resolveTemplate lacks
    · exact .resolveStore isRead lacks
    · rcases Stop.map_eq_failure_iff.mp isStop with ⟨inner, rfl, _⟩
      exact absurd refused (Resolver.resolve_ne_failure _
        (exists_classify_eq_ok_of_readTemplate isRead) inner)
  · intro fails
    cases fails with
    | resolveTemplate lacks => exact .inl ⟨_, lacks, rfl⟩
    | resolveStore isRead lacks => exact .inr ⟨_, isRead, .inl ⟨_, ⟨_, lacks, rfl⟩, rfl⟩⟩

theorem execute_page_eq_failure_iff {name : String} {override : Option String} {params : Params} :
    ((workspace.execute (.page name override params)).run events).1 = .error (.failure cause) ↔
      workspace.Fails (.page name override params) cause := by
  have ends := (ends_preparePage workspace name override params).bind
    fun value => Execution.ends_pure value.pretty
  rw [execute, ends events]
  simp only [Except.bind_eq_error_iff, Except.mapError_eq_error_iff, Except.mapError_eq_ok_iff,
    Page.readTemplates_eq_error_iff, store_eq_error_iff, Except.pure_ne_error, Stop.failure.injEq,
    reduceCtorEq, and_false, exists_false, or_false]
  constructor
  · rintro (⟨_, ⟨inner, lacks, rfl⟩, rfl⟩ |
      ⟨store, isOpen, ⟨inner, lacks, rfl⟩ | ⟨templates, areRead, stop, refused, isStop⟩⟩)
    · exact .pageStore lacks
    · exact .pageTemplates isOpen lacks
    · rcases Stop.map_eq_failure_iff.mp isStop with ⟨inner, rfl, _⟩
      exact absurd refused (Resolver.preparePage_ne_failure_of_readTemplates _ areRead inner)
  · intro fails
    cases fails with
    | pageStore lacks => exact .inl ⟨_, ⟨_, lacks, rfl⟩, rfl⟩
    | pageTemplates isOpen lacks => exact .inr ⟨_, isOpen, .inl ⟨_, lacks, rfl⟩⟩

theorem execute_parse_eq_failure_iff {directive : String} :
    ((workspace.execute (.parse directive)).run events).1 = .error (.failure cause) ↔
      workspace.Fails (.parse directive) cause := by
  have ends := ((Execution.ends_orFail CommandError.query (Query.parse directive)).bind
    fun query => Execution.ends_pure (describe query)).bind
      fun value => Execution.ends_pure value.pretty
  rw [execute, describeDirective, ends events]
  simp only [Except.bind_eq_error_iff, Except.mapError_eq_error_iff, Stop.failure.injEq,
    reduceCtorEq, and_false, exists_false, or_false]
  constructor
  · rintro ⟨inner, fails, rfl⟩
    exact .directive fails
  · intro fails
    cases fails with
    | directive isWrong => exact ⟨_, isWrong, rfl⟩

theorem execute_config_eq_failure_iff :
    ((workspace.execute .config).run events).1 = .error (.failure cause) ↔
      workspace.Fails .config cause := by
  rw [execute]
  constructor
  · intro fails
    split at fails
    · cases fails
    · next isUnprintable =>
      obtain rfl : CommandError.settings .unprintable = cause :=
        Stop.failure.inj (Except.error.inj fails)
      exact .unprintable isUnprintable
  · intro fails
    cases fails with
    | unprintable isUnprintable =>
        rw [isUnprintable]
        rfl

/-- The failures of commands are those of their parts, whatever happened before. -/
theorem execute_eq_failure_iff {command : Command} :
    ((workspace.execute command).run events).1 = .error (.failure cause) ↔
      workspace.Fails command cause := by
  cases command with
  | resolve path override params => exact execute_resolve_eq_failure_iff
  | page name override params => exact execute_page_eq_failure_iff
  | parse directive => exact execute_parse_eq_failure_iff
  | config => exact execute_config_eq_failure_iff

end

end Workspace

/-- Templates from files are never refused: they are resolved unless a transform crashes, preparing a
page fails only for a template that cannot be read, and no command fails because of the shape of a
template. -/
theorem file_templates_never_refused :
    (∀ (text : String) (value : Json), Json.read text = .ok value →
      ∃ template, Template.classify value = .ok template) ∧
    (∀ (resolver : Resolver) (files : Files) (path : String) (value : Json),
      readTemplate files path = .ok value →
        ∀ cause, resolver.resolve value ≠ .error (.failure cause)) ∧
    (∀ (resolver : Resolver) (files : Files) (directory name : String) (options : PageOptions)
      (cause : PageError),
      resolver.loadPage files directory name options = .error (.failure cause) ↔
        ∃ inner, Page.LacksTemplates files directory name inner ∧ cause = .load inner) ∧
    ∀ (workspace : Workspace) (command : Command) (events : List LogEvent),
      (∀ refusal,
        ((workspace.execute command).run events).1 ≠ .error (.failure (.template refusal))) ∧
      ∀ cause, ((workspace.execute command).run events).1 = .error (.failure cause) ↔
        workspace.Fails command cause := by
  refine ⟨fun _ _ isRead => Template.exists_classify_eq_ok_of_read isRead,
    fun resolver _ _ _ isRead =>
      resolver.resolve_ne_failure (exists_classify_eq_ok_of_readTemplate isRead),
    fun resolver _ _ _ _ _ => resolver.loadPage_eq_failure_iff,
    fun workspace command events => ⟨fun refusal isRefused => ?_, fun _ =>
      workspace.execute_eq_failure_iff⟩⟩
  cases Workspace.execute_eq_failure_iff.mp isRefused

/-- A file with a list inside an object is read, and every resolver accepts it as a template. -/
theorem file_templates_never_refused_list_in_object :
    let text := "\x7b\"\":[\x7b\x7d]\x7d"
    let value : Json := .object [("", .array [.object []])]
    let files := Files.ofList [("t.json", .ok (.file text))]
    Json.read text = .ok value ∧ readTemplate files "t.json" = .ok value ∧
      (∃ template, Template.classify value = .ok template) ∧
      ∀ (resolver : Resolver) (cause : TemplateError),
        resolver.resolve value ≠ .error (.failure cause) := by
  intro text value files
  have isText : text.toList = ['\x7b', '"', '"', ':', '[', '\x7b', '\x7d', ']', '\x7d'] := by
    simp [text]
  have isRead : Json.read text = .ok value := by
    rw [Json.read, Json.readNested, isText]
    simp only [List.length_cons, List.length_nil, Json.levelLimit]
    simp [Json.readValue, Json.readItems, Json.readEntries, Json.readString, Json.skipSpace, bind,
      Except.bind, pure, Except.pure, Except.map]
    rfl
  have isFile : files.read "t.json" = .ok text := by simp [files, Files.read, Files.ofList]
  have isTemplate : readTemplate files "t.json" = .ok value := by
    simp [readTemplate, isFile, isRead]
  exact ⟨isRead, isTemplate, file_templates_never_refused.1 text value isRead, fun resolver =>
    file_templates_never_refused.2.1 resolver files "t.json" value isTemplate⟩

end PageContext
