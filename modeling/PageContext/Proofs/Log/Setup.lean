import PageContext.Log.Plan
import PageContext.Proofs.Log.Directives
import PageContext.Proofs.Settings.Validity

/-!
# Logging that can be set up

Valid settings have a level, a format and an output that logging can be set up with.  Their check
says nothing about the levels of single modules, which become directives of the filter.  So logging
is set up from valid settings exactly if all of these can be read, or if nothing is logged at all.
-/

namespace PageContext

open LogDirective (IsReadable IsModuleName IsAssignable)

namespace LogPlan

/-- The variables that have a say in logging. -/
def variableNames : List String :=
  ["TRELLIS_LOG", "TRELLIS_LOG_MODULES", "TRELLIS_LOG_FORMAT", "TRELLIS_LOG_OUTPUT"]

def HasNoVariables (environment : Environment) : Prop :=
  ∀ name ∈ variableNames, Entries.get? name environment = none

instance : DecidablePred HasNoVariables :=
  fun _ => inferInstanceAs (Decidable (∀ name ∈ variableNames, _))

/-- The filter that is set up: the one in the environment if it can be read, else that of the
settings. -/
def filterOf (environment : Environment) (settings : LogSettings) :
    Except LogSetupError LogFilter :=
  match environmentFilter? environment with
  | some filter => .ok filter
  | none => settingsFilter environment settings

/-- The first of some texts that cannot be read as a directive, and the reason. -/
inductive FirstUnreadable : List String → String → DirectiveError → Prop where
  | head {text : String} {rest : List String} {reason : DirectiveError}
      (unreadable : LogDirective.parse text = .error reason) :
      FirstUnreadable (text :: rest) text reason
  | tail {first text : String} {rest : List String} {reason : DirectiveError}
      (readable : IsReadable first) (later : FirstUnreadable rest text reason) :
      FirstUnreadable (first :: rest) text reason

/-! ## Directives in succession -/

theorem exists_withDirectives {texts : List String} (readable : ∀ text ∈ texts, IsReadable text)
    (filter : LogFilter) : ∃ result, withDirectives filter texts = .ok result := by
  induction texts generalizing filter with
  | nil => exact ⟨filter, rfl⟩
  | cons text rest hypothesis =>
      rw [List.forall_mem_cons] at readable
      rcases readable with ⟨⟨directive, isRead⟩, restReadable⟩
      rw [withDirectives, isRead]
      exact hypothesis restReadable (filter ++ [directive])

theorem FirstUnreadable.withDirectives_eq {texts : List String} {text : String}
    {reason : DirectiveError} (first : FirstUnreadable texts text reason) (filter : LogFilter) :
    withDirectives filter texts = .error (.invalidDirective text reason) := by
  induction first generalizing filter with
  | head unreadable => rw [withDirectives, unreadable]
  | tail readable _ hypothesis =>
      rcases readable with ⟨directive, isRead⟩
      rw [withDirectives, isRead]
      exact hypothesis (filter ++ [directive])

/-- Either all texts can be read as directives or there is a first one that cannot. -/
theorem readable_or_firstUnreadable (texts : List String) :
    (∀ text ∈ texts, IsReadable text) ∨ ∃ text reason, FirstUnreadable texts text reason := by
  induction texts with
  | nil => exact .inl (by simp)
  | cons first rest hypothesis =>
      cases isRead : LogDirective.parse first with
      | error reason => exact .inr ⟨first, reason, .head isRead⟩
      | ok directive =>
          rcases hypothesis with readable | ⟨text, reason, later⟩
          · exact .inl (List.forall_mem_cons.mpr ⟨⟨directive, isRead⟩, readable⟩)
          · exact .inr ⟨text, reason, .tail ⟨directive, isRead⟩ later⟩

/-- Directives are added exactly if all of them can be read. -/
theorem withDirectives_isOk_iff {filter : LogFilter} {texts : List String} :
    (∃ result, withDirectives filter texts = .ok result) ↔ ∀ text ∈ texts, IsReadable text := by
  constructor
  · rintro ⟨result, isResult⟩
    rcases readable_or_firstUnreadable texts with readable | ⟨text, reason, first⟩
    · exact readable
    · rw [first.withDirectives_eq] at isResult
      contradiction
  · intro readable
    exact exists_withDirectives readable filter

/-- The first directive that cannot be read is the reason why directives are not added. -/
theorem withDirectives_eq_error_iff {filter : LogFilter} {texts : List String}
    {cause : LogSetupError} :
    withDirectives filter texts = .error cause ↔
      ∃ text reason, FirstUnreadable texts text reason ∧ cause = .invalidDirective text reason := by
  constructor
  · intro isError
    rcases readable_or_firstUnreadable texts with readable | ⟨text, reason, first⟩
    · rcases exists_withDirectives readable filter with ⟨result, isResult⟩
      rw [isResult] at isError
      contradiction
    · rw [first.withDirectives_eq] at isError
      cases isError
      exact ⟨text, reason, first, rfl⟩
  · rintro ⟨text, reason, first, rfl⟩
    exact first.withDirectives_eq filter

/-! ## Parts of a plan -/

section

variable {environment : Environment} {settings : LogSettings}

/-- The directives for the modules of settings. -/
def assignments (settings : LogSettings) : List String :=
  settings.modules.map fun entry => entry.1 ++ "=" ++ entry.2

theorem exists_formatOf (isFormat : settings.format ∈ LogSettings.formats)
    (environment : Environment) : ∃ format, formatOf environment settings = .ok format := by
  rw [formatOf]
  split
  · exact ⟨_, rfl⟩
  · rcases List.mem_pair.mp isFormat with isFormat | isFormat <;> simp [format?, isFormat]

theorem exists_outputOf (isOutput : settings.output ∈ LogSettings.outputs)
    (noVariables : HasNoVariables environment) :
    ∃ output, outputOf environment settings = .ok output := by
  have noOutput : Entries.get? "TRELLIS_LOG_OUTPUT" environment = none :=
    noVariables _ (by decide)
  rw [outputOf, noOutput, Option.getD_none]
  simp only [LogSettings.outputs, List.mem_cons, List.not_mem_nil, or_false] at isOutput
  rcases isOutput with isOutput | isOutput | isOutput <;> simp [output?, isOutput]

theorem filterOf_eq (noVariables : HasNoVariables environment) :
    filterOf environment settings =
      if settings.level = "off" then .ok [.static none 0]
      else withDirectives (LogFilter.parseReadable settings.level).1 (assignments settings) := by
  have noFilter : environmentFilter? environment = none := by
    simp [environmentFilter?, noVariables "TRELLIS_LOG" (by decide)]
  rw [filterOf, noFilter, settingsFilter, noVariables "TRELLIS_LOG_MODULES" (by decide)]
  simp [assignments]

theorem ofSettings_eq (environment : Environment) (settings : LogSettings) :
    ofSettings environment settings = do
      let filter ← filterOf environment settings
      return {
        filter := filter
        format := ← formatOf environment settings
        output := ← outputOf environment settings
        file := settings.file
        color := settings.color } := by
  rw [ofSettings, filterOf]
  cases environmentFilter? environment <;> rfl

/-- Where format and output are known, a plan lacks nothing but a filter. -/
theorem ofSettings_eq_error_iff {format : LogFormat} {output : LogOutput}
    (isFormat : formatOf environment settings = .ok format)
    (isOutput : outputOf environment settings = .ok output) {cause : LogSetupError} :
    ofSettings environment settings = .error cause ↔
      filterOf environment settings = .error cause := by
  rw [ofSettings_eq, isFormat, isOutput, Except.bind_eq_error_iff]
  simp [bind, Except.bind]

/-- A filter is set up from settings if the directives for all modules can be read, or if nothing is
logged. -/
theorem filterOf_isOk_iff (noVariables : HasNoVariables environment) :
    (∃ filter, filterOf environment settings = .ok filter) ↔
      settings.level = "off" ∨ ∀ text ∈ assignments settings, IsReadable text := by
  rw [filterOf_eq noVariables]
  by_cases isOff : settings.level = "off"
  · simp [isOff]
  · rw [if_neg isOff, or_iff_right isOff, withDirectives_isOk_iff]

theorem filterOf_eq_error_iff (noVariables : HasNoVariables environment) {cause : LogSetupError} :
    filterOf environment settings = .error cause ↔
      settings.level ≠ "off" ∧ ∃ text reason,
        FirstUnreadable (assignments settings) text reason ∧
          cause = .invalidDirective text reason := by
  rw [filterOf_eq noVariables]
  by_cases isOff : settings.level = "off"
  · simp [isOff]
  · rw [if_neg isOff, and_iff_right isOff, withDirectives_eq_error_iff]

/-- From valid settings, and without variables, a format and an output are always set up.  A filter
is set up exactly if nothing is logged or the directives for all modules can be read; otherwise the
first one that cannot is the reason why there is no logging.  With an ordinary name, the directive
for a module can be read exactly if its level is known or missing. -/
theorem valid_set_up_iff (noVariables : HasNoVariables environment)
    (valid : settings.problem? = none) :
    (∃ format, formatOf environment settings = .ok format) ∧
    (∃ output, outputOf environment settings = .ok output) ∧
    ((∃ filter, filterOf environment settings = .ok filter) ↔
      settings.level = "off" ∨ ∀ entry ∈ settings.modules, IsReadable (entry.1 ++ "=" ++ entry.2)) ∧
    (∀ cause, ofSettings environment settings = .error cause ↔
      settings.level ≠ "off" ∧ ∃ text reason,
        FirstUnreadable (assignments settings) text reason ∧
          cause = .invalidDirective text reason) ∧
    ∀ name level, IsModuleName name → (IsReadable (name ++ "=" ++ level) ↔ IsAssignable level) := by
  rw [LogSettings.problem?_eq_none_iff, LogSettings.IsWrong] at valid
  simp only [not_or, not_not] at valid
  rcases valid with ⟨_, isFormat, isOutput, _⟩
  rcases exists_formatOf isFormat environment with ⟨format, hasFormat⟩
  rcases exists_outputOf isOutput noVariables with ⟨output, hasOutput⟩
  refine ⟨⟨format, hasFormat⟩, ⟨output, hasOutput⟩, ?_, ?_, ?_⟩
  · rw [filterOf_isOk_iff noVariables, assignments, List.forall_mem_map]
  · intro cause
    rw [ofSettings_eq_error_iff hasFormat hasOutput, filterOf_eq_error_iff noVariables]
  · intro name level isName
    exact LogDirective.isReadable_assignment_iff isName level

/-- Levels in any case, by number, missing and with a comma are known; of two that are not the first
one is the reason why there is no logging. -/
theorem valid_set_up_iff_unknown_level :
    let environment : Environment := [("HOME", "/home")]
    let known : LogSettings :=
      { level := "warn", modules := [("a", ""), ("trellis::context", "Debug,"), ("x-y", "3")] }
    let unknown : LogSettings :=
      { modules := [("trellis::context", "debug"), ("trellis::store", "loud"), ("x", "bad")] }
    HasNoVariables environment ∧ known.problem? = none ∧ unknown.problem? = none ∧
      (∃ filter, filterOf environment known = .ok filter) ∧
      ofSettings environment unknown =
        .error (.invalidDirective "trellis::store=loud" .unknownLevel) := by
  intro environment known unknown
  have noVariables : HasNoVariables environment := by decide
  have knownValid : known.problem? = none := by decide
  have unknownValid : unknown.problem? = none := by decide
  rcases valid_set_up_iff noVariables knownValid with ⟨_, _, isSetUp, _, isReadable⟩
  rcases valid_set_up_iff noVariables unknownValid with ⟨_, _, _, isRefused, _⟩
  have missing : IsAssignable "" := ⟨"", .inl rfl, .inl rfl⟩
  have anyCase : IsAssignable "Debug," :=
    ⟨"Debug", .inr (.inl (by decide)), .inr ⟨"", by simp, rfl⟩⟩
  have number : IsAssignable "3" := ⟨"3", .inr (.inr ⟨3, by decide, by decide⟩), .inl rfl⟩
  have readable : ∀ entry ∈ known.modules, IsReadable (entry.1 ++ "=" ++ entry.2) := by
    simp only [known, List.forall_mem_cons, List.not_mem_nil, false_implies, implies_true, and_true]
    exact ⟨(isReadable _ _ (by decide)).mpr missing, (isReadable _ _ (by decide)).mpr anyCase,
      (isReadable _ _ (by decide)).mpr number⟩
  have first : FirstUnreadable (assignments unknown) "trellis::store=loud" .unknownLevel :=
    .tail ⟨_, rfl⟩ (.head rfl)
  exact ⟨noVariables, knownValid, unknownValid, isSetUp.mpr (.inr readable),
    (isRefused _).mpr ⟨by decide, _, _, first, rfl⟩⟩

end

/-- Valid settings need not lead to logging: the level of a module can be unknown. -/
theorem not_forall_valid_set_up :
    ¬∀ (environment : Environment) (settings : LogSettings),
      HasNoVariables environment → settings.problem? = none →
        (∃ filter, filterOf environment settings = .ok filter) ∧
        (∃ format, formatOf environment settings = .ok format) ∧
        ∃ output, outputOf environment settings = .ok output := by
  intro setUp
  rcases setUp [] { modules := [("store", "loud")] } (by decide) (by decide) with
    ⟨⟨filter, isSetUp⟩, _⟩
  have isRefused : filterOf [] { modules := [("store", "loud")] } =
      .error (.invalidDirective "store=loud" .unknownLevel) := by rfl
  rw [isRefused] at isSetUp
  contradiction

end LogPlan

end PageContext
