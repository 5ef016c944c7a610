import Mathlib.Data.List.Forall2
import PageContext.Command.Program
import PageContext.Proofs.Settings.Layering

/-!
# Valid settings

Settings are checked by seven rules in a fixed order, and every rule that is violated is one
problem.  Only settings that violate no rule are loaded, so that a command never works with an offset
that had to be replaced, nor with a limit of no time at all.
-/

namespace PageContext

/-! ## Rules on logging -/

namespace LogSettings

/-- The first rule on logging that settings violate: on the level, the format, the output and the
name of the file. -/
inductive FirstProblem (settings : LogSettings) : LogProblem → Prop where
  | level (noLevel : settings.level ∉ levels) :
      FirstProblem settings (.invalidLevel settings.level)
  | format (isLevel : settings.level ∈ levels) (noFormat : settings.format ∉ formats) :
      FirstProblem settings (.invalidFormat settings.format)
  | output (isLevel : settings.level ∈ levels) (isFormat : settings.format ∈ formats)
      (noOutput : settings.output ∉ outputs) :
      FirstProblem settings (.invalidOutput settings.output)
  | file (isLevel : settings.level ∈ levels) (isFormat : settings.format ∈ formats)
      (isFile : settings.output = "file") (noFile : settings.file = "") :
      FirstProblem settings .emptyFile

/-- Logging violates a rule. -/
def IsWrong (settings : LogSettings) : Prop :=
  settings.level ∉ levels ∨ settings.format ∉ formats ∨ settings.output ∉ outputs ∨
    (settings.output = "file" ∧ settings.file = "")

instance (settings : LogSettings) : Decidable settings.IsWrong :=
  inferInstanceAs (Decidable (_ ∨ _))

theorem problem?_eq_some_iff {settings : LogSettings} {problem : LogProblem} :
    settings.problem? = some problem ↔ settings.FirstProblem problem := by
  have fileIsOutput : "file" ∈ outputs := by decide
  rw [problem?]
  simp only [List.contains_eq_mem, Bool.not_eq_true', decide_eq_false_iff_not, Bool.and_eq_true,
    decide_eq_true_eq]
  constructor
  · intro isProblem
    split at isProblem
    · next noLevel =>
      cases isProblem
      exact .level noLevel
    · next isLevel =>
      rw [not_not] at isLevel
      split at isProblem
      · next noFormat =>
        cases isProblem
        exact .format isLevel noFormat
      · next isFormat =>
        rw [not_not] at isFormat
        split at isProblem
        · next noOutput =>
          cases isProblem
          exact .output isLevel isFormat noOutput
        · split at isProblem
          · next noFile =>
            cases isProblem
            exact .file isLevel isFormat noFile.1 noFile.2
          · contradiction
  · intro first
    cases first with
    | level noLevel => rw [if_pos noLevel]
    | format isLevel noFormat => rw [if_neg (not_not.mpr isLevel), if_pos noFormat]
    | output isLevel isFormat noOutput =>
        rw [if_neg (not_not.mpr isLevel), if_neg (not_not.mpr isFormat), if_pos noOutput]
    | file isLevel isFormat isFile noFile =>
        have isOutput : settings.output ∈ outputs := isFile ▸ fileIsOutput
        rw [if_neg (not_not.mpr isLevel), if_neg (not_not.mpr isFormat),
          if_neg (not_not.mpr isOutput), if_pos ⟨isFile, noFile⟩]

theorem isWrong_iff {settings : LogSettings} :
    settings.IsWrong ↔ ∃ problem, settings.FirstProblem problem := by
  constructor
  · intro isWrong
    by_cases isLevel : settings.level ∈ levels
    · by_cases isFormat : settings.format ∈ formats
      · by_cases isOutput : settings.output ∈ outputs
        · rcases isWrong with noLevel | noFormat | noOutput | ⟨isFile, noFile⟩
          · contradiction
          · contradiction
          · contradiction
          · exact ⟨_, .file isLevel isFormat isFile noFile⟩
        · exact ⟨_, .output isLevel isFormat isOutput⟩
      · exact ⟨_, .format isLevel isFormat⟩
    · exact ⟨_, .level isLevel⟩
  · rintro ⟨_, first⟩
    cases first with
    | level noLevel => exact .inl noLevel
    | format _ noFormat => exact .inr (.inl noFormat)
    | output _ _ noOutput => exact .inr (.inr (.inl noOutput))
    | file _ _ isFile noFile => exact .inr (.inr (.inr ⟨isFile, noFile⟩))

theorem problem?_eq_none_iff {settings : LogSettings} :
    settings.problem? = none ↔ ¬settings.IsWrong := by
  rw [isWrong_iff, not_exists, Option.eq_none_iff_forall_ne_some]
  simp only [ne_eq, problem?_eq_some_iff]

end LogSettings

/-! ## Offsets -/

/-- The check of an offset neither narrows a number nor multiplies it beyond its width: the minutes
that it accepts are those of less than a day. -/
theorem Settings.offset?_eq (settings : Settings) :
    settings.offset? =
      if 1439 < settings.utcOffsetMinutes.natAbs then none
      else some (60 * settings.utcOffsetMinutes) := by
  rw [offset?, TimeFrame.offsetOfMinutes?, TimeFrame.offsetOfSeconds?, secondsPerDay]
  generalize settings.utcOffsetMinutes = minutes
  by_cases beyond : 1439 < minutes.natAbs
  · have noDay : ¬(-86400 < 60 * minutes ∧ 60 * minutes < 86400) := by omega
    simp [beyond, noDay]
  · have inDay : -86400 < 60 * minutes ∧ 60 * minutes < 86400 := by omega
    have fits : Text.fitsSigned 32 minutes = true ∧ Text.fitsSigned 32 (60 * minutes) = true := by
      simp [Text.fitsSigned]
      omega
    simp [beyond, inDay, fits]

theorem Settings.offset?_isNone_iff {settings : Settings} :
    settings.offset?.isNone = true ↔ 1439 < settings.utcOffsetMinutes.natAbs := by
  rw [offset?_eq]
  split
  · next beyond => simp [beyond]
  · next inDay => simp [inDay]

/-! ## Rules on settings -/

/-- A rule that settings can violate. -/
inductive SettingsRule where
  | contextDirectory
  | staticUrl
  | baseUrl
  | phpUrl
  | dates
  | resolver
  | logging
deriving DecidableEq, Repr

namespace SettingsRule

/-- The order in which the rules are checked. -/
def inOrder : List SettingsRule :=
  [.contextDirectory, .staticUrl, .baseUrl, .phpUrl, .dates, .resolver, .logging]

theorem mem_inOrder (rule : SettingsRule) : rule ∈ inOrder := by
  cases rule <;> decide

end SettingsRule

namespace Settings

/-- An address has a slash behind something else. -/
def HasTrailingSlash (address : String) : Prop :=
  ∃ front, front ≠ "" ∧ address = front ++ "/"

theorem addressProblem?_eq_some_iff {name address : String} {problem : SettingsProblem} :
    addressProblem? name address = some problem ↔
      HasTrailingSlash address ∧ problem = .trailingSlash name address := by
  have endsOpen : (1 < address.utf8ByteSize ∧ address.toList.getLast? = some '/') ↔
      HasTrailingSlash address := by
    constructor
    · rintro ⟨isLong, isSlash⟩
      rcases List.getLast?_eq_some_iff.mp isSlash with ⟨characters, isAddress⟩
      obtain ⟨front, rfl⟩ : ∃ front, address = front ++ "/" :=
        ⟨String.ofList characters, String.toList_inj.mp (by simp [isAddress])⟩
      refine ⟨front, ?_, rfl⟩
      rintro rfl
      exact absurd isLong (by decide)
    · rintro ⟨front, nonempty, rfl⟩
      have isSlash : "/".utf8ByteSize = 1 := rfl
      have isFront : front.utf8ByteSize ≠ 0 := mt String.utf8ByteSize_eq_zero_iff.mp nonempty
      rw [String.utf8ByteSize_append, String.toList_append, List.getLast?_append]
      exact ⟨by omega, rfl⟩
  rw [addressProblem?, Option.ite_none_right_eq_some, Option.some.injEq, ← endsOpen,
    Bool.and_eq_true, decide_eq_true_eq, beq_iff_eq, @eq_comm _ problem]

instance (address : String) : Decidable (HasTrailingSlash address) :=
  decidable_of_iff ((addressProblem? "" address).isSome = true) (by
    simp [Option.isSome_iff_exists, addressProblem?_eq_some_iff])

/-- What it means that settings violate a rule. -/
def Violates (settings : Settings) : SettingsRule → Prop
  | .contextDirectory => settings.contextDirectory = ""
  | .staticUrl => HasTrailingSlash settings.staticUrl
  | .baseUrl => HasTrailingSlash settings.baseUrl
  | .phpUrl => HasTrailingSlash settings.phpUrl
  | .dates => 1439 < settings.utcOffsetMinutes.natAbs
  | .resolver => settings.directiveTimeout = some 0
  | .logging => settings.logging.IsWrong

instance (settings : Settings) : DecidablePred settings.Violates
  | .contextDirectory => inferInstanceAs (Decidable (_ = _))
  | .staticUrl => inferInstanceAs (Decidable (HasTrailingSlash _))
  | .baseUrl => inferInstanceAs (Decidable (HasTrailingSlash _))
  | .phpUrl => inferInstanceAs (Decidable (HasTrailingSlash _))
  | .dates => inferInstanceAs (Decidable (_ < _))
  | .resolver => inferInstanceAs (Decidable (_ = _))
  | .logging => inferInstanceAs (Decidable (LogSettings.IsWrong _))

/-- The problem that is reported for a rule, which names the setting and its value. -/
inductive Reports (settings : Settings) : SettingsRule → SettingsProblem → Prop where
  | contextDirectory : Reports settings .contextDirectory .emptyContextDirectory
  | staticUrl : Reports settings .staticUrl (.trailingSlash "static_url" settings.staticUrl)
  | baseUrl : Reports settings .baseUrl (.trailingSlash "base_url" settings.baseUrl)
  | phpUrl : Reports settings .phpUrl (.trailingSlash "php_url" settings.phpUrl)
  | dates : Reports settings .dates (.offsetOutOfRange settings.utcOffsetMinutes)
  | resolver : Reports settings .resolver .zeroTimeout
  | logging {problem : LogProblem} (first : settings.logging.FirstProblem problem) :
      Reports settings .logging (.logging problem)

/-- The problem of settings with a rule. -/
def problem? (settings : Settings) : SettingsRule → Option SettingsProblem
  | .contextDirectory =>
      if settings.contextDirectory = "" then some .emptyContextDirectory else none
  | .staticUrl => addressProblem? "static_url" settings.staticUrl
  | .baseUrl => addressProblem? "base_url" settings.baseUrl
  | .phpUrl => addressProblem? "php_url" settings.phpUrl
  | .dates =>
      if settings.offset?.isNone then some (.offsetOutOfRange settings.utcOffsetMinutes) else none
  | .resolver => if settings.directiveTimeout = some 0 then some .zeroTimeout else none
  | .logging => settings.logging.problem?.map .logging

theorem problems_eq_filterMap (settings : Settings) :
    settings.problems = SettingsRule.inOrder.filterMap settings.problem? := by
  have ofCondition {condition : Prop} [Decidable condition] (problem : SettingsProblem) :
      (if condition then [problem] else []) = (if condition then some problem else none).toList := by
    split <;> rfl
  rw [List.filterMap_eq_flatMap_toList, SettingsRule.inOrder, problems]
  simp [ofCondition, problem?]

/-- A rule has one problem at most. -/
theorem Reports.unique {settings : Settings} {rule : SettingsRule} {problem other : SettingsProblem}
    (reported : settings.Reports rule problem) (otherReported : settings.Reports rule other) :
    problem = other := by
  cases reported with
  | logging first =>
      cases otherReported with
      | logging otherFirst =>
          have isProblem := LogSettings.problem?_eq_some_iff.mpr first
          have isOther := LogSettings.problem?_eq_some_iff.mpr otherFirst
          rw [Option.some.inj (isProblem.symm.trans isOther)]
  | _ =>
      cases otherReported
      rfl

theorem reports_iff {settings : Settings} {rule : SettingsRule} {problem other : SettingsProblem}
    (reported : settings.Reports rule problem) : settings.Reports rule other ↔ other = problem := by
  constructor
  · intro otherReported
    exact otherReported.unique reported
  · rintro rfl
    exact reported

theorem problem?_eq_some_iff {settings : Settings} {rule : SettingsRule}
    {problem : SettingsProblem} :
    settings.problem? rule = some problem ↔
      settings.Violates rule ∧ settings.Reports rule problem := by
  have ofCondition {condition : Prop} [Decidable condition] (reported : SettingsProblem) :
      (if condition then some reported else none) = some problem ↔
        condition ∧ problem = reported := by
    rw [Option.ite_none_right_eq_some, Option.some.injEq, @eq_comm _ reported]
  cases rule with
  | contextDirectory =>
      rw [reports_iff .contextDirectory]
      exact ofCondition .emptyContextDirectory
  | staticUrl =>
      rw [reports_iff .staticUrl]
      exact addressProblem?_eq_some_iff
  | baseUrl =>
      rw [reports_iff .baseUrl]
      exact addressProblem?_eq_some_iff
  | phpUrl =>
      rw [reports_iff .phpUrl]
      exact addressProblem?_eq_some_iff
  | dates =>
      rw [reports_iff .dates, problem?, ofCondition, offset?_isNone_iff]
      rfl
  | resolver =>
      rw [reports_iff .resolver]
      exact ofCondition .zeroTimeout
  | logging =>
      rw [problem?, Option.map_eq_some_iff]
      constructor
      · rintro ⟨inner, isProblem, rfl⟩
        have first := LogSettings.problem?_eq_some_iff.mp isProblem
        exact ⟨LogSettings.isWrong_iff.mpr ⟨inner, first⟩, .logging first⟩
      · rintro ⟨_, first⟩
        cases first with
        | logging first => exact ⟨_, LogSettings.problem?_eq_some_iff.mpr first, rfl⟩

theorem exists_reports {settings : Settings} {rule : SettingsRule}
    (violated : settings.Violates rule) : ∃ problem, settings.Reports rule problem := by
  cases rule with
  | contextDirectory => exact ⟨_, .contextDirectory⟩
  | staticUrl => exact ⟨_, .staticUrl⟩
  | baseUrl => exact ⟨_, .baseUrl⟩
  | phpUrl => exact ⟨_, .phpUrl⟩
  | dates => exact ⟨_, .dates⟩
  | resolver => exact ⟨_, .resolver⟩
  | logging =>
      rcases LogSettings.isWrong_iff.mp violated with ⟨problem, first⟩
      exact ⟨_, .logging first⟩

/-- The problems of settings are one for each rule that they violate, in the order of the rules. -/
theorem forall₂_problems (settings : Settings) :
    List.Forall₂ settings.Reports
      (SettingsRule.inOrder.filter fun rule => settings.Violates rule) settings.problems := by
  rw [problems_eq_filterMap]
  induction SettingsRule.inOrder with
  | nil => exact .nil
  | cons rule rest hypothesis =>
      by_cases violated : settings.Violates rule
      · rcases exists_reports violated with ⟨problem, reported⟩
        rw [List.filter_cons_of_pos (by simpa using violated),
          List.filterMap_cons_some (problem?_eq_some_iff.mpr ⟨violated, reported⟩)]
        exact .cons reported hypothesis
      · have noProblem : settings.problem? rule = none := by
          rw [Option.eq_none_iff_forall_ne_some]
          intro problem isProblem
          exact violated (problem?_eq_some_iff.mp isProblem).1
        rw [List.filter_cons_of_neg (by simpa using violated), List.filterMap_cons_none noProblem]
        exact hypothesis

theorem problems_eq_nil_iff {settings : Settings} :
    settings.problems = [] ↔ ∀ rule, ¬settings.Violates rule := by
  have sameLength := settings.forall₂_problems.length_eq
  rw [← List.length_eq_zero_iff, ← sameLength, List.length_eq_zero_iff, List.filter_eq_nil_iff]
  simp [SettingsRule.mem_inOrder]

/-- A check ends in one of two ways, according to whether a rule is violated. -/
theorem checked_cases (settings : Settings) :
    ((∀ rule, ¬settings.Violates rule) ∧ settings.checked = .ok settings) ∨
      ((∃ rule, settings.Violates rule) ∧
        settings.checked = .error (.invalid settings.problems)) := by
  by_cases valid : ∀ rule, ¬settings.Violates rule
  · exact .inl ⟨valid, checked_eq_ok_iff.mpr ⟨problems_eq_nil_iff.mpr valid, rfl⟩⟩
  · refine .inr ⟨not_forall_not.mp valid, ?_⟩
    rw [checked]
    split
    · next noProblem => exact absurd (problems_eq_nil_iff.mp noProblem) valid
    · rfl

/-! ## Settings that are used -/

/-- The settings that are loaded violate no rule. -/
theorem not_violates_of_load {host : SettingsHost} {files : Files} {environment : Environment}
    {workspace : String} {explicit : Option String} {settings : Settings}
    (loaded : load host files environment workspace explicit = .ok settings) (rule : SettingsRule) :
    ¬settings.Violates rule := by
  rcases load_eq_ok_iff.mp loaded with ⟨_, _, _, noProblem⟩
  exact problems_eq_nil_iff.mp noProblem rule

theorem offset?_of_not_violates {settings : Settings} (valid : ¬settings.Violates .dates) :
    settings.offset? = some (60 * settings.utcOffsetMinutes) := by
  rw [offset?_eq]
  exact if_neg valid

theorem offset_of_not_violates {settings : Settings} (valid : ¬settings.Violates .dates) :
    settings.offset = 60 * settings.utcOffsetMinutes := by
  rw [offset, offset?_of_not_violates valid, Option.getD_some]

theorem directiveTimeout_pos {settings : Settings} (valid : ¬settings.Violates .resolver)
    {limit : Nat} (isLimit : settings.directiveTimeout = some limit) : 1 ≤ limit := by
  rw [Nat.one_le_iff_ne_zero]
  rintro rfl
  exact valid isLimit

/-- Settings are checked completely, and only valid ones are used.  The problems of settings are
one for each rule that they violate, in a fixed order; an offset violates the rule on dates when it
has more than 1439 minutes in either direction.  Whatever is loaded violates no rule: its offset in
seconds is that of its minutes, never a replacement, and its limit, if it has one, is a
millisecond or more.  A command is executed with such settings or not at all. -/
theorem only_valid_are_used :
    (∀ settings : Settings,
      List.Forall₂ settings.Reports
        (SettingsRule.inOrder.filter fun rule => settings.Violates rule) settings.problems ∧
      (((∀ rule, ¬settings.Violates rule) ∧ settings.checked = .ok settings) ∨
        ((∃ rule, settings.Violates rule) ∧
          settings.checked = .error (.invalid settings.problems))) ∧
      settings.offset? =
        if 1439 < settings.utcOffsetMinutes.natAbs then none
        else some (60 * settings.utcOffsetMinutes)) ∧
    (∀ (host : SettingsHost) (files : Files) (environment : Environment) (workspace : String)
      (explicit : Option String) (settings : Settings),
      load host files environment workspace explicit = .ok settings →
        (∀ rule, ¬settings.Violates rule) ∧
        settings.offset? = some (60 * settings.utcOffsetMinutes) ∧
        settings.offset = 60 * settings.utcOffsetMinutes ∧
        ∀ limit, settings.directiveTimeout = some limit → 1 ≤ limit) ∧
    ∀ (invocation : Invocation) (line : CommandLine),
      (∃ cause, invocation.settings line = .error cause ∧
        invocation.execute line =
          (.error (.failure ("Cannot load workspace " ++ line.workspace ++ ": " ++ cause.message)),
            [])) ∨
      ∃ workspace : Workspace,
        invocation.settings line = .ok workspace.settings ∧
        workspace.frame.offset = 60 * workspace.settings.utcOffsetMinutes ∧
        (∀ store caller limit,
          (workspace.resolver store caller).limit = some limit → 1 ≤ limit) ∧
        invocation.execute line =
          (((workspace.execute line.command).run []).1.mapError (Stop.map CommandError.message),
            ((workspace.execute line.command).run []).2) := by
  refine ⟨?_, ?_, ?_⟩
  · intro settings
    exact ⟨settings.forall₂_problems, settings.checked_cases, settings.offset?_eq⟩
  · intro host files environment workspace explicit settings loaded
    have valid := not_violates_of_load loaded
    refine ⟨valid, offset?_of_not_violates (valid _), offset_of_not_violates (valid _), ?_⟩
    intro limit isLimit
    exact directiveTimeout_pos (valid _) isLimit
  · intro invocation line
    cases loaded : invocation.settings line with
    | error cause =>
        refine .inl ⟨cause, rfl, ?_⟩
        rw [Invocation.execute, loaded]
    | ok settings =>
        have valid := not_violates_of_load loaded
        refine .inr ⟨⟨line.workspace, settings, invocation.files, invocation.now, invocation.seed⟩,
          rfl, offset_of_not_violates (valid _), ?_, ?_⟩
        · intro store caller limit isLimit
          exact directiveTimeout_pos (valid _) isLimit
        · rw [Invocation.execute, loaded]
          rfl

/-- The largest offset to the west is loaded as it is. -/
theorem only_valid_are_used_far_west :
    let environment := [("TRELLIS__DATES__UTC_OFFSET_MINUTES", "-1439")]
    let settings : Settings := { utcOffsetMinutes := -1439 }
    load {} (Files.ofList []) environment "/ws" none = .ok settings ∧ settings.offset = -86340 ∧
      ∀ rule, ¬settings.Violates rule := by
  intro environment settings
  have loaded : load {} (Files.ofList []) environment "/ws" none = .ok settings := by
    decide +kernel
  rcases only_valid_are_used.2.1 _ _ _ _ _ _ loaded with ⟨valid, _, isOffset, _⟩
  exact ⟨loaded, isOffset, valid⟩

end Settings

end PageContext
