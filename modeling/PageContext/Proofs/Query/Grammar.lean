import Mathlib.Data.List.TakeWhile
import Mathlib.Data.Set.Subsingleton
import PageContext.Query.Route

/-!
# The grammar of directives

A directive is written as a module in braces, a slash and an action, then possibly a slash and a
target, then possibly a question mark and one line of parameters.  This file holds these parts as
they are written and shows that the reader accepts exactly the texts that have such parts: a text
that can be divided in this way can be divided in one way only, and its query is that of the parts;
every other text is malformed.

None of the characters that divide a directive is a word character, so the reader never has to
take back what it has read.
-/

namespace PageContext

/-- A text of one or more word characters. -/
def Text.IsWord (text : String) : Prop :=
  text ≠ "" ∧ ∀ character ∈ text.toList, Text.isWordCharacter character = true

instance (text : String) : Decidable (Text.IsWord text) :=
  decidable_of_iff (text ≠ "" ∧ text.toList.all Text.isWordCharacter = true)
    (by rw [Text.IsWord, List.all_eq_true])

/-- The parts of a directive as they are written; the line stands behind the question mark. -/
structure DirectiveForm where
  moduleName : String
  action : String
  target : Option String
  line : Option String

namespace DirectiveForm

/-- The directive with the given parts. -/
def text (form : DirectiveForm) : String :=
  "\x7b" ++ form.moduleName ++ "\x7d/" ++ form.action ++
    (match form.target with
      | some target => "/" ++ target
      | none => "") ++
    (match form.line with
      | some line => "?" ++ line
      | none => "")

/-- The conditions on the parts of a directive. -/
structure WellFormed (form : DirectiveForm) : Prop where
  moduleName_isWord : Text.IsWord form.moduleName
  action_isWord : Text.IsWord form.action
  target_ne_empty : ∀ target ∈ form.target, target ≠ ""
  target_no_divider : ∀ target ∈ form.target, '/' ∉ target.toList ∧ '?' ∉ target.toList
  line_single : ∀ line ∈ form.line, '\n' ∉ line.toList

/-- The query that the parts stand for. -/
def query (form : DirectiveForm) : Query where
  moduleName := form.moduleName
  action := form.action
  target := form.target
  params := (form.line.map Params.ofText).getD []

def targetCharacters : Option String → List Char
  | some target => '/' :: target.toList
  | none => []

def lineCharacters : Option String → List Char
  | some line => '?' :: line.toList
  | none => []

theorem lineCharacters_injective : Function.Injective lineCharacters := by
  intro first second same
  cases first <;> cases second <;> simp_all [lineCharacters, String.toList_inj]

theorem text_toList (form : DirectiveForm) :
    form.text.toList = '\x7b' :: (form.moduleName.toList ++ '\x7d' :: '/' ::
      (form.action.toList ++ (targetCharacters form.target ++ lineCharacters form.line))) := by
  rcases form with ⟨moduleName, action, _ | target, _ | line⟩ <;>
    simp [text, targetCharacters, lineCharacters]

theorem tail_boundary (form : DirectiveForm) :
    ∀ character ∈ (targetCharacters form.target ++ lineCharacters form.line).head?,
      Text.isWordCharacter character = false := by
  rcases form with ⟨moduleName, action, _ | target, _ | line⟩ <;>
    simp [targetCharacters, lineCharacters] <;> decide

end DirectiveForm

namespace Query

theorem readWord?_sound {characters word rest : List Char}
    (read : readWord? characters = some (word, rest)) :
    characters = word ++ rest ∧ Text.IsWord (String.ofList word) := by
  rw [readWord?] at read
  split at read
  · contradiction
  · next _ nonempty =>
    simp only [Option.some.injEq, Prod.mk.injEq] at read
    rcases read with ⟨rfl, rfl⟩
    refine ⟨List.takeWhile_append_dropWhile.symm, ?_, ?_⟩
    · simpa using nonempty
    · intro character member
      rw [String.toList_ofList] at member
      exact List.mem_takeWhile_imp member

theorem readWord?_complete {word : String} {rest : List Char} (isWord : Text.IsWord word)
    (boundary : ∀ character ∈ rest.head?, Text.isWordCharacter character = false) :
    readWord? (word.toList ++ rest) = some (word.toList, rest) := by
  rw [readWord?]
  rw [Text.takeWhile_run isWord.2 boundary, Text.dropWhile_run isWord.2 boundary]
  split
  · next empty => exact absurd (String.toList_eq_nil_iff.mp empty) isWord.1
  · rfl

theorem isTargetCharacter_iff (character : Char) :
    isTargetCharacter character = true ↔ character ≠ '/' ∧ character ≠ '?' := by
  simp [isTargetCharacter]

theorem readTarget?_sound {characters rest : List Char} {target : Option (List Char)}
    (read : readTarget? characters = some (target, rest)) :
    characters = DirectiveForm.targetCharacters (target.map String.ofList) ++ rest ∧
      ∀ part ∈ target, part ≠ [] ∧ '/' ∉ part ∧ '?' ∉ part := by
  unfold readTarget? at read
  split at read
  · next _ behind =>
    split at read
    · contradiction
    · next _ nonempty =>
      simp only [Option.some.injEq, Prod.mk.injEq] at read
      rcases read with ⟨rfl, rfl⟩
      refine ⟨?_, ?_⟩
      · simp [DirectiveForm.targetCharacters]
      · rintro part ⟨⟩
        refine ⟨nonempty, ?_, ?_⟩
        · intro member
          exact ((isTargetCharacter_iff '/').mp (List.mem_takeWhile_imp member)).1 rfl
        · intro member
          exact ((isTargetCharacter_iff '?').mp (List.mem_takeWhile_imp member)).2 rfl
  · simp only [Option.some.injEq, Prod.mk.injEq] at read
    rcases read with ⟨rfl, rfl⟩
    simp [DirectiveForm.targetCharacters]

/-- A target is read up to the line of parameters or to the end. -/
theorem readTarget?_complete {form : DirectiveForm} (wellFormed : form.WellFormed) :
    readTarget? (DirectiveForm.targetCharacters form.target ++
        DirectiveForm.lineCharacters form.line) =
      some (form.target.map String.toList, DirectiveForm.lineCharacters form.line) := by
  rcases form with ⟨moduleName, action, target, line⟩
  have boundary : ∀ character ∈ (DirectiveForm.lineCharacters line).head?,
      isTargetCharacter character = false := by
    cases line <;> simp [DirectiveForm.lineCharacters, isTargetCharacter]
  cases target with
  | none =>
      cases line <;> simp [DirectiveForm.targetCharacters, DirectiveForm.lineCharacters, readTarget?]
  | some target =>
      have nonempty := wellFormed.target_ne_empty target rfl
      have inside : ∀ character ∈ target.toList, isTargetCharacter character = true := by
        intro character member
        rw [isTargetCharacter_iff]
        have noDivider := wellFormed.target_no_divider target rfl
        constructor
        · rintro rfl
          exact noDivider.1 member
        · rintro rfl
          exact noDivider.2 member
      simp only [DirectiveForm.targetCharacters, List.cons_append, readTarget?]
      rw [Text.takeWhile_run inside boundary, Text.dropWhile_run inside boundary]
      split
      · next empty => exact absurd (String.toList_eq_nil_iff.mp empty) nonempty
      · rfl

/-- What is left behind the target is nothing or a question mark and one line. -/
theorem readParams?_eq_some_iff {characters : List Char} {params : Params} :
    readParams? characters = some params ↔
      ∃ line : Option String, characters = DirectiveForm.lineCharacters line ∧
        (∀ text ∈ line, '\n' ∉ text.toList) ∧ params = (line.map Params.ofText).getD [] := by
  constructor
  · intro read
    unfold readParams? at read
    split at read
    · cases read
      exact ⟨none, rfl, by simp, rfl⟩
    · next _ line =>
      split at read
      · contradiction
      · next single =>
        cases read
        refine ⟨some (String.ofList line), ?_, ?_, rfl⟩
        · simp [DirectiveForm.lineCharacters]
        · simpa using single
    · contradiction
  · rintro ⟨_ | line, rfl, single, rfl⟩
    · rfl
    · have single := single line rfl
      simp [DirectiveForm.lineCharacters, readParams?, single]

/-- The parts of every directive that is read are well formed. -/
theorem exists_form_of_parse? {directive : String} {query : Query}
    (parsed : parse? directive = some query) :
    ∃ form : DirectiveForm, form.WellFormed ∧ form.text = directive ∧ form.query = query := by
  rw [parse?] at parsed
  split at parsed
  · next _ behindBrace start =>
    simp only [Option.bind_eq_bind, Option.bind_eq_some_iff, Prod.exists] at parsed
    rcases parsed with ⟨moduleName, behindModule, readModule, parsed⟩
    split at parsed
    · next _ behindSlash =>
      simp only [Option.bind_eq_some_iff, Prod.exists] at parsed
      rcases parsed with
        ⟨action, behindAction, readAction, target, behindTarget, readTarget, params, readParams,
          finished⟩
      rcases readWord?_sound readModule with ⟨rfl, moduleIsWord⟩
      rcases readWord?_sound readAction with ⟨rfl, actionIsWord⟩
      rcases readTarget?_sound readTarget with ⟨rfl, targetParts⟩
      rcases readParams?_eq_some_iff.mp readParams with ⟨line, rfl, single, rfl⟩
      refine ⟨⟨String.ofList moduleName, String.ofList action, target.map String.ofList, line⟩,
        ⟨moduleIsWord, actionIsWord, ?_, ?_, single⟩, ?_, ?_⟩
      · intro text member
        rcases Option.map_eq_some_iff.mp member with ⟨part, isPart, rfl⟩
        simpa using (targetParts part isPart).1
      · intro text member
        rcases Option.map_eq_some_iff.mp member with ⟨part, isPart, rfl⟩
        simpa using (targetParts part isPart).2
      · rw [← String.toList_inj, DirectiveForm.text_toList, start]
        simp
      · simpa [DirectiveForm.query] using finished
    · contradiction
  · contradiction

/-- A text with well-formed parts is read as the query of these parts. -/
theorem parse?_text {form : DirectiveForm} (wellFormed : form.WellFormed) :
    parse? form.text = some form.query := by
  have bracket : Text.isWordCharacter '\x7d' = false := by decide
  have readModule : ∀ rest, readWord? (form.moduleName.toList ++ '\x7d' :: rest) =
      some (form.moduleName.toList, '\x7d' :: rest) := by
    intro rest
    exact readWord?_complete wellFormed.moduleName_isWord (by simpa using bracket)
  have readAction := readWord?_complete wellFormed.action_isWord form.tail_boundary
  have readParams := readParams?_eq_some_iff.mpr
    ⟨form.line, rfl, wellFormed.line_single, rfl⟩
  rw [parse?]
  rw [form.text_toList]
  simp [readModule, readAction, readTarget?_complete wellFormed, readParams, DirectiveForm.query,
    Function.comp_def]

end Query

namespace DirectiveForm

/-- Modules and actions that are words can be told from what stands behind them. -/
theorem tail_eq_of_text_eq {first second : DirectiveForm}
    (firstModule : Text.IsWord first.moduleName) (firstAction : Text.IsWord first.action)
    (secondModule : Text.IsWord second.moduleName) (secondAction : Text.IsWord second.action)
    (sameText : first.text = second.text) :
    first.moduleName = second.moduleName ∧ first.action = second.action ∧
      targetCharacters first.target ++ lineCharacters first.line =
        targetCharacters second.target ++ lineCharacters second.line := by
  have sameCharacters := congrArg String.toList sameText
  rw [text_toList, text_toList, List.cons.injEq] at sameCharacters
  -- The reader finds the part it stands for in either division of the text.
  have sameModule := congrArg Query.readWord? sameCharacters.2
  rw [Query.readWord?_complete firstModule (by simp; decide),
    Query.readWord?_complete secondModule (by simp; decide)] at sameModule
  simp only [Option.some.injEq, Prod.mk.injEq, List.cons.injEq, true_and] at sameModule
  have sameAction := congrArg Query.readWord? sameModule.2
  rw [Query.readWord?_complete firstAction first.tail_boundary,
    Query.readWord?_complete secondAction second.tail_boundary] at sameAction
  simp only [Option.some.injEq, Prod.mk.injEq] at sameAction
  exact ⟨String.toList_inj.mp sameModule.1, String.toList_inj.mp sameAction.1, sameAction.2⟩

/-- A text can be divided into well-formed parts in at most one way. -/
theorem eq_of_text_eq {first second : DirectiveForm} (firstWellFormed : first.WellFormed)
    (secondWellFormed : second.WellFormed) (sameText : first.text = second.text) :
    first = second := by
  rcases tail_eq_of_text_eq firstWellFormed.moduleName_isWord firstWellFormed.action_isWord
    secondWellFormed.moduleName_isWord secondWellFormed.action_isWord sameText with
    ⟨sameModule, sameAction, sameTail⟩
  have sameTarget := congrArg Query.readTarget? sameTail
  rw [Query.readTarget?_complete firstWellFormed,
    Query.readTarget?_complete secondWellFormed] at sameTarget
  simp only [Option.some.injEq, Prod.mk.injEq] at sameTarget
  rcases first with ⟨firstModule, firstAction, firstTarget, firstLine⟩
  rcases second with ⟨secondModule, secondAction, secondTarget, secondLine⟩
  have targets := Option.map_injective (fun _ _ => String.toList_injective) sameTarget.1
  have lines := lineCharacters_injective sameTarget.2
  simp_all

/-- Where a text can be read, what stands behind its action up to the end is a target, unless
there is a question mark in it. -/
theorem wellFormed_of_parse? {moduleName action target : String} {query : Query}
    (moduleIsWord : Text.IsWord moduleName) (actionIsWord : Text.IsWord action)
    (noQuestionMark : '?' ∉ target.toList)
    (parsed : Query.parse? (text ⟨moduleName, action, some target, none⟩) = some query) :
    WellFormed ⟨moduleName, action, some target, none⟩ := by
  rcases Query.exists_form_of_parse? parsed with
    ⟨⟨_, _, otherTarget, otherLine⟩, wellFormed, sameText, _⟩
  rcases tail_eq_of_text_eq wellFormed.moduleName_isWord wellFormed.action_isWord moduleIsWord
    actionIsWord sameText with ⟨rfl, rfl, sameTail⟩
  rw [lineCharacters.eq_def none, List.append_nil] at sameTail
  have noLine : otherLine = none := by
    cases otherLine with
    | none => rfl
    | some line =>
        have isMark : '?' ∈ targetCharacters (some target) := by
          simp [← sameTail, lineCharacters]
        simp [targetCharacters, noQuestionMark] at isMark
  subst noLine
  have sameTarget : otherTarget = some target := by
    cases otherTarget with
    | none => simp [targetCharacters, lineCharacters] at sameTail
    | some other => simpa [targetCharacters, lineCharacters, String.toList_inj] using sameTail
  rw [← sameTarget]
  exact wellFormed

end DirectiveForm

namespace Query

/-- The reader accepts exactly the directives of the grammar: a directive that is read has
well-formed parts, which are unique and give its query, and a text without such parts is reported
as malformed. -/
theorem parse_grammar (directive : String) :
    (∀ query : Query, Query.parse directive = .ok query ↔
        ∃ form : DirectiveForm,
          form.WellFormed ∧ form.text = directive ∧ form.query = query) ∧
      {form : DirectiveForm | form.WellFormed ∧ form.text = directive}.Subsingleton ∧
      (Query.parse directive = .error (.malformed directive) ↔
        ¬∃ form : DirectiveForm, form.WellFormed ∧ form.text = directive) := by
  refine ⟨?_, ?_, ?_⟩
  · intro query
    constructor
    · intro parsed
      apply exists_form_of_parse?
      rw [Query.parse] at parsed
      split at parsed
      · next result => rw [result, Except.ok.inj parsed]
      · contradiction
    · rintro ⟨form, wellFormed, rfl, rfl⟩
      simp [Query.parse, parse?_text wellFormed]
  · rintro first ⟨firstWellFormed, rfl⟩ second ⟨secondWellFormed, sameText⟩
    exact DirectiveForm.eq_of_text_eq firstWellFormed secondWellFormed sameText.symm
  · constructor
    · rintro malformed ⟨form, wellFormed, rfl⟩
      simp [Query.parse, parse?_text wellFormed] at malformed
    · intro noForm
      rw [Query.parse]
      split
      · next query result =>
        rcases exists_form_of_parse? result with ⟨form, wellFormed, sameText, _⟩
        exact absurd ⟨form, wellFormed, sameText⟩ noForm
      · rfl

/-- A target may hold line feeds, ampersands and braces, but a line of parameters ends the text. -/
example :
    parse? "\x7bcms\x7d/get/a\n\x7b&?b" = some ⟨"cms", "get", some "a\n\x7b&", [("b", none)]⟩ ∧
      parse? "\x7bcms\x7d/get/a?b\n" = none := by
  decide

end Query

end PageContext
