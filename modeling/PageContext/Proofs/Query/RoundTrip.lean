import PageContext.Proofs.Query.Grammar
import PageContext.Proofs.Query.ParamsText

/-!
# Queries that are written and read again

A query is written as a directive.  The directive is read as the same query exactly when the parts
of the query fit the grammar and its parameters are plain.  A query that was read from a directive
is of this kind, unless its only parameter is the bare key without a name.
-/

namespace PageContext

namespace Query

/-- Equality of queries, the order of their parameters aside. -/
structure Same (first second : Query) : Prop where
  moduleName : first.moduleName = second.moduleName
  action : first.action = second.action
  target : first.target = second.target
  params : ∀ key, Entries.get? key first.params = Entries.get? key second.params

/-- A query that can be told from the directive it is written as. -/
structure IsPlain (query : Query) : Prop where
  moduleName_isWord : Text.IsWord query.moduleName
  action_isWord : Text.IsWord query.action
  target_ne_empty : ∀ target ∈ query.target, target ≠ ""
  target_no_divider : ∀ target ∈ query.target, '/' ∉ target.toList ∧ '?' ∉ target.toList
  params_plain : ∀ param ∈ query.params, Params.IsPlain param
  params_ne_bare : query.params ≠ [("", none)]

instance (query : Query) : Decidable query.IsPlain :=
  decidable_of_iff (Text.IsWord query.moduleName ∧ Text.IsWord query.action ∧
      (∀ target ∈ query.target, target ≠ "") ∧
      (∀ target ∈ query.target, '/' ∉ target.toList ∧ '?' ∉ target.toList) ∧
      (∀ param ∈ query.params, Params.IsPlain param) ∧ query.params ≠ [("", none)])
    ⟨fun parts => ⟨parts.1, parts.2.1, parts.2.2.1, parts.2.2.2.1, parts.2.2.2.2.1,
      parts.2.2.2.2.2⟩, fun plain => ⟨plain.moduleName_isWord, plain.action_isWord,
      plain.target_ne_empty, plain.target_no_divider, plain.params_plain, plain.params_ne_bare⟩⟩

/-- The parts that a query is written with. -/
def form (query : Query) : DirectiveForm where
  moduleName := query.moduleName
  action := query.action
  target := query.target
  line := Params.line query.params

theorem render_eq_text (query : Query) : query.render = query.form.text := by
  rcases query with ⟨moduleName, action, target, _ | ⟨param, params⟩⟩ <;> rfl

theorem parse_eq_ok_iff {directive : String} {query : Query} :
    Query.parse directive = .ok query ↔ parse? directive = some query := by
  rw [Query.parse]
  cases parse? directive <;> simp

theorem parse_render_of_wellFormed {query : Query} (wellFormed : query.form.WellFormed) :
    Query.parse query.render = .ok query.form.query := by
  rw [parse_eq_ok_iff, render_eq_text]
  exact parse?_text wellFormed

theorem IsPlain.parse_render {query : Query} (distinct : Entries.DistinctKeys query.params)
    (plain : query.IsPlain) : Query.parse query.render = .ok query := by
  have wellFormed : query.form.WellFormed :=
    ⟨plain.moduleName_isWord, plain.action_isWord, plain.target_ne_empty,
      plain.target_no_divider, Params.line_single plain.params_plain⟩
  have sameParams := Params.ofText_line distinct plain.params_plain plain.params_ne_bare
  rw [parse_render_of_wellFormed wellFormed, DirectiveForm.query, form, sameParams]

/-- The parts that a query is read from are those that it was written with, if the reader finds
the module, the action and the target again. -/
theorem wellFormed_of_parse_render {query reparsed : Query}
    (parsed : Query.parse query.render = .ok reparsed) (same : reparsed.Same query) :
    query.form.WellFormed ∧ reparsed = query.form.query := by
  rw [parse_eq_ok_iff, render_eq_text] at parsed
  rcases exists_form_of_parse? parsed with ⟨form, wellFormed, sameText, rfl⟩
  -- The reader finds module, action and target again, so only the lines are left to compare.
  have sameForm : form = query.form := by
    rcases form with ⟨moduleName, action, target, line⟩
    rcases same with ⟨rfl, rfl, rfl, _⟩
    have characters := congrArg String.toList sameText
    simp only [DirectiveForm.text_toList, Query.form, List.cons.injEq,
      List.append_cancel_left_eq, true_and] at characters
    rw [DirectiveForm.lineCharacters_injective characters]
    rfl
  rw [← sameForm]
  exact ⟨wellFormed, rfl⟩

theorem isPlain_of_parse_render {query reparsed : Query}
    (distinct : Entries.DistinctKeys query.params)
    (parsed : Query.parse query.render = .ok reparsed) (same : reparsed.Same query) :
    query.IsPlain := by
  rcases wellFormed_of_parse_render parsed same with ⟨wellFormed, rfl⟩
  have found : ∀ {key value}, (key, value) ∈ query.params →
      (key, value) ∈ ((Params.line query.params).map Params.ofText).getD [] := by
    intro key value member
    apply Entries.mem_of_get?
    exact (same.params key).trans (Entries.get?_of_mem distinct member)
  refine ⟨wellFormed.moduleName_isWord, wellFormed.action_isWord, wellFormed.target_ne_empty,
    wellFormed.target_no_divider, ?_, ?_⟩
  · intro param member
    have isRead := found member
    cases isLine : Params.line query.params with
    | none => simp [isLine] at isRead
    | some line =>
        rw [isLine] at isRead
        exact Params.isPlain_of_mem_ofText (wellFormed.line_single line isLine) isRead
  · intro isBare
    rw [isBare] at found
    exact absurd (found List.mem_cons_self) (by decide)

/-- A query is read again from the directive it is written as exactly when it is plain, and then
its parameters come in the same order. -/
theorem render_round_trip {query : Query} (distinct : Entries.DistinctKeys query.params) :
    ((∃ reparsed, Query.parse query.render = .ok reparsed ∧ reparsed.Same query) ↔
        query.IsPlain) ∧
      ∀ reparsed, Query.parse query.render = .ok reparsed → reparsed.Same query →
        reparsed = query := by
  have isRead : query.IsPlain → Query.parse query.render = .ok query :=
    IsPlain.parse_render distinct
  refine ⟨⟨?_, ?_⟩, ?_⟩
  · rintro ⟨reparsed, parsed, same⟩
    exact isPlain_of_parse_render distinct parsed same
  · intro plain
    exact ⟨query, isRead plain, rfl, rfl, rfl, fun _ => rfl⟩
  · intro reparsed parsed same
    have plain := isPlain_of_parse_render distinct parsed same
    rw [isRead plain] at parsed
    exact (Except.ok.inj parsed).symm

/-- The conclusion for a target with an ampersand, an empty key and an equals sign in a value. -/
theorem render_round_trip_equals_sign :
    let query : Query := ⟨"cms", "list", some "a&b", [("", some ""), ("sort", some "x=y")]⟩
    Entries.DistinctKeys query.params ∧ query.IsPlain ∧
      ∃ reparsed, Query.parse query.render = .ok reparsed ∧ reparsed = query := by
  intro query
  have distinct : Entries.DistinctKeys query.params := by decide
  have plain : query.IsPlain := by decide
  rcases render_round_trip distinct with ⟨isRead, inOrder⟩
  rcases isRead.mpr plain with ⟨reparsed, parsed, same⟩
  exact ⟨distinct, plain, reparsed, parsed, inOrder reparsed parsed same⟩

/-! ## Queries that were read -/

theorem wellFormed_of_parse {directive : String} {query : Query}
    (parsed : Query.parse directive = .ok query) :
    query.form.WellFormed ∧ Entries.DistinctKeys query.params ∧
      ∀ param ∈ query.params, Params.IsPlain param := by
  rcases exists_form_of_parse? (parse_eq_ok_iff.mp parsed) with ⟨form, wellFormed, _, rfl⟩
  have plain : ∀ param ∈ form.query.params, Params.IsPlain param := by
    intro param member
    cases isLine : form.line with
    | none => simp [DirectiveForm.query, isLine] at member
    | some line =>
        simp only [DirectiveForm.query, isLine, Option.map_some, Option.getD_some] at member
        exact Params.isPlain_of_mem_ofText (wellFormed.line_single line isLine) member
  refine ⟨?_, ?_, plain⟩
  · exact ⟨wellFormed.moduleName_isWord, wellFormed.action_isWord, wellFormed.target_ne_empty,
      wellFormed.target_no_divider, Params.line_single plain⟩
  · cases isLine : form.line with
    | none => simp [DirectiveForm.query, isLine, Entries.DistinctKeys, Entries.keys]
    | some line => simpa [DirectiveForm.query, isLine] using Params.distinctKeys_ofText line

/-- A query that was read is read again from the directive it is written as, with its parameters
in the same order.  Only a sole bare key without a name is lost. -/
theorem parse_render_of_parse {directive : String} {query : Query}
    (parsed : Query.parse directive = .ok query) :
    (query.params ≠ [("", none)] → Query.parse query.render = .ok query) ∧
      (query.params = [("", none)] →
        Query.parse query.render = .ok { query with params := [] }) := by
  rcases wellFormed_of_parse parsed with ⟨wellFormed, distinct, plain⟩
  constructor
  · intro notBare
    refine IsPlain.parse_render distinct ?_
    exact ⟨wellFormed.moduleName_isWord, wellFormed.action_isWord, wellFormed.target_ne_empty,
      wellFormed.target_no_divider, plain, notBare⟩
  · intro isBare
    rw [parse_render_of_wellFormed wellFormed, DirectiveForm.query, form, isBare]
    rfl

/-- The conclusion for blanks, an empty pair and a repeated key. -/
theorem parse_render_of_parse_repeated_key :
    let query : Query := ⟨"cms", "list", some "x", [("a", none), ("", none), ("b", some "c=d")]⟩
    Query.parse "\x7bcms\x7d/list/x? a = 1 &&b=c=d&a" = .ok query ∧
      query.params ≠ [("", none)] ∧ Query.parse query.render = .ok query := by
  intro query
  have parsed : Query.parse "\x7bcms\x7d/list/x? a = 1 &&b=c=d&a" = .ok query :=
    parse_eq_ok_iff.mpr (by decide)
  have notBare : query.params ≠ [("", none)] := by decide
  exact ⟨parsed, notBare, (parse_render_of_parse parsed).1 notBare⟩

/-- A line of one ampersand sets the bare key without a name, which is not found again in what is
written for it. -/
theorem not_forall_parse_render_of_parse :
    ¬∀ (directive : String) (query : Query), Query.parse directive = .ok query →
      ∃ reparsed, Query.parse query.render = .ok reparsed ∧ reparsed.Same query := by
  intro faithful
  have parsed : Query.parse "\x7bcms\x7d/list?&" = .ok ⟨"cms", "list", none, [("", none)]⟩ :=
    parse_eq_ok_iff.mpr (by decide)
  have again : Query.parse (render ⟨"cms", "list", none, [("", none)]⟩) =
      .ok ⟨"cms", "list", none, []⟩ := parse_eq_ok_iff.mpr (by decide)
  rcases faithful _ _ parsed with ⟨reparsed, isRead, same⟩
  rw [again, Except.ok.injEq] at isRead
  have atEmptyKey := same.params ""
  rw [← isRead] at atEmptyKey
  contradiction

end Query

end PageContext
