import PageContext.Command.Workspace
import PageContext.Proofs.Success
import PageContext.Proofs.Text.Cuts

/-!
# Parameters as arguments

A caller gives every parameter as an argument of its own, and a directive gives all of them on one line
with ampersands between them.  Both are read alike: what an argument is refused for is the empty key
that the line would have, and arguments without ampersands amount to the line that they form.
-/

namespace PageContext.Params

theorem ofArgument_eq_ok_iff {argument : String} {param : String × Option String} :
    ofArgument argument = .ok param ↔ ofPair argument = param ∧ param.1 ≠ "" := by
  by_cases isEmpty : (ofPair argument).1 = ""
  · simp only [ofArgument, isEmpty, if_true, reduceCtorEq, false_iff, not_and, not_not]
    rintro rfl
    exact isEmpty
  · simp only [ofArgument, isEmpty, if_false, Except.ok.injEq]
    constructor
    · rintro rfl
      exact ⟨rfl, isEmpty⟩
    · exact And.left

theorem exists_ofArgument_eq_error_iff {argument : String} :
    (∃ cause, ofArgument argument = .error cause) ↔ (ofPair argument).1 = "" := by
  by_cases isEmpty : (ofPair argument).1 = "" <;> simp [ofArgument, isEmpty]

theorem mapM_ofArgument {arguments : List String}
    (named : ∀ argument ∈ arguments, ∃ param, ofArgument argument = .ok param) :
    arguments.mapM ofArgument = .ok (arguments.map ofPair) := by
  induction arguments with
  | nil => rfl
  | cons argument rest hypothesis =>
      rw [List.forall_mem_cons] at named
      rcases named with ⟨⟨param, isParam⟩, restNamed⟩
      obtain rfl := (ofArgument_eq_ok_iff.mp isParam).1
      rw [List.mapM_cons, hypothesis restNamed, isParam]
      rfl

/-- A line without ampersands is a single parameter. -/
theorem ofText_of_undivided {text : String} (nonempty : text ≠ "") (undivided : '&' ∉ text.toList) :
    ofText text = [ofPair text] := by
  have single : Text.pieces '&' text = [text] := by
    simp [Text.pieces, Text.splitAtEach_of_notMem undivided]
  simp [ofText, nonempty, single, Entries.ofPairs, Entries.insertAll, Entries.insert]

theorem callerParams_of_nonempty {params : Params} (nonempty : params ≠ []) :
    Workspace.callerParams params = some (Entries.ofPairs params) := by
  simp [Workspace.callerParams, nonempty]

/-- Arguments that name their keys are read like the line on which ampersands stand between them, and an
argument without ampersands is refused exactly where its line has an empty key or no parameter. -/
theorem arguments_read_as_line :
    (∀ arguments : List String, arguments ≠ [] →
        (∀ argument ∈ arguments, '&' ∉ argument.toList) →
        (∀ argument ∈ arguments, ∃ param, ofArgument argument = .ok param) →
        ∃ params, arguments.mapM ofArgument = .ok params ∧
          Workspace.callerParams params = some (ofText (String.intercalate "&" arguments))) ∧
      ∀ argument : String, '&' ∉ argument.toList →
        ((∃ cause, ofArgument argument = .error cause) ↔
          ofText argument = [] ∨ "" ∈ Entries.keys (ofText argument)) := by
  constructor
  · intro arguments nonempty undivided named
    refine ⟨arguments.map ofPair, mapM_ofArgument named, ?_⟩
    -- The empty line is read before any cut, and the empty argument, which forms it, has no name.
    have notEmpty : String.intercalate "&" arguments ≠ "" := by
      intro isEmpty
      have sole := Text.eq_singleton_of_intercalate_eq_empty '&' nonempty isEmpty
      rcases named "" (by simp [sole]) with ⟨param, isParam⟩
      rw [show ofArgument "" = .error ⟨""⟩ from rfl] at isParam
      contradiction
    have cut : Text.pieces '&' (String.intercalate "&" arguments) = arguments :=
      Text.pieces_intercalate '&' nonempty undivided
    rw [callerParams_of_nonempty (by simpa using nonempty), ofText, if_neg notEmpty, cut]
  · intro argument undivided
    rw [exists_ofArgument_eq_error_iff]
    by_cases isEmpty : argument = ""
    · subst isEmpty
      exact ⟨fun _ => .inl rfl, fun _ => by decide⟩
    · have isSingle := ofText_of_undivided isEmpty undivided
      simp only [isSingle, Entries.keys, List.map_singleton, List.mem_singleton, List.cons_ne_nil,
        false_or]
      exact eq_comm

/-- The conclusions for arguments with blanks, with an equals sign in a value and with a repeated key,
and for an argument that is refused. -/
theorem arguments_read_as_line_repeated_key :
    let arguments := [" limit = 5", "q=a=b", "preview", "limit=7 "]
    let line := " limit = 5&q=a=b&preview&limit=7 "
    arguments ≠ [] ∧ (∀ argument ∈ arguments, '&' ∉ argument.toList) ∧
      (∀ argument ∈ arguments, ∃ param, ofArgument argument = .ok param) ∧
      (∃ params, arguments.mapM ofArgument = .ok params ∧
        Workspace.callerParams params = some (ofText line)) ∧
      ofText line = [("limit", some "7"), ("q", some "a=b"), ("preview", none)] ∧
      '&' ∉ " =5".toList ∧ "" ∈ Entries.keys (ofText " =5") ∧
      ∃ cause, ofArgument " =5" = .error cause := by
  intro arguments line
  have nonempty : arguments ≠ [] := by simp [arguments]
  have undivided : ∀ argument ∈ arguments, '&' ∉ argument.toList := by decide
  have named : ∀ argument ∈ arguments, ∃ param, ofArgument argument = .ok param := by
    have notEmpty : ∀ argument ∈ arguments, (ofPair argument).1 ≠ "" := by decide
    intro argument member
    exact ⟨_, ofArgument_eq_ok_iff.mpr ⟨rfl, notEmpty argument member⟩⟩
  have isLine : String.intercalate "&" arguments = line := by decide
  have isRead := arguments_read_as_line.1 arguments nonempty undivided named
  rw [isLine] at isRead
  have isText : ofText line = [("limit", some "7"), ("q", some "a=b"), ("preview", none)] := by
    have cut : Text.pieces '&' (String.intercalate "&" arguments) = arguments :=
      Text.pieces_intercalate '&' nonempty undivided
    rw [ofText, if_neg (by decide), ← isLine, cut]
    decide
  have single : '&' ∉ " =5".toList := by decide
  have nameless : "" ∈ Entries.keys (ofText " =5") := by decide
  have refused := (arguments_read_as_line.2 " =5" single).mpr (.inr nameless)
  exact ⟨nonempty, undivided, named, isRead, isText, single, nameless, refused⟩

end PageContext.Params
