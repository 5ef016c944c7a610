import Mathlib.Data.List.DropRight
import PageContext.Text.Blank
import PageContext.Text.Split

/-!
# Cutting and trimming texts

Cutting at every separator undoes joining with it, as long as no piece holds the separator, and
cutting at the first one undoes putting it between two parts of which the first does not hold it.
Trimming leaves a text alone exactly when there is nothing to trim.
-/

namespace PageContext.Text

/-! ## Cutting at every separator -/

theorem splitAtEach_eq_splitOn (separator : Char) (characters : List Char) :
    splitAtEach separator characters = characters.splitOn separator := by
  induction characters with
  | nil => rfl
  | cons character rest hypothesis =>
      rw [List.splitOn_eq_splitOnP] at hypothesis ⊢
      rw [splitAtEach, List.splitOnP_cons_eq_if_modifyHead, hypothesis]
      by_cases same : character = separator
      · simp [same]
      · cases split : rest.splitOnP (· == separator) with
        | nil => exact absurd split (List.splitOnP_ne_nil _ _)
        | cons piece pieces => simp [same]

theorem pieces_intercalate (separator : Char) {texts : List String} (nonempty : texts ≠ [])
    (absent : ∀ text ∈ texts, separator ∉ text.toList) :
    pieces separator ((String.singleton separator).intercalate texts) = texts := by
  rw [pieces, splitAtEach_eq_splitOn, String.toList_intercalate, String.toList_singleton,
    List.splitOn_intercalate]
  · simp [Function.comp_def]
  · simpa using absent
  · simpa using nonempty

/-- The pieces on the two sides of a separator do not depend on each other. -/
theorem splitAtEach_append_cons (separator : Char) (before after : List Char) :
    splitAtEach separator (before ++ separator :: after) =
      splitAtEach separator before ++ splitAtEach separator after := by
  induction before with
  | nil => simp [splitAtEach]
  | cons character rest hypothesis =>
      rw [List.cons_append, splitAtEach, splitAtEach, hypothesis]
      split
      · rfl
      · cases pieces : splitAtEach separator rest with
        | nil => exact absurd pieces (splitAtEach_ne_nil separator rest)
        | cons piece pieces => rfl

theorem pieces_append_separator (separator : Char) (before after : String) :
    pieces separator (before ++ String.singleton separator ++ after) =
      pieces separator before ++ pieces separator after := by
  have asList : (before ++ String.singleton separator ++ after).toList =
      before.toList ++ separator :: after.toList := by
    simp
  rw [pieces, asList, splitAtEach_append_cons, List.map_append]
  rfl

theorem pieces_ne_nil (separator : Char) (text : String) : pieces separator text ≠ [] := by
  rw [pieces, Ne, List.map_eq_nil_iff]
  exact splitAtEach_ne_nil separator text.toList

theorem splitAtEach_of_notMem {separator : Char} {characters : List Char}
    (absent : separator ∉ characters) : splitAtEach separator characters = [characters] := by
  induction characters with
  | nil => rfl
  | cons character rest hypothesis =>
      rw [List.mem_cons, not_or] at absent
      rw [splitAtEach, if_neg (Ne.symm absent.1), hypothesis absent.2]

/-- Characters without the separator continue the last piece in front of them. -/
theorem splitAtEach_append_of_notMem {separator : Char} {before after : List Char}
    (absent : separator ∉ after) {front : List (List Char)} {last : List Char}
    (isCut : splitAtEach separator before = front ++ [last]) :
    splitAtEach separator (before ++ after) = front ++ [last ++ after] := by
  induction before generalizing front last with
  | nil =>
      rw [splitAtEach, List.singleton_eq_append_iff] at isCut
      rcases isCut with ⟨rfl, isLast⟩ | ⟨_, impossible⟩
      · obtain rfl : last = [] := by simpa using isLast
        exact splitAtEach_of_notMem absent
      · simp at impossible
  | cons character rest hypothesis =>
      rw [splitAtEach] at isCut
      rw [List.cons_append, splitAtEach]
      split at isCut
      · next isSeparator =>
        rw [if_pos isSeparator]
        cases front with
        | nil => simp [splitAtEach_ne_nil] at isCut
        | cons first front =>
            rcases List.cons.inj isCut with ⟨rfl, isRest⟩
            rw [hypothesis isRest]
            rfl
      · next noSeparator =>
        rw [if_neg noSeparator]
        cases restPieces : splitAtEach separator rest with
        | nil => exact absurd restPieces (splitAtEach_ne_nil separator rest)
        | cons piece pieces =>
            rw [restPieces] at isCut
            cases front with
            | nil =>
                rcases List.cons.inj isCut with ⟨rfl, rfl⟩
                have joined : splitAtEach separator (rest ++ after) = [] ++ [piece ++ after] :=
                  hypothesis restPieces
                rw [joined]
                rfl
            | cons first front =>
                rcases List.cons.inj isCut with ⟨rfl, rfl⟩
                have joined : splitAtEach separator (rest ++ after) =
                    (piece :: front) ++ [last ++ after] := hypothesis restPieces
                rw [joined]
                rfl

theorem pieces_append_of_notMem {separator : Char} {before after : String}
    (absent : separator ∉ after.toList) {front : List String} {last : String}
    (isCut : pieces separator before = front ++ [last]) :
    pieces separator (before ++ after) = front ++ [last ++ after] := by
  rw [pieces, List.map_eq_append_iff] at isCut
  rcases isCut with ⟨frontPieces, lastPieces, isCut, rfl, isLast⟩
  rw [List.map_eq_singleton_iff] at isLast
  rcases isLast with ⟨lastPiece, rfl, rfl⟩
  rw [pieces, String.toList_append, splitAtEach_append_of_notMem absent isCut, List.map_append,
    List.map_singleton, String.ofList_append, String.ofList_toList]

theorem mem_intercalate {separator : String} {texts : List String} {character : Char}
    (member : character ∈ (separator.intercalate texts).toList) :
    character ∈ separator.toList ∨ ∃ text ∈ texts, character ∈ text.toList := by
  induction texts with
  | nil => simp at member
  | cons first rest hypothesis =>
      cases rest with
      | nil => exact .inr ⟨first, List.mem_cons_self, by simpa using member⟩
      | cons second others =>
          rw [String.intercalate_cons_cons, String.toList_append, String.toList_append,
            List.mem_append, List.mem_append] at member
          rcases member with (inFirst | inSeparator) | inRest
          · exact .inr ⟨first, List.mem_cons_self, inFirst⟩
          · exact .inl inSeparator
          · refine (hypothesis inRest).imp_right ?_
            rintro ⟨text, isRest, inText⟩
            exact ⟨text, List.mem_cons_of_mem _ isRest, inText⟩

/-- Texts that are joined to the empty text are nothing but the empty text. -/
theorem eq_singleton_of_intercalate_eq_empty (separator : Char) {texts : List String}
    (nonempty : texts ≠ []) (isEmpty : (String.singleton separator).intercalate texts = "") :
    texts = [""] := by
  cases texts with
  | nil => contradiction
  | cons first rest =>
      cases rest with
      | nil => simpa using isEmpty
      | cons second others =>
          have characters := congrArg String.toList isEmpty
          simp at characters

/-- No piece holds the separator, and each is a part of the text. -/
theorem mem_splitAtEach {separator : Char} {characters piece : List Char}
    (member : piece ∈ splitAtEach separator characters) :
    separator ∉ piece ∧ piece ⊆ characters := by
  induction characters generalizing piece with
  | nil =>
      rw [splitAtEach, List.mem_singleton] at member
      simp [member]
  | cons character rest hypothesis =>
      have later : ∀ {other}, other ∈ splitAtEach separator rest →
          separator ∉ other ∧ other ⊆ character :: rest := by
        intro other inRest
        exact ⟨(hypothesis inRest).1, List.subset_cons_of_subset _ (hypothesis inRest).2⟩
      rw [splitAtEach] at member
      -- A separator opens an empty piece; any other character joins the first piece of the rest.
      split at member
      · rcases List.mem_cons.mp member with rfl | inRest
        · simp
        · exact later inRest
      · next differ =>
        split at member
        · next none => exact absurd none (splitAtEach_ne_nil separator rest)
        · next first others restPieces =>
          rw [restPieces] at later
          rcases List.mem_cons.mp member with rfl | inOthers
          · rcases later List.mem_cons_self with ⟨absent, inside⟩
            refine ⟨?_, List.cons_subset.mpr ⟨List.mem_cons_self, inside⟩⟩
            simpa [Ne.symm differ] using absent
          · exact later (List.mem_cons_of_mem _ inOthers)

theorem mem_pieces {separator : Char} {text piece : String}
    (member : piece ∈ pieces separator text) :
    separator ∉ piece.toList ∧ piece.toList ⊆ text.toList := by
  rcases List.mem_map.mp member with ⟨characters, inside, rfl⟩
  simpa using mem_splitAtEach inside

/-! ## Cutting at the first separator -/

theorem splitAtFirst_eq_none_iff (separator : Char) (characters : List Char) :
    splitAtFirst separator characters = none ↔ separator ∉ characters := by
  induction characters with
  | nil => simp [splitAtFirst]
  | cons character rest hypothesis =>
      by_cases same : character = separator
      · simp [splitAtFirst, same]
      · simp [splitAtFirst, same, hypothesis, Ne.symm same]

theorem splitAtFirst_eq_some_iff {separator : Char} {characters before after : List Char} :
    splitAtFirst separator characters = some (before, after) ↔
      separator ∉ before ∧ characters = before ++ separator :: after := by
  induction characters generalizing before after with
  | nil => simp [splitAtFirst]
  | cons character rest hypothesis =>
      by_cases same : character = separator
      · subst same
        cases before with
        | nil => simp [splitAtFirst]
        | cons first others =>
            simp only [splitAtFirst, if_true, Option.some.injEq, Prod.mk.injEq, List.cons_append,
              List.cons.injEq, List.mem_cons, not_or]
            constructor
            · rintro ⟨impossible, _⟩
              contradiction
            · rintro ⟨⟨differ, _⟩, rfl, _⟩
              exact absurd rfl differ
      · cases before with
        | nil => simp [splitAtFirst, same]
        | cons first others =>
            simp only [splitAtFirst, same, if_false, Option.map_eq_some_iff, Prod.exists,
              hypothesis, Prod.mk.injEq, List.cons.injEq, List.cons_append, List.mem_cons, not_or]
            constructor
            · rintro ⟨_, _, ⟨absent, rfl⟩, ⟨rfl, rfl⟩, rfl⟩
              exact ⟨⟨Ne.symm same, absent⟩, rfl, rfl⟩
            · rintro ⟨⟨_, absent⟩, rfl, rfl⟩
              exact ⟨others, after, ⟨absent, rfl⟩, ⟨rfl, rfl⟩, rfl⟩

theorem cut_eq_none_iff (separator : Char) (text : String) :
    cut separator text = none ↔ separator ∉ text.toList := by
  simp [cut, splitAtFirst_eq_none_iff]

theorem cut_eq_some_iff {separator : Char} {text before after : String} :
    cut separator text = some (before, after) ↔
      separator ∉ before.toList ∧ text.toList = before.toList ++ separator :: after.toList := by
  rw [cut, Option.map_eq_some_iff]
  constructor
  · rintro ⟨⟨first, second⟩, found, same⟩
    rw [Prod.mk.injEq] at same
    rcases same with ⟨rfl, rfl⟩
    simpa using splitAtFirst_eq_some_iff.mp found
  · intro parts
    exact ⟨(before.toList, after.toList), splitAtFirst_eq_some_iff.mpr parts, by simp⟩

/-! ## Trimming -/

/-- A text that neither starts nor ends with a blank. -/
structure IsTrimmed (text : String) : Prop where
  start : ∀ character ∈ text.toList.head?, isBlank character = false
  finish : ∀ character ∈ text.toList.getLast?, isBlank character = false

instance (text : String) : Decidable (IsTrimmed text) :=
  decidable_of_iff (text.toList.head?.all (!isBlank ·) = true ∧
      text.toList.getLast?.all (!isBlank ·) = true) (by
    simp only [Option.all_eq_true, Bool.not_eq_true']
    exact ⟨fun ends => ⟨ends.1, ends.2⟩, fun trimmed => ⟨trimmed.start, trimmed.finish⟩⟩)

theorem trimmed_eq_rdropWhile (characters : List Char) :
    trimmed characters = (dropBlanks characters).rdropWhile isBlank := rfl

theorem trimmed_subset (characters : List Char) : trimmed characters ⊆ characters :=
  List.Subset.trans (List.rdropWhile_prefix _ _).subset (List.dropWhile_suffix _).subset

/-- Trimming keeps a first character that is no blank. -/
theorem head?_trimmed {first : Char} (noBlank : isBlank first = false) (rest : List Char) :
    (trimmed (first :: rest)).head? = some first := by
  have kept : dropBlanks (first :: rest) = first :: rest := by
    simp [dropBlanks, noBlank]
  rw [trimmed_eq_rdropWhile, kept, List.rdropWhile, List.reverse_cons, List.dropWhile_append]
  split <;> simp [noBlank]

theorem isTrimmed_trim (text : String) : IsTrimmed (trim text) := by
  rw [trim, trimmed_eq_rdropWhile]
  refine ⟨?_, ?_⟩
  · intro character starts
    rw [String.toList_ofList] at starts
    rcases List.rdropWhile_prefix isBlank (dropBlanks text.toList) with ⟨dropped, joined⟩
    apply dropBlanks_head? text.toList
    rw [← joined, List.head?_append, Option.mem_def.mp starts, Option.some_or]
  · intro character ends
    rw [String.toList_ofList] at ends
    rcases List.getLast?_eq_some_iff.mp ends with ⟨others, isLast⟩
    have nonempty : (dropBlanks text.toList).rdropWhile isBlank ≠ [] := by simp [isLast]
    have noBlank := List.rdropWhile_last_not isBlank _ nonempty
    simpa [isLast] using noBlank

/-- There is nothing to trim exactly where neither end is a blank. -/
theorem trim_eq_self_iff (text : String) : trim text = text ↔ IsTrimmed text := by
  constructor
  · intro same
    rw [← same]
    exact isTrimmed_trim text
  · rintro ⟨start, finish⟩
    have noStart : dropBlanks text.toList = text.toList := by
      cases characters : text.toList with
      | nil => rfl
      | cons first rest => simp [dropBlanks, start first (by simp [characters])]
    have noFinish : text.toList.rdropWhile isBlank = text.toList := by
      rw [List.rdropWhile_eq_self_iff]
      intro nonempty
      simpa using finish _ (List.getLast?_eq_some_getLast nonempty)
    rw [trim, trimmed_eq_rdropWhile, noStart, noFinish, String.ofList_toList]

end PageContext.Text
