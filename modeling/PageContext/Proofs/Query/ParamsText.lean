import PageContext.Proofs.Text.Cuts
import PageContext.Query.Directive

/-!
# Parameters as text

A parameter is written as its key and, where it has a value, an equals sign and the value;
ampersands stand between parameters.  Reading such a line gives the parameters back as long as each
of them is plain: nothing in it would be trimmed, and nothing in it would be taken for a divider.
What is read from a line is always plain.

The one exception is the sole parameter with the empty key and no value.  It is written as the empty
line, which is read as no parameters at all.
-/

namespace PageContext.Params

open Query

/-- A parameter without blanks at the ends of its key and its value, and without dividers in
them; only a value may hold an equals sign. -/
structure IsPlain (param : String × Option String) : Prop where
  key_trimmed : Text.IsTrimmed param.1
  key_undivided : '&' ∉ param.1.toList ∧ '=' ∉ param.1.toList ∧ '\n' ∉ param.1.toList
  value_trimmed : ∀ value ∈ param.2, Text.IsTrimmed value
  value_undivided : ∀ value ∈ param.2, '&' ∉ value.toList ∧ '\n' ∉ value.toList

instance (param : String × Option String) : Decidable (IsPlain param) :=
  decidable_of_iff (Text.IsTrimmed param.1 ∧
      ('&' ∉ param.1.toList ∧ '=' ∉ param.1.toList ∧ '\n' ∉ param.1.toList) ∧
      (∀ value ∈ param.2, Text.IsTrimmed value) ∧
      ∀ value ∈ param.2, '&' ∉ value.toList ∧ '\n' ∉ value.toList)
    ⟨fun parts => ⟨parts.1, parts.2.1, parts.2.2.1, parts.2.2.2⟩, fun plain =>
      ⟨plain.key_trimmed, plain.key_undivided, plain.value_trimmed, plain.value_undivided⟩⟩

/-! ## One parameter -/

theorem ofPair_paramText {param : String × Option String} (plain : IsPlain param) :
    ofPair (paramText param) = param := by
  rcases param with ⟨key, value⟩
  have sameKey := (Text.trim_eq_self_iff key).mpr plain.key_trimmed
  cases value with
  | none =>
      have noCut : Text.cut '=' key = none :=
        (Text.cut_eq_none_iff '=' key).mpr plain.key_undivided.2.1
      simp [paramText, ofPair, noCut, sameKey]
  | some value =>
      have isCut : Text.cut '=' (key ++ "=" ++ value) = some (key, value) :=
        Text.cut_eq_some_iff.mpr ⟨plain.key_undivided.2.1, by simp⟩
      have sameValue := (Text.trim_eq_self_iff value).mpr (plain.value_trimmed value rfl)
      simp [paramText, ofPair, isCut, sameKey, sameValue]

theorem paramText_undivided {param : String × Option String} (plain : IsPlain param) :
    '&' ∉ (paramText param).toList ∧ '\n' ∉ (paramText param).toList := by
  rcases param with ⟨key, _ | value⟩
  · exact ⟨plain.key_undivided.1, plain.key_undivided.2.2⟩
  · have inKey := plain.key_undivided
    have inValue := plain.value_undivided value rfl
    simp [paramText, inKey, inValue]

/-- The parameter that is read from a piece of a line is plain. -/
theorem isPlain_ofPair {pair : String} (noAmpersand : '&' ∉ pair.toList)
    (single : '\n' ∉ pair.toList) : IsPlain (ofPair pair) := by
  have undivided : ∀ {text : String} {character : Char}, character ∉ text.toList →
      character ∉ (Text.trim text).toList := by
    intro text character absent inTrimmed
    rw [Text.trim, String.toList_ofList] at inTrimmed
    exact absent (Text.trimmed_subset _ inTrimmed)
  rw [ofPair]
  split
  · next key value isCut =>
    rcases Text.cut_eq_some_iff.mp isCut with ⟨noEquals, parts⟩
    simp only [parts, List.mem_append, List.mem_cons, not_or] at noAmpersand single
    refine ⟨Text.isTrimmed_trim key, ⟨?_, ?_, ?_⟩, ?_, ?_⟩
    · exact undivided noAmpersand.1
    · exact undivided noEquals
    · exact undivided single.1
    · rintro _ ⟨⟩
      exact Text.isTrimmed_trim value
    · rintro _ ⟨⟩
      exact ⟨undivided noAmpersand.2.2, undivided single.2.2⟩
  · next isNotCut =>
    have noEquals := (Text.cut_eq_none_iff '=' pair).mp isNotCut
    exact ⟨Text.isTrimmed_trim pair,
      ⟨undivided noAmpersand, undivided noEquals, undivided single⟩, by simp, by simp⟩

/-! ## A line of parameters -/

/-- The line that parameters are written as, if there are any. -/
def line : Params → Option String
  | [] => none
  | param :: params => some (String.intercalate "&" ((param :: params).map paramText))

theorem distinctKeys_ofText (text : String) : Entries.DistinctKeys (ofText text) := by
  rw [ofText]
  split
  · exact List.nodup_nil
  · exact Entries.distinctKeys_ofPairs _

theorem isPlain_of_mem_ofText {text : String} (single : '\n' ∉ text.toList)
    {param : String × Option String} (member : param ∈ ofText text) : IsPlain param := by
  rw [ofText] at member
  split at member
  · simp at member
  · rcases List.mem_map.mp (Entries.mem_of_mem_ofPairs member) with ⟨piece, isPiece, rfl⟩
    rcases Text.mem_pieces isPiece with ⟨noAmpersand, inside⟩
    exact isPlain_ofPair noAmpersand fun lineFeed => single (inside lineFeed)

theorem line_single {params : Params} (plain : ∀ param ∈ params, IsPlain param) :
    ∀ text ∈ line params, '\n' ∉ text.toList := by
  intro text isLine lineFeed
  cases params with
  | nil => simp [line] at isLine
  | cons first rest =>
      rw [line, Option.mem_def, Option.some.injEq] at isLine
      subst isLine
      rcases Text.mem_intercalate lineFeed with inSeparator | ⟨piece, isPiece, inPiece⟩
      · exact absurd inSeparator (by decide)
      · rcases List.mem_map.mp isPiece with ⟨param, member, rfl⟩
        exact (paramText_undivided (plain param member)).2 inPiece

theorem eq_bare_of_paramText_eq_empty {param : String × Option String}
    (isEmpty : paramText param = "") : param = ("", none) := by
  rcases param with ⟨key, _ | value⟩
  · rw [show key = "" from isEmpty]
  · have characters := congrArg String.toList isEmpty
    simp [paramText] at characters

/-- Plain parameters are read from their line as they are and in their order. -/
theorem ofText_line {params : Params} (distinct : Entries.DistinctKeys params)
    (plain : ∀ param ∈ params, IsPlain param) (notBare : params ≠ [("", none)]) :
    ((line params).map ofText).getD [] = params := by
  cases params with
  | nil => rfl
  | cons first rest =>
      have nonempty : (first :: rest).map paramText ≠ [] := by simp
      -- The empty line is read before any cut, and only the sole bare key is written as it.
      have notEmpty : String.intercalate "&" ((first :: rest).map paramText) ≠ "" := by
        intro isEmpty
        have sole := Text.eq_singleton_of_intercalate_eq_empty '&' nonempty isEmpty
        rw [List.map_cons, List.cons.injEq, List.map_eq_nil_iff] at sole
        rw [eq_bare_of_paramText_eq_empty sole.1, sole.2] at notBare
        exact notBare rfl
      have cut : Text.pieces '&' (String.intercalate "&" ((first :: rest).map paramText)) =
          (first :: rest).map paramText := by
        refine Text.pieces_intercalate '&' nonempty ?_
        intro text isText
        rcases List.mem_map.mp isText with ⟨param, member, rfl⟩
        exact (paramText_undivided (plain param member)).1
      have each : ((first :: rest).map paramText).map ofPair = first :: rest := by
        calc ((first :: rest).map paramText).map ofPair
            = (first :: rest).map (ofPair ∘ paramText) := List.map_map
          _ = (first :: rest).map id :=
              List.map_congr_left fun param member => ofPair_paramText (plain param member)
          _ = first :: rest := List.map_id _
      calc ((line (first :: rest)).map ofText).getD []
          = ofText (String.intercalate "&" ((first :: rest).map paramText)) := rfl
        _ = Entries.ofPairs (((first :: rest).map paramText).map ofPair) := by
            rw [ofText, if_neg notEmpty, cut]
        _ = first :: rest := by rw [each, Entries.ofPairs_of_distinctKeys distinct]

end PageContext.Params
