import Mathlib.Logic.Relation
import PageContext.Proofs.Transform.SettingForms

/-!
# Spellings of specifications

A specification may be spelled in several ways: its keys in another order, with keys that are no
settings, with values as texts, or as a name alone.  Settings are read in forms, which do not tell
these spellings apart; that `action` is taken out of an object first only changes the order.
-/

namespace PageContext.Transform

open Setting

/-! ## Spellings of specifications -/

/-- The names of the settings of a transform. -/
def settingNames : String → List String
  | "TimeAgoInDays" => ["hoursOffset"]
  | "DisplayDate" => ["relativeDays", "hoursOffset", "year", "shortMonth"]
  | "ArticleDate" => ["input", "shortDateField", "fullDateField"]
  | "AddYearMonthHeadings" => ["hoursOffset", "showYearInMonth"]
  | "Limit" => ["size"]
  | "RemoveDuplicates" | "RemoveDuplicatesFromGroups" =>
      ["dedupField", "priorityField", "priorityValues"]
  | "Sort" | "SortEachGroup" => ["fields", "orders"]
  | "Project" => ["fields", "removeEmpty"]
  | "FirstItem" => ["default"]
  | "NormalizeImages" => ["fields"]
  | _ => []

/-- A specification and another one that is to be read alike. -/
inductive Respells : Json → Json → Prop where
  /-- A name stands for the object with nothing but this name. -/
  | named (name : String) : Respells (.string name) (.object [("action", .string name)])
  | permuted {entries others : List (String × Json)} (distinct : Entries.DistinctKeys entries)
      (perm : entries.Perm others) : Respells (.object entries) (.object others)
  /-- A further key is no setting of the transform that is named. -/
  | extended {entries : List (String × Json)} {key : String} (value : Json)
      (distinct : Entries.DistinctKeys (entries ++ [(key, value)])) (noAction : key ≠ "action")
      (noSetting : ∀ name, Entries.get? "action" entries = some (.string name) →
        key ∉ settingNames name) :
      Respells (.object entries) (.object (entries ++ [(key, value)]))
  | respelled (before after : List (String × Json)) {key : String} {kind : Kind} {old new : Json}
      (distinct : Entries.DistinctKeys (before ++ (key, old) :: after))
      (isKind : kind? key = some kind) (respelled : Respelled kind old new) :
      Respells (.object (before ++ (key, old) :: after)) (.object (before ++ (key, new) :: after))

/-- Only the settings of a transform matter to it, and of them only what is read in their forms. -/
theorem ofSettings_eq_of_forms {name : String} {entries others : List (String × Json)}
    (same : ∀ {α : Type} {read : String → Json → α → Except SettingError α} (form : Form read),
      form.names ⊆ settingNames name → ∀ settings,
        (readAll read entries settings).toOption = (readAll read others settings).toOption) :
    (ofSettings name entries).toOption = (ofSettings name others).toOption := by
  unfold ofSettings
  split
  case h_1 | h_2 | h_6 | h_16 => rfl
  case h_3 => simp [same hoursForm (by decide)]
  case h_4 => simp [same displayForm (by decide)]
  case h_5 => simp [same articleForm (by decide)]
  case h_7 => simp [same headingForm (by decide)]
  case h_8 => simp [same sizeForm (by decide)]
  case h_9 => simp [same dedupForm (by decide)]
  case h_10 => simp [same dedupForm (by decide)]
  case h_11 => simp [same sortForm (by decide)]
  case h_12 => simp [same sortForm (by decide)]
  case h_13 => simp [same projectionForm (by decide)]
  case h_14 => simp [same defaultForm (by decide)]
  case h_15 => simp [same imagesForm (by decide)]

section

variable {entries others : List (String × Json)}

/-- Taking out the name first does not matter to the settings. -/
theorem ofSpec_object {name : String} (distinct : Entries.DistinctKeys entries)
    (isNamed : Entries.get? "action" entries = some (.string name)) :
    (ofSpec (.object entries)).toOption = (ofSettings name entries).toOption := by
  have perm := Entries.cons_swapRemove_perm isNamed
  simp only [ofSpec, isNamed]
  apply ofSettings_eq_of_forms
  intro α read form _ settings
  rw [form.readAll_perm distinct perm.symm, form.readAll_of_notMem form.noAction]

theorem ofSpec_object_of_unnamed
    (noName : ∀ name, Entries.get? "action" entries ≠ some (.string name)) :
    (ofSpec (.object entries)).toOption = none := by
  rw [ofSpec]
  split
  · next name isNamed => exact absurd isNamed (noName name)
  · rfl

theorem ofSpec_object_eq (distinct : Entries.DistinctKeys entries)
    (othersDistinct : Entries.DistinctKeys others)
    (sameAction : Entries.get? "action" others = Entries.get? "action" entries)
    (same : ∀ name, Entries.get? "action" entries = some (.string name) →
      (ofSettings name entries).toOption = (ofSettings name others).toOption) :
    (ofSpec (.object entries)).toOption = (ofSpec (.object others)).toOption := by
  by_cases isNamed : ∃ name, Entries.get? "action" entries = some (.string name)
  · rcases isNamed with ⟨name, isNamed⟩
    rw [ofSpec_object distinct isNamed, same name isNamed,
      ofSpec_object othersDistinct (sameAction.trans isNamed)]
  · have noName := not_exists.mp isNamed
    rw [ofSpec_object_of_unnamed noName,
      ofSpec_object_of_unnamed fun name => sameAction ▸ noName name]

end

theorem Respells.ofSpec_eq {spec other : Json} (respells : Respells spec other) :
    (ofSpec spec).toOption = (ofSpec other).toOption := by
  cases respells with
  | named name => rfl
  | @permuted entries others distinct perm =>
      have othersDistinct : Entries.DistinctKeys others := (perm.map Prod.fst).nodup_iff.mp distinct
      apply ofSpec_object_eq distinct othersDistinct (Entries.get?_of_perm distinct perm "action")
      intro name _
      exact ofSettings_eq_of_forms fun form _ settings => form.readAll_perm distinct perm settings
  | @extended entries key value distinct noAction noSetting =>
      have entriesDistinct : Entries.DistinctKeys entries := by
        rw [Entries.DistinctKeys, Entries.keys, List.map_append, List.nodup_append] at distinct
        exact distinct.1
      have sameAction : Entries.get? "action" (entries ++ [(key, value)]) =
          Entries.get? "action" entries := by
        simp [Entries.get?_append, Entries.get?, noAction]
      apply ofSpec_object_eq entriesDistinct distinct sameAction
      intro name isNamed
      apply ofSettings_eq_of_forms
      intro α read form areSettings settings
      have noSlot : key ∉ form.names := fun isSlot => noSetting name isNamed (areSettings isSlot)
      -- The further key may as well come first, where it is passed over.
      have lastFirst := List.perm_append_singleton (key, value) entries
      rw [form.readAll_perm distinct lastFirst, form.readAll_of_notMem noSlot]
  | @respelled before after key _ old new distinct isKind respelled =>
      have newDistinct : Entries.DistinctKeys (before ++ (key, new) :: after) := by
        simpa [Entries.DistinctKeys, Entries.keys] using distinct
      have noAction : key ≠ "action" := by
        rintro rfl
        simp [kind?] at isKind
      have sameAction : Entries.get? "action" (before ++ (key, new) :: after) =
          Entries.get? "action" (before ++ (key, old) :: after) := by
        simp [Entries.get?_append, Entries.get?, noAction]
      apply ofSpec_object_eq distinct newDistinct sameAction
      intro name _
      apply ofSettings_eq_of_forms
      intro α read form _ settings
      rw [form.readAll_eq_of_respelled isKind respelled]

/-- Specifications that differ in their spelling only stand for the same transform, or none of them
stands for one. -/
theorem ofSpec_spelling :
    (∀ spec other, Relation.EqvGen Respells spec other →
      (ofSpec spec).toOption = (ofSpec other).toOption) ∧
    ∀ name, ofSpec (.string name) = ofSpec (.object [("action", .string name)]) := by
  refine ⟨fun spec other alike => ?_, fun name => rfl⟩
  induction alike with
  | rel _ _ respells => exact respells.ofSpec_eq
  | refl _ => rfl
  | symm _ _ _ hypothesis => exact hypothesis.symm
  | trans _ _ _ _ _ left right => exact left.trans right

/-- The conclusion for a number that is spelled as a text with blanks, a boolean that is spelled as
another text, and a key that is no setting, all before the name. -/
theorem ofSpec_spelling_display :
    let spec : Json := .object [("action", .string "DisplayDate"), ("relativeDays", .int (-7)),
      ("shortMonth", .bool true)]
    let other : Json := .object [("note", .null), ("shortMonth", .string "1"),
      ("relativeDays", .string " -7 "), ("action", .string "DisplayDate")]
    Relation.EqvGen Respells spec other ∧
      ofSpec spec = .ok (.displayDate { relativeDays := -7, shortMonth := true }) ∧
      (ofSpec spec).toOption = (ofSpec other).toOption := by
  intro spec other
  have blanks : ∀ character ∈ [' '] ++ [' '], Text.isBlank character = true := by
    simp [Text.isBlank]
  have isText : " -7 ".toList = [' '] ++ (toString (-7 : Int)).toList ++ [' '] := by decide
  have holds : Text.HoldsInteger " -7 " (-7) :=
    Text.holdsInteger_of_toString isText blanks (by decide) (by decide)
  let named : String × Json := ("action", .string "DisplayDate")
  let days : String × Json := ("relativeDays", .string " -7 ")
  let short : String × Json := ("shortMonth", .string "1")
  have first : Respells spec (.object [named, days, ("shortMonth", .bool true)]) :=
    .respelled [named] [_] (by decide) rfl (.decimal holds)
  have second : Respells (.object [named, days, ("shortMonth", .bool true)])
      (.object [named, days, short]) :=
    .respelled [named, days] [] (by decide) rfl (.trueText (.inr rfl))
  have third : Respells (.object [named, days, short])
      (.object ([named, days, short] ++ [("note", .null)])) := by
    refine .extended .null (by decide) (by decide) fun name isNamed => ?_
    cases isNamed
    decide
  have fourth : Respells (.object ([named, days, short] ++ [("note", .null)])) other :=
    .permuted (by decide) (List.reverse_perm _).symm
  have alike : Relation.EqvGen Respells spec other :=
    (((Relation.EqvGen.rel _ _ first).trans _ _ _ (.rel _ _ second)).trans _ _ _
      (.rel _ _ third)).trans _ _ _ (.rel _ _ fourth)
  exact ⟨alike, rfl, ofSpec_spelling.1 spec other alike⟩

end PageContext.Transform
