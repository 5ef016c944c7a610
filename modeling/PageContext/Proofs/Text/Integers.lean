import PageContext.Proofs.Text.Decimal

/-!
# Integers between blanks

An integer is a run of digits with a sign or without one, and a text holds it when nothing but blanks
stands around it.  Readers that trim a text first find exactly the integers that it holds.
-/

namespace PageContext.Text

/-- The characters of an integer; zeros may stand in front of its digits. -/
inductive IsInteger : List Char → Int → Prop where
  | unsigned {run : List Char} {magnitude : Nat} (isRun : digits? run = some magnitude) :
      IsInteger run magnitude
  | plus {run : List Char} {magnitude : Nat} (isRun : digits? run = some magnitude) :
      IsInteger ('+' :: run) magnitude
  | minus {run : List Char} {magnitude : Nat} (isRun : digits? run = some magnitude) :
      IsInteger ('-' :: run) (-magnitude)

/-- A text that is an integer of 64 bits, the blanks at its ends aside. -/
structure HoldsInteger (text : String) (value : Int) : Prop where
  written : ∃ front number back, text.toList = front ++ number ++ back ∧
    (∀ character ∈ front ++ back, isBlank character = true) ∧ IsInteger number value
  least : -Nat.pow 2 63 ≤ value
  below : value < Nat.pow 2 63

/-! ## Blanks at the ends -/

theorem exists_trim (text : String) :
    ∃ front back, text.toList = front ++ (trim text).toList ++ back ∧
      ∀ character ∈ front ++ back, isBlank character = true := by
  refine ⟨text.toList.takeWhile isBlank, (dropBlanks text.toList).rtakeWhile isBlank, ?_, ?_⟩
  · rw [trim, String.toList_ofList, trimmed_eq_rdropWhile, List.append_assoc,
      List.rdropWhile_append_rtakeWhile, dropBlanks, List.takeWhile_append_dropWhile]
  · intro character member
    rcases List.mem_append.mp member with inFront | inBack
    · exact List.mem_takeWhile_imp inFront
    · exact List.mem_rtakeWhile_imp inBack

theorem trim_of_surrounded {text core : String} (isTrimmed : IsTrimmed core) {front back : List Char}
    (isText : text.toList = front ++ core.toList ++ back)
    (blanks : ∀ character ∈ front ++ back, isBlank character = true) : trim text = core := by
  rw [List.forall_mem_append] at blanks
  have behindFront : dropBlanks text.toList = dropBlanks (core.toList ++ back) := by
    simp only [isText, dropBlanks, List.append_assoc, List.dropWhile_append_of_pos blanks.1]
  by_cases isEmpty : core = ""
  · have nothingLeft : dropBlanks back = [] := by
      simpa [dropBlanks] using blanks.2
    simp [trim, trimmed_eq_rdropWhile, behindFront, isEmpty, nothingLeft]
  · have kept : ∀ rest, dropBlanks (core.toList ++ rest) = core.toList ++ rest := by
      cases characters : core.toList with
      | nil => simp [isEmpty] at characters
      | cons first rest => simp [dropBlanks, isTrimmed.start first (by simp [characters])]
    have cutOff : (core.toList ++ back).rdropWhile isBlank = core.toList.rdropWhile isBlank := by
      have blanksReversed : ∀ character ∈ back.reverse, isBlank character = true := by
        simpa using blanks.2
      simp [List.rdropWhile, List.dropWhile_append_of_pos blanksReversed]
    calc trim text = String.ofList (core.toList.rdropWhile isBlank) := by
          rw [trim, trimmed_eq_rdropWhile, behindFront, kept, cutOff]
      _ = trim core := by
          have keptAlone := kept []
          rw [List.append_nil] at keptAlone
          rw [trim, trimmed_eq_rdropWhile, keptAlone]
      _ = core := (trim_eq_self_iff core).mpr isTrimmed

/-! ## Integers -/

theorem signed?_eq_some_iff {bits : Nat} {text : String} {value : Int} :
    signed? bits text = some value ↔
      IsInteger text.toList value ∧ fitsSigned bits value = true := by
  have noSign : ∀ {sign : Char} {run : List Char} {magnitude : Nat}, sign.isDigit = false →
      digits? (sign :: run) ≠ some magnitude := by
    intro sign run magnitude noDigit isRun
    simp [digits?_eq_none_of_head noDigit] at isRun
  rw [signed?, Option.filter_eq_some_iff]
  refine and_congr_left fun _ => ?_
  split
  · next run isText =>
    rw [isText, Option.map_eq_some_iff]
    constructor
    · rintro ⟨magnitude, isRun, rfl⟩
      exact .plus isRun
    · intro isInteger
      cases isInteger with
      | unsigned isRun => exact absurd isRun (noSign (by decide))
      | plus isRun => exact ⟨_, isRun, rfl⟩
  · next run isText =>
    rw [isText, Option.map_eq_some_iff]
    constructor
    · rintro ⟨magnitude, isRun, rfl⟩
      exact .minus isRun
    · intro isInteger
      cases isInteger with
      | unsigned isRun => exact absurd isRun (noSign (by decide))
      | minus isRun => exact ⟨_, isRun, rfl⟩
  · next noPlus noMinus =>
    rw [Option.map_eq_some_iff]
    constructor
    · rintro ⟨magnitude, isRun, rfl⟩
      exact .unsigned isRun
    · intro isInteger
      generalize characters : text.toList = number at isInteger
      cases isInteger with
      | unsigned isRun => exact ⟨_, isRun, rfl⟩
      | plus isRun => exact absurd characters (noPlus _)
      | minus isRun => exact absurd characters (noMinus _)

theorem fitsSigned_iff {value : Int} :
    fitsSigned 64 value = true ↔ -Nat.pow 2 63 ≤ value ∧ value < Nat.pow 2 63 := by
  simp [fitsSigned, and_comm]

theorem IsInteger.noBlank {number : List Char} {value : Int} (isInteger : IsInteger number value) :
    ∀ character ∈ number, isBlank character = false := by
  have inRun : ∀ {run : List Char} {magnitude : Nat}, digits? run = some magnitude →
      ∀ character ∈ run, isBlank character = false := by
    intro run magnitude isRun character member
    apply isBlank_of_isDigit
    exact (digits?_eq_some_iff.mp isRun).2.1 character member
  cases isInteger with
  | unsigned isRun => exact inRun isRun
  | plus isRun => exact List.forall_mem_cons.mpr ⟨by decide, inRun isRun⟩
  | minus isRun => exact List.forall_mem_cons.mpr ⟨by decide, inRun isRun⟩

/-- Trimming a text and reading it finds the integer that the text holds, and nothing else. -/
theorem signed?_trim_eq_some_iff {text : String} {value : Int} :
    signed? 64 (trim text) = some value ↔ HoldsInteger text value := by
  rw [signed?_eq_some_iff, fitsSigned_iff]
  constructor
  · rintro ⟨isInteger, least, below⟩
    rcases exists_trim text with ⟨front, back, isText, blanks⟩
    exact ⟨⟨front, _, back, isText, blanks, isInteger⟩, least, below⟩
  · rintro ⟨⟨front, number, back, isText, blanks, isInteger⟩, least, below⟩
    have isTrimmed : IsTrimmed (String.ofList number) := by
      constructor <;> intro character atEnd <;> rw [String.toList_ofList] at atEnd
      · exact isInteger.noBlank character (List.mem_of_head? atEnd)
      · exact isInteger.noBlank character (List.mem_of_getLast? atEnd)
    have isTrim : trim text = String.ofList number := by
      apply trim_of_surrounded isTrimmed _ blanks
      simpa using isText
    rw [isTrim, String.toList_ofList]
    exact ⟨isInteger, least, below⟩

/-- The decimal text of an integer of 64 bits holds it, whatever blanks stand around it. -/
theorem holdsInteger_of_toString {text : String} {value : Int} {front back : List Char}
    (isText : text.toList = front ++ (toString value).toList ++ back)
    (blanks : ∀ character ∈ front ++ back, isBlank character = true)
    (least : -Nat.pow 2 63 ≤ value) (below : value < Nat.pow 2 63) : HoldsInteger text value := by
  have isRead := signed?_toString (fitsSigned_iff.mpr ⟨least, below⟩)
  have isInteger := (signed?_eq_some_iff.mp isRead).1
  exact ⟨⟨front, _, back, isText, blanks, isInteger⟩, least, below⟩

end PageContext.Text
