import PageContext.Log.Filter
import PageContext.Proofs.Success
import PageContext.Proofs.Text.Decimal

/-!
# Directives for modules

The directive for a module is its name, an equals sign and a level.  For a name such as programs
give to their modules, the directive can be read exactly if there is a known level behind the equals
sign, or nothing at all.
-/

namespace PageContext.LogDirective

def IsReadable (text : String) : Prop :=
  ∃ directive, parse text = .ok directive

/-- A level is known by its name, in any case, or by its number. -/
def IsLevel (text : String) : Prop :=
  Text.lowerAscii text ∈ LogSettings.levels ∨
    ∃ number ≤ greatestVerbosity, Text.unsigned? 64 text = some number

/-- A known level, or nothing, which stands for all levels.  A comma may follow, and blanks behind
the comma. -/
def IsAssignable (text : String) : Prop :=
  ∃ level, (level = "" ∨ IsLevel level) ∧
    (text = level ∨ ∃ blanks : String,
      (∀ character ∈ blanks.toList, Text.isBlank character = true) ∧
        text = level ++ "," ++ blanks)

/-- The characters in names of modules. -/
def isNameCharacter (character : Char) : Bool :=
  character.isAlphanum || character == '_' || character == ':' || character == '-'

def IsModuleName (name : String) : Prop :=
  name ≠ "" ∧ name.toList.all isNameCharacter = true

instance : DecidablePred IsModuleName := fun _ => inferInstanceAs (Decidable (_ ∧ _))

/-! ## Levels -/

/-- The levels are the texts for which there is a verbosity, the empty text aside. -/
theorem verbosity?_isSome_iff {text : String} (nonempty : text ≠ "") :
    (verbosity? text).isSome = true ↔ IsLevel text := by
  have isNumber : (∃ number ≤ greatestVerbosity, Text.unsigned? 64 text = some number) ↔
      ((Text.unsigned? 64 text).filter (· ≤ greatestVerbosity)).isSome = true := by
    simp only [Option.isSome_iff_exists, Option.filter_eq_some_iff, decide_eq_true_eq, and_comm]
  rw [IsLevel, isNumber, verbosity?]
  cases (Text.unsigned? 64 text).filter (· ≤ greatestVerbosity) with
  | some number => simp
  | none =>
      have noName : Text.lowerAscii text ≠ "" := by simpa [Text.lowerAscii] using nonempty
      generalize Text.lowerAscii text = lowered at noName
      simp only [noName, decide_false, Bool.false_or]
      split_ifs <;> simp_all [LogSettings.levels]

theorem levelVerbosity_isOk_iff {text : String} :
    (∃ verbosity, levelVerbosity text = .ok verbosity) ↔ text = "" ∨ IsLevel text := by
  by_cases isEmpty : text = ""
  · simp [levelVerbosity, isEmpty]
  · rw [or_iff_right isEmpty, ← verbosity?_isSome_iff isEmpty, levelVerbosity, if_neg isEmpty]
    cases verbosity? text <;> simp

theorem comma_notMem_of_isLevel {text : String} (isLevel : IsLevel text) : ',' ∉ text.toList := by
  intro isInside
  rcases isLevel with isName | ⟨number, _, isNumber⟩
  · have inLowered : ',' ∈ (Text.lowerAscii text).toList := by
      rw [Text.lowerAscii, String.toList_ofList]
      exact List.mem_map.mpr ⟨',', isInside, by decide⟩
    have noComma : ∀ name ∈ LogSettings.levels, ',' ∉ name.toList := by decide
    exact noComma _ isName inLowered
  · rcases Text.unsigned?_eq_some_iff.mp isNumber with ⟨_, run, isRun, isText⟩
    have inRun : ',' ∈ run := by
      rcases isText with isText | isText <;> simpa [isText] using isInside
    exact absurd ((Text.digits?_eq_some_iff.mp isRun).2.1 _ inRun) (by decide)

theorem assignedVerbosity_of_notMem {text : String} (noComma : ',' ∉ text.toList) :
    assignedVerbosity text = levelVerbosity text := by
  rw [assignedVerbosity, (Text.cut_eq_none_iff ',' text).mpr noComma]

theorem assignedVerbosity_append {level : String} (noComma : ',' ∉ level.toList) {blanks : String}
    (areBlanks : ∀ character ∈ blanks.toList, Text.isBlank character = true) :
    assignedVerbosity (level ++ "," ++ blanks) = levelVerbosity level := by
  have isCut : Text.cut ',' (level ++ "," ++ blanks) = some (level, blanks) :=
    Text.cut_eq_some_iff.mpr ⟨noComma, by simp⟩
  have allBlank : blanks.toList.all Text.isBlank = true := List.all_eq_true.mpr areBlanks
  simp only [assignedVerbosity, isCut, allBlank, if_true]
  cases levelVerbosity level <;> rfl

/-- What can be read behind an equals sign is what is assignable. -/
theorem assignedVerbosity_isOk_iff {text : String} :
    (∃ verbosity, assignedVerbosity text = .ok verbosity) ↔ IsAssignable text := by
  constructor
  · rintro ⟨verbosity, isAssigned⟩
    rw [assignedVerbosity] at isAssigned
    split at isAssigned
    · exact ⟨text, levelVerbosity_isOk_iff.mp ⟨verbosity, isAssigned⟩, .inl rfl⟩
    · next level blanks isCut =>
      rcases Except.bind_eq_ok_iff.mp isAssigned with ⟨_, isLevel, isRest⟩
      have isText : text = level ++ "," ++ blanks :=
        String.toList_inj.mp (by simpa using (Text.cut_eq_some_iff.mp isCut).2)
      refine ⟨level, levelVerbosity_isOk_iff.mp ⟨_, isLevel⟩, .inr ⟨blanks, ?_, isText⟩⟩
      split at isRest
      · next allBlank => exact List.all_eq_true.mp allBlank
      · contradiction
  · rintro ⟨level, isLevel, isText⟩
    have noComma : ',' ∉ level.toList := by
      rcases isLevel with rfl | isLevel
      · simp
      · exact comma_notMem_of_isLevel isLevel
    rcases isText with rfl | ⟨blanks, areBlanks, rfl⟩
    · rw [assignedVerbosity_of_notMem noComma]
      exact levelVerbosity_isOk_iff.mpr isLevel
    · rw [assignedVerbosity_append noComma areBlanks]
      exact levelVerbosity_isOk_iff.mpr isLevel

/-! ## Names -/

theorem isBlank_of_isNameCharacter {character : Char}
    (isName : isNameCharacter character = true) : Text.isBlank character = false := by
  have bounds : 45 ≤ character.toNat ∧ character.toNat ≤ 122 := by
    simp only [isNameCharacter, Bool.or_eq_true, beq_iff_eq] at isName
    rcases isName with ((isAlphanum | rfl) | rfl) | rfl
    · delta Char.isAlphanum Char.isAlpha Char.isUpper Char.isLower Char.isDigit at isAlphanum
      simp [UInt32.le_iff_toNat_le] at isAlphanum
      omega
    all_goals decide
  simp [Text.isBlank]
  omega

theorem mayBegin_of_isNameCharacter {character : Char}
    (isName : isNameCharacter character = true) : mayBegin character = true := by
  simp only [isNameCharacter, Bool.or_eq_true, beq_iff_eq] at isName
  rcases isName with ((isAlphanum | rfl) | rfl) | rfl
  · simp [mayBegin, isAlphanum]
  all_goals decide

/-- The name of a module ends in front of the equals sign. -/
theorem takeWhile_moduleName {name : String} (isName : IsModuleName name) (rest : List Char) :
    ((name.toList ++ '=' :: rest).takeWhile fun character =>
      character ≠ '=' && character ≠ '[' && character ≠ ',') = name.toList := by
  apply Text.takeWhile_run
  · intro character member
    have isInside := List.all_eq_true.mp isName.2 character member
    have differs : character ≠ '=' ∧ character ≠ '[' ∧ character ≠ ',' := by
      refine ⟨?_, ?_, ?_⟩ <;>
      · rintro rfl
        exact absurd isInside (by decide)
    simpa [and_assoc] using differs
  · simp

/-- Behind the name of a module and an equals sign a level is read. -/
theorem parse_assignment {name : String} (isName : IsModuleName name) (level : String) :
    parse (name ++ "=" ++ level) = (assignedVerbosity level).map (.static (some name)) := by
  have isText : (name ++ "=" ++ level).toList = name.toList ++ '=' :: level.toList := by
    simp
  have isRest : (name.toList ++ '=' :: level.toList).drop name.length = '=' :: level.toList :=
    List.drop_left' rfl
  rw [parse, isText, takeWhile_moduleName isName, String.ofList_toList]
  dsimp only
  rw [isRest]
  cases isStart : name.toList with
  | nil => simp [isName.1] at isStart
  | cons first rest =>
      have isFirst : isNameCharacter first = true :=
        List.all_eq_true.mp isName.2 first (by simp [isStart])
      have noBlank := isBlank_of_isNameCharacter isFirst
      rw [List.cons_append, Text.head?_trimmed noBlank]
      simp only [List.head?_cons, Option.map_some, Option.getD_some, noBlank,
        mayBegin_of_isNameCharacter isFirst, Bool.not_true, Bool.false_eq_true, if_false,
        String.ofList_toList]
      cases assignedVerbosity level <;> rfl

theorem isReadable_assignment_iff {name : String} (isName : IsModuleName name) (level : String) :
    IsReadable (name ++ "=" ++ level) ↔ IsAssignable level := by
  rw [IsReadable, parse_assignment isName, ← assignedVerbosity_isOk_iff]
  simp

end PageContext.LogDirective
