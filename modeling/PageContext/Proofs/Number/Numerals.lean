import PageContext.Number.Decimal
import PageContext.Proofs.Text.Decimal

/-!
# Numerals

A numeral is a sign or none before one of the words for infinity and for no number, or before
digits with a point among or around them and a power of ten.  Exactly the numerals are read as
numbers, and those that consist of a sign and digits alone are read as integers if they are small
enough.
-/

namespace PageContext

/-- An optional sign. -/
def IsSign (characters : List Char) : Prop :=
  characters = [] ∨ characters = ['+'] ∨ characters = ['-']

def AreDigits (characters : List Char) : Prop :=
  ∀ character ∈ characters, character.isDigit = true

/-- The fraction of a numeral with its point, or nothing. -/
inductive IsFraction : (characters digits : List Char) → Prop where
  | missing : IsFraction [] []
  | given {digits : List Char} (areDigits : AreDigits digits) :
      IsFraction ('.' :: digits) digits

/-- The power of ten of a numeral, or nothing. -/
inductive IsPower : List Char → Prop where
  | missing : IsPower []
  | given {mark : Char} (isMark : mark = 'e' ∨ mark = 'E') {sign digits : List Char}
      (isSign : IsSign sign) (present : digits ≠ []) (areDigits : AreDigits digits) :
      IsPower (mark :: (sign ++ digits))

/-- A numeral without its sign. -/
inductive IsUnsignedNumeral : List Char → Prop where
  | word {characters : List Char}
      (isWord : String.ofList (characters.map Char.toLower) ∈ ["inf", "infinity", "nan"]) :
      IsUnsignedNumeral characters
  | decimal {whole fraction fractionDigits power : List Char} (areDigits : AreDigits whole)
      (isFraction : IsFraction fraction fractionDigits) (present : whole ++ fractionDigits ≠ [])
      (isPower : IsPower power) : IsUnsignedNumeral (whole ++ fraction ++ power)

/-- A text that stands for a number. -/
def IsNumeral (text : String) : Prop :=
  ∃ sign body, IsSign sign ∧ IsUnsignedNumeral body ∧ text.toList = sign ++ body

/-! ## Parts of numerals -/

theorem digits?_isSome_iff {characters : List Char} :
    (Text.digits? characters).isSome = true ↔ characters ≠ [] ∧ AreDigits characters := by
  rw [Option.isSome_iff_exists]
  constructor
  · rintro ⟨number, isNumber⟩
    have parts := Text.digits?_eq_some_iff.mp isNumber
    exact ⟨parts.1, parts.2.1⟩
  · rintro ⟨present, areDigits⟩
    exact ⟨_, Text.digits?_eq_some_iff.mpr ⟨present, areDigits, rfl⟩⟩

theorem leadingDigits_append {digits rest : List Char} (areDigits : AreDigits digits)
    (boundary : ∀ character ∈ rest.head?, character.isDigit = false) :
    leadingDigits (digits ++ rest) = (digits, rest) := by
  rw [leadingDigits, Text.takeWhile_run areDigits boundary, Text.dropWhile_run areDigits boundary]

theorem leadingDigits_spec (characters : List Char) :
    AreDigits (leadingDigits characters).1 ∧
      (leadingDigits characters).1 ++ (leadingDigits characters).2 = characters := by
  refine ⟨?_, List.takeWhile_append_dropWhile⟩
  intro character member
  exact List.mem_takeWhile_imp member

theorem exponent?_isSome_iff {characters : List Char} :
    (PlainNumber.exponent? characters).isSome = true ↔
      ∃ sign digits, IsSign sign ∧ digits ≠ [] ∧ AreDigits digits ∧ characters = sign ++ digits := by
  constructor
  · intro isExponent
    unfold PlainNumber.exponent? at isExponent
    split at isExponent
    all_goals
      rw [Option.isSome_map] at isExponent
      rcases digits?_isSome_iff.mp isExponent with ⟨present, areDigits⟩
    · exact ⟨['+'], _, .inr (.inl rfl), present, areDigits, rfl⟩
    · exact ⟨['-'], _, .inr (.inr rfl), present, areDigits, rfl⟩
    · exact ⟨[], _, .inl rfl, present, areDigits, rfl⟩
  · rintro ⟨sign, digits, isSign, present, areDigits, rfl⟩
    have isSome := digits?_isSome_iff.mpr ⟨present, areDigits⟩
    rcases isSign with rfl | rfl | rfl
    · cases digits with
      | nil => contradiction
      | cons first rest =>
          have isDigit := areDigits first List.mem_cons_self
          unfold PlainNumber.exponent?
          split
          · next plus => simp [(List.cons.inj plus).1] at isDigit
          · next minus => simp [(List.cons.inj minus).1] at isDigit
          · rwa [Option.isSome_map]
    · rwa [List.singleton_append, PlainNumber.exponent?, Option.isSome_map]
    · rwa [List.singleton_append, PlainNumber.exponent?, Option.isSome_map]

theorem power?_isSome_iff {characters : List Char} :
    (PlainNumber.power? characters).isSome = true ↔ IsPower characters := by
  constructor
  · intro isPower
    cases characters with
    | nil => exact .missing
    | cons mark rest =>
        rw [PlainNumber.power?] at isPower
        split at isPower
        · next isMark =>
          rcases exponent?_isSome_iff.mp isPower with
            ⟨sign, digits, isSign, present, areDigits, rfl⟩
          exact .given (by simpa using isMark) isSign present areDigits
        · simp at isPower
  · intro isPower
    cases isPower with
    | missing => rfl
    | given isMark isSign present areDigits =>
        rw [PlainNumber.power?, if_pos (by simpa using isMark)]
        exact exponent?_isSome_iff.mpr ⟨_, _, isSign, present, areDigits, rfl⟩

/-- A power of ten begins with its mark, if it is there. -/
theorem IsPower.head {power : List Char} (isPower : IsPower power) :
    ∀ character ∈ power.head?, character = 'e' ∨ character = 'E' := by
  cases isPower with
  | missing => simp
  | given isMark isSign present areDigits =>
      rw [List.head?_cons]
      rintro character ⟨⟩
      exact isMark

theorem IsPower.boundary {power : List Char} (isPower : IsPower power) :
    ∀ character ∈ power.head?, character.isDigit = false := by
  intro character isHead
  rcases isPower.head character isHead with rfl | rfl <;> decide

theorem IsFraction.boundary {fraction digits power : List Char}
    (isFraction : IsFraction fraction digits) (isPower : IsPower power) :
    ∀ character ∈ (fraction ++ power).head?, character.isDigit = false := by
  cases isFraction with
  | missing => exact isPower.boundary
  | given areDigits =>
      rw [List.cons_append, List.head?_cons]
      rintro character ⟨⟩
      decide

theorem IsFraction.areDigits {fraction digits : List Char} (isFraction : IsFraction fraction digits) :
    AreDigits digits := by
  cases isFraction with
  | missing => simp [AreDigits]
  | given areDigits => exact areDigits

theorem fractionDigits_append {fraction digits power : List Char}
    (isFraction : IsFraction fraction digits) (isPower : IsPower power) :
    PlainNumber.fractionDigits (fraction ++ power) = (digits, power) := by
  cases isFraction with
  | missing =>
      unfold PlainNumber.fractionDigits
      split
      · next isPoint =>
        rw [List.nil_append] at isPoint
        exact absurd (isPower.head '.' (by simp [isPoint])) (by decide)
      · rfl
  | given areDigits =>
      rw [List.cons_append, PlainNumber.fractionDigits,
        leadingDigits_append areDigits isPower.boundary]

theorem fractionDigits_spec (characters : List Char) :
    ∃ fraction, IsFraction fraction (PlainNumber.fractionDigits characters).1 ∧
      characters = fraction ++ (PlainNumber.fractionDigits characters).2 := by
  unfold PlainNumber.fractionDigits
  split
  · next rest =>
    rcases leadingDigits_spec rest with ⟨areDigits, isRest⟩
    exact ⟨_, .given areDigits, by rw [List.cons_append, isRest]⟩
  · exact ⟨[], .missing, rfl⟩

theorem decimalParts?_isSome_iff {characters : List Char} :
    (PlainNumber.decimalParts? characters).isSome = true ↔
      ∃ whole fraction fractionDigits power, AreDigits whole ∧ IsFraction fraction fractionDigits ∧
        whole ++ fractionDigits ≠ [] ∧ IsPower power ∧
        characters = whole ++ fraction ++ power := by
  have isSome_iff : (PlainNumber.decimalParts? characters).isSome = true ↔
      (Text.digits? ((leadingDigits characters).1 ++
        (PlainNumber.fractionDigits (leadingDigits characters).2).1)).isSome = true ∧
      (PlainNumber.power?
        (PlainNumber.fractionDigits (leadingDigits characters).2).2).isSome = true := by
    simp only [PlainNumber.decimalParts?]
    generalize PlainNumber.power? _ = power
    generalize Text.digits? _ = significand
    cases significand <;> cases power <;> simp
  rw [isSome_iff, digits?_isSome_iff, power?_isSome_iff]
  constructor
  · rintro ⟨⟨present, _⟩, isPower⟩
    rcases leadingDigits_spec characters with ⟨areDigits, isWhole⟩
    rcases fractionDigits_spec (leadingDigits characters).2 with ⟨fraction, isFraction, isRest⟩
    refine ⟨_, fraction, _, _, areDigits, isFraction, present, isPower, ?_⟩
    rw [List.append_assoc, ← isRest, isWhole]
  · rintro ⟨whole, fraction, digits, power, areDigits, isFraction, present, isPower, rfl⟩
    rw [List.append_assoc, leadingDigits_append areDigits (isFraction.boundary isPower),
      fractionDigits_append isFraction isPower]
    exact ⟨⟨present, List.forall_mem_append.mpr ⟨areDigits, isFraction.areDigits⟩⟩, isPower⟩

/-! ## Numerals and numbers -/

/-- A numeral without its sign begins with a digit, a point or the first letter of a word. -/
theorem IsUnsignedNumeral.head {body : List Char} (isUnsigned : IsUnsignedNumeral body) :
    ∃ first rest, body = first :: rest ∧
      (first.isDigit = true ∨ first = '.' ∨ first.toLower = 'i' ∨ first.toLower = 'n') := by
  cases isUnsigned with
  | word isWord =>
      cases body with
      | nil => exact absurd isWord (by decide)
      | cons first rest =>
          refine ⟨first, rest, rfl, .inr (.inr ?_)⟩
          simp only [List.map_cons, List.mem_cons, List.not_mem_nil, or_false] at isWord
          rcases isWord with isWord | isWord | isWord
          all_goals
            have letters := congrArg String.toList isWord
            rw [String.toList_ofList] at letters
            have isFirst := (List.cons.inj letters).1
          · exact .inl isFirst
          · exact .inl isFirst
          · exact .inr isFirst
  | @decimal whole fraction digits power areDigits isFraction present isPower =>
      cases whole with
      | cons first rest => exact ⟨first, _, rfl, .inl (areDigits first List.mem_cons_self)⟩
      | nil =>
          cases isFraction with
          | missing => exact absurd rfl present
          | given _ => exact ⟨'.', _, rfl, .inr (.inl rfl)⟩

theorem isUnsignedNumeral_iff {body : List Char} :
    IsUnsignedNumeral body ↔
      String.ofList (body.map Char.toLower) ∈ ["inf", "infinity", "nan"] ∨
        (PlainNumber.decimalParts? body).isSome = true := by
  rw [decimalParts?_isSome_iff]
  constructor
  · intro isUnsigned
    cases isUnsigned with
    | word isWord => exact .inl isWord
    | decimal areDigits isFraction present isPower =>
        exact .inr ⟨_, _, _, _, areDigits, isFraction, present, isPower, rfl⟩
  · rintro (isWord | ⟨_, _, _, _, areDigits, isFraction, present, isPower, rfl⟩)
    · exact .word isWord
    · exact .decimal areDigits isFraction present isPower

theorem ofUnsigned?_isSome_iff {negative : Bool} {body : List Char} :
    (PlainNumber.ofUnsigned? negative body).isSome = true ↔ IsUnsignedNumeral body := by
  rw [isUnsignedNumeral_iff]
  simp only [PlainNumber.ofUnsigned?, Bool.or_eq_true, decide_eq_true_eq, List.mem_cons,
    List.not_mem_nil, or_false]
  split
  · next isInfinity => rcases isInfinity with isWord | isWord <;> simp [isWord]
  · next noInfinity =>
    rw [not_or] at noInfinity
    split
    · next isWord => simp [isWord]
    · next noWord => simp [noInfinity, noWord]

/-- Exactly the numerals are read as numbers. -/
theorem ofText?_isSome_iff {text : String} :
    (PlainNumber.ofText? text).isSome = true ↔ IsNumeral text := by
  constructor
  · intro isNumber
    unfold PlainNumber.ofText? at isNumber
    split at isNumber
    · next rest isText => exact ⟨['-'], rest, .inr (.inr rfl), ofUnsigned?_isSome_iff.mp isNumber, isText⟩
    · next rest isText => exact ⟨['+'], rest, .inr (.inl rfl), ofUnsigned?_isSome_iff.mp isNumber, isText⟩
    · exact ⟨[], _, .inl rfl, ofUnsigned?_isSome_iff.mp isNumber, rfl⟩
  · rintro ⟨sign, body, isSign, isUnsigned, isText⟩
    have isSome : ∀ negative, (PlainNumber.ofUnsigned? negative body).isSome = true := fun _ =>
      ofUnsigned?_isSome_iff.mpr isUnsigned
    rw [PlainNumber.ofText?.eq_def, isText]
    rcases isSign with rfl | rfl | rfl
    · -- The body itself does not begin with a sign.
      rcases isUnsigned.head with ⟨first, rest, rfl, isFirst⟩
      rw [List.nil_append]
      split
      · next minus =>
        rw [(List.cons.inj minus).1] at isFirst
        exact absurd isFirst (by decide)
      · next plus =>
        rw [(List.cons.inj plus).1] at isFirst
        exact absurd isFirst (by decide)
      · exact isSome false
    · exact isSome false
    · exact isSome true

instance (text : String) : Decidable (IsNumeral text) :=
  decidable_of_iff _ ofText?_isSome_iff

/-- An integer is a numeral without a point and a power of ten. -/
theorem isNumeral_of_signed? {bits : Nat} {text : String} {value : Int}
    (isInteger : Text.signed? bits text = some value) : IsNumeral text := by
  have ofRun : ∀ {sign run : List Char}, IsSign sign → (Text.digits? run).isSome = true →
      text.toList = sign ++ run → IsNumeral text := by
    intro sign run isSign isRun isText
    rcases digits?_isSome_iff.mp isRun with ⟨present, areDigits⟩
    have isDecimal : IsUnsignedNumeral (run ++ [] ++ []) :=
      .decimal areDigits .missing (by simpa using present) .missing
    rw [List.append_nil, List.append_nil] at isDecimal
    exact ⟨sign, run, isSign, isDecimal, isText⟩
  unfold Text.signed? at isInteger
  have isRead := (Option.filter_eq_some_iff.mp isInteger).1
  split at isRead
  all_goals
    have isSome := Option.isSome_of_mem isRead
    rw [Option.isSome_map] at isSome
  · next isText => exact ofRun (.inr (.inl rfl)) isSome isText
  · next isText => exact ofRun (.inr (.inr rfl)) isSome isText
  · exact ofRun (.inl rfl) isSome rfl

theorem toLower_of_isDigit {character : Char} (isDigit : character.isDigit = true) :
    character.toLower = character := by
  have bounds := Text.toNat_bounds_of_isDigit isDigit
  have noUpper : ¬(character.val ≥ 'A'.val ∧ character.val ≤ 'Z'.val) := by
    rintro ⟨upper, _⟩
    have least : 65 ≤ character.toNat := UInt32.le_iff_toNat_le.mp upper
    omega
  exact dif_neg noUpper

/-- A numeral does not begin like one of the words for true and false. -/
theorem IsNumeral.head {text : String} (isNumeral : IsNumeral text) :
    ∃ first rest, text.toList = first :: rest ∧ first.toLower ≠ 't' ∧ first.toLower ≠ 'f' := by
  rcases isNumeral with ⟨sign, body, rfl | rfl | rfl, isUnsigned, isText⟩
  · rcases isUnsigned.head with ⟨first, rest, rfl, isFirst⟩
    refine ⟨first, rest, isText, ?_⟩
    rcases isFirst with isDigit | rfl | isWord | isWord
    · rw [toLower_of_isDigit isDigit]
      refine ⟨?_, ?_⟩ <;> rintro rfl <;> exact absurd isDigit (by decide)
    · decide
    · rw [isWord]
      decide
    · rw [isWord]
      decide
  · exact ⟨'+', body, isText, by decide⟩
  · exact ⟨'-', body, isText, by decide⟩

theorem IsNumeral.lowerAscii_ne {text : String} (isNumeral : IsNumeral text) :
    Text.lowerAscii text ≠ "true" ∧ Text.lowerAscii text ≠ "false" := by
  rcases isNumeral.head with ⟨first, rest, isText, notTrue, notFalse⟩
  have letters : (Text.lowerAscii text).toList = first.toLower :: rest.map Char.toLower := by
    rw [Text.lowerAscii, String.toList_ofList, isText, List.map_cons]
  refine ⟨?_, ?_⟩
  · intro isTrue
    rw [isTrue] at letters
    exact notTrue (List.cons.inj letters).1.symm
  · intro isFalse
    rw [isFalse] at letters
    exact notFalse (List.cons.inj letters).1.symm

end PageContext
