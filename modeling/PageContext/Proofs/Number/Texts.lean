import PageContext.Json.Printer
import PageContext.Proofs.Number.Numerals
import PageContext.Proofs.Number.ShortestDigits

/-!
# Texts of numbers

The text of a floating-point number is a decimal with a point or a power of ten, whose value rounds
to the number.  Different numbers therefore have different texts, and the text of an integer, which
has digits only, is none of them.
-/

namespace PageContext

/-- An unsigned decimal with a fraction or a power of ten, and its value. -/
inductive IsDecimal : List Char → ℚ → Prop where
  | decimal {whole fraction digits power : List Char} {significand : ℕ} {exponent : ℤ}
      (areDigits : AreDigits whole) (present : whole ≠ []) (isFraction : IsFraction fraction digits)
      (isPower : IsPower power) (marked : fraction ≠ [] ∨ power ≠ [])
      (isSignificand : Text.digits? (whole ++ digits) = some significand)
      (isExponent : PlainNumber.power? power = some exponent) :
      IsDecimal (whole ++ fraction ++ power) (significand * 10 ^ (exponent - digits.length))

/-- The characters that texts of numbers consist of. -/
def isNumberCharacter (character : Char) : Bool :=
  character.isDigit || ['-', '+', '.', 'e', 'E'].contains character

/-! ## Signs -/

/-- The sign of a text, which is left out in front of numbers that are not negative. -/
def signCharacters (negative : Bool) : List Char :=
  if negative then ['-'] else []

theorem toList_sign (negative : Bool) :
    (if negative then "-" else "").toList = signCharacters negative := by
  cases negative <;> rfl

theorem signCharacters_append_inj {left right : Bool} {first other : Char} {rest others : List Char}
    (firstDigit : first.isDigit = true) (otherDigit : other.isDigit = true)
    (same : signCharacters left ++ first :: rest = signCharacters right ++ other :: others) :
    left = right ∧ first :: rest = other :: others := by
  have noDigit : '-'.isDigit ≠ true := by decide
  cases left <;> cases right
  · exact ⟨rfl, same⟩
  · rw [(List.cons.inj same).1] at firstDigit
    contradiction
  · rw [← (List.cons.inj same).1] at otherDigit
    contradiction
  · exact ⟨rfl, (List.cons.inj same).2⟩

/-- The text of an integer is its sign and the digits of its magnitude. -/
theorem exists_toString (value : ℤ) :
    ∃ first rest, (toString value).toList = signCharacters (decide (value < 0)) ++ first :: rest ∧
      first.isDigit = true ∧ Text.digits? (first :: rest) = some value.natAbs := by
  have isText : (toString value).toList =
      signCharacters (decide (value < 0)) ++ (toString value.natAbs).toList := by
    cases value with
    | ofNat magnitude => rfl
    | negSucc magnitude =>
        rw [decide_eq_true (Int.negSucc_lt_zero magnitude)]
        exact Text.toList_toString_negSucc magnitude
  have areDigits := Text.digits?_toString value.natAbs
  rcases Text.digits?_eq_some_iff.mp areDigits with ⟨present, allDigits, _⟩
  rcases List.exists_cons_of_ne_nil present with ⟨first, rest, isBody⟩
  rw [isBody] at isText areDigits allDigits
  exact ⟨first, rest, isText, allDigits first List.mem_cons_self, areDigits⟩

/-! ## Decimals -/

theorem decimalParts?_append {whole fraction digits power : List Char} {significand : ℕ}
    {exponent : ℤ} (areDigits : AreDigits whole) (isFraction : IsFraction fraction digits)
    (isPower : IsPower power) (isSignificand : Text.digits? (whole ++ digits) = some significand)
    (isExponent : PlainNumber.power? power = some exponent) :
    PlainNumber.decimalParts? (whole ++ fraction ++ power) =
      some (significand, exponent - digits.length) := by
  have boundary := isFraction.boundary isPower
  rw [List.append_assoc]
  simp [PlainNumber.decimalParts?, leadingDigits_append areDigits boundary,
    fractionDigits_append isFraction isPower, isSignificand, isExponent]

theorem IsDecimal.unique {body : List Char} {left right : ℚ} (isLeft : IsDecimal body left)
    (isRight : IsDecimal body right) : left = right := by
  generalize isBody : body = other at isRight
  cases isLeft with
  | decimal areDigits _ isFraction isPower _ isSignificand isExponent =>
      have parts := decimalParts?_append areDigits isFraction isPower isSignificand isExponent
      cases isRight with
      | decimal areDigits _ isFraction isPower _ isSignificand isExponent =>
          rw [isBody, decimalParts?_append areDigits isFraction isPower isSignificand isExponent,
            Option.some.injEq, Prod.mk.injEq] at parts
          rw [parts.1, parts.2]

theorem IsDecimal.head {body : List Char} {value : ℚ} (isDecimal : IsDecimal body value) :
    ∃ first rest, body = first :: rest ∧ first.isDigit = true := by
  cases isDecimal with
  | @decimal whole _ _ _ _ _ areDigits present =>
      cases whole with
      | nil => contradiction
      | cons first rest => exact ⟨first, _, rfl, areDigits first List.mem_cons_self⟩

theorem IsDecimal.exists_mark {body : List Char} {value : ℚ} (isDecimal : IsDecimal body value) :
    ∃ mark ∈ body, mark = '.' ∨ mark = 'e' ∨ mark = 'E' := by
  cases isDecimal with
  | decimal areDigits present isFraction isPower marked _ _ =>
      rcases marked with hasFraction | hasPower
      · cases isFraction with
        | missing => contradiction
        | given _ => exact ⟨'.', by simp, .inl rfl⟩
      · cases isPower with
        | missing => contradiction
        | @given mark isMark => exact ⟨mark, by simp, .inr isMark⟩

theorem isNumberCharacter_of_isDigit {character : Char} (isDigit : character.isDigit = true) :
    isNumberCharacter character = true := by
  simp [isNumberCharacter, isDigit]

theorem IsPower.isNumberCharacter {power : List Char} (isPower : IsPower power) :
    ∀ character ∈ power, isNumberCharacter character = true := by
  cases isPower with
  | missing => simp
  | given isMark isSign _ areDigits =>
      rw [List.forall_mem_cons, List.forall_mem_append]
      refine ⟨?_, ?_, fun character member =>
        isNumberCharacter_of_isDigit (areDigits character member)⟩
      · rcases isMark with rfl | rfl <;> decide
      · rcases isSign with rfl | rfl | rfl <;> simp [PageContext.isNumberCharacter]

theorem IsDecimal.isNumberCharacter {body : List Char} {value : ℚ}
    (isDecimal : IsDecimal body value) :
    ∀ character ∈ body, isNumberCharacter character = true := by
  cases isDecimal with
  | decimal areDigits _ isFraction isPower _ _ _ =>
      rw [List.forall_mem_append, List.forall_mem_append]
      refine ⟨⟨fun character member => isNumberCharacter_of_isDigit (areDigits character member),
        ?_⟩, isPower.isNumberCharacter⟩
      cases isFraction with
      | missing => simp
      | given areDigits =>
          rw [List.forall_mem_cons]
          exact ⟨by decide, fun character member =>
            isNumberCharacter_of_isDigit (areDigits character member)⟩

/-! ## Digits with zeros -/

theorem ofDigitChars_zeros (count number : ℕ) :
    Nat.ofDigitChars 10 (List.replicate count '0') number = number * 10 ^ count := by
  induction count generalizing number with
  | zero => simp
  | succ count hypothesis =>
      rw [List.replicate_succ, Nat.ofDigitChars_cons, hypothesis, Nat.pow_succ]
      simp
      ring

theorem areDigits_zeros (count : ℕ) : AreDigits (List.replicate count '0') := by
  intro character member
  rw [List.eq_of_mem_replicate member]
  decide

theorem digits?_append_zeros {characters : List Char} {number : ℕ}
    (isNumber : Text.digits? characters = some number) (count : ℕ) :
    Text.digits? (characters ++ List.replicate count '0') = some (number * 10 ^ count) := by
  rcases Text.digits?_eq_some_iff.mp isNumber with ⟨present, areDigits, isValue⟩
  apply Text.digits?_eq_some_iff.mpr
  refine ⟨by simp [present], List.forall_mem_append.mpr ⟨areDigits, areDigits_zeros count⟩, ?_⟩
  rw [Nat.ofDigitChars_append, isValue, ofDigitChars_zeros]

theorem digits?_zeros_append {characters : List Char} {number : ℕ}
    (isNumber : Text.digits? characters = some number) (count : ℕ) :
    Text.digits? (List.replicate count '0' ++ characters) = some number := by
  rcases Text.digits?_eq_some_iff.mp isNumber with ⟨present, areDigits, isValue⟩
  apply Text.digits?_eq_some_iff.mpr
  refine ⟨by simp [present], List.forall_mem_append.mpr ⟨areDigits_zeros count, areDigits⟩, ?_⟩
  rw [Nat.ofDigitChars_append, ofDigitChars_zeros, Nat.zero_mul, isValue]

/-! ## Layouts -/

namespace NumberLayout

theorem toList_zeros (count : ℕ) : (zeros count).toList = List.replicate count '0' :=
  String.toList_ofList

/-- The power of ten behind the digits of a text. -/
def powerCharacters (power : ℤ) : List Char :=
  'e' :: ((if power < 0 then "-" else "+").toList ++ (toString power.natAbs).toList)

theorem isPower_powerCharacters (power : ℤ) :
    IsPower (powerCharacters power) ∧
      PlainNumber.power? (powerCharacters power) = some power := by
  unfold powerCharacters
  have isMagnitude := Text.digits?_toString power.natAbs
  rcases Text.digits?_eq_some_iff.mp isMagnitude with ⟨present, areDigits, _⟩
  split
  · next negative =>
    have isExponent : PlainNumber.exponent? ('-' :: (toString power.natAbs).toList) =
        some power := by
      rw [PlainNumber.exponent?, isMagnitude, Option.map_some, Option.some.injEq]
      simp only [Int.ofNat_eq_natCast]
      omega
    exact ⟨.given (.inl rfl) (.inr (.inr rfl)) present areDigits, isExponent⟩
  · next nonnegative =>
    have isExponent : PlainNumber.exponent? ('+' :: (toString power.natAbs).toList) =
        some power := by
      rw [PlainNumber.exponent?, isMagnitude, Option.map_some, Option.some.injEq]
      simp only [Int.ofNat_eq_natCast]
      omega
    exact ⟨.given (.inl rfl) (.inr (.inl rfl)) present areDigits, isExponent⟩

section

variable {text : String} {digits : ℕ} (areDigits : Text.digits? text.toList = some digits)
include areDigits

/-- With the point in front of all digits, zeros stand between them. -/
theorem isDecimal_pointInFront (count : ℕ) :
    IsDecimal ("0." ++ zeros count ++ text).toList
      (digits * 10 ^ (-(count : ℤ) - text.length)) := by
  have isText : ("0." ++ zeros count ++ text).toList =
      ['0'] ++ '.' :: (List.replicate count '0' ++ text.toList) ++ [] := by
    simp [toList_zeros]
  have isSignificand : Text.digits? (['0'] ++ (List.replicate count '0' ++ text.toList)) =
      some digits := digits?_zeros_append areDigits (count + 1)
  have allDigits : AreDigits (List.replicate count '0' ++ text.toList) :=
    List.forall_mem_append.mpr
      ⟨areDigits_zeros count, (Text.digits?_eq_some_iff.mp areDigits).2.1⟩
  have isExponent : -(count : ℤ) - text.length =
      0 - (List.replicate count '0' ++ text.toList).length := by
    rw [List.length_append, List.length_replicate, String.length_toList]
    push_cast
    ring
  rw [isText, isExponent]
  exact .decimal (areDigits_zeros 1) (by simp) (.given allDigits) .missing (.inl (by simp))
    isSignificand rfl

/-- With the point among the digits, nothing is added. -/
theorem isDecimal_pointAmong {point : ℕ} (positive : 0 < point) (inside : point < text.length) :
    IsDecimal (String.ofList (text.toList.take point) ++ "." ++
        String.ofList (text.toList.drop point)).toList
      (digits * 10 ^ ((point : ℤ) - text.length)) := by
  have isText : (String.ofList (text.toList.take point) ++ "." ++
      String.ofList (text.toList.drop point)).toList =
        text.toList.take point ++ '.' :: text.toList.drop point ++ [] := by
    simp
  have isSignificand : Text.digits? (text.toList.take point ++ text.toList.drop point) =
      some digits := by
    rwa [List.take_append_drop]
  have allDigits := (Text.digits?_eq_some_iff.mp areDigits).2.1
  have isExponent : (point : ℤ) - text.length = 0 - (text.toList.drop point).length := by
    rw [List.length_drop, String.length_toList]
    omega
  have present : text.toList.take point ≠ [] := by
    intro isNone
    have noLength := congrArg List.length isNone
    rw [List.length_take, String.length_toList, List.length_nil] at noLength
    omega
  rw [isText, isExponent]
  exact .decimal (fun character member => allDigits character (List.mem_of_mem_take member)) present
    (.given fun character member => allDigits character (List.mem_of_mem_drop member)) .missing
    (.inl (by simp)) isSignificand rfl

/-- With the point behind all digits, zeros stand in between, and one behind the point. -/
theorem isDecimal_pointBehind (count : ℕ) :
    IsDecimal (text ++ zeros count ++ ".0").toList (digits * 10 ^ (count : ℤ)) := by
  have isText : (text ++ zeros count ++ ".0").toList =
      (text.toList ++ List.replicate count '0') ++ ['.', '0'] ++ [] := by
    simp [toList_zeros]
  have isSignificand : Text.digits? ((text.toList ++ List.replicate count '0') ++ ['0']) =
      some (digits * 10 ^ count * 10 ^ 1) :=
    digits?_append_zeros (digits?_append_zeros areDigits count) 1
  have parts := Text.digits?_eq_some_iff.mp areDigits
  have isValue : (digits * 10 ^ (count : ℤ) : ℚ) =
      (digits * 10 ^ count * 10 ^ 1 : ℕ) * 10 ^ ((0 : ℤ) - ['0'].length) := by
    norm_num
    ring
  rw [isText, isValue]
  exact .decimal (List.forall_mem_append.mpr ⟨parts.2.1, areDigits_zeros count⟩)
    (by simp [parts.1]) (.given (areDigits_zeros 1)) .missing (.inl (by simp)) isSignificand rfl

theorem isDecimal_positionalText (point : ℤ) :
    IsDecimal (json.positionalText text point).toList (digits * 10 ^ (point - text.length)) := by
  unfold positionalText
  split
  · have same : -(point.natAbs : ℤ) = point := by omega
    simpa only [same] using isDecimal_pointInFront areDigits point.natAbs
  · split
    · next positive inside =>
      have same : (point.toNat : ℤ) = point := by omega
      simpa only [same] using
        isDecimal_pointAmong areDigits (show 0 < point.toNat by omega) (by omega)
    · next positive behind =>
      have same : ((point.toNat - text.length : ℕ) : ℤ) = point - text.length := by omega
      have fraction : (if json.wholeFraction = true then ".0" else "") = ".0" := rfl
      simpa only [same, fraction] using
        isDecimal_pointBehind areDigits (point.toNat - text.length)

theorem isDecimal_exponentText (power : ℤ) :
    IsDecimal (exponentText text power).toList (digits * 10 ^ (power + 1 - text.length)) := by
  rcases isPower_powerCharacters power with ⟨isPower, isExponent⟩
  rcases Text.digits?_eq_some_iff.mp areDigits with ⟨present, allDigits, _⟩
  cases isText : text.toList with
  | nil => contradiction
  | cons first rest =>
      rw [isText] at areDigits allDigits
      rcases List.forall_mem_cons.mp allDigits with ⟨isDigit, restDigits⟩
      have firstDigits : AreDigits [first] := by simpa [AreDigits] using isDigit
      have isLength : text.length = rest.length + 1 := by
        rw [← String.length_toList, isText, List.length_cons]
      have isValue : power + 1 - text.length = power - rest.length := by omega
      rw [isValue]
      cases rest with
      | nil =>
          have isBody : (exponentText text power).toList =
              [first] ++ [] ++ powerCharacters power := by
            simp [exponentText, isText, powerCharacters]
          rw [isBody]
          exact .decimal firstDigits (by simp) .missing isPower (.inr (List.cons_ne_nil _ _))
            areDigits isExponent
      | cons second others =>
          have isBody : (exponentText text power).toList =
              [first] ++ '.' :: second :: others ++ powerCharacters power := by
            simp [exponentText, isText, powerCharacters]
          rw [isBody]
          exact .decimal firstDigits (by simp) (.given restDigits) isPower (.inl (by simp)) areDigits
            isExponent

end

end NumberLayout

/-! ## Numbers -/

namespace Binary64

theorem roundsTo_zero {number : Binary64} (isZero : number.significand = 0) :
    RoundsTo 0 number := by
  have low : number.lowEnd = 0 := by
    rw [lowEnd, interval_fst, isZero]
    simp
  have high : 0 ≤ number.highEnd := by
    unfold highEnd
    positivity
  rw [RoundsTo, if_pos (by rw [isZero]), low]
  exact ⟨le_rfl, high⟩

/-- The text of a number is its sign and a decimal that rounds to it. -/
theorem exists_text {number : Binary64} (canonical : number.IsCanonical) :
    ∃ body value, (NumberLayout.json.text number).toList =
        signCharacters number.negative ++ body ∧
      IsDecimal body value ∧ RoundsTo value number := by
  simp only [NumberLayout.text, String.toList_append, toList_sign, Binary64.isZero, beq_iff_eq]
  by_cases isZero : number.significand = 0
  · have isDecimal : IsDecimal "0.0".toList 0 := by
      simpa using IsDecimal.decimal (areDigits_zeros 1) (by simp) (.given (areDigits_zeros 1))
        .missing (.inl (by simp)) (show Text.digits? ['0', '0'] = some 0 by decide) rfl
    rw [if_pos isZero]
    exact ⟨_, 0, rfl, isDecimal, roundsTo_zero isZero⟩
  · have rounds := shortest_roundsTo canonical isZero
    have areDigits := Text.digits?_toString number.shortest.digits
    generalize isText : toString number.shortest.digits = text at areDigits
    have isDecimal : ∀ point : ℤ, point = text.length + number.shortest.exponent →
        IsDecimal (if -4 ≤ point && point ≤ 16 then NumberLayout.json.positionalText text point
          else NumberLayout.exponentText text (point - 1)).toList number.shortest.value := by
      rintro point isPoint
      have isExponent : number.shortest.exponent = point - text.length := by omega
      rw [DecimalDigits.value, isExponent]
      split
      · exact NumberLayout.isDecimal_positionalText areDigits point
      · simpa using NumberLayout.isDecimal_exponentText areDigits (point - 1)
    rw [if_neg isZero]
    exact ⟨_, _, rfl, isDecimal _ rfl, rounds⟩

theorem text_injective {left right : Binary64} (leftCanonical : left.IsCanonical)
    (rightCanonical : right.IsCanonical)
    (same : NumberLayout.json.text left = NumberLayout.json.text right) : left = right := by
  rcases exists_text leftCanonical with ⟨leftBody, leftValue, isLeft, leftDecimal, toLeft⟩
  rcases exists_text rightCanonical with ⟨rightBody, rightValue, isRight, rightDecimal, toRight⟩
  rcases leftDecimal.head with ⟨_, _, rfl, leftDigit⟩
  rcases rightDecimal.head with ⟨_, _, rfl, rightDigit⟩
  rw [same, isRight] at isLeft
  rcases signCharacters_append_inj rightDigit leftDigit isLeft with ⟨sameSign, sameBody⟩
  rw [sameBody] at rightDecimal
  rw [leftDecimal.unique rightDecimal] at toLeft
  rcases toLeft.unique toRight leftCanonical rightCanonical with ⟨sameSignificand, sameExponent⟩
  cases left
  cases right
  simp_all only

end Binary64

/-- A floating-point number is in its one form; an integer has no other. -/
def Number.IsCanonical : Number → Prop
  | .integer _ => True
  | .float value => value.IsCanonical

namespace Json

/-- The text of a number is a sign and number characters behind it, the first of which is a digit. -/
theorem exists_numberText {number : Number} (canonical : number.IsCanonical) :
    ∃ negative first rest,
      (numberText number).toList = signCharacters negative ++ first :: rest ∧
        first.isDigit = true ∧ ∀ character ∈ rest, isNumberCharacter character = true := by
  cases number with
  | integer value =>
      rcases exists_toString value with ⟨first, rest, isText, isDigit, areDigits⟩
      have allDigits := (Text.digits?_eq_some_iff.mp areDigits).2.1
      refine ⟨_, first, rest, isText, isDigit, ?_⟩
      intro character member
      exact isNumberCharacter_of_isDigit (allDigits character (List.mem_cons_of_mem first member))
  | float value =>
      rcases value.exists_text canonical with ⟨body, _, isText, isDecimal, _⟩
      rcases isDecimal.head with ⟨first, rest, rfl, isDigit⟩
      refine ⟨_, first, rest, isText, isDigit, ?_⟩
      intro character member
      exact isDecimal.isNumberCharacter character (List.mem_cons_of_mem first member)

/-- The text of an integer has no point and no power of ten, which every other number has. -/
theorem numberText_integer_ne_float (integer : ℤ) {float : Binary64}
    (canonical : float.IsCanonical) :
    numberText (.integer integer) ≠ numberText (.float float) := by
  intro same
  rcases exists_toString integer with ⟨_, _, isInteger, isDigit, areDigits⟩
  rcases float.exists_text canonical with ⟨body, _, isFloat, isDecimal, _⟩
  rcases isDecimal.head with ⟨_, _, rfl, otherDigit⟩
  have sameText := isInteger.symm.trans ((congrArg String.toList same).trans isFloat)
  rcases signCharacters_append_inj isDigit otherDigit sameText with ⟨_, sameBody⟩
  rcases isDecimal.exists_mark with ⟨mark, member, isMark⟩
  rw [← sameBody] at member
  have markDigit := (Text.digits?_eq_some_iff.mp areDigits).2.1 mark member
  rcases isMark with rfl | rfl | rfl <;> exact absurd markDigit (by decide)

theorem toString_injective {left right : ℤ} (same : toString left = toString right) :
    left = right := by
  rcases exists_toString left with ⟨_, _, isLeft, leftDigit, leftDigits⟩
  rcases exists_toString right with ⟨_, _, isRight, rightDigit, rightDigits⟩
  rw [same, isRight] at isLeft
  rcases signCharacters_append_inj rightDigit leftDigit isLeft with ⟨sameSign, sameBody⟩
  rw [← sameBody, rightDigits, Option.some.injEq] at leftDigits
  simp only [decide_eq_decide] at sameSign
  omega

theorem numberText_injective {left right : Number} (leftCanonical : left.IsCanonical)
    (rightCanonical : right.IsCanonical) (same : numberText left = numberText right) :
    left = right := by
  cases left with
  | integer left =>
      cases right with
      | integer right => exact congrArg Number.integer (toString_injective same)
      | float right => exact absurd same (numberText_integer_ne_float left rightCanonical)
  | float left =>
      cases right with
      | integer right => exact absurd same.symm (numberText_integer_ne_float right leftCanonical)
      | float right =>
          exact congrArg Number.float (Binary64.text_injective leftCanonical rightCanonical same)

end Json

end PageContext
