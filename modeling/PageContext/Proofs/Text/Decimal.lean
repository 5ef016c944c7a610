import PageContext.Proofs.Text.Cuts
import PageContext.Text.Integer

/-!
# Decimal texts

A run of digits stands for one number, and the decimal text of a number is read as this number.  An
unsigned integer is read as the same signed integer where it is small enough, and there are no
blanks in it.
-/

namespace PageContext.Text

/-! ## Digits -/

theorem digitValue?_eq_some_iff {character : Char} {digit : Nat} :
    digitValue? character = some digit ↔
      character.isDigit = true ∧ character.toNat - '0'.toNat = digit := by
  rw [digitValue?]
  split <;> simp_all

/-- A run of digits is read by its place values. -/
theorem digitsFrom?_eq_some_iff {value number : Nat} {characters : List Char} :
    digitsFrom? value characters = some number ↔
      (∀ character ∈ characters, character.isDigit = true) ∧
        Nat.ofDigitChars 10 characters value = number := by
  induction characters generalizing value with
  | nil => simp [digitsFrom?]
  | cons character rest hypothesis =>
      rw [digitsFrom?, Nat.ofDigitChars_cons, List.forall_mem_cons]
      cases isDigit : digitValue? character with
      | none =>
          have noDigit : ¬character.isDigit = true := by
            intro digit
            simp [digitValue?, digit] at isDigit
          simp [noDigit]
      | some digit =>
          rcases digitValue?_eq_some_iff.mp isDigit with ⟨first, rfl⟩
          simp only [hypothesis, first, true_and]

theorem digits?_eq_some_iff {characters : List Char} {number : Nat} :
    digits? characters = some number ↔
      characters ≠ [] ∧ (∀ character ∈ characters, character.isDigit = true) ∧
        Nat.ofDigitChars 10 characters 0 = number := by
  cases characters with
  | nil => simp [digits?]
  | cons character rest => simp [digits?, digitsFrom?_eq_some_iff]

theorem digits?_toString (number : Nat) : digits? (toString number).toList = some number := by
  rw [Nat.toString_eq_ofList_toDigits, String.toList_ofList, digits?_eq_some_iff]
  refine ⟨Nat.toDigits_ne_nil, ?_, Nat.ofDigitChars_ten_toDigits⟩
  intro character member
  exact Nat.isDigit_of_mem_toDigits (by decide) (by decide) member

theorem digits?_eq_none_of_head {character : Char} (noDigit : character.isDigit = false)
    (rest : List Char) : digits? (character :: rest) = none := by
  simp [digits?, digitsFrom?, digitValue?, noDigit]

/-! ## Unsigned and signed integers -/

/-- An unsigned integer is a run of digits, possibly with a plus sign in front. -/
theorem unsigned?_eq_some_iff {bits number : Nat} {text : String} :
    unsigned? bits text = some number ↔ number < Nat.pow 2 bits ∧
      ∃ run, digits? run = some number ∧ (text.toList = run ∨ text.toList = '+' :: run) := by
  rw [unsigned?]
  split
  · next rest isPlus =>
    have noDigits : digits? ('+' :: rest) = none := digits?_eq_none_of_head (by decide) rest
    simp only [Option.filter_eq_some_iff, decide_eq_true_eq, isPlus, List.cons.injEq, true_and]
    constructor
    · rintro ⟨isNumber, fits⟩
      exact ⟨fits, rest, isNumber, .inr rfl⟩
    · rintro ⟨fits, run, isNumber, rfl | rfl⟩
      · simp [noDigits] at isNumber
      · exact ⟨isNumber, fits⟩
  · next noPlus =>
    simp only [Option.filter_eq_some_iff, decide_eq_true_eq]
    constructor
    · rintro ⟨isNumber, fits⟩
      exact ⟨fits, text.toList, isNumber, .inl rfl⟩
    · rintro ⟨fits, run, isNumber, rfl | isPlus⟩
      · exact ⟨isNumber, fits⟩
      · exact absurd isPlus (noPlus run)

theorem unsigned?_toString {bits number : Nat} (fits : number < Nat.pow 2 bits) :
    unsigned? bits (toString number) = some number :=
  unsigned?_eq_some_iff.mpr ⟨fits, _, digits?_toString number, .inl rfl⟩

theorem unsigned?_toString_eq_none {bits number : Nat} (tooLarge : Nat.pow 2 bits ≤ number) :
    unsigned? bits (toString number) = none := by
  rw [Option.eq_none_iff_forall_ne_some]
  intro other isNumber
  have isRun := digits?_toString number
  rcases unsigned?_eq_some_iff.mp isNumber with ⟨fits, run, isOther, isText | isText⟩
  · rw [isText, isOther, Option.some.injEq] at isRun
    exact absurd fits (by rw [isRun]; exact Nat.not_lt_of_le tooLarge)
  · rw [isText, digits?_eq_none_of_head (by decide)] at isRun
    contradiction

theorem toList_toString_negSucc (magnitude : Nat) :
    (toString (Int.negSucc magnitude)).toList = '-' :: (toString (magnitude + 1)).toList := by
  rw [show toString (Int.negSucc magnitude) = "-" ++ toString (magnitude + 1) from rfl]
  simp

theorem unsigned?_toString_of_neg (bits : Nat) {number : Int} (negative : number < 0) :
    unsigned? bits (toString number) = none := by
  cases number with
  | ofNat magnitude => exact absurd negative (by simp)
  | negSucc magnitude =>
      rw [Option.eq_none_iff_forall_ne_some]
      intro other isNumber
      rcases unsigned?_eq_some_iff.mp isNumber with ⟨_, run, isRun, isText | isText⟩
      · rw [← isText, toList_toString_negSucc, digits?_eq_none_of_head (by decide)] at isRun
        contradiction
      · rw [toList_toString_negSucc, List.cons.injEq] at isText
        exact absurd isText.1 (by decide)

/-- An unsigned integer is a signed one if it is small enough. -/
theorem signed?_of_unsigned? {bits number : Nat} {text : String}
    (isNumber : unsigned? bits text = some number) (width : Nat) :
    signed? width text = (some (number : Int)).filter (fitsSigned width) := by
  rcases unsigned?_eq_some_iff.mp isNumber with ⟨_, run, isRun, isText⟩
  rw [signed?]
  rcases isText with isText | isText
  · cases run with
    | nil => simp [digits?] at isRun
    | cons character rest =>
        have isDigit := (digits?_eq_some_iff.mp isRun).2.1 character List.mem_cons_self
        rw [isText]
        split
        · next first => simp [List.cons.inj first |>.1] at isDigit
        · next first => simp [List.cons.inj first |>.1] at isDigit
        · rw [isRun]; rfl
  · simp [isText, isRun]

/-- The decimal text of an integer that is small enough is read as this integer. -/
theorem signed?_toString {bits : Nat} {value : Int} (fits : fitsSigned bits value = true) :
    signed? bits (toString value) = some value := by
  cases value with
  | ofNat magnitude =>
      have isNumber : unsigned? magnitude (toString magnitude) = some magnitude :=
        unsigned?_toString Nat.lt_two_pow_self
      rw [show toString (Int.ofNat magnitude) = toString magnitude from rfl,
        signed?_of_unsigned? isNumber]
      exact Option.filter_some_pos fits
  | negSucc magnitude =>
      rw [signed?, toList_toString_negSucc]
      simp only [digits?_toString, Option.map_some]
      exact Option.filter_some_pos fits

theorem toNat_bounds_of_isDigit {character : Char} (isDigit : character.isDigit = true) :
    48 ≤ character.toNat ∧ character.toNat ≤ 57 := by
  simpa [Char.isDigit, UInt32.le_iff_toNat_le] using isDigit

theorem isBlank_of_isDigit {character : Char} (isDigit : character.isDigit = true) :
    isBlank character = false := by
  have bounds := toNat_bounds_of_isDigit isDigit
  simp [isBlank]
  omega

theorem trim_of_unsigned? {bits number : Nat} {text : String}
    (isNumber : unsigned? bits text = some number) : trim text = text := by
  rcases unsigned?_eq_some_iff.mp isNumber with ⟨_, run, isRun, isText⟩
  have noBlank : ∀ character ∈ text.toList, isBlank character = false := by
    have inRun : ∀ character ∈ run, isBlank character = false := by
      intro character member
      exact isBlank_of_isDigit ((digits?_eq_some_iff.mp isRun).2.1 character member)
    rcases isText with isText | isText <;> rw [isText]
    · exact inRun
    · exact List.forall_mem_cons.mpr ⟨by decide, inRun⟩
  rw [trim_eq_self_iff]
  exact ⟨fun character first => noBlank character (List.mem_of_head? first),
    fun character last => noBlank character (List.mem_of_getLast? last)⟩

end PageContext.Text
