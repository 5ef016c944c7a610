import PageContext.Calendar.Reader
import PageContext.Proofs.Number.Texts

/-!
# Numbers of fixed width

A number that is padded with zeros to a fixed width is a run of this many digits.  Such a run is read
back by the readers of fields with at most, or exactly, so many digits, whatever stands behind it, and
runs of the same width are ordered like their numbers.
-/

namespace PageContext

namespace Text

/-- A run of digits of a given width that stands for a number. -/
structure IsFixedWidth (width number : Nat) (run : List Char) : Prop where
  length : run.length = width
  number : digits? run = some number

theorem length_toString_le_iff {width number : Nat} (positive : 0 < width) :
    (toString number).length ≤ width ↔ number < Nat.pow 10 width := by
  rw [Nat.toString_eq_ofList_toDigits, String.length_ofList]
  exact Nat.length_toDigits_le_iff (by decide) positive

/-- A number that has all its digits needs no zeros in front. -/
theorem padded_eq_toString {width number : Nat} (positive : 0 < width)
    (enough : Nat.pow 10 width ≤ number) : padded (width + 1) number = toString number := by
  have long : ¬(toString number).length ≤ width := by
    rw [length_toString_le_iff positive]
    omega
  have noZeros : width + 1 - (toString number).length = 0 := by omega
  rw [padded, noZeros, List.replicate_zero, String.ofList_nil, String.empty_append]

theorem isFixedWidth_padded {width number : Nat} (positive : 0 < width)
    (fits : number < Nat.pow 10 width) :
    IsFixedWidth width number (padded width number).toList where
  length := by
    have short := (length_toString_le_iff positive).mpr fits
    simp only [padded, String.toList_append, String.toList_ofList, List.length_append,
      List.length_replicate, String.length_toList]
    omega
  number := by
    rw [padded, String.toList_append, String.toList_ofList]
    exact digits?_zeros_append (digits?_toString number) _

namespace IsFixedWidth

variable {width number : Nat} {run : List Char}

theorem areDigits (isRun : IsFixedWidth width number run) : AreDigits run :=
  (digits?_eq_some_iff.mp isRun.number).2.1

theorem ne_nil (isRun : IsFixedWidth width number run) : run ≠ [] :=
  (digits?_eq_some_iff.mp isRun.number).1

theorem exists_cons (isRun : IsFixedWidth width number run) :
    ∃ first rest, run = first :: rest ∧ first.isDigit = true := by
  cases run with
  | nil => exact absurd rfl isRun.ne_nil
  | cons first rest => exact ⟨first, rest, rfl, isRun.areDigits first List.mem_cons_self⟩

/-! ## Reading -/

theorem readDigits? (isRun : IsFixedWidth width number run) (rest : List Char) :
    DateReader.readDigits? width (run ++ rest) = some (number, rest) := by
  have isTaken : (run ++ rest).take width = run := List.take_left' isRun.length
  have allDigits : run.takeWhile Char.isDigit = run := by
    apply List.takeWhile_eq_self_iff.mpr
    exact isRun.areDigits
  simp only [DateReader.readDigits?, isTaken, allDigits, isRun.number, Option.map_some,
    List.drop_left]

theorem readExactly? (isRun : IsFixedWidth width number run) (rest : List Char) :
    DateReader.readExactly? width (run ++ rest) = some (number, rest) := by
  have isTaken : (run ++ rest).take width = run := List.take_left' isRun.length
  have allDigits : run.takeWhile Char.isDigit = run := by
    apply List.takeWhile_eq_self_iff.mpr
    exact isRun.areDigits
  rw [DateReader.readExactly?, isTaken, allDigits, if_pos isRun.length]
  exact isRun.readDigits? rest

theorem dropBlanks (isRun : IsFixedWidth width number run) (rest : List Char) :
    Text.dropBlanks (run ++ rest) = run ++ rest := by
  rcases isRun.exists_cons with ⟨first, others, rfl, isDigit⟩
  simp [Text.dropBlanks, isBlank_of_isDigit isDigit]

theorem readShort? (isRun : IsFixedWidth 2 number run) (rest : List Char) :
    DateReader.readShort? (run ++ rest) = some (number, rest) := by
  rw [DateReader.readShort?, isRun.dropBlanks]
  exact isRun.readDigits? rest

theorem readYear? (isRun : IsFixedWidth 4 number run) (rest : List Char) :
    DateReader.readYear? (Text.dropBlanks (run ++ rest)) = some ((number : Int), rest) := by
  have isRead := isRun.readDigits? rest
  rw [isRun.dropBlanks]
  rcases isRun.exists_cons with ⟨first, others, rfl, isDigit⟩
  unfold DateReader.readYear?
  split
  · next isMinus =>
    obtain ⟨rfl, _⟩ := List.cons.inj isMinus
    contradiction
  · next isPlus =>
    obtain ⟨rfl, _⟩ := List.cons.inj isPlus
    contradiction
  · simp only [isRead, Option.map_some]

end IsFixedWidth

/-! ## Order -/

/-- Of two runs of digits of the same length, each read behind a value, the one behind the smaller
value has the smaller number, and behind the same value the smaller run has it. -/
theorem ofDigitChars_lt_iff {first second : List Char} (firstDigits : AreDigits first)
    (secondDigits : AreDigits second) (sameLength : first.length = second.length)
    (value other : Nat) :
    Nat.ofDigitChars 10 first value < Nat.ofDigitChars 10 second other ↔
      value < other ∨ value = other ∧ first < second := by
  induction first generalizing second value other with
  | nil =>
      obtain rfl : second = [] := List.length_eq_zero_iff.mp sameLength.symm
      simp
  | cons digit rest hypothesis =>
      cases second with
      | nil => simp at sameLength
      | cons otherDigit otherRest =>
          rw [AreDigits, List.forall_mem_cons] at firstDigits secondDigits
          have bounds := toNat_bounds_of_isDigit firstDigits.1
          have otherBounds := toNat_bounds_of_isDigit secondDigits.1
          have isLess : digit < otherDigit ↔ digit.toNat < otherDigit.toNat := by
            rw [Char.lt_def, UInt32.lt_iff_toNat_lt, Char.toNat_val, Char.toNat_val]
          have isZero : '0'.toNat = 48 := rfl
          rw [Nat.ofDigitChars_cons, Nat.ofDigitChars_cons,
            hypothesis firstDigits.2 secondDigits.2 (Nat.succ.inj sameLength),
            List.cons_lt_cons_iff, isLess, ← Char.toNat_inj, isZero]
          grind

/-- Runs of the same width are ordered like their numbers. -/
theorem IsFixedWidth.lt_iff {width number other : Nat} {run otherRun : List Char}
    (isRun : IsFixedWidth width number run) (isOtherRun : IsFixedWidth width other otherRun) :
    run < otherRun ↔ number < other := by
  have sameLength := isRun.length.trans isOtherRun.length.symm
  have ordered := ofDigitChars_lt_iff isRun.areDigits isOtherRun.areDigits sameLength 0 0
  rw [(digits?_eq_some_iff.mp isRun.number).2.2,
    (digits?_eq_some_iff.mp isOtherRun.number).2.2] at ordered
  simpa using ordered.symm

/-- Runs of the same width are equal exactly when their numbers are. -/
theorem IsFixedWidth.eq_iff {width number other : Nat} {run otherRun : List Char}
    (isRun : IsFixedWidth width number run) (isOtherRun : IsFixedWidth width other otherRun) :
    run = otherRun ↔ number = other := by
  constructor
  · rintro rfl
    exact Option.some.inj (isRun.number.symm.trans isOtherRun.number)
  · rintro rfl
    apply List.le_antisymm
    · exact List.not_lt.mp (mt (isOtherRun.lt_iff isRun).mp (lt_irrefl _))
    · exact List.not_lt.mp (mt (isRun.lt_iff isOtherRun).mp (lt_irrefl _))

/-- Behind parts of the same length the parts decide first. -/
theorem append_lt_append_iff {first second : List Char} (sameLength : first.length = second.length)
    (rest otherRest : List Char) :
    first ++ rest < second ++ otherRest ↔ first < second ∨ first = second ∧ rest < otherRest := by
  induction first generalizing second with
  | nil =>
      obtain rfl : second = [] := List.length_eq_zero_iff.mp sameLength.symm
      simp
  | cons character others hypothesis =>
      cases second with
      | nil => simp at sameLength
      | cons otherCharacter otherOthers =>
          rw [List.cons_append, List.cons_append, List.cons_lt_cons_iff, List.cons_lt_cons_iff,
            hypothesis (Nat.succ.inj sameLength), List.cons.injEq]
          grind

/-- Behind runs of the same width the numbers decide first. -/
theorem IsFixedWidth.append_lt_iff {width number other : Nat} {run otherRun : List Char}
    (isRun : IsFixedWidth width number run) (isOtherRun : IsFixedWidth width other otherRun)
    (rest otherRest : List Char) :
    run ++ rest < otherRun ++ otherRest ↔ number < other ∨ number = other ∧ rest < otherRest := by
  rw [append_lt_append_iff (isRun.length.trans isOtherRun.length.symm), isRun.lt_iff isOtherRun,
    isRun.eq_iff isOtherRun]

theorem cons_lt_cons_self_iff (character : Char) (rest otherRest : List Char) :
    character :: rest < character :: otherRest ↔ rest < otherRest := by
  simp

end Text

end PageContext
