import PageContext.Proofs.Text.Decimal
import PageContext.Store.Memory

/-!
# Limits of merged parameters

The limit of a directive is a ceiling for its caller.  Merging reads limits as signed integers and
keeps the smaller one, while the store reads an unsigned integer from the merged parameters.  So a
ceiling that the store accepts stays in force, and a caller can lower it, as long as both readers
see the same numbers: a ceiling that is no signed integer is not compared with the limit of the
caller, and a negative limit of the caller is the smaller one and then refused by the store.
-/

namespace PageContext.Params

/-- The bound of the signed integers, below which both readers see the same number. -/
def signedBound : Nat := Nat.pow 2 63

theorem signedBound_lt : signedBound < Nat.pow 2 64 := by decide

theorem storeLimit?_eq_some_iff {params : Params} {limit : Nat} :
    params.storeLimit? = .ok (some limit) ↔
      ∃ text, params.value? "limit" = some text ∧ Text.unsigned? 64 text = some limit := by
  rw [storeLimit?]
  cases params.value? "limit" with
  | none => simp
  | some text => cases isLimit : Text.unsigned? 64 text <;> simp [isLimit]

theorem storeLimit?_of_value? {params others : Params}
    (same : params.value? "limit" = others.value? "limit") :
    params.storeLimit? = others.storeLimit? := by
  rw [storeLimit?, storeLimit?, same]

/-- What the store accepts as a limit, merging sees as the same number unless it is too large. -/
theorem numericLimit?_of_storeLimit? {params : Params} {limit : Nat}
    (accepted : params.storeLimit? = .ok (some limit)) :
    params.numericLimit? = if limit < signedBound then some (limit : Int) else none := by
  rcases storeLimit?_eq_some_iff.mp accepted with ⟨text, isText, isLimit⟩
  rw [numericLimit?, isText, Option.bind_some, Text.trim_of_unsigned? isLimit,
    Text.signed?_of_unsigned? isLimit]
  by_cases fits : limit < signedBound
  · have inBounds : Text.fitsSigned 64 limit = true := by
      simp [Text.fitsSigned, signedBound] at fits ⊢
      omega
    simp [fits, inBounds]
  · have outOfBounds : Text.fitsSigned 64 limit = false := by
      simp [Text.fitsSigned, signedBound] at fits ⊢
      omega
    simp [fits, outOfBounds]

/-! ## Merging -/

theorem merge_of_not_both {caller : Option Params} {directive : Params}
    (notBoth : caller.bind numericLimit? = none ∨ numericLimit? directive = none) :
    merge caller directive = Entries.insertAll directive (caller.getD []) := by
  rw [merge]
  rcases notBoth with notNumeric | notNumeric
  · rw [notNumeric]
  · rw [notNumeric]
    cases caller.bind numericLimit? <;> rfl

theorem merge_of_both {caller : Option Params} {directive : Params} {requested ceiling : Int}
    (isRequested : caller.bind numericLimit? = some requested)
    (isCeiling : numericLimit? directive = some ceiling) :
    merge caller directive = Entries.insert "limit" (some (toString (min requested ceiling)))
      (Entries.insertAll directive (caller.getD [])) := by
  simp only [merge, isRequested, isCeiling]

/-- Where only one side has a number, the directive wins as it does for every key. -/
theorem value?_merge_of_not_both {caller : Option Params} {directive : Params}
    (distinct : Entries.DistinctKeys directive)
    (notBoth : caller.bind numericLimit? = none ∨ numericLimit? directive = none) (key : String) :
    (merge caller directive).value? key =
      ((Entries.get? key directive).or (Entries.get? key (caller.getD []))).join := by
  rw [value?, merge_of_not_both notBoth, Entries.get?_insertAll distinct]

theorem value?_merge_of_both {caller : Option Params} {directive : Params}
    {requested ceiling : Int} (isRequested : caller.bind numericLimit? = some requested)
    (isCeiling : numericLimit? directive = some ceiling) :
    (merge caller directive).value? "limit" = some (toString (min requested ceiling)) := by
  simp [value?, merge_of_both isRequested isCeiling]

theorem merge_nil (caller : Option Params) : merge caller [] = caller.getD [] :=
  merge_of_not_both (.inr rfl)

section

variable {caller : Option Params} {directive : Params} {ceiling : Nat}

/-- A ceiling stays in force where there is nothing that it is compared with. -/
theorem storeLimit?_merge_of_no_request (distinct : Entries.DistinctKeys directive)
    (accepted : directive.storeLimit? = .ok (some ceiling))
    (noRequest : caller.bind numericLimit? = none ∨ signedBound ≤ ceiling) :
    (merge caller directive).storeLimit? = .ok (some ceiling) := by
  have notBoth : caller.bind numericLimit? = none ∨ numericLimit? directive = none := by
    refine noRequest.imp_right fun tooLarge => ?_
    rw [numericLimit?_of_storeLimit? accepted, if_neg (Nat.not_lt.mpr tooLarge)]
  rw [← accepted]
  apply storeLimit?_of_value?
  rcases storeLimit?_eq_some_iff.mp accepted with ⟨text, isText, _⟩
  rw [value?_merge_of_not_both distinct notBoth, isText]
  rcases Option.join_eq_some_iff.mp isText with isEntry
  simp [isEntry]

theorem storeLimit?_merge_of_request {requested : Int}
    (accepted : directive.storeLimit? = .ok (some ceiling)) (fits : ceiling < signedBound)
    (isRequested : caller.bind numericLimit? = some requested) :
    (merge caller directive).storeLimit? =
      if requested < 0 then .error (.invalidLimit (toString requested))
      else .ok (some (min requested.toNat ceiling)) := by
  have isCeiling : numericLimit? directive = some (ceiling : Int) := by
    rw [numericLimit?_of_storeLimit? accepted, if_pos fits]
  have isLimit := value?_merge_of_both isRequested isCeiling
  split
  · next negative =>
    have smaller : min requested (ceiling : Int) = requested := by omega
    rw [storeLimit?, isLimit, smaller]
    simp only [Text.unsigned?_toString_of_neg 64 negative]
  · next notNegative =>
    have smaller : min requested (ceiling : Int) = (min requested.toNat ceiling : Nat) := by omega
    rw [storeLimit?_eq_some_iff, isLimit, smaller]
    refine ⟨_, rfl, Text.unsigned?_toString ?_⟩
    have inBounds := signedBound_lt
    omega

/-- A caller whose limit the store accepts asks for this number when parameters are merged, unless
the number is too large. -/
theorem request_of_storeLimit? {params : Params} {requested : Nat} (isCaller : params ∈ caller)
    (accepted : params.storeLimit? = .ok (some requested)) :
    caller.bind numericLimit? =
      if requested < signedBound then some (requested : Int) else none := by
  rw [Option.mem_def.mp isCaller, Option.bind_some, numericLimit?_of_storeLimit? accepted]

/-- The limit of a directive stays in force as a ceiling exactly where the caller does not ask for
a negative number that it is compared with.  A caller whose limit the store accepts gets no more
than that, unless the ceiling is too large to be compared. -/
theorem merge_keeps_ceiling (distinct : Entries.DistinctKeys directive)
    (accepted : directive.storeLimit? = .ok (some ceiling)) :
    ((∃ limit, (merge caller directive).storeLimit? = .ok (some limit) ∧ limit ≤ ceiling) ↔
        ∀ requested ∈ caller.bind numericLimit?, 0 ≤ requested ∨ signedBound ≤ ceiling) ∧
      (ceiling < signedBound → ∀ params ∈ caller, ∀ requested limit : Nat,
        params.storeLimit? = .ok (some requested) →
        (merge caller directive).storeLimit? = .ok (some limit) → limit ≤ requested) := by
  constructor
  · by_cases fits : ceiling < signedBound
    · cases isRequested : caller.bind numericLimit? with
      | none =>
          have unchanged := storeLimit?_merge_of_no_request distinct accepted (.inl isRequested)
          simp [unchanged]
      | some requested =>
          have merged := storeLimit?_merge_of_request accepted fits isRequested
          by_cases negative : requested < 0
          · rw [if_pos negative] at merged
            simp [merged]
            omega
          · rw [if_neg negative] at merged
            simp [merged]
            omega
    · -- A ceiling that is no signed integer is never compared, whatever the caller asks for.
      have tooLarge := Nat.not_lt.mp fits
      have unchanged : (merge caller directive).storeLimit? = .ok (some ceiling) :=
        storeLimit?_merge_of_no_request distinct accepted (.inr tooLarge)
      simp [unchanged, tooLarge]
  · intro fits params isCaller requested limit isRequested isLimit
    have request := request_of_storeLimit? isCaller isRequested
    by_cases small : requested < signedBound
    · rw [if_pos small] at request
      rw [storeLimit?_merge_of_request accepted fits request, if_neg (by omega), Except.ok.injEq,
        Option.some.injEq] at isLimit
      omega
    · rw [if_neg small] at request
      rw [storeLimit?_merge_of_no_request distinct accepted (.inl request), Except.ok.injEq,
        Option.some.injEq] at isLimit
      omega

end

/-- The conclusion for a caller that asks for less, with blanks around the number. -/
theorem merge_keeps_ceiling_blanks :
    let directive : Params := [("limit", some "+10"), ("sort", some "asc")]
    Entries.DistinctKeys directive ∧ directive.storeLimit? = .ok (some 10) ∧
      ∃ limit, (merge (some [("limit", some " 3 ")]) directive).storeLimit? = .ok (some limit) ∧
        limit ≤ 10 := by
  intro directive
  have distinct : Entries.DistinctKeys directive := by decide
  have accepted : directive.storeLimit? = .ok (some 10) := rfl
  have asked : ∀ requested ∈ (some [("limit", some " 3 ")] : Option Params).bind numericLimit?,
      0 ≤ requested ∨ signedBound ≤ 10 := by
    decide
  exact ⟨distinct, accepted, (merge_keeps_ceiling distinct accepted).1.mpr asked⟩

/-- A negative number of the caller is kept as the smaller one, and the store refuses it; a ceiling
that is no signed integer is kept although the caller asks for less. -/
theorem merge_breaks_ceiling :
    let ten : Params := [("limit", some "10")]
    let large : Params := [("limit", some "9223372036854775813")]
    let five : Params := [("limit", some "5")]
    (ten.storeLimit? = .ok (some 10) ∧
        (merge (some [("limit", some "-5")]) ten).storeLimit? = .error (.invalidLimit "-5")) ∧
      large.storeLimit? = .ok (some 9223372036854775813) ∧ five.storeLimit? = .ok (some 5) ∧
        (merge (some five) large).storeLimit? = .ok (some 9223372036854775813) := by
  refine ⟨⟨rfl, rfl⟩, rfl, rfl, rfl⟩

end PageContext.Params
