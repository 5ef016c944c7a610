import PageContext.Json.Reader
import PageContext.Proofs.Number.Texts
import PageContext.Proofs.Success

/-!
# Texts of values

The compact text of a value says where it ends: no text in front of one rest is the text of another
value in front of another rest.  A string ends at its first quote that is not escaped, a number at
the first character that no number has, an array and an object at the bracket behind their last
part.  So different values have different texts.
-/

namespace PageContext.Json

/-- The floating-point numbers inside a value are in their one form. -/
inductive HasCanonicalFloats : Json → Prop where
  | null : HasCanonicalFloats .null
  | bool (value : Bool) : HasCanonicalFloats (.bool value)
  | number {value : Number} (canonical : value.IsCanonical) : HasCanonicalFloats (.number value)
  | string (value : String) : HasCanonicalFloats (.string value)
  | array {items : List Json} (inside : ∀ item ∈ items, HasCanonicalFloats item) :
      HasCanonicalFloats (.array items)
  | object {entries : List (String × Json)}
      (inside : ∀ entry ∈ entries, HasCanonicalFloats entry.2) : HasCanonicalFloats (.object entries)

/-- Behind a value no character follows that a number could have. -/
def IsBehindValue (rest : List Char) : Prop :=
  ∀ character ∈ rest.head?, isNumberCharacter character = false

/-- Two things are the same if their texts are, whatever follows. -/
def TellsApart {α : Type} (text : α → List Char) (left right : α) : Prop :=
  ∀ rest other, IsBehindValue rest → IsBehindValue other →
    text left ++ rest = text right ++ other → left = right ∧ rest = other

/-! ## Strings -/

theorem codeUnit?_of_lt : ∀ unit < 32,
    codeUnit? '0' '0' (Text.hexDigit (unit / 16)) (Text.hexDigit (unit % 16)) = some unit := by
  decide

/-- The reader takes a character for each that was printed. -/
theorem readString_escapedCharacter (character : Char) (rest : List Char) :
    readString (escapedCharacter character ++ rest) =
      (readString rest).map fun (characters, rest) => (character :: characters, rest) := by
  unfold escapedCharacter
  split
  · next isQuote =>
    rw [isQuote]
    rfl
  split
  · next isBackslash =>
    rw [isBackslash]
    rfl
  split
  · next isBackspace =>
    rw [← Char.ofNat_toNat character, isBackspace]
    rfl
  split
  · next isTab =>
    rw [isTab]
    rfl
  split
  · next isLineFeed =>
    rw [isLineFeed]
    rfl
  split
  · next isFormFeed =>
    rw [← Char.ofNat_toNat character, isFormFeed]
    rfl
  split
  · next isReturn =>
    rw [isReturn]
    rfl
  split
  · next isControl =>
    have noSurrogate : (character.toNat < 0xD800 || 0xDFFF < character.toNat) = true := by
      simp
      omega
    simp only [List.cons_append, List.nil_append, readString, codeUnit?_of_lt _ isControl,
      noSurrogate, if_true, Char.ofNat_toNat]
    rfl
  · next noQuote noBackslash _ _ _ _ _ isPlain =>
    have isAllowed : (character.toNat < 32 || character = '\\') = false := by
      simp [isPlain, noBackslash]
    rw [List.singleton_append, readString, if_neg (by rw [isAllowed]; decide)]
    · rfl
    · exact noQuote
    · intro _ _ _ _ _ isEscape
      exact absurd isEscape noBackslash
    · intro _ _ isEscape
      exact absurd isEscape noBackslash

theorem readString_escaped (characters rest : List Char) :
    readString (characters.flatMap escapedCharacter ++ '"' :: rest) = .ok (characters, rest) := by
  induction characters with
  | nil => rfl
  | cons character others hypothesis =>
      rw [List.flatMap_cons, List.append_assoc, readString_escapedCharacter, hypothesis]
      rfl

theorem tellsApart_stringText (left right : String) :
    TellsApart (fun value => (stringText value).toList) left right := by
  intro rest other _ _ same
  have isText : ∀ (value : String) (rest : List Char), (stringText value).toList ++ rest =
      '"' :: (value.toList.flatMap escapedCharacter ++ '"' :: rest) := by
    simp [stringText]
  simp only [isText, List.cons.injEq, true_and] at same
  have sameRead := congrArg readString same
  rw [readString_escaped, readString_escaped, Except.ok.injEq, Prod.mk.injEq,
    String.toList_inj] at sameRead
  exact sameRead

/-! ## Numbers -/

theorem isNumberCharacter_of_mem_numberText {number : Number} (canonical : number.IsCanonical) :
    ∀ character ∈ (numberText number).toList, isNumberCharacter character = true := by
  rcases exists_numberText canonical with ⟨negative, first, rest, isText, isDigit, isRest⟩
  rw [isText, List.forall_mem_append, List.forall_mem_cons]
  refine ⟨?_, isNumberCharacter_of_isDigit isDigit, isRest⟩
  cases negative <;> simp [signCharacters, isNumberCharacter]

theorem tellsApart_numberText {left right : Number} (leftCanonical : left.IsCanonical)
    (rightCanonical : right.IsCanonical) :
    TellsApart (fun number => (numberText number).toList) left right := by
  intro rest other isBehind otherBehind same
  have leftRun := isNumberCharacter_of_mem_numberText leftCanonical
  have rightRun := isNumberCharacter_of_mem_numberText rightCanonical
  have sameText := congrArg (List.takeWhile isNumberCharacter) same
  have sameRest := congrArg (List.dropWhile isNumberCharacter) same
  rw [Text.takeWhile_run leftRun isBehind, Text.takeWhile_run rightRun otherBehind] at sameText
  rw [Text.dropWhile_run leftRun isBehind, Text.dropWhile_run rightRun otherBehind] at sameRest
  exact ⟨numberText_injective leftCanonical rightCanonical (String.toList_inj.mp sameText),
    sameRest⟩

/-! ## Parts between brackets -/

section

variable {α : Type} (text : α → List Char) (close : Char)

/-- The parts behind the first one, a comma in front of each, and the bracket that closes them. -/
def furtherParts : List α → List Char
  | [] => [close]
  | part :: parts => ',' :: (text part ++ furtherParts parts)

/-- Parts with commas between them, and the bracket that closes them. -/
def closedParts : List α → List Char
  | [] => [close]
  | part :: parts => text part ++ furtherParts text close parts

variable {text close}

theorem isBehindValue_furtherParts (ends : isNumberCharacter close = false) (parts : List α)
    (rest : List Char) : IsBehindValue (furtherParts text close parts ++ rest) := by
  have comma : isNumberCharacter ',' = false := by decide
  cases parts <;> simpa [IsBehindValue, furtherParts]

theorem furtherParts_append_inj (noComma : close ≠ ',') (ends : isNumberCharacter close = false)
    {lefts rights : List α}
    (apart : ∀ left ∈ lefts, ∀ right ∈ rights, TellsApart text left right) {rest other : List Char}
    (same : furtherParts text close lefts ++ rest = furtherParts text close rights ++ other) :
    lefts = rights ∧ rest = other := by
  induction lefts generalizing rights with
  | nil =>
      cases rights with
      | nil => exact ⟨rfl, (List.cons.inj same).2⟩
      | cons => exact absurd (List.cons.inj same).1 noComma
  | cons left lefts hypothesis =>
      cases rights with
      | nil => exact absurd (List.cons.inj same).1 noComma.symm
      | cons right rights =>
          simp only [furtherParts, List.cons_append, List.append_assoc, List.cons.injEq, true_and]
            at same
          rcases apart left List.mem_cons_self right List.mem_cons_self _ _
            (isBehindValue_furtherParts ends lefts rest)
            (isBehindValue_furtherParts ends rights other) same with ⟨rfl, sameRest⟩
          have restApart : ∀ left ∈ lefts, ∀ right ∈ rights, TellsApart text left right := by
            intro part member otherPart otherMember
            exact apart part (List.mem_cons_of_mem left member) otherPart
              (List.mem_cons_of_mem left otherMember)
          rcases hypothesis restApart sameRest with ⟨rfl, sameEnd⟩
          exact ⟨rfl, sameEnd⟩

theorem closedParts_append_inj (noComma : close ≠ ',') (ends : isNumberCharacter close = false)
    {lefts rights : List α}
    (leftStarts : ∀ part ∈ lefts, ∀ rest other, text part ++ rest ≠ close :: other)
    (rightStarts : ∀ part ∈ rights, ∀ rest other, text part ++ rest ≠ close :: other)
    (apart : ∀ left ∈ lefts, ∀ right ∈ rights, TellsApart text left right) {rest other : List Char}
    (same : closedParts text close lefts ++ rest = closedParts text close rights ++ other) :
    lefts = rights ∧ rest = other := by
  cases lefts with
  | nil =>
      cases rights with
      | nil => exact ⟨rfl, (List.cons.inj same).2⟩
      | cons right rights =>
          rw [closedParts, closedParts, List.append_assoc] at same
          exact absurd same.symm (rightStarts right List.mem_cons_self _ rest)
  | cons left lefts =>
      cases rights with
      | nil =>
          rw [closedParts, closedParts, List.append_assoc] at same
          exact absurd same (leftStarts left List.mem_cons_self _ other)
      | cons right rights =>
          -- Behind a comma these are further parts.
          exact furtherParts_append_inj noComma ends apart (congrArg (List.cons ',') same)

end

/-- The text of an entry of an object. -/
def entryCharacters (entry : String × Json) : List Char :=
  (stringText entry.1).toList ++ ':' :: entry.2.compact.toList

theorem compactItems_closed (items : List Json) :
    (compactItems items).toList ++ [']'] =
      closedParts (fun item => item.compact.toList) ']' items := by
  cases items with
  | nil => rfl
  | cons item items =>
      rw [closedParts]
      induction items generalizing item with
      | nil => simp [compactItems, furtherParts]
      | cons next items hypothesis =>
          rw [furtherParts, ← hypothesis]
          simp [compactItems]

theorem compactEntries_closed (entries : List (String × Json)) :
    (compactEntries entries).toList ++ ['\x7d'] = closedParts entryCharacters '\x7d' entries := by
  cases entries with
  | nil => rfl
  | cons entry entries =>
      rw [closedParts]
      induction entries generalizing entry with
      | nil => simp [compactEntries, furtherParts, entryCharacters]
      | cons next entries hypothesis =>
          rw [furtherParts, ← hypothesis]
          simp [compactEntries, entryCharacters]

theorem compact_array (items : List Json) : (compact (.array items)).toList =
    '[' :: closedParts (fun item => item.compact.toList) ']' items := by
  rw [← compactItems_closed]
  simp [compact]

theorem compact_object (entries : List (String × Json)) : (compact (.object entries)).toList =
    '\x7b' :: closedParts entryCharacters '\x7d' entries := by
  rw [← compactEntries_closed]
  simp [compact]

/-! ## Values -/

/-- The kind of the values whose texts start with a character. -/
def kindStartedBy (first : Char) : Option String :=
  if first = 'n' then some "null"
  else if first = 't' || first = 'f' then some "boolean"
  else if first = '-' || first.isDigit then some "number"
  else if first = '"' then some "string"
  else if first = '[' then some "array"
  else if first = '\x7b' then some "object"
  else none

theorem kindStartedBy_of_isDigit {first : Char} (isDigit : first.isDigit = true) :
    kindStartedBy first = some "number" := by
  have noLetter : first ≠ 'n' ∧ first ≠ 't' ∧ first ≠ 'f' := by
    refine ⟨?_, ?_, ?_⟩ <;> (rintro rfl; exact absurd isDigit (by decide))
  simp [kindStartedBy, noLetter, isDigit]

/-- The first character of a text gives the kind of the value. -/
theorem exists_compact {value : Json} (canonical : value.HasCanonicalFloats) :
    ∃ first rest, value.compact.toList = first :: rest ∧
      kindStartedBy first = some value.kindName := by
  cases canonical with
  | null => exact ⟨'n', ['u', 'l', 'l'], by simp [compact], rfl⟩
  | bool value =>
      cases value with
      | false => exact ⟨'f', ['a', 'l', 's', 'e'], by simp [compact], rfl⟩
      | true => exact ⟨'t', ['r', 'u', 'e'], by simp [compact], rfl⟩
  | @number value canonical =>
      rcases exists_numberText canonical with ⟨negative, first, rest, isText, isDigit, _⟩
      rw [compact, isText]
      cases negative with
      | false => exact ⟨first, rest, rfl, kindStartedBy_of_isDigit isDigit⟩
      | true => exact ⟨'-', first :: rest, rfl, rfl⟩
  | string value => exact ⟨'"', _, by rw [compact, stringText, String.toList_ofList]; rfl, rfl⟩
  | array => exact ⟨'[', _, compact_array _, rfl⟩
  | object => exact ⟨'\x7b', _, compact_object _, rfl⟩

theorem compact_append_ne {value : Json} (canonical : value.HasCanonicalFloats) {close : Char}
    (noValue : kindStartedBy close = none) (rest other : List Char) :
    value.compact.toList ++ rest ≠ close :: other := by
  intro same
  rcases exists_compact canonical with ⟨first, _, isText, isKind⟩
  rw [isText] at same
  rw [(List.cons.inj same).1, noValue] at isKind
  contradiction

theorem kindName_eq {left right : Json} (leftCanonical : left.HasCanonicalFloats)
    (rightCanonical : right.HasCanonicalFloats) {rest other : List Char}
    (same : left.compact.toList ++ rest = right.compact.toList ++ other) :
    left.kindName = right.kindName := by
  rcases exists_compact leftCanonical with ⟨first, _, isLeft, leftKind⟩
  rcases exists_compact rightCanonical with ⟨second, _, isRight, rightKind⟩
  rw [isLeft, isRight] at same
  rw [(List.cons.inj same).1, rightKind, Option.some.injEq] at leftKind
  exact leftKind.symm

theorem tellsApart_entryCharacters {left right : String × Json}
    (apart : TellsApart (fun value => value.compact.toList) left.2 right.2) :
    TellsApart entryCharacters left right := by
  intro rest other isBehind otherBehind same
  simp only [entryCharacters, List.append_assoc, List.cons_append] at same
  have colonBehind : ∀ text : List Char, IsBehindValue (':' :: text) := by
    intro text
    simp [IsBehindValue, isNumberCharacter]
  rcases tellsApart_stringText left.1 right.1 _ _ (colonBehind _) (colonBehind _) same with
    ⟨sameKey, sameRest⟩
  rcases apart rest other isBehind otherBehind (List.cons.inj sameRest).2 with ⟨sameValue, sameEnd⟩
  exact ⟨Prod.ext sameKey sameValue, sameEnd⟩

theorem tellsApart_array {lefts rights : List Json}
    (leftCanonical : ∀ item ∈ lefts, item.HasCanonicalFloats)
    (rightCanonical : ∀ item ∈ rights, item.HasCanonicalFloats)
    (apart : ∀ left ∈ lefts, ∀ right ∈ rights,
      TellsApart (fun value => value.compact.toList) left right) :
    TellsApart (fun value : Json => value.compact.toList) (.array lefts) (.array rights) := by
  intro rest other _ _ same
  have noValue : kindStartedBy ']' = none := rfl
  simp only [compact_array, List.cons_append, List.cons.injEq, true_and] at same
  rcases closedParts_append_inj (by decide) (by decide)
    (fun item member => compact_append_ne (leftCanonical item member) noValue)
    (fun item member => compact_append_ne (rightCanonical item member) noValue) apart same with
    ⟨sameItems, sameRest⟩
  exact ⟨congrArg Json.array sameItems, sameRest⟩

theorem tellsApart_object {lefts rights : List (String × Json)}
    (apart : ∀ left ∈ lefts, ∀ right ∈ rights,
      TellsApart (fun value => value.compact.toList) left.2 right.2) :
    TellsApart (fun value : Json => value.compact.toList) (.object lefts) (.object rights) := by
  intro rest other _ _ same
  have noEntry : ∀ (entry : String × Json) (rest other : List Char),
      entryCharacters entry ++ rest ≠ '\x7d' :: other := by
    intro entry rest other isClose
    simp [entryCharacters, stringText] at isClose
  simp only [compact_object, List.cons_append, List.cons.injEq, true_and] at same
  rcases closedParts_append_inj (by decide) (by decide) (fun entry _ => noEntry entry)
    (fun entry _ => noEntry entry)
    (fun left member right otherMember =>
      tellsApart_entryCharacters (apart left member right otherMember)) same with
    ⟨sameEntries, sameRest⟩
  exact ⟨congrArg Json.object sameEntries, sameRest⟩

/-- The text of a value fixes the value and its own end. -/
theorem HasCanonicalFloats.tellsApart {left right : Json} (leftCanonical : left.HasCanonicalFloats)
    (rightCanonical : right.HasCanonicalFloats) :
    TellsApart (fun value => value.compact.toList) left right := by
  -- The induction is on the value on the left; the one on the right has to be of the same kind.
  induction leftCanonical generalizing right with
  | null =>
      intro rest other _ _ same
      have sameKind := kindName_eq .null rightCanonical same
      cases rightCanonical <;> simp [kindName] at sameKind
      exact ⟨rfl, by simpa using same⟩
  | bool left =>
      intro rest other _ _ same
      have sameKind := kindName_eq (.bool left) rightCanonical same
      cases rightCanonical <;> simp [kindName] at sameKind
      next right => cases left <;> cases right <;> simp_all [compact]
  | number canonical =>
      intro rest other isBehind otherBehind same
      have sameKind := kindName_eq (.number canonical) rightCanonical same
      cases rightCanonical <;> simp [kindName] at sameKind
      next otherCanonical =>
        exact (tellsApart_numberText canonical otherCanonical rest other isBehind otherBehind
          same).imp_left (congrArg Json.number)
  | string left =>
      intro rest other isBehind otherBehind same
      have sameKind := kindName_eq (.string left) rightCanonical same
      cases rightCanonical <;> simp [kindName] at sameKind
      next right =>
        exact (tellsApart_stringText left right rest other isBehind otherBehind same).imp_left
          (congrArg Json.string)
  | array inside hypothesis =>
      intro rest other isBehind otherBehind same
      have sameKind := kindName_eq (.array inside) rightCanonical same
      cases rightCanonical <;> simp [kindName] at sameKind
      next otherInside =>
        apply tellsApart_array inside otherInside _ rest other isBehind otherBehind same
        intro left member right otherMember
        exact hypothesis left member (otherInside right otherMember)
  | object inside hypothesis =>
      intro rest other isBehind otherBehind same
      have sameKind := kindName_eq (.object inside) rightCanonical same
      cases rightCanonical <;> simp [kindName] at sameKind
      next otherInside =>
        apply tellsApart_object _ rest other isBehind otherBehind same
        intro left member right otherMember
        exact hypothesis left member (otherInside right otherMember)

/-- Different values have different compact texts. -/
theorem compact_injective {left right : Json} (leftCanonical : left.HasCanonicalFloats)
    (rightCanonical : right.HasCanonicalFloats) (same : left.compact = right.compact) :
    left = right := by
  have isBehind : IsBehindValue [] := by simp [IsBehindValue]
  have sameText : left.compact.toList ++ [] = right.compact.toList ++ [] := by rw [same]
  exact (leftCanonical.tellsApart rightCanonical [] [] isBehind isBehind sameText).1

end PageContext.Json
