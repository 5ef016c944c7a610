/-!
# Blanks

A blank is a character with the Unicode property `White_Space`.  Blanks are removed from the ends
of texts and separate the words of a text.  This file holds the property and these two operations
on lists of characters, together with the facts that a trimmed text does not start with a blank and
that a run of other characters before a blank is a word.
-/

namespace PageContext.Text

/-- Whether a character has the Unicode property `White_Space`. -/
def isBlank (character : Char) : Bool :=
  let code := character.toNat
  (9 ≤ code && code ≤ 13) || code == 0x20 || code == 0x85 || code == 0xA0 || code == 0x1680 ||
    (0x2000 ≤ code && code ≤ 0x200A) || code == 0x2028 || code == 0x2029 || code == 0x202F ||
    code == 0x205F || code == 0x3000

/-- The characters from the first one that is no blank. -/
def dropBlanks (characters : List Char) : List Char :=
  characters.dropWhile isBlank

/-- The characters without the blanks at either end. -/
def trimmed (characters : List Char) : List Char :=
  (dropBlanks (dropBlanks characters).reverse).reverse

/-- The text without the blanks at either end. -/
def trim (text : String) : String :=
  String.ofList (trimmed text.toList)

/-- Adds a character in front of the first word of a list of words. -/
private def extendFirstWord (character : Char) : List (List Char) → List (List Char)
  | [] => [[character]]
  | word :: words => (character :: word) :: words

/-- The pieces between blanks, empty pieces included. -/
private def piecesBetweenBlanks : List Char → List (List Char)
  | [] => [[]]
  | character :: rest =>
      if isBlank character then [] :: piecesBetweenBlanks rest
      else extendFirstWord character (piecesBetweenBlanks rest)

/-- The maximal runs of characters that are no blanks, in order. -/
def words (text : String) : List String :=
  ((piecesBetweenBlanks text.toList).filter fun piece => !piece.isEmpty).map String.ofList

theorem dropBlanks_head? (characters : List Char) (first : Char)
    (starts : (dropBlanks characters).head? = some first) : isBlank first = false := by
  induction characters with
  | nil => simp [dropBlanks] at starts
  | cons character rest hypothesis =>
      unfold dropBlanks at starts hypothesis
      by_cases blank : isBlank character
      · rw [List.dropWhile_cons_of_pos blank] at starts
        exact hypothesis starts
      · rw [List.dropWhile_cons_of_neg blank] at starts
        simp at starts
        subst starts
        simpa using blank

private theorem piecesBetweenBlanks_of_noBlank {word : List Char}
    (noBlank : ∀ character ∈ word, isBlank character = false) :
    piecesBetweenBlanks word = [word] := by
  induction word with
  | nil => rfl
  | cons character rest hypothesis =>
      rw [List.forall_mem_cons] at noBlank
      rw [piecesBetweenBlanks, noBlank.1, hypothesis noBlank.2]
      rfl

private theorem piecesBetweenBlanks_append {word : List Char}
    (noBlank : ∀ character ∈ word, isBlank character = false) {blank : Char}
    (between : isBlank blank = true) (rest : List Char) :
    piecesBetweenBlanks (word ++ blank :: rest) = word :: piecesBetweenBlanks rest := by
  induction word with
  | nil => simp [piecesBetweenBlanks, between]
  | cons character word hypothesis =>
      rw [List.forall_mem_cons] at noBlank
      rw [List.cons_append, piecesBetweenBlanks, noBlank.1, hypothesis noBlank.2]
      rfl

/-- A text without blanks is a word unless it is empty. -/
theorem words_of_noBlank {word : String} (nonempty : word ≠ "")
    (noBlank : ∀ character ∈ word.toList, isBlank character = false) : words word = [word] := by
  rw [words, piecesBetweenBlanks_of_noBlank noBlank]
  simp [nonempty]

/-- The characters before the first blank are the first word. -/
theorem words_append {word rest : String} (nonempty : word ≠ "")
    (noBlank : ∀ character ∈ word.toList, isBlank character = false) :
    words (word ++ " " ++ rest) = word :: words rest := by
  have asList : (word ++ " " ++ rest).toList = word.toList ++ ' ' :: rest.toList := by
    simp
  rw [words, asList, piecesBetweenBlanks_append noBlank (by decide)]
  simp [words, nonempty]

end PageContext.Text
