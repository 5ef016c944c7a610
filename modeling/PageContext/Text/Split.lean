/-!
# Splitting texts

A text is cut at every occurrence of a separator, or at its first occurrence only.  Cutting at
every occurrence always yields at least one piece, and joining the pieces with the separator gives
the text back.
-/

namespace PageContext.Text

/-- The pieces between occurrences of `separator`: one more than there are occurrences. -/
def splitAtEach (separator : Char) : List Char → List (List Char)
  | [] => [[]]
  | character :: rest =>
      if character = separator then [] :: splitAtEach separator rest
      else
        match splitAtEach separator rest with
        | [] => [[character]]
        | piece :: pieces => (character :: piece) :: pieces

/-- The parts before and after the first occurrence of `separator`, if there is one. -/
def splitAtFirst (separator : Char) : List Char → Option (List Char × List Char)
  | [] => none
  | character :: rest =>
      if character = separator then some ([], rest)
      else (splitAtFirst separator rest).map fun parts => (character :: parts.1, parts.2)

/-- The pieces of a text between occurrences of `separator`. -/
def pieces (separator : Char) (text : String) : List String :=
  (splitAtEach separator text.toList).map String.ofList

/-- The two parts of a text around the first occurrence of `separator`. -/
def cut (separator : Char) (text : String) : Option (String × String) :=
  (splitAtFirst separator text.toList).map fun parts =>
    (String.ofList parts.1, String.ofList parts.2)

/-- The rest of a text after a given beginning. -/
def dropStart? : List Char → List Char → Option (List Char)
  | [], text => some text
  | _ :: _, [] => none
  | expected :: more, character :: rest =>
      if expected = character then dropStart? more rest else none

theorem splitAtEach_ne_nil (separator : Char) (characters : List Char) :
    splitAtEach separator characters ≠ [] := by
  induction characters with
  | nil => simp [splitAtEach]
  | cons character rest _ =>
      unfold splitAtEach
      split
      · simp
      · split <;> simp

/-- A run of characters with a property is read up to the first character without it. -/
theorem takeWhile_run {property : Char → Bool} {run rest : List Char}
    (inside : ∀ character ∈ run, property character = true)
    (boundary : ∀ character ∈ rest.head?, property character = false) :
    (run ++ rest).takeWhile property = run := by
  rw [List.takeWhile_append_of_pos inside]
  cases rest with
  | nil => simp
  | cons character rest => simp [boundary character rfl]

/-- Behind a run of characters with a property stands the rest. -/
theorem dropWhile_run {property : Char → Bool} {run rest : List Char}
    (inside : ∀ character ∈ run, property character = true)
    (boundary : ∀ character ∈ rest.head?, property character = false) :
    (run ++ rest).dropWhile property = rest := by
  rw [List.dropWhile_append_of_pos inside]
  cases rest with
  | nil => rfl
  | cons character rest => simp [boundary character rfl]

/-- Lowers the letters `A` to `Z` and leaves every other character alone. -/
def lowerAscii (text : String) : String :=
  String.ofList (text.toList.map Char.toLower)

end PageContext.Text
