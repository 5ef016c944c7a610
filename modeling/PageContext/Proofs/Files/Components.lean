import PageContext.Files.Tree
import PageContext.Proofs.Success
import PageContext.Proofs.Text.Cuts

/-!
# Components of paths

A path consists of components: the root in front of an absolute path, a single dot in front of a
relative one, two dots wherever they stand, and names.  Repeated slashes, slashes at the end and
other single dots are no components.  A relative path that is joined to another one adds its own
components behind the others, and a walk along names alone ends below the place where it begins.
-/

namespace PageContext

namespace Path

/-- A part of a path. -/
inductive Component where
  | root
  /-- A single dot at the beginning. -/
  | here
  /-- Two dots, which lead upwards. -/
  | up
  | name (name : String)
deriving DecidableEq, Repr

/-- The component of a piece behind the beginning of a path; an empty piece and a single dot have
none. -/
def Component.ofPiece? (piece : String) : Option Component :=
  if piece = "" ∨ piece = "." then none
  else if piece = ".." then some .up
  else some (.name piece)

/-- The component at the beginning of a path that is no piece in other places. -/
def leading (path : String) : List Component :=
  if isAbsolute path then [.root]
  else if (Text.pieces '/' path).head? = some "." then [.here]
  else []

def components (path : String) : List Component :=
  leading path ++ (Text.pieces '/' path).filterMap Component.ofPiece?

/-! ## Joined paths -/

theorem isAbsolute_append {front : String} (nonempty : front ≠ "") (rest : String) :
    isAbsolute (front ++ rest) = isAbsolute front := by
  cases characters : front.toList with
  | nil => exact absurd (String.toList_eq_nil_iff.mp characters) nonempty
  | cons first others => simp [isAbsolute, characters]

theorem head?_pieces_append {front : String} (rest : String) :
    (Text.pieces '/' (front ++ "/" ++ rest)).head? = (Text.pieces '/' front).head? := by
  have isCut : Text.pieces '/' (front ++ "/" ++ rest) = _ :=
    Text.pieces_append_separator '/' front rest
  rw [isCut, List.head?_append_of_ne_nil _ (Text.pieces_ne_nil '/' front)]

theorem leading_append {front : String} (nonempty : front ≠ "") (rest : String) :
    leading (front ++ "/" ++ rest) = leading front := by
  rw [leading, leading, head?_pieces_append, String.append_assoc, isAbsolute_append nonempty]

theorem components_append {front : String} (nonempty : front ≠ "") (rest : String) :
    components (front ++ "/" ++ rest) =
      components front ++ (Text.pieces '/' rest).filterMap Component.ofPiece? := by
  have isCut : Text.pieces '/' (front ++ "/" ++ rest) = _ :=
    Text.pieces_append_separator '/' front rest
  rw [components, leading_append nonempty, isCut, List.filterMap_append, ← List.append_assoc]
  rfl

/-- A relative path that does not begin with a single dot adds its components to those of the path
that it is joined to. -/
theorem components_join (base : String) {rest : String} (isRelative : isAbsolute rest = false)
    (noDot : (Text.pieces '/' rest).head? ≠ some ".") :
    components (join base rest) =
      components base ++ (Text.pieces '/' rest).filterMap Component.ofPiece? := by
  rw [join, isRelative, if_neg Bool.false_ne_true]
  by_cases empty : base = ""
  · have noLeading : leading rest = [] := by
      rw [leading, isRelative, if_neg Bool.false_ne_true, if_neg noDot]
    have noComponents : components "" = [] := by decide
    rw [empty, noComponents, if_pos (by decide), String.empty_append, components, noLeading]
  by_cases isOpen : base.toList.getLast? = some '/'
  · -- The slash is already there, so that the path in front of it is the one that continues.
    rcases List.getLast?_eq_some_iff.mp isOpen with ⟨characters, isBase⟩
    obtain ⟨front, rfl⟩ : ∃ front, base = front ++ "/" :=
      ⟨String.ofList characters, String.toList_inj.mp (by simp [isBase])⟩
    have isCut : ∀ rest, Text.pieces '/' (front ++ "/" ++ rest) =
        Text.pieces '/' front ++ Text.pieces '/' rest := Text.pieces_append_separator '/' front
    have isCutOpen : Text.pieces '/' (front ++ "/") = Text.pieces '/' front ++ [""] := by
      simpa [Text.pieces, Text.splitAtEach] using isCut ""
    have sameLeading : leading (front ++ "/" ++ rest) = leading (front ++ "/") := by
      rw [leading, leading, isAbsolute_append empty, isCut, isCutOpen,
        List.head?_append_of_ne_nil _ (Text.pieces_ne_nil '/' front),
        List.head?_append_of_ne_nil _ (Text.pieces_ne_nil '/' front)]
    rw [if_pos (by simp), components, components, sameLeading, isCut, isCutOpen]
    simp [Component.ofPiece?]
  · rw [if_neg (by simp [empty, isOpen]), components_append empty]

/-! ## What a path is made of -/

theorem Component.ofPiece?_eq_some_iff {piece : String} {component : Component} :
    ofPiece? piece = some component ↔
      (piece = ".." ∧ component = .up) ∨
        (piece ≠ "" ∧ piece ≠ "." ∧ piece ≠ ".." ∧ component = .name piece) := by
  rw [ofPiece?]
  split
  · next noPart =>
    have notUp : piece ≠ ".." := by
      rintro rfl
      exact absurd noPart (by decide)
    simp only [reduceCtorEq, notUp, false_and, false_or, false_iff]
    tauto
  · next isPart =>
    rw [not_or] at isPart
    split
    · next isUp => simp only [isUp, Option.some.injEq]; grind
    · next noUp => simp only [Option.some.injEq]; grind

theorem root_mem_components {path : String} :
    .root ∈ components path ↔ isAbsolute path = true := by
  rw [components, List.mem_append, List.mem_filterMap]
  simp only [Component.ofPiece?_eq_some_iff, reduceCtorEq, and_false, or_false, exists_false]
  rw [leading]
  split
  · next isAbsolute => simp [isAbsolute]
  · next noRoot =>
    split <;> simp [noRoot]

theorem here_mem_components {path : String} :
    .here ∈ components path ↔
      isAbsolute path = false ∧ (Text.pieces '/' path).head? = some "." := by
  rw [components, List.mem_append, List.mem_filterMap]
  simp only [Component.ofPiece?_eq_some_iff, reduceCtorEq, and_false, or_false, exists_false]
  rw [leading]
  split
  · next isAbsolute => simp [isAbsolute]
  · next noRoot =>
    split
    · next isDot => simp [noRoot, isDot]
    · next noDot => simp [noDot]

theorem up_mem_components {path : String} :
    .up ∈ components path ↔ ".." ∈ Text.pieces '/' path := by
  have notLeading : .up ∉ leading path := by
    rw [leading]
    split
    · simp
    · split <;> simp
  rw [components, List.mem_append, List.mem_filterMap]
  simp [notLeading, Component.ofPiece?_eq_some_iff]

/-- The pieces that are neither empty nor a single dot. -/
def named (pieces : List String) : List String :=
  pieces.filter fun piece => piece ≠ "" && piece ≠ "."

theorem named_append (front back : List String) : named (front ++ back) = named front ++ named back :=
  List.filter_append front back

/-- Pieces that do not lead upwards are names, apart from those that are no components. -/
theorem filterMap_ofPiece? {pieces : List String} (noUp : ".." ∉ pieces) :
    pieces.filterMap Component.ofPiece? = (named pieces).map .name := by
  induction pieces with
  | nil => rfl
  | cons piece rest hypothesis =>
      rw [List.mem_cons, not_or] at noUp
      rw [List.filterMap_cons, hypothesis noUp.2, Component.ofPiece?, named, named,
        List.filter_cons]
      by_cases none : piece = "" ∨ piece = "."
      · rcases none with rfl | rfl <;> rfl
      · rw [if_neg none, if_neg (Ne.symm noUp.1)]
        rw [not_or] at none
        simp [none]

end Path

namespace FileTree

variable {tree : FileTree} {place found : Place}

/-- A walk along some pieces and then along others is a walk along all of them. -/
theorem walk_append (tree : FileTree) (front back : List String) (place : Place) :
    tree.walk (front ++ back) place = tree.walk front place >>= tree.walk back := by
  induction front generalizing place with
  | nil => rfl
  | cons piece rest hypothesis =>
      rw [List.cons_append, walk, walk]
      split
      · cases stepped : step place piece with
        | error cause => rfl
        | ok next =>
            cases isThere : (tree.stateAt? next).isNone with
            | true => simp [isThere, bind, Except.bind, throw, throwThe, MonadExceptOf.throw]
            | false => simpa [isThere, bind, Except.bind] using hypothesis next
      · rfl

/-- A step along a piece that does not lead upwards stays or goes down by the name. -/
theorem step_eq_ok {piece : String} {next : Place} (notUp : piece ≠ "..")
    (stepped : step place piece = .ok next) :
    next = (Path.named [piece]).reverse ++ place := by
  rw [step, if_neg notUp] at stepped
  split at stepped
  · next none =>
    obtain rfl := Except.ok.inj stepped
    rcases (by simpa using none : piece = "" ∨ piece = ".") with rfl | rfl <;> rfl
  · next isName =>
    split at stepped
    · contradiction
    · obtain rfl := Except.ok.inj stepped
      have isNamed : Path.named [piece] = [piece] := by
        rw [Path.named, List.filter_eq_self]
        simpa using isName
      rw [isNamed]
      rfl

/-- A walk that does not lead upwards ends below its beginning, at the names on its way. -/
theorem walk_eq_ok {pieces : List String} (noUp : ".." ∉ pieces)
    (arrives : tree.walk pieces place = .ok found) :
    found = (Path.named pieces).reverse ++ place := by
  induction pieces generalizing place with
  | nil => exact (Except.ok.inj arrives).symm
  | cons piece rest hypothesis =>
      rw [List.mem_cons, not_or] at noUp
      rw [walk] at arrives
      split at arrives
      · rcases Except.bind_eq_ok_iff.mp arrives with ⟨next, stepped, arrives⟩
        split at arrives
        · simp at arrives
        · rw [hypothesis noUp.2 arrives, step_eq_ok (Ne.symm noUp.1) stepped,
            ← List.append_assoc, ← List.reverse_append, ← Path.named_append,
            List.singleton_append]
      · contradiction

theorem checkPath_eq_ok_iff {path : String} {result : Unit} :
    checkPath path = .ok result ↔
      (∀ character ∈ path.toList, character.toNat ≠ 0) ∧ path ≠ "" ∧
        path.utf8ByteSize < tooLongPath := by
  rw [checkPath]
  split
  · next isNull =>
    rcases List.any_eq_true.mp isNull with ⟨character, inPath, isNull⟩
    simp only [reduceCtorEq, false_iff]
    rintro ⟨noNull, _⟩
    exact noNull character inPath (by simpa using isNull)
  · next noNull =>
    split
    · next empty => simp [empty]
    · next nonempty =>
      split
      · next isLong => simp [isLong]
      · next isShort => simpa [nonempty, Nat.not_le.mp isShort] using noNull

/-- The way along a path leads through the place of every path in front of one of its slashes. -/
theorem find_append {front rest : String} (nonempty : front ≠ "")
    (arrives : tree.find (front ++ "/" ++ rest) = .ok found) :
    ∃ middle, tree.find front = .ok middle ∧
      tree.walk (Text.pieces '/' rest) middle = .ok found := by
  rcases Except.bind_eq_ok_iff.mp arrives with ⟨_, isPath, arrives⟩
  have sameStart : tree.start (front ++ "/" ++ rest) = tree.start front := by
    rw [start, start, String.append_assoc, Path.isAbsolute_append nonempty]
  have isCut : Text.pieces '/' (front ++ "/" ++ rest) = _ :=
    Text.pieces_append_separator '/' front rest
  rw [isCut, sameStart, walk_append, Except.bind_eq_ok_iff] at arrives
  rcases arrives with ⟨middle, isMiddle, arrives⟩
  refine ⟨middle, ?_, arrives⟩
  have isFrontPath : checkPath front = .ok () := by
    rw [checkPath_eq_ok_iff, String.utf8ByteSize_append, String.utf8ByteSize_append] at isPath
    rcases isPath with ⟨noNull, _, isShort⟩
    refine checkPath_eq_ok_iff.mpr ⟨?_, nonempty, by omega⟩
    intro character inFront
    exact noNull character (by simp [inFront])
  rw [find, isFrontPath]
  exact isMiddle

end FileTree

end PageContext
