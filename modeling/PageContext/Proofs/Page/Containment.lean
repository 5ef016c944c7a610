import PageContext.Page.Loader
import PageContext.Proofs.Files.Components

/-!
# Names of pages

The name of a page is refused exactly when it is empty or has a component that is not a name: the
root, a single dot in front or two dots anywhere.  The file of any other name is looked for below the
directory of pages and nowhere else.
-/

namespace PageContext.Page

theorem isRefused_iff {name : String} :
    isRefused name = true ↔ name = "" ∨ .root ∈ Path.components name ∨
      .here ∈ Path.components name ∨ .up ∈ Path.components name := by
  rw [Path.root_mem_components, Path.here_mem_components, Path.up_mem_components, isRefused]
  cases Path.isAbsolute name <;> simp [or_assoc]

/-! ## Files of pages -/

/-- A text with the ending of a template is the name of a file. -/
theorem named_ending (text : String) :
    Path.named [text ++ ".json"] = [text ++ ".json"] ∧ text ++ ".json" ≠ ".." := by
  have isLast : (text ++ ".json").toList.getLast? = some 'n' := by
    rw [String.toList_append, List.getLast?_append]
    rfl
  have differs : ∀ {other : String}, other.toList.getLast? ≠ some 'n' → text ++ ".json" ≠ other := by
    rintro _ noEnding rfl
    exact noEnding isLast
  refine ⟨?_, differs (by decide)⟩
  have noDot : text ++ ".json" ≠ "." := differs (by decide)
  have nonempty : text ++ ".json" ≠ "" := differs (by decide)
  simp [Path.named, noDot, nonempty]

/-- The file of a page whose name is not refused stands at a relative path of names, of which the
last one has the ending. -/
structure IsBelow (name : String) (front : List String) (last : String) : Prop where
  isCut : Text.pieces '/' (name ++ ".json") = front ++ [last ++ ".json"]
  noUp : ".." ∉ front ++ [last ++ ".json"]
  isRelative : Path.isAbsolute (name ++ ".json") = false
  noDot : (Text.pieces '/' (name ++ ".json")).head? ≠ some "."

theorem exists_isBelow {name : String} (accepted : isRefused name = false) :
    ∃ front last, IsBelow name front last := by
  simp only [isRefused, Bool.or_eq_false_iff, decide_eq_false_iff_not, beq_eq_false_iff_ne,
    List.contains_eq_mem] at accepted
  rcases accepted with ⟨⟨⟨nonempty, isRelative⟩, noDot⟩, noUp⟩
  rcases List.eq_nil_or_concat (Text.pieces '/' name) with none | ⟨front, last, isCut⟩
  · exact absurd none (Text.pieces_ne_nil '/' name)
  rw [List.concat_eq_append] at isCut
  have isCutFile := Text.pieces_append_of_notMem (by decide : '/' ∉ ".json".toList) isCut
  rcases named_ending last with ⟨isNamed, notUp⟩
  refine ⟨front, last, isCutFile, ?_, ?_, ?_⟩
  · rw [isCut] at noUp
    simp only [List.mem_append, List.mem_singleton, not_or] at noUp ⊢
    exact ⟨noUp.1, Ne.symm notUp⟩
  · rw [Path.isAbsolute_append nonempty, isRelative]
  · rw [isCutFile]
    cases front with
    | nil =>
        intro isDot
        have same : last ++ ".json" = "." := by simpa using isDot
        rw [same] at isNamed
        exact absurd isNamed (by decide)
    | cons first others =>
        rw [isCut] at noDot
        simpa using noDot

theorem getLast?_join_pages (directory : String) :
    (Path.join directory "pages").toList.getLast? = some 's' := by
  have endsLikePages : ∀ front : String, (front ++ "pages").toList.getLast? = some 's' := by
    intro front
    rw [String.toList_append, List.getLast?_append]
    rfl
  rw [Path.join, if_neg (by decide)]
  split
  · exact endsLikePages directory
  · exact endsLikePages (directory ++ "/")

theorem join_pages_ne_empty (directory : String) : Path.join directory "pages" ≠ "" := by
  intro empty
  have isLast := getLast?_join_pages directory
  rw [empty] at isLast
  exact absurd isLast (by decide)

theorem path_eq {name : String} (isRelative : Path.isAbsolute (name ++ ".json") = false)
    (directory : String) :
    path directory name = Path.join directory "pages" ++ "/" ++ (name ++ ".json") := by
  rw [path]
  generalize isPages : Path.join directory "pages" = pages
  have isLast := getLast?_join_pages directory
  have nonempty := join_pages_ne_empty directory
  rw [isPages] at isLast nonempty
  rw [Path.join, isRelative]
  simp [isLast, nonempty]

theorem components_path {name last : String} {front : List String}
    (isBelow : IsBelow name front last) (directory : String) :
    Path.components (path directory name) = Path.components directory ++
      .name "pages" :: (Path.named front ++ [last ++ ".json"]).map .name := by
  have isPages : (Text.pieces '/' "pages").filterMap Path.Component.ofPiece? = [.name "pages"] := by
    decide
  rw [path_eq isBelow.isRelative, Path.components_append (join_pages_ne_empty directory),
    Path.components_join directory (by decide) (by decide), isPages, isBelow.isCut,
    Path.filterMap_ofPiece? isBelow.noUp, Path.named_append, (named_ending last).1,
    List.append_assoc]
  rfl

/-- Wherever the file of a page is found, it lies below the directory of pages. -/
theorem find_path {name last : String} {front : List String} (isBelow : IsBelow name front last)
    {directory : String} {tree : FileTree} {place : Place}
    (isFound : tree.find (path directory name) = .ok place) :
    ∃ pages, tree.find (Path.join directory "pages") = .ok pages ∧
      place = (Path.named front ++ [last ++ ".json"]).reverse ++ pages := by
  rw [path_eq isBelow.isRelative] at isFound
  rcases FileTree.find_append (join_pages_ne_empty directory) isFound with
    ⟨pages, arePages, arrives⟩
  refine ⟨pages, arePages, ?_⟩
  rw [isBelow.isCut] at arrives
  rw [FileTree.walk_eq_ok isBelow.noUp arrives, Path.named_append, (named_ending last).1]

/-! ## Names and files -/

/-- Names of pages do not lead out of the directory of pages.  A name that is empty, absolute,
begins with a single dot or goes up anywhere is refused before any file is read.  For every other
name one file is read, whose path is the directory of pages followed by names, the last of them
with the ending of a template; in a tree of files it lies at these names below this directory. -/
theorem names_stay_inside (directory name : String) :
    (isRefused name = true ↔ name = "" ∨ .root ∈ Path.components name ∨
      .here ∈ Path.components name ∨ .up ∈ Path.components name) ∧
    (isRefused name = true → ∀ files,
      readPage files directory name = .error (.notFound (path directory name)) ∧
      readTemplates files directory name = .error (.notFound (path directory name))) ∧
    (isRefused name = false →
      path directory name = Path.join directory "pages" ++ "/" ++ (name ++ ".json") ∧
      (∀ files, readPage files directory name = readTemplate files (path directory name) ∧
        readTemplates files directory name = do
          let global ← readTemplate files (globalPath directory)
          let page ← readPage files directory name
          return (global, page)) ∧
      (∀ files others : Files,
        files.look (path directory name) = others.look (path directory name) →
          readPage files directory name = readPage others directory name) ∧
      ∃ directories file,
        Path.components (path directory name) = Path.components directory ++
          .name "pages" :: (directories ++ [file ++ ".json"]).map .name ∧
        ∀ (tree : FileTree) (place : Place), tree.find (path directory name) = .ok place →
          ∃ pages, tree.find (Path.join directory "pages") = .ok pages ∧
            place = (directories ++ [file ++ ".json"]).reverse ++ pages) := by
  refine ⟨isRefused_iff, ?_, ?_⟩
  · intro refused files
    constructor <;> simp only [readPage, readTemplates, path?, refused, if_true] <;> rfl
  · intro accepted
    rcases exists_isBelow accepted with ⟨front, last, isBelow⟩
    have isRead : ∀ files, readPage files directory name =
        readTemplate files (path directory name) := by
      intro files
      simp only [readPage, path?, accepted, Bool.false_eq_true, if_false]
      rfl
    refine ⟨path_eq isBelow.isRelative directory, ?_, ?_, Path.named front, last, ?_, ?_⟩
    · intro files
      refine ⟨isRead files, ?_⟩
      rw [isRead files]
      simp only [readTemplates, path?, accepted, Bool.false_eq_true, if_false]
      rfl
    · intro files others same
      have sameText : files.read (path directory name) = others.read (path directory name) := by
        rw [Files.read, Files.read, same]
      rw [isRead, isRead, readTemplate, readTemplate, sameText]
    · exact components_path isBelow directory
    · intro tree place isFound
      exact find_path isBelow isFound

/-- Repeated slashes and inner dots disappear, and a dot at the end becomes part of the name. -/
example : Path.components (path "site/" "a//./b/.") =
    [.name "site", .name "pages", .name "a", .name "b", .name "..json"] := by
  decide

end PageContext.Page
