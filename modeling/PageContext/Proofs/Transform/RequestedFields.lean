import PageContext.Proofs.Transform.Projections

/-!
# Requested fields

A projection finds at a requested field what the record has there, with one exception.  An array
that is requested as a whole is left open when afterwards one of its items is requested: it gives way
to an object with this item alone, under its number.  Then the field of the array has another value,
and so has every field that lies in it, unless it is requested once more.
-/

namespace PageContext.Json

/-! ## The last relevant path -/

/-- The last of some paths that is relevant. -/
def lastOf? (relevant : List String → Bool) (paths : List (List String)) : Option (List String) :=
  (paths.filter relevant).getLast?

/-- A path leads somewhere in a value: to a place, to something around it or to something in it. -/
def touches (source : Json) (place path : List String) : Bool :=
  (follow? path source).isSome && (path.isPrefixOf place || place.isPrefixOf path)

/-- A path is that of a field or of something around the field. -/
def covers (field path : List String) : Bool :=
  path.isPrefixOf field

section

variable {source part : Json} {paths before after : List (List String)} {key : String}
  {place path field : List String} {relevant : List String → Bool}

theorem covers_iff : covers field path = true ↔ path <+: field :=
  List.isPrefixOf_iff_prefix

theorem touches_iff : touches source place path = true ↔
    (∃ found, follow? path source = some found) ∧ (path <+: place ∨ place <+: path) := by
  simp [touches, Option.isSome_iff_exists]

theorem lastOf?_eq_some_iff : lastOf? relevant paths = some path ↔
    ∃ before after, paths = before ++ path :: after ∧ relevant path = true ∧
      ∀ later ∈ after, relevant later = false := by
  rw [lastOf?, List.getLast?_eq_some_iff]
  constructor
  · rintro ⟨front, isFiltered⟩
    rcases List.filter_eq_append_iff.mp isFiltered with ⟨start, rest, rfl, _, isLast⟩
    rcases List.filter_eq_cons_iff.mp isLast with ⟨middle, after, rfl, _, isRelevant, noMore⟩
    refine ⟨start ++ middle, after, by simp, isRelevant, fun later member => ?_⟩
    have notRelevant := List.filter_eq_nil_iff.mp noMore later member
    simpa using notRelevant
  · rintro ⟨before, after, rfl, isRelevant, noMore⟩
    refine ⟨before.filter relevant, ?_⟩
    have none : after.filter relevant = [] := by
      rw [List.filter_eq_nil_iff]
      intro later member
      simp [noMore later member]
    rw [List.filter_append, List.filter_cons_of_pos isRelevant, none]

theorem lastOf?_eq_none_iff :
    lastOf? relevant paths = none ↔ ∀ path ∈ paths, relevant path = false := by
  simp [lastOf?]

theorem exists_lastOf? (member : path ∈ paths) (isRelevant : relevant path = true) :
    ∃ last, lastOf? relevant paths = some last ∧ relevant last = true := by
  cases isLast : lastOf? relevant paths with
  | none =>
      rw [lastOf?_eq_none_iff.mp isLast path member] at isRelevant
      contradiction
  | some last =>
      rcases lastOf?_eq_some_iff.mp isLast with ⟨_, _, _, lastRelevant, _⟩
      exact ⟨last, rfl, lastRelevant⟩

theorem lastOf?_nil_cons (isRelevant : relevant [] = true) (paths : List (List String)) :
    lastOf? relevant ([] :: paths) = (lastOf? relevant paths).or (some []) := by
  rw [lastOf?, List.filter_cons_of_pos isRelevant, List.getLast?_cons, lastOf?]
  cases (paths.filter relevant).getLast? <;> rfl

theorem lastOf?_append_nil_cons (isRelevant : relevant [] = true) :
    lastOf? relevant (before ++ [] :: after) = lastOf? relevant ([] :: after) := by
  rw [lastOf?, List.filter_append, List.getLast?_append, ← lastOf?, lastOf?_nil_cons isRelevant]
  cases lastOf? relevant after <;> rfl

/-- Below a key, the last relevant path is the last of those that go on there. -/
theorem lastOf?_eq_map_pathsBelow {relevantBelow : List String → Bool} (noneHere : [] ∉ paths)
    (atKey : ∀ rest, relevant (key :: rest) = relevantBelow rest)
    (elsewhere : ∀ segment rest, segment ≠ key → relevant (segment :: rest) = false) :
    lastOf? relevant paths = (lastOf? relevantBelow (pathsBelow key paths)).map (key :: ·) := by
  rw [lastOf?, lastOf?, ← List.getLast?_map]
  congr 1
  fun_induction pathsBelow key paths with
  | case1 => rfl
  | case2 => simp at noneHere
  | case3 rest paths hypothesis =>
      have others := hypothesis (fun isHere => noneHere (List.mem_cons_of_mem _ isHere))
      cases isRelevant : relevantBelow rest <;>
        simp [atKey, isRelevant, others]
  | case4 segment rest paths differ hypothesis =>
      rw [List.filter_cons_of_neg (by simp [elsewhere segment rest differ])]
      exact hypothesis fun isHere => noneHere (List.mem_cons_of_mem _ isHere)

theorem lastOf?_touches_cons (noneHere : [] ∉ paths) (isPart : source.step? key = some part) :
    lastOf? (touches source (key :: place)) paths =
      (lastOf? (touches part place) (pathsBelow key paths)).map (key :: ·) := by
  apply lastOf?_eq_map_pathsBelow noneHere
  · intro rest
    simp [touches, follow?, isPart]
  · intro segment rest differ
    simp [touches, List.isPrefixOf, differ, Ne.symm differ]

theorem lastOf?_covers_cons (noneHere : [] ∉ paths) :
    lastOf? (covers (key :: field)) paths =
      (lastOf? (covers field) (pathsBelow key paths)).map (key :: ·) := by
  apply lastOf?_eq_map_pathsBelow noneHere
  · intro rest
    simp [covers]
  · intro segment rest differ
    simp [covers, List.isPrefixOf, differ]

@[simp] theorem touches_nil (source : Json) (place : List String) : touches source place [] = true := by
  simp [touches, follow?]

@[simp] theorem covers_nil (field : List String) : covers field [] = true := rfl

/-! ## Arrays that are left open -/

/-- Paths leave an array open: one of them leads to the array or to something around it, but the last
of those that touch it leads to one of its items or into one. -/
structure LeftOpen (source : Json) (paths : List (List String)) (place : List String) : Prop where
  isArray : ∃ items, follow? place source = some (.array items)
  requested : ∃ path ∈ paths, path <+: place
  opened : ∃ path, lastOf? (touches source place) paths = some path ∧ ¬path <+: place

theorem LeftOpen.of_pathsBelow (noneHere : [] ∉ paths) (isPart : source.step? key = some part)
    (isOpen : LeftOpen part (pathsBelow key paths) place) : LeftOpen source paths (key :: place) where
  isArray := by simpa [follow?, isPart] using isOpen.isArray
  requested := by
    rcases isOpen.requested with ⟨rest, member, isPrefix⟩
    exact ⟨key :: rest, mem_pathsBelow_iff.mp member, (List.prefix_cons_inj key).mpr isPrefix⟩
  opened := by
    rcases isOpen.opened with ⟨rest, isLast, notPrefix⟩
    refine ⟨key :: rest, ?_, fun isPrefix => notPrefix ((List.prefix_cons_inj key).mp isPrefix)⟩
    rw [lastOf?_touches_cons noneHere isPart, isLast, Option.map_some]

theorem LeftOpen.of_nil_cons_pathsBelow (noneHere : [] ∉ paths) (isPart : source.step? key = some part)
    (isOpen : LeftOpen part ([] :: pathsBelow key paths) place) :
    LeftOpen source ([] :: paths) (key :: place) where
  isArray := by simpa [follow?, isPart] using isOpen.isArray
  requested := ⟨[], List.mem_cons_self, List.nil_prefix⟩
  opened := by
    rcases isOpen.opened with ⟨rest, isLast, notPrefix⟩
    refine ⟨key :: rest, ?_, fun isPrefix => notPrefix ((List.prefix_cons_inj key).mp isPrefix)⟩
    rw [lastOf?_nil_cons (by simp)] at isLast ⊢
    rw [lastOf?_touches_cons noneHere isPart]
    cases isBelow : lastOf? (touches part place) (pathsBelow key paths) with
    | none =>
        rw [isBelow, Option.none_or, Option.some.injEq] at isLast
        rw [← isLast] at notPrefix
        exact absurd List.nil_prefix notPrefix
    | some other =>
        rw [isBelow, Option.some_or, Option.some.injEq] at isLast
        rw [isLast]
        rfl

theorem LeftOpen.nil_cons (isOpen : LeftOpen source paths place) :
    LeftOpen source ([] :: paths) place where
  isArray := isOpen.isArray
  requested := ⟨[], List.mem_cons_self, List.nil_prefix⟩
  opened := by
    rcases isOpen.opened with ⟨path, isLast, notPrefix⟩
    refine ⟨path, ?_, notPrefix⟩
    rw [lastOf?_nil_cons (by simp), isLast, Option.some_or]

theorem LeftOpen.append_nil_cons (isOpen : LeftOpen source ([] :: after) place) :
    LeftOpen source (before ++ [] :: after) place where
  isArray := isOpen.isArray
  requested := ⟨[], by simp, List.nil_prefix⟩
  opened := by
    rw [lastOf?_append_nil_cons (by simp)]
    exact isOpen.opened

/-- An array that is a whole value is left open by any path that leads into it afterwards. -/
theorem leftOpen_of_leads (noneHere : [] ∉ paths) (leads : Leads paths source)
    (noObject : ∀ entries, source ≠ .object entries) : LeftOpen source ([] :: paths) [] := by
  rcases leads.exists_pathsBelow noneHere with ⟨key, part, isPart, _⟩
  rcases leads with ⟨path, member, found, isFound⟩
  rcases exists_lastOf? member (touches_iff.mpr ⟨⟨found, isFound⟩, .inr List.nil_prefix⟩) with
    ⟨last, isLast, _⟩
  refine ⟨?_, ⟨[], List.mem_cons_self, List.nil_prefix⟩, last, ?_, ?_⟩
  · cases source with
    | object entries => exact absurd rfl (noObject entries)
    | array items => exact ⟨items, rfl⟩
    | _ => simp [step?] at isPart
  · rw [lastOf?_nil_cons (by simp), isLast, Option.some_or]
  · rcases lastOf?_eq_some_iff.mp isLast with ⟨before, after, rfl, _, _⟩
    rw [List.prefix_nil]
    rintro rfl
    simp at noneHere

/-! ## What stays whole -/

/-- A value that is gathered as a whole, and no array of which is left open, is gathered as it is. -/
theorem gather_eq_whole {bound : Nat} (short : ∀ path ∈ paths, path.length ≤ bound)
    (distinct : source.HasDistinctKeys) (whole : [] ∈ paths)
    (closed : ∀ place, ¬LeftOpen source paths place) : gather source paths none = some source := by
  induction bound generalizing paths source with
  | zero =>
      rcases (exists_last_nil paths).resolve_left (not_not.mpr whole) with
        ⟨before, after, rfl, noneHere⟩
      obtain rfl : after = [] :=
        eq_nil_of_length_le_zero (fun path member => short path (by simp [member])) noneHere
      rw [gather_append_nil_cons]
      rfl
  | succ bound hypothesis =>
      rcases (exists_last_nil paths).resolve_left (not_not.mpr whole) with
        ⟨before, after, rfl, noneHere⟩
      have shortAfter : ∀ path ∈ after, path.length ≤ bound + 1 :=
        fun path member => short path (by simp [member])
      have closedAfter : ∀ place, ¬LeftOpen source ([] :: after) place :=
        fun place isOpen => closed place isOpen.append_nil_cons
      rw [gather_append_nil_cons]
      by_cases isObject : ∃ entries, source = .object entries
      · rcases isObject with ⟨entries, rfl⟩
        rw [gather_object noneHere, Option.some.injEq, Json.object.injEq]
        apply Entries.eq_of_get? (hasDistinctKeys_object_iff.mp distinct).1
        · apply keys_collect noneHere
          intro key part isPart
          exact List.mem_map_of_mem (Entries.mem_of_get? isPart)
        · intro key
          rw [get?_collect noneHere]
          change (Entries.get? key entries).elim _ _ = _
          cases isPart : Entries.get? key entries with
          | none => rfl
          | some part =>
              have shortBelow : ∀ rest ∈ [] :: pathsBelow key after, rest.length ≤ bound :=
                length_le_of_mem_nil_cons_pathsBelow shortAfter
              apply hypothesis shortBelow (distinct.step? isPart) List.mem_cons_self
              intro place isOpen
              exact closedAfter (key :: place) (isOpen.of_nil_cons_pathsBelow noneHere isPart)
      · apply gather_of_not_leads
        intro leads
        exact closedAfter [] (leftOpen_of_leads noneHere leads (not_exists.mp isObject))

/-- An array that lies in a field or around it is spoiled for the field: it is left open, although
the last path that covers the field leads to it or to something around it. -/
structure Spoils (source : Json) (paths : List (List String)) (field place : List String) :
    Prop where
  leftOpen : LeftOpen source paths place
  comparable : place <+: field ∨ field <+: place
  covered : ∃ path, lastOf? (covers field) paths = some path ∧ path <+: place

/-- What is spoiled below a key is spoiled above. -/
theorem Spoils.of_pathsBelow (noneHere : [] ∉ paths) (isPart : source.step? key = some part)
    (spoils : Spoils part (pathsBelow key paths) field place) :
    Spoils source paths (key :: field) (key :: place) where
  leftOpen := spoils.leftOpen.of_pathsBelow noneHere isPart
  comparable := by
    rw [List.prefix_cons_inj, List.prefix_cons_inj]
    exact spoils.comparable
  covered := by
    rcases spoils.covered with ⟨rest, isLast, isPrefix⟩
    refine ⟨key :: rest, ?_, (List.prefix_cons_inj key).mpr isPrefix⟩
    rw [lastOf?_covers_cons noneHere, isLast, Option.map_some]

theorem Spoils.of_nil_cons_pathsBelow (noneHere : [] ∉ paths) (isPart : source.step? key = some part)
    (spoils : Spoils part ([] :: pathsBelow key paths) field place) :
    Spoils source ([] :: paths) (key :: field) (key :: place) where
  leftOpen := spoils.leftOpen.of_nil_cons_pathsBelow noneHere isPart
  comparable := by
    rw [List.prefix_cons_inj, List.prefix_cons_inj]
    exact spoils.comparable
  covered := by
    rcases spoils.covered with ⟨rest, isLast, isPrefix⟩
    rw [lastOf?_nil_cons (covers_nil _), lastOf?_covers_cons noneHere]
    rw [lastOf?_nil_cons (covers_nil _)] at isLast
    cases isBelow : lastOf? (covers field) (pathsBelow key paths) with
    | none => exact ⟨[], rfl, List.nil_prefix⟩
    | some other =>
        rw [isBelow, Option.some_or, Option.some.injEq] at isLast
        rw [isLast]
        exact ⟨key :: rest, rfl, (List.prefix_cons_inj key).mpr isPrefix⟩

theorem Spoils.nil_cons (spoils : Spoils source paths field place) :
    Spoils source ([] :: paths) field place where
  leftOpen := spoils.leftOpen.nil_cons
  comparable := spoils.comparable
  covered := by
    rcases spoils.covered with ⟨path, isLast, isPrefix⟩
    refine ⟨path, ?_, isPrefix⟩
    rw [lastOf?_nil_cons (covers_nil _), isLast, Option.some_or]

theorem Spoils.append_nil_cons (spoils : Spoils source ([] :: after) field place) :
    Spoils source (before ++ [] :: after) field place where
  leftOpen := spoils.leftOpen.append_nil_cons
  comparable := spoils.comparable
  covered := by
    rw [lastOf?_append_nil_cons (covers_nil _)]
    exact spoils.covered

end

section

variable {source value : Json} {paths : List (List String)} {key : String} {field : List String}

theorem exists_covered_pathsBelow (noneHere : [] ∉ paths)
    (covered : ∃ path ∈ paths, path <+: key :: field) :
    ∃ rest ∈ pathsBelow key paths, rest <+: field := by
  rcases covered with ⟨path, member, isPrefix⟩
  cases path with
  | nil => exact absurd member noneHere
  | cons segment rest =>
      rcases List.cons_prefix_cons.mp isPrefix with ⟨rfl, isBelow⟩
      exact ⟨rest, mem_pathsBelow_iff.mpr member, isBelow⟩

theorem bind_follow?_collect {part : Json} (noneHere : [] ∉ paths)
    (isPart : source.step? key = some part) (entries : List (String × Json)) :
    (some (Json.object (collect source paths entries))).bind (follow? (key :: field)) =
      (gather part (pathsBelow key paths) (Entries.get? key entries)).bind (follow? field) := by
  rw [Option.bind_some, follow?, step?, get?_collect noneHere, isPart, Option.elim_some]

/-- A field that is covered and not spoiled is gathered as it is. -/
theorem follow?_gather_of_not_spoils (distinct : source.HasDistinctKeys)
    (isValue : follow? field source = some value) (covered : ∃ path ∈ paths, path <+: field)
    (unspoiled : ∀ place, ¬Spoils source paths field place) :
    (gather source paths none).bind (follow? field) = some value := by
  induction field generalizing paths source with
  | nil =>
      rcases covered with ⟨path, whole, isNil⟩
      rw [List.prefix_nil] at isNil
      subst isNil
      rcases exists_length_le paths with ⟨bound, short⟩
      rw [gather_eq_whole short distinct whole, Option.bind_some, isValue]
      intro place isOpen
      rcases exists_lastOf? whole (covers_nil []) with ⟨last, isLast, isNil⟩
      rw [covers_iff, List.prefix_nil] at isNil
      subst isNil
      exact unspoiled place ⟨isOpen, .inr List.nil_prefix, [], isLast, List.nil_prefix⟩
  | cons key field hypothesis =>
      have isStep := isValue
      rw [follow?, Option.bind_eq_some_iff] at isStep
      rcases isStep with ⟨part, isPart, isBelow⟩
      have belowKey : ∀ {paths}, [] ∉ paths → (∃ path ∈ paths, path <+: key :: field) →
          (∀ place, ¬Spoils source paths (key :: field) place) →
          (gather source paths none).bind (follow? (key :: field)) = some value := by
        intro paths noneHere covered unspoiled
        have leads : Leads paths source := by
          rcases covered with ⟨path, member, isPrefix⟩
          exact ⟨path, member, exists_follow?_of_prefix isPrefix isValue⟩
        rw [gather_of_leads noneHere leads, bind_follow?_collect noneHere isPart]
        apply hypothesis (distinct.step? isPart) isBelow (exists_covered_pathsBelow noneHere covered)
        intro place spoils
        exact unspoiled (key :: place) (spoils.of_pathsBelow noneHere isPart)
      rcases exists_last_nil paths with noneHere | ⟨before, after, rfl, noneHere⟩
      · exact belowKey noneHere covered unspoiled
      · have unspoiledAfter : ∀ place, ¬Spoils source ([] :: after) (key :: field) place :=
          fun place spoils => unspoiled place spoils.append_nil_cons
        rw [gather_append_nil_cons]
        by_cases isObject : ∃ entries, source = .object entries
        · rcases isObject with ⟨entries, rfl⟩
          rw [gather_object noneHere, bind_follow?_collect noneHere isPart]
          change (gather part _ ((Json.object entries).step? key)).bind _ = _
          rw [isPart]
          have coveredBelow : ∃ path ∈ [] :: pathsBelow key after, path <+: field :=
            ⟨[], List.mem_cons_self, List.nil_prefix⟩
          apply hypothesis (distinct.step? isPart) isBelow coveredBelow
          intro place spoils
          exact unspoiledAfter (key :: place) (spoils.of_nil_cons_pathsBelow noneHere isPart)
        · have noObject := not_exists.mp isObject
          by_cases leads : Leads after source
          · rw [gather_of_not_object noneHere leads noObject]
            by_cases coveredAfter : ∃ path ∈ after, path <+: key :: field
            · apply belowKey noneHere coveredAfter
              intro place spoils
              exact unspoiledAfter place spoils.nil_cons
            · have noneCovers : lastOf? (covers (key :: field)) after = none := by
                rw [lastOf?_eq_none_iff]
                intro path member
                rw [Bool.eq_false_iff, ne_eq, covers_iff]
                exact fun isPrefix => coveredAfter ⟨path, member, isPrefix⟩
              refine absurd ⟨leftOpen_of_leads noneHere leads noObject, .inl List.nil_prefix, [],
                ?_, List.nil_prefix⟩ (unspoiledAfter [])
              rw [lastOf?_nil_cons (covers_nil _), noneCovers, Option.none_or]
          · rw [gather_of_not_leads leads, Option.bind_some, isValue]

/-! ## What is left open -/

/-- Paths that touch nothing in a place leave no array there where there was none. -/
theorem follow?_gather_ne_array {place : List String}
    (apart : ∀ path ∈ paths, touches source place path = false)
    (noArray : ∀ items, follow? place value ≠ some (.array items)) {result : Json}
    (isResult : gather source paths (some value) = some result) (items : List Json) :
    follow? place result ≠ some (.array items) := by
  induction paths generalizing value with
  | nil =>
      cases isResult
      exact noArray items
  | cons path paths hypothesis =>
      rw [List.forall_mem_cons] at apart
      rw [gather_cons] at isResult
      cases isFound : follow? path source with
      | none =>
          rw [isFound] at isResult
          exact hypothesis apart.2 noArray isResult
      | some found =>
          rw [isFound] at isResult
          apply hypothesis apart.2 _ isResult
          have notAround : ¬(path <+: place ∨ place <+: path) := by
            intro around
            have isTouching := touches_iff.mpr ⟨⟨found, isFound⟩, around⟩
            rw [apart.1] at isTouching
            contradiction
          rw [not_or] at notAround
          rcases follow?_put_of_apart found (some value) notAround.1 notAround.2 with gone | kept
          · simp [gone]
          · rwa [kept]

/-- Where an array is left open there is none afterwards. -/
theorem LeftOpen.follow?_gather_ne {place : List String} (isOpen : LeftOpen source paths place)
    {old : Option Json} {result : Json} (isResult : gather source paths old = some result) :
    follow? place result ≠ follow? place source := by
  rcases isOpen.isArray with ⟨items, isArray⟩
  rcases isOpen.opened with ⟨path, isLast, notPrefix⟩
  rcases lastOf?_eq_some_iff.mp isLast with ⟨before, after, rfl, isTouching, apart⟩
  rcases touches_iff.mp isTouching with ⟨⟨found, isFound⟩, around⟩
  rcases around.resolve_left notPrefix with ⟨rest, rfl⟩
  rw [gather, List.foldl_append, List.foldl_cons, ← gather, isFound, Option.map_some,
    Option.some_or, ← gather] at isResult
  rw [isArray]
  apply follow?_gather_ne_array apart _ isResult
  cases rest with
  | nil => simp at notPrefix
  | cons segment rest =>
      rcases follow?_put_of_longer found (gather source before old) place segment rest with
        ⟨entries, isObject⟩
      simp [isObject]

end

end PageContext.Json

namespace PageContext.Transform

open Json (LeftOpen Spoils segments)

section

variable {fields : List String} {record : Json} {field : String}

theorem get?_pick_of_not_spoils (distinct : record.HasDistinctKeys) (member : field ∈ fields)
    (unspoiled : ∀ place, ¬Spoils record (fields.map segments) (segments field) place) :
    (Json.object (pick fields record)).get? field = record.get? field := by
  have isPath : segments field ∈ fields.map segments := List.mem_map_of_mem member
  cases isValue : record.get? field with
  | none =>
      rw [Option.eq_none_iff_forall_ne_some]
      intro part isPart
      rcases exists_get?_of_pick isPart with ⟨inner, isInner⟩
      rw [isValue] at isInner
      contradiction
  | some value =>
      have kept := Json.follow?_gather_of_not_spoils distinct isValue
        ⟨_, isPath, List.prefix_refl _⟩ unspoiled
      have leads : Json.Leads (fields.map segments) record := ⟨_, isPath, value, isValue⟩
      rwa [← Json.gather_emptyObject (nil_notMem_segments fields) leads, ← object_pick,
        Option.bind_some] at kept

/-- A field in which an array is left open has lost it. -/
theorem get?_pick_ne_of_leftOpen {place : List String}
    (isOpen : LeftOpen record (fields.map segments) place) (around : segments field <+: place) :
    (Json.object (pick fields record)).get? field ≠ record.get? field := by
  intro same
  apply isOpen.follow?_gather_ne (object_pick fields record).symm
  rcases around with ⟨rest, rfl⟩
  rw [Json.follow?_append, Json.follow?_append]
  exact congrArg (Option.bind · (Json.follow? rest)) same

end

/-- A projection finds nothing that the record does not have, and at a requested field it finds what
the record has there, unless an array is spoiled for the field.  It finds something else at every
field in which an array is left open.  So it keeps all requested fields exactly if they leave no array
open. -/
theorem keeps_requested_iff (frame : TimeFrame) (fields : List String) {record : Json}
    (distinct : record.HasDistinctKeys) :
    ∃ result, Projects frame ⟨fields, false⟩ record result ∧
      (∀ removeEmpty other, Projects frame ⟨fields, removeEmpty⟩ record other → other = result) ∧
      (∀ path, record.get? path = none → result.get? path = none) ∧
      (∀ field ∈ fields,
        (∀ place, ¬Spoils record (fields.map segments) (segments field) place) →
          result.get? field = record.get? field) ∧
      (∀ field ∈ fields, ∀ place, LeftOpen record (fields.map segments) place →
        segments field <+: place → result.get? field ≠ record.get? field) ∧
      ((∀ field ∈ fields, result.get? field = record.get? field) ↔
        ∀ place, ¬LeftOpen record (fields.map segments) place) := by
  refine ⟨.object (pick fields record), .item (by rfl), fun _ _ projects => projects.eq_pick, ?_,
    fun field member => get?_pick_of_not_spoils distinct member,
    fun field _ place isOpen => get?_pick_ne_of_leftOpen isOpen, ?_, ?_⟩
  · intro path isAbsent
    rw [Option.eq_none_iff_forall_ne_some]
    intro part isPart
    rcases exists_get?_of_pick isPart with ⟨inner, isInner⟩
    rw [isAbsent] at isInner
    contradiction
  · intro kept place isOpen
    rcases isOpen.requested with ⟨path, member, around⟩
    rcases List.mem_map.mp member with ⟨field, isField, rfl⟩
    exact get?_pick_ne_of_leftOpen isOpen around (kept field isField)
  · intro closed field member
    apply get?_pick_of_not_spoils distinct member
    intro place spoils
    exact closed place spoils.leftOpen

/-- A record with an array. -/
def twoItems : Json :=
  .object [("a", .array [.int 10, .int 20])]

theorem hasDistinctKeys_twoItems : twoItems.HasDistinctKeys := by
  have isArray : (Json.array [.int 10, .int 20]).HasDistinctKeys :=
    Json.hasDistinctKeys_numbers [_, _]
  exact .object (by decide) (by simpa using isArray)

theorem leftOpen_twoItems : LeftOpen twoItems (["a", "a.0"].map segments) ["a"] where
  isArray := ⟨_, rfl⟩
  requested := ⟨["a"], by decide, List.prefix_refl _⟩
  opened := ⟨["a", "0"], by decide, by decide⟩

/-- The conclusions for an array and its first item, which is requested behind it. -/
theorem keeps_requested_iff_first_item :
    twoItems.HasDistinctKeys ∧
      ∃ result, Projects ⟨0, ⟨0, 0⟩⟩ ⟨["a", "a.0"], false⟩ twoItems result ∧
        result.get? "a" ≠ twoItems.get? "a" ∧
        ¬∀ field ∈ ["a", "a.0"], result.get? field = twoItems.get? field := by
  rcases keeps_requested_iff ⟨0, ⟨0, 0⟩⟩ ["a", "a.0"] hasDistinctKeys_twoItems with
    ⟨result, projects, _, _, _, lost, keepsAll⟩
  refine ⟨hasDistinctKeys_twoItems, result, projects, ?_,
    fun kept => keepsAll.mp kept ["a"] leftOpen_twoItems⟩
  exact lost "a" List.mem_cons_self ["a"] leftOpen_twoItems (List.prefix_refl _)

/-- A requested field can be lost: an array gives way to its first item. -/
theorem not_forall_keeps_requested :
    ¬∀ (frame : TimeFrame) (projection : Projection) (record result : Json),
      record.HasDistinctKeys → Projects frame projection record result →
      ∀ field ∈ projection.fields, result.get? field = record.get? field := by
  intro keeps
  have projects : Projects ⟨0, ⟨0, 0⟩⟩ ⟨["a", "a.0"], true⟩ twoItems
      (.object [("a", .object [("0", .int 10)])]) :=
    .item (by rfl)
  have kept := keeps _ _ _ _ hasDistinctKeys_twoItems projects "a" List.mem_cons_self
  have isObject : (Json.object [("a", .object [("0", .int 10)])]).get? "a" =
      some (.object [("0", .int 10)]) := by rfl
  have wasArray : twoItems.get? "a" = some (.array [.int 10, .int 20]) := by rfl
  rw [isObject, wasArray] at kept
  simp at kept

end PageContext.Transform
