import Mathlib.Algebra.Order.BigOperators.Group.List
import Mathlib.Algebra.Order.Group.Nat
import PageContext.Proofs.Json.Paths
import PageContext.Transform.Shaping

/-!
# Gathering parts of a value

A projection gathers the parts of a record to which its paths lead, one after the other.  What it
makes of a part of the record depends only on the paths that go on below this part: below each key
it gathers in the same way.  A path that ends at a value gathers the whole of it, whatever was
gathered before.
-/

namespace PageContext.Json

/-! ## Paths in succession -/

/-- What comes to stand at a place when the parts of a value to which some paths lead are put there. -/
def gather (source : Json) (paths : List (List String)) (old : Option Json) : Option Json :=
  paths.foldl (fun old path => ((follow? path source).map fun found => put found path old).or old) old

/-- The entries of an object among which the parts of a value to which some paths lead are placed. -/
def collect (source : Json) (paths : List (List String)) (entries : List (String × Json)) :
    List (String × Json) :=
  paths.foldl (fun entries path =>
    ((follow? path source).map fun found => place found path entries).getD entries) entries

/-- One of the paths leads to a part of the value. -/
def Leads (paths : List (List String)) (source : Json) : Prop :=
  ∃ path ∈ paths, ∃ found, follow? path source = some found

/-- The paths that go on below a key, from there. -/
def pathsBelow (key : String) : List (List String) → List (List String)
  | [] => []
  | [] :: paths => pathsBelow key paths
  | (segment :: rest) :: paths =>
      if segment = key then rest :: pathsBelow key paths else pathsBelow key paths

section

variable {source : Json} {paths : List (List String)} {key : String}

theorem mem_pathsBelow_iff {rest : List String} : rest ∈ pathsBelow key paths ↔ key :: rest ∈ paths := by
  fun_induction pathsBelow key paths with
  | case1 => simp
  | case2 paths hypothesis => simp [hypothesis]
  | case3 rest paths hypothesis => simp [hypothesis]
  | case4 segment rest paths differ hypothesis =>
      have differs : ¬key = segment := fun same => differ same.symm
      simp [hypothesis, differs]

theorem exists_length_le (paths : List (List String)) :
    ∃ bound, ∀ path ∈ paths, path.length ≤ bound :=
  ⟨(paths.map List.length).sum, fun _ member => List.le_sum_of_mem (List.mem_map_of_mem member)⟩

/-- Below a key the paths are shorter. -/
theorem length_le_of_mem_pathsBelow {bound : Nat}
    (short : ∀ path ∈ paths, path.length ≤ bound + 1) :
    ∀ rest ∈ pathsBelow key paths, rest.length ≤ bound := by
  intro rest member
  have isShort := short (key :: rest) (mem_pathsBelow_iff.mp member)
  simpa using isShort

theorem length_le_of_mem_nil_cons_pathsBelow {bound : Nat}
    (short : ∀ path ∈ paths, path.length ≤ bound + 1) :
    ∀ rest ∈ [] :: pathsBelow key paths, rest.length ≤ bound := by
  rw [List.forall_mem_cons]
  exact ⟨Nat.zero_le bound, length_le_of_mem_pathsBelow short⟩

/-- Paths without segments end at the value itself. -/
theorem eq_nil_of_length_le_zero (short : ∀ path ∈ paths, path.length ≤ 0)
    (noneHere : [] ∉ paths) : paths = [] := by
  rw [List.eq_nil_iff_forall_not_mem]
  intro path member
  obtain rfl := List.eq_nil_of_length_eq_zero (Nat.le_zero.mp (short path member))
  exact noneHere member

theorem leads_cons_iff {path : List String} :
    Leads (path :: paths) source ↔
      (∃ found, follow? path source = some found) ∨ Leads paths source := by
  simp [Leads]

theorem leads_of_leads_pathsBelow {part : Json} (isPart : source.step? key = some part)
    (leads : Leads (pathsBelow key paths) part) : Leads paths source := by
  rcases leads with ⟨rest, member, found, isFound⟩
  refine ⟨key :: rest, mem_pathsBelow_iff.mp member, found, ?_⟩
  rw [follow?, isPart, Option.bind_some, isFound]

/-- Where no path ends at the value itself, one that leads somewhere goes on below a key. -/
theorem Leads.exists_pathsBelow (leads : Leads paths source) (noneHere : [] ∉ paths) :
    ∃ key part, source.step? key = some part ∧ Leads (pathsBelow key paths) part := by
  rcases leads with ⟨path, member, found, isFound⟩
  cases path with
  | nil => exact absurd member noneHere
  | cons key rest =>
      rcases Option.bind_eq_some_iff.mp isFound with ⟨part, isPart, isFound⟩
      exact ⟨key, part, isPart, rest, mem_pathsBelow_iff.mpr member, found, isFound⟩

theorem gather_cons (path : List String) (paths : List (List String)) (old : Option Json) :
    gather source (path :: paths) old =
      gather source paths (((follow? path source).map fun found => put found path old).or old) :=
  rfl

theorem collect_cons (path : List String) (paths : List (List String))
    (entries : List (String × Json)) :
    collect source (path :: paths) entries =
      collect source paths
        (((follow? path source).map fun found => place found path entries).getD entries) :=
  rfl

/-- A path that ends at the value itself makes the paths before it useless. -/
theorem gather_append_nil_cons (before after : List (List String)) (old : Option Json) :
    gather source (before ++ [] :: after) old = gather source after (some source) := by
  rw [gather, List.foldl_append]
  rfl

/-- Either no path ends at the value itself, or there is a last one that does. -/
theorem exists_last_nil (paths : List (List String)) :
    [] ∉ paths ∨ ∃ before after, paths = before ++ [] :: after ∧ [] ∉ after := by
  induction paths with
  | nil => exact .inl List.not_mem_nil
  | cons path paths hypothesis =>
      rcases hypothesis with noneHere | ⟨before, after, rfl, noneHere⟩
      · cases path with
        | nil => exact .inr ⟨[], paths, rfl, noneHere⟩
        | cons segment rest => exact .inl (by simpa using noneHere)
      · exact .inr ⟨path :: before, after, rfl, noneHere⟩

theorem gather_of_not_leads (notLeads : ¬Leads paths source) (old : Option Json) :
    gather source paths old = old := by
  induction paths with
  | nil => rfl
  | cons path paths hypothesis =>
      rw [leads_cons_iff, not_or, ← Option.ne_none_iff_exists', not_not] at notLeads
      rw [gather_cons, notLeads.1]
      exact hypothesis notLeads.2

theorem exists_gather_some (paths : List (List String)) (value : Json) :
    ∃ result, gather source paths (some value) = some result := by
  induction paths generalizing value with
  | nil => exact ⟨value, rfl⟩
  | cons path paths hypothesis =>
      rw [gather_cons]
      cases follow? path source with
      | none => exact hypothesis value
      | some found => exact hypothesis _

/-- Something comes to stand in an empty place exactly if a path leads somewhere. -/
theorem exists_gather_none_iff :
    (∃ result, gather source paths none = some result) ↔ Leads paths source := by
  constructor
  · rintro ⟨result, isResult⟩
    refine Classical.byContradiction fun notLeads => ?_
    rw [gather_of_not_leads notLeads] at isResult
    contradiction
  · intro leads
    induction paths with
    | nil => simp [Leads] at leads
    | cons path paths hypothesis =>
        rw [gather_cons]
        cases isFound : follow? path source with
        | none =>
            rw [leads_cons_iff, isFound] at leads
            exact hypothesis (leads.resolve_left (by simp))
        | some found => exact exists_gather_some paths _

/-! ## Below a key -/

theorem gather_object (noneHere : [] ∉ paths) (entries : List (String × Json)) :
    gather source paths (some (.object entries)) = some (.object (collect source paths entries)) := by
  induction paths generalizing entries with
  | nil => rfl
  | cons path paths hypothesis =>
      rw [List.mem_cons, not_or] at noneHere
      rw [gather_cons, collect_cons]
      cases follow? path source with
      | none => exact hypothesis noneHere.2 entries
      | some found =>
          rw [Option.map_some, Option.some_or, ← object_place found (Ne.symm noneHere.1)]
          exact hypothesis noneHere.2 _

/-- Where a path leads below the place, an object comes to stand there. -/
theorem gather_of_leads (noneHere : [] ∉ paths) (leads : Leads paths source) (old : Option Json) :
    gather source paths old = some (.object (collect source paths (entriesAt old))) := by
  induction paths with
  | nil => simp [Leads] at leads
  | cons path paths hypothesis =>
      rw [List.mem_cons, not_or] at noneHere
      rw [gather_cons, collect_cons]
      cases isFound : follow? path source with
      | none =>
          rw [leads_cons_iff, isFound] at leads
          exact hypothesis noneHere.2 (leads.resolve_left (by simp))
      | some found =>
          have isPut : put found path old = .object (place found path (entriesAt old)) := by
            cases path with
            | nil => exact absurd rfl noneHere.1
            | cons segment rest => rw [object_place found (List.cons_ne_nil _ _)]; rfl
          rw [Option.map_some, Option.some_or, isPut]
          exact gather_object noneHere.2 _

/-- An empty object in the place makes no difference to paths that lead below it. -/
theorem gather_emptyObject (noneHere : [] ∉ paths) (leads : Leads paths source) :
    gather source paths (some (.object [])) = gather source paths none := by
  rw [gather_of_leads noneHere leads, gather_of_leads noneHere leads]
  rfl

/-- What is no object gives way as if there had been nothing. -/
theorem gather_of_not_object (noneHere : [] ∉ paths) (leads : Leads paths source) {value : Json}
    (noObject : ∀ entries, value ≠ .object entries) :
    gather source paths (some value) = gather source paths none := by
  rw [gather_of_leads noneHere leads, gather_of_leads noneHere leads,
    entriesAt_of_not_object noObject, entriesAt_none]

/-- Below a key, the parts to which the paths lead from there are gathered. -/
theorem get?_collect (noneHere : [] ∉ paths) (entries : List (String × Json)) :
    Entries.get? key (collect source paths entries) =
      (source.step? key).elim (Entries.get? key entries) fun part =>
        gather part (pathsBelow key paths) (Entries.get? key entries) := by
  induction paths generalizing entries with
  | nil => cases source.step? key <;> rfl
  | cons path paths hypothesis =>
      rw [List.mem_cons, not_or] at noneHere
      rw [collect_cons, hypothesis noneHere.2]
      cases path with
      | nil => exact absurd rfl noneHere.1
      | cons segment rest =>
          have isPlaced : ∀ found, Entries.get? key (place found (segment :: rest) entries) =
              if segment = key then some (put found rest (Entries.get? key entries))
              else Entries.get? key entries := by
            intro found
            have isPut := object_place found (List.cons_ne_nil segment rest) entries
            rw [put, Json.object.injEq, entriesAt_object] at isPut
            rw [isPut]
            split
            · next same => rw [same, Entries.get?_insert_self]
            · next differ => rw [Entries.get?_insert_of_ne (Ne.symm differ)]
          by_cases same : segment = key
          · subst same
            cases isPart : source.step? segment with
            | none => simp [follow?, isPart]
            | some part =>
                simp only [follow?, isPart, Option.bind_some, Option.elim_some, pathsBelow, if_true,
                  gather_cons]
                cases follow? rest part with
                | none => rfl
                | some found => simp [isPlaced]
          · simp only [pathsBelow, same, if_false]
            cases follow? (segment :: rest) source with
            | none => rfl
            | some found => simp [isPlaced, same]

/-- Paths below keys that are there add no key. -/
theorem keys_collect {entries : List (String × Json)} (noneHere : [] ∉ paths)
    (areKeys : ∀ key part, source.step? key = some part → key ∈ Entries.keys entries) :
    Entries.keys (collect source paths entries) = Entries.keys entries := by
  induction paths generalizing entries with
  | nil => rfl
  | cons path paths hypothesis =>
      rw [List.mem_cons, not_or] at noneHere
      rw [collect_cons]
      cases isFound : follow? path source with
      | none => exact hypothesis noneHere.2 areKeys
      | some found =>
          have sameKeys : Entries.keys (place found path entries) = Entries.keys entries := by
            cases path with
            | nil => rfl
            | cons segment rest =>
                have isPut := object_place found (List.cons_ne_nil segment rest) entries
                rw [put, Json.object.injEq, entriesAt_object] at isPut
                rcases Option.bind_eq_some_iff.mp isFound with ⟨part, isPart, _⟩
                rw [isPut, Entries.keys_insert, if_pos (areKeys segment part isPart)]
          rw [Option.map_some, Option.getD_some, hypothesis noneHere.2, sameKeys]
          rwa [sameKeys]

/-! ## What gathering keeps -/

theorem HasDistinctKeys.gather (distinct : source.HasDistinctKeys) {old : Option Json}
    (oldDistinct : ∀ value, old = some value → value.HasDistinctKeys) {result : Json}
    (isResult : Json.gather source paths old = some result) : result.HasDistinctKeys := by
  induction paths generalizing old with
  | nil => exact oldDistinct result isResult
  | cons path paths hypothesis =>
      rw [gather_cons] at isResult
      cases isFound : Json.follow? path source with
      | none =>
          rw [isFound] at isResult
          exact hypothesis oldDistinct isResult
      | some found =>
          rw [isFound] at isResult
          apply hypothesis _ isResult
          intro value isValue
          cases isValue
          exact (distinct.follow? isFound).put path oldDistinct

/-- Gathering adds no path that the value does not have. -/
theorem exists_follow?_of_gather {old : Option Json}
    (invented : ∀ path part, old.bind (follow? path) = some part →
      ∃ inner, follow? path source = some inner)
    {path : List String} {part : Json}
    (leads : (gather source paths old).bind (follow? path) = some part) :
    ∃ inner, follow? path source = some inner := by
  induction paths generalizing old with
  | nil => exact invented path part leads
  | cons first paths hypothesis =>
      rw [gather_cons] at leads
      cases isFound : follow? first source with
      | none =>
          rw [isFound] at leads
          exact hypothesis invented leads
      | some found =>
          rw [isFound] at leads
          apply hypothesis _ leads
          intro other part leadsTo
          exact exists_follow?_of_put isFound invented leadsTo

end

end PageContext.Json

namespace PageContext.Transform

theorem nil_notMem_segments (fields : List String) : [] ∉ fields.map Json.segments := by
  rw [List.mem_map]
  rintro ⟨field, _, isNil⟩
  exact Json.segments_ne_nil field isNil

/-- The parts of a record at some fields are gathered into an empty object. -/
theorem object_pick (fields : List String) (record : Json) :
    some (.object (pick fields record)) =
      Json.gather record (fields.map Json.segments) (some (.object [])) := by
  rw [Json.gather_object (nil_notMem_segments fields), Json.collect, List.foldl_map]
  rfl

end PageContext.Transform
