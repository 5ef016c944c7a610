import Mathlib.Data.Finset.Card
import Mathlib.Data.List.Forall2
import PageContext.Proofs.Success
import PageContext.Store.Memory

/-!
# Loading fixtures

A fixture lists records, and it is loaded as a whole or not at all.  Whatever fixtures a store is
given one after the other, it holds the records of the last one that could be loaded: under each id
the last record with this id, in the order in which the ids first occur.
-/

namespace PageContext

namespace MemoryStore

/-- The records that a fixture lists: those of an array, or of an array under `items`. -/
inductive ListsRecords : Json → List Json → Prop where
  | array (records : List Json) : ListsRecords (.array records) records
  | object {entries : List (String × Json)} {records : List Json}
      (isItems : Entries.get? "items" entries = some (.array records)) :
      ListsRecords (.object entries) records

/-- A record with a text under `id`. -/
inductive HasId : Json → String → Prop where
  | text {entries : List (String × Json)} {id : String}
      (isId : Entries.get? "id" entries = some (.string id)) : HasId (.object entries) id

/-- The last of some records with an id. -/
def IsLastWithId (records : List Json) (id : String) (record : Json) : Prop :=
  ∃ before after, records = before ++ record :: after ∧ HasId record id ∧
    ∀ other ∈ after, ¬HasId other id

/-- There is no store with the records of a fixture. -/
def FailsToLoad (fixture : Json) : Prop :=
  ∃ cause, ofFixture fixture = .error cause

/-! ## Reading a fixture -/

theorem id?_eq_some_iff {record : Json} {id : String} : id? record = some id ↔ HasId record id := by
  constructor
  · intro isId
    rcases Option.bind_eq_some_iff.mp isId with ⟨value, isField, isText⟩
    cases record with
    | object entries =>
        cases value with
        | string text =>
            cases isText
            exact .text isField
        | _ => simp [Json.text?] at isText
    | _ => simp [Json.field?] at isField
  · rintro ⟨isId⟩
    simp [id?, Json.field?, isId, Json.text?]

theorem HasId.unique {record : Json} {id other : String} (isId : HasId record id)
    (isOther : HasId record other) : id = other := by
  have same := (id?_eq_some_iff.mpr isId).symm.trans (id?_eq_some_iff.mpr isOther)
  exact Option.some.inj same

theorem fixtureRecords_eq_ok_iff {fixture : Json} {records : List Json} :
    fixtureRecords fixture = .ok records ↔ ListsRecords fixture records := by
  constructor
  · intro listed
    cases fixture with
    | array items =>
        cases listed
        exact .array records
    | object entries =>
        simp only [fixtureRecords, Json.field?] at listed
        split at listed
        · next items isItems =>
          cases listed
          exact .object isItems
        · contradiction
    | _ => contradiction
  · intro lists
    cases lists with
    | array => rfl
    | object isItems => simp [fixtureRecords, Json.field?, isItems]

theorem withIds_eq_ok_iff {records : List Json} {pairs : List (String × Json)} :
    withIds records = .ok pairs ↔
      pairs.map Prod.snd = records ∧ ∀ pair ∈ pairs, HasId pair.2 pair.1 := by
  induction records generalizing pairs with
  | nil =>
      simp only [withIds, Except.ok.injEq, List.map_eq_nil_iff]
      constructor
      · rintro rfl
        simp
      · rintro ⟨rfl, _⟩
        rfl
  | cons record rest hypothesis =>
      cases isId : id? record with
      | none =>
          simp only [withIds, isId, reduceCtorEq, false_iff, not_and]
          intro listed named
          rcases List.map_eq_cons_iff.mp listed with ⟨pair, _, rfl, rfl, _⟩
          have hasId := id?_eq_some_iff.mpr (named pair List.mem_cons_self)
          simp [isId] at hasId
      | some id =>
          simp only [withIds, isId, Except.map_eq_ok_iff, hypothesis]
          constructor
          · rintro ⟨others, ⟨rfl, named⟩, rfl⟩
            exact ⟨rfl, List.forall_mem_cons.mpr ⟨id?_eq_some_iff.mp isId, named⟩⟩
          · rintro ⟨listed, named⟩
            rcases List.map_eq_cons_iff.mp listed with ⟨pair, others, rfl, rfl, rfl⟩
            rcases List.forall_mem_cons.mp named with ⟨hasId, othersNamed⟩
            have same := hasId.unique (id?_eq_some_iff.mp isId)
            exact ⟨others, ⟨rfl, othersNamed⟩, by rw [← same]⟩

theorem ofFixture_eq_ok_iff {fixture : Json} {store : MemoryStore} :
    ofFixture fixture = .ok store ↔
      ∃ records pairs, ListsRecords fixture records ∧ withIds records = .ok pairs ∧
        store = ⟨Entries.ofPairs pairs⟩ := by
  simp only [ofFixture, Except.mapError_eq_ok_iff, Except.bind_eq_ok_iff, Except.pure_eq_ok_iff,
    fixtureRecords_eq_ok_iff]
  constructor
  · rintro ⟨records, listed, pairs, named, rfl⟩
    exact ⟨records, pairs, listed, named, rfl⟩
  · rintro ⟨records, pairs, listed, named, rfl⟩
    exact ⟨records, listed, pairs, named, rfl⟩

theorem ListsRecords.unique {fixture : Json} {records others : List Json}
    (lists : ListsRecords fixture records) (listsOthers : ListsRecords fixture others) :
    records = others := by
  have same := (fixtureRecords_eq_ok_iff.mpr lists).symm.trans
    (fixtureRecords_eq_ok_iff.mpr listsOthers)
  exact Except.ok.inj same

theorem exists_withIds_iff {records : List Json} :
    (∃ pairs, withIds records = .ok pairs) ↔ ∀ record ∈ records, ∃ id, HasId record id := by
  constructor
  · rintro ⟨pairs, isPairs⟩ record member
    rcases withIds_eq_ok_iff.mp isPairs with ⟨rfl, named⟩
    rcases List.mem_map.mp member with ⟨pair, isPair, rfl⟩
    exact ⟨pair.1, named pair isPair⟩
  · intro named
    induction records with
    | nil => exact ⟨[], rfl⟩
    | cons record rest hypothesis =>
        rcases List.forall_mem_cons.mp named with ⟨⟨id, hasId⟩, restNamed⟩
        rcases hypothesis restNamed with ⟨pairs, isPairs⟩
        exact ⟨(id, record) :: pairs, by
          simp [withIds, id?_eq_some_iff.mpr hasId, isPairs, Except.map]⟩

theorem failsToLoad_iff_forall_ne {fixture : Json} :
    FailsToLoad fixture ↔ ∀ store, ofFixture fixture ≠ .ok store := by
  rw [FailsToLoad]
  cases ofFixture fixture <;> simp

/-- A fixture fails to load when it lists no records, or one without an id. -/
theorem failsToLoad_iff {fixture : Json} :
    FailsToLoad fixture ↔
      (∀ records, ¬ListsRecords fixture records) ∨
        ∃ records, ListsRecords fixture records ∧ ∃ record ∈ records, ∀ id, ¬HasId record id := by
  rw [failsToLoad_iff_forall_ne]
  constructor
  · intro failed
    by_cases listed : ∃ records, ListsRecords fixture records
    · rcases listed with ⟨records, lists⟩
      refine .inr ⟨records, lists, ?_⟩
      by_contra! named
      rcases exists_withIds_iff.mpr named with ⟨pairs, isPairs⟩
      exact failed _ (ofFixture_eq_ok_iff.mpr ⟨records, pairs, lists, isPairs, rfl⟩)
    · exact .inl (not_exists.mp listed)
  · intro defect store loaded
    rcases ofFixture_eq_ok_iff.mp loaded with ⟨records, pairs, lists, isPairs, _⟩
    rcases defect with unlisted | ⟨others, listsOthers, record, member, nameless⟩
    · exact unlisted records lists
    · cases lists.unique listsOthers
      rcases exists_withIds_iff.mp ⟨pairs, isPairs⟩ record member with ⟨id, hasId⟩
      exact nameless id hasId

/-! ## The content of a store -/

/-- What a store holds of some records: the last one with each id, the ids in the order in which
they first occur. -/
structure HoldsLast (store : MemoryStore) (records : List Json) (ids : List String) : Prop where
  keys_eq : Entries.keys store.records = ids.eraseDups
  get?_iff : ∀ id record,
    Entries.get? id store.records = some record ↔ IsLastWithId records id record

theorem isLastWithId_iff_find? {pairs : List (String × Json)}
    (named : ∀ pair ∈ pairs, HasId pair.2 pair.1) {id : String} {record : Json} :
    (pairs.reverse.find? (·.1 == id)).map Prod.snd = some record ↔
      IsLastWithId (pairs.map Prod.snd) id record := by
  simp only [Option.map_eq_some_iff, List.find?_eq_some_iff_append, beq_iff_eq,
    Bool.not_eq_true', beq_eq_false_iff_ne]
  constructor
  · rintro ⟨pair, ⟨rfl, later, earlier, isReverse, notLater⟩, rfl⟩
    have isPairs : pairs = earlier.reverse ++ pair :: later.reverse := by
      simpa using congrArg List.reverse isReverse
    refine ⟨earlier.reverse.map Prod.snd, later.reverse.map Prod.snd, by simp [isPairs],
      named pair (by simp [isPairs]), ?_⟩
    intro other member hasId
    rcases List.mem_map.mp member with ⟨after, isAfter, rfl⟩
    have isOther := named after (by simp [isPairs, List.mem_reverse.mp isAfter])
    exact notLater after (List.mem_reverse.mp isAfter) (isOther.unique hasId)
  · rintro ⟨before, after, isRecords, hasId, noneAfter⟩
    rcases List.map_eq_append_iff.mp isRecords with ⟨earlier, others, rfl, rfl, isOthers⟩
    rcases List.map_eq_cons_iff.mp isOthers with ⟨pair, later, rfl, rfl, rfl⟩
    have isPair := (named pair (by simp)).unique hasId
    refine ⟨pair, ⟨isPair, later.reverse, earlier.reverse, by simp, ?_⟩, rfl⟩
    rintro other member rfl
    have isLater := List.mem_reverse.mp member
    exact noneAfter other.2 (List.mem_map_of_mem isLater) (named other (by simp [isLater]))

/-- A fixture that can be loaded determines what the store holds. -/
theorem holdsLast_of_ofFixture {fixture : Json} {store : MemoryStore}
    (loaded : ofFixture fixture = .ok store) :
    ∃ records ids, ListsRecords fixture records ∧ List.Forall₂ HasId records ids ∧
      store.HoldsLast records ids := by
  rcases ofFixture_eq_ok_iff.mp loaded with ⟨records, pairs, lists, isPairs, rfl⟩
  rcases withIds_eq_ok_iff.mp isPairs with ⟨rfl, named⟩
  refine ⟨pairs.map Prod.snd, Entries.keys pairs, lists, ?_, Entries.keys_ofPairs pairs, ?_⟩
  · rw [Entries.keys, List.forall₂_map_left_iff, List.forall₂_map_right_iff]
    exact List.forall₂_same.mpr named
  · intro id record
    rw [← isLastWithId_iff_find? named, Entries.ofPairs, Entries.get?_insertAll_eq_find?,
      Entries.get?_nil, Option.or_none]

theorem distinctKeys_of_ofFixture {fixture : Json} {store : MemoryStore}
    (loaded : ofFixture fixture = .ok store) : Entries.DistinctKeys store.records := by
  rcases ofFixture_eq_ok_iff.mp loaded with ⟨_, pairs, _, _, rfl⟩
  exact Entries.distinctKeys_ofPairs pairs

theorem HoldsLast.length_eq {store : MemoryStore} {records : List Json} {ids : List String}
    (holds : store.HoldsLast records ids) (distinct : Entries.DistinctKeys store.records) :
    store.records.length = ids.toFinset.card := by
  have sameLength : store.records.length = (Entries.keys store.records).length := by
    rw [Entries.keys, List.length_map]
  have sameIds : (Entries.keys store.records).toFinset = ids.toFinset := by
    ext id
    simp [holds.keys_eq, List.mem_eraseDups]
  rw [sameLength, ← List.toFinset_card_of_nodup distinct, sameIds]

/-! ## Runs of loads -/

theorem load_of_failsToLoad {fixture : Json} (fails : FailsToLoad fixture) (store : MemoryStore) :
    store.load fixture = store := by
  rcases fails with ⟨cause, failed⟩
  rw [load, failed]

theorem load_of_ofFixture {fixture : Json} {loaded : MemoryStore}
    (isLoaded : ofFixture fixture = .ok loaded) (store : MemoryStore) :
    store.load fixture = loaded := by
  rw [load, isLoaded]

/-- After a run of loads a store is what the last fixture that could be loaded has made of it. -/
theorem foldl_load (store : MemoryStore) (fixtures : List Json) :
    ((∀ fixture ∈ fixtures, FailsToLoad fixture) ∧ fixtures.foldl load store = store) ∨
      ∃ before fixture after, fixtures = before ++ fixture :: after ∧
        (∀ other ∈ after, FailsToLoad other) ∧
        ofFixture fixture = .ok (fixtures.foldl load store) := by
  induction fixtures generalizing store with
  | nil => exact .inl ⟨by simp, rfl⟩
  | cons first rest hypothesis =>
      rw [List.foldl_cons]
      rcases hypothesis (store.load first) with
        ⟨restFail, unchanged⟩ | ⟨before, fixture, after, rfl, afterFail, isLast⟩
      · by_cases fails : FailsToLoad first
        · rw [unchanged, load_of_failsToLoad fails]
          exact .inl ⟨List.forall_mem_cons.mpr ⟨fails, restFail⟩, rfl⟩
        · rw [failsToLoad_iff_forall_ne] at fails
          push Not at fails
          rcases fails with ⟨loaded, isLoaded⟩
          rw [unchanged, load_of_ofFixture isLoaded]
          exact .inr ⟨[], first, rest, rfl, restFail, isLoaded⟩
      · exact .inr ⟨first :: before, fixture, after, rfl, afterFail, isLast⟩

/-- Whatever fixtures a store is given one after the other, it holds the records of the last one
that could be loaded, and nothing if none could.  Under each id it holds the last record with this
id; the ids stand in the order in which they first occur, and there are as many entries as ids.  A
fixture fails to load when it is neither an array nor an object with an array under `items`, or when
any of its records has no text under `id`, and then it changes nothing. -/
theorem loads_keep_last (fixtures : List Json) :
    let store := fixtures.foldl load {}
    (((∀ fixture ∈ fixtures, FailsToLoad fixture) ∧ store.records = []) ∨
      ∃ before fixture after records ids, fixtures = before ++ fixture :: after ∧
        (∀ other ∈ after, FailsToLoad other) ∧ ofFixture fixture = .ok store ∧
        ListsRecords fixture records ∧ List.Forall₂ HasId records ids ∧
        store.HoldsLast records ids ∧ store.records.length = ids.toFinset.card) ∧
    (∀ fixture, FailsToLoad fixture ↔
      (∀ records, ¬ListsRecords fixture records) ∨
        ∃ records, ListsRecords fixture records ∧ ∃ record ∈ records, ∀ id, ¬HasId record id) ∧
    ∀ (current : MemoryStore) (fixture : Json), FailsToLoad fixture →
      current.load fixture = current := by
  intro store
  refine ⟨?_, fun fixture => failsToLoad_iff, fun current fixture fails =>
    load_of_failsToLoad fails current⟩
  rcases foldl_load {} fixtures with
    ⟨allFail, unchanged⟩ | ⟨before, fixture, after, isRun, afterFail, isLast⟩
  · exact .inl ⟨allFail, congrArg MemoryStore.records unchanged⟩
  · rcases holdsLast_of_ofFixture isLast with ⟨records, ids, lists, named, holds⟩
    exact .inr ⟨before, fixture, after, records, ids, isRun, afterFail, isLast, lists, named,
      holds, holds.length_eq (distinctKeys_of_ofFixture isLast)⟩

/-- The conclusion for a store with a repeated id and a fixture whose last record has no id. -/
theorem loads_keep_last_late_failure :
    let older : Json := .object [("id", .string "a"), ("TS", .int 1)]
    let other : Json := .object [("id", .string "b")]
    let newer : Json := .object [("id", .string "a"), ("TS", .int 2)]
    let nameless : Json := .object [("id", .int 3)]
    let late : Json := .object [("items", .array [other, nameless])]
    let store := [.array [older, other, newer], late].foldl load {}
    store.records = [("a", newer), ("b", other)] ∧ FailsToLoad late ∧ store.load late = store := by
  intro older other newer nameless late store
  rcases loads_keep_last [.array [older, other, newer], late] with ⟨_, defects, unchanged⟩
  have fails : FailsToLoad late := by
    refine (defects late).mpr (.inr ⟨[other, nameless], .object rfl, nameless, by simp, ?_⟩)
    intro id hasId
    have noId : id? nameless = none := rfl
    rw [id?_eq_some_iff.mpr hasId] at noId
    contradiction
  exact ⟨rfl, fails, unchanged store late fails⟩

end MemoryStore

end PageContext
