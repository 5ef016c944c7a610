import PageContext.Store.Call

/-!
# A content store in memory

The store is a map from ids to records in the order in which the ids first occurred; of records
with one id the last one counts.  Type, time, flags and lists of a record are looked up in the
record itself and then in its payload.  Lists of a type are ordered by `TS`, the newest first, and
stable; a missing or non-numeric `TS` counts as zero.
-/

namespace PageContext

/-- Records by their ids. -/
structure MemoryStore where
  records : List (String × Json) := []
deriving Repr, Inhabited

/-- The limit in some parameters: an unsigned integer of 64 bits, or none without a value. -/
def Params.storeLimit? (params : Params) : Except StoreError (Option Nat) :=
  match params.value? "limit" with
  | none => .ok none
  | some text =>
      match Text.unsigned? 64 text with
      | some limit => .ok (some limit)
      | none => .error (.invalidLimit text)

/-- A selection of at most `amount` items, none of them twice; the seed decides which. -/
def sample {α : Type} : (amount seed : Nat) → List α → List α
  | 0, _, _ => []
  | _ + 1, _, [] => []
  | amount + 1, seed, first :: rest =>
      let count := rest.length + 1
      let index := seed % count
      ((first :: rest)[index]?).toList ++
        sample amount (seed / count) ((first :: rest).eraseIdx index)

namespace MemoryStore

/-- The records of a fixture: an array, or an object with an array under `items`. -/
def fixtureRecords (fixture : Json) : Except FixtureError (List Json) :=
  match fixture with
  | .array records => .ok records
  | .object _ =>
      match fixture.field? "items" with
      | some (.array records) => .ok records
      | _ => .error .noItems
  | _ => .error .notAFixture

def id? (record : Json) : Option String :=
  (record.field? "id").bind Json.text?

def withIds : List Json → Except FixtureError (List (String × Json))
  | [] => .ok []
  | record :: rest =>
      match id? record with
      | some id => (withIds rest).map ((id, record) :: ·)
      | none => .error .recordWithoutId

/-- The store with the records of a fixture. -/
def ofFixture (fixture : Json) : Except StoreError MemoryStore :=
  (do return ⟨Entries.ofPairs (← withIds (← fixtureRecords fixture))⟩ :
    Except FixtureError MemoryStore).mapError .invalidFixture

def ofFile (files : Files) (path : String) : Except StoreError MemoryStore := do
  let text ← (files.read path).mapError .unreadable
  let fixture ← (Json.read text).mapError .malformed
  ofFixture fixture

/-- The store after an attempt to load a fixture; one that cannot be loaded changes nothing. -/
def load (store : MemoryStore) (fixture : Json) : MemoryStore :=
  match ofFixture fixture with
  | .ok loaded => loaded
  | .error _ => store

/-- A field of a record, or of its payload if the record has none. -/
def field? (name : String) (record : Json) : Option Json :=
  (record.field? name).or ((record.field? "Data").bind fun data => data.field? name)

def isOfType (type : String) (record : Json) : Bool :=
  (field? "type" record).bind Json.text? == some type

/-- The time of a record, as a multiple of the smallest floating-point number. -/
def time (record : Json) : Int :=
  match field? "TS" record with
  | some (.number value) => value.toBinary64.scaled
  | _ => 0

/-- The records of a type, the newest first. -/
def ofType (store : MemoryStore) (type : String) : List Json :=
  ((store.records.map Prod.snd).filter (isOfType type)).mergeSort fun left right =>
    time right ≤ time left

/-- The featured records of a type, the newest first. -/
def featured (store : MemoryStore) (type : String) : List Json :=
  (store.ofType type).filter fun record => Json.isTruthy? (field? "featured" record)

/-- The records that a list record refers to, unknown ids aside. -/
def highlighted? (store : MemoryStore) (id : String) : Option (List Json) := do
  let record ← Entries.get? id store.records
  let items ← (← field? "items" record).items?
  return (items.filterMap Json.text?).filterMap fun id => Entries.get? id store.records

/-- The first records up to the limit in some parameters. -/
def limited (params : Params) (records : List Json) : Except StoreError (List Json) := do
  match ← params.storeLimit? with
  | some limit => return records.take limit
  | none => return records

def answer (store : MemoryStore) (seed : Nat) (call : StoreCall) : Except StoreError Json := do
  match call.method with
  | .get =>
      match Entries.get? call.target store.records with
      | some record => return Envelope.item record
      | none => throw (.notFound call.target)
  | .list => return Envelope.items (← limited call.params (store.ofType call.target))
  | .featured => return Envelope.items (← limited call.params (store.featured call.target))
  | .highlighted =>
      match store.highlighted? call.target with
      | some records => return Envelope.items (← limited call.params records)
      | none => throw (.listNotFound call.target)
  | .random =>
      let records := store.ofType call.target
      let limit ← call.params.storeLimit?
      return Envelope.items (sample (limit.getD records.length) seed records)

/-- The store as a backend that answers at once. -/
def backend (store : MemoryStore) (seed : Nat) : Backend :=
  fun call => ⟨0, store.answer seed call⟩

end MemoryStore

end PageContext
