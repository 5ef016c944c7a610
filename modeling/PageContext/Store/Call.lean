import PageContext.Files.Basic
import PageContext.Json.Reader
import PageContext.Params

/-!
# Calls to a content store

A content store answers five kinds of calls, each with a target, the id of a record or a type of
records, and parameters.  It answers in an envelope: a single record under `Item`, a list of records
under `Items`.  A record may carry its payload under `Data`; opening the envelope takes the payload
where there is one.
-/

namespace PageContext

/-- What a call asks for. -/
inductive StoreMethod where
  /-- One record by its id. -/
  | get
  /-- The records of a type, the newest first. -/
  | list
  /-- The featured records of a type, the newest first. -/
  | featured
  /-- The records that a list record refers to. -/
  | highlighted
  /-- A random selection of the records of a type. -/
  | random
deriving DecidableEq, Repr, Inhabited

/-- A call to a content store. -/
structure StoreCall where
  method : StoreMethod
  target : String
  params : Params
deriving DecidableEq, Repr, Inhabited

/-- Why a value is no fixture for a store. -/
inductive FixtureError where
  /-- An object without an array of records. -/
  | noItems
  /-- Neither an object nor an array. -/
  | notAFixture
  | recordWithoutId
deriving DecidableEq, Repr, Inhabited

/-- Why a content store fails. -/
inductive StoreError where
  | notFound (id : String)
  | listNotFound (id : String)
  | invalidLimit (text : String)
  | invalidFixture (cause : FixtureError)
  /-- The store itself failed and said why. -/
  | backend (reason : String)
  /-- The file of a fixture cannot be read. -/
  | unreadable (cause : FileError)
  /-- The file of a fixture is no JSON text. -/
  | malformed (cause : JsonError)
deriving DecidableEq, Repr, Inhabited

def FixtureError.message : FixtureError → String
  | .noItems => "fixture must contain an \"items\" array"
  | .notAFixture => "fixture must be an object or an array"
  | .recordWithoutId => "fixture record without string id"

def StoreError.message : StoreError → String
  | .notFound id => "Item not found: " ++ id
  | .listNotFound id => "List not found: " ++ id
  | .invalidLimit text => "Invalid store parameter limit: " ++ text
  | .invalidFixture cause => "Store backend failed: " ++ cause.message
  | .backend reason => "Store backend failed: " ++ reason
  | .unreadable cause => "Store I/O error: " ++ cause.message
  | .malformed cause => "Store fixture is malformed: " ++ cause.message

/-- The answer to a call and the milliseconds until it arrives. -/
structure Reply where
  delay : Nat
  result : Except StoreError Json

/-- A content store as its callers see it. -/
abbrev Backend := StoreCall → Reply

namespace Envelope

def item (record : Json) : Json :=
  .object [("Item", record)]

def items (records : List Json) : Json :=
  .object [("Items", .array records)]

/-- The payload of a record, or the record itself if it has none. -/
def payload (record : Json) : Json :=
  (record.field? "Data").getD record

/-- Opens an envelope; a value that is no envelope stays as it is. -/
def unwrap (result : Json) : Json :=
  match result.field? "Item", result.field? "Items" with
  | some record, _ => payload record
  | none, some (.array records) => .array (records.map payload)
  | none, some value => value
  | none, none => result

end Envelope

end PageContext
