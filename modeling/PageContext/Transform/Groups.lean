import PageContext.Transform.Dates

/-!
# Groups of records

Records are grouped by their labels: a record with a truthy `date` opens a group and gives its
label to it, and the records that follow without a label join it.  Records in front of the first
label form a group whose `date` is null.  A group is an object with its label under `date` and its
records under `items`.
-/

namespace PageContext.Transform

/-- The label of a record, and the record without it. -/
def takeLabel (event : Json) : Option Json × Json :=
  match event with
  | .object entries =>
      match Entries.get? "date" entries with
      | some label =>
          if label.isTruthy then (some label, .object (Entries.swapRemove "date" entries))
          else (none, event)
      | none => (none, event)
  | _ => (none, event)

/-- A label and the records under it. -/
structure Group where
  label : Json
  items : List Json
deriving Repr, Inhabited

def Group.toJson (group : Group) : Json :=
  .object [("date", group.label), ("items", .array group.items)]

/-- The records in front of the first label, and the groups that labels open. -/
def openGroups : List Json → List Json × List Group
  | [] => ([], [])
  | event :: rest =>
      let (leading, groups) := openGroups rest
      match takeLabel event with
      | (some label, record) => ([], ⟨label, record :: leading⟩ :: groups)
      | (none, record) => (record :: leading, groups)

def groups (events : List Json) : List Group :=
  match openGroups events with
  | ([], groups) => groups
  | (leading, groups) => ⟨.null, leading⟩ :: groups

def grouped (input : Json) : Except (Stop TransformError) Json := do
  let events ← arrayFor Transform.groupByDate.name input
  return .array ((groups events).map Group.toJson)

/-- Applies a function to the items of a group that has any. -/
def onItems (function : List Json → List Json) (group : Json) : Json :=
  match group with
  | .object entries =>
      match Entries.get? "items" entries with
      | some (.array (item :: items)) =>
          .object (Entries.insert "items" (.array (function (item :: items))) entries)
      | _ => group
  | _ => group

/-- Applies a function to the items of every group of an array. -/
def onItemsOfGroups (action : String) (function : List Json → List Json) (input : Json) :
    Except (Stop TransformError) Json := do
  let groups ← arrayFor action input
  return .array (groups.map (onItems function))

end PageContext.Transform
