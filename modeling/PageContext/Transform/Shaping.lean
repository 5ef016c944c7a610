import PageContext.Json.Path
import PageContext.Transform.Dates

/-!
# Shaping records

A projection keeps the named parts of a record and drops the rest.  The first item of an array
gives way to a default when it is missing or falsy.
-/

namespace PageContext.Transform

/-- The parts of a record at some dot paths, in the order of the paths. -/
def pick (fields : List String) (record : Json) : List (String × Json) :=
  fields.foldl (fun picked field => (Json.copy? record field picked).getD picked) []

/-- Projects each item of an array, or a sole value.  A sole value is never dropped. -/
def projected (projection : Projection) : Json → Json
  | .array items =>
      let picked := items.map (pick projection.fields)
      .array ((picked.filter fun entries => !(projection.removeEmpty && entries.isEmpty)).map
        Json.object)
  | value => .object (pick projection.fields value)

/-- The first item of an array, or a sole value; the default when that is falsy. -/
def firstOr (default : Json) (input : Json) : Json :=
  let candidate :=
    match input with
    | .array items => items.head?
    | value => some value
  (candidate.filter Json.isTruthy).getD default

end PageContext.Transform
