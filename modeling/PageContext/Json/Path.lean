import PageContext.Json.Basic
import PageContext.Text.Integer
import PageContext.Text.Split

/-!
# Dot paths

A dot path such as `images.hero.url` leads from a value to a part of it.  A segment selects the
entry of an object with that key, or the item of an array with that number.  Copying along a path
takes the part of one value to the same place of an object, through objects only: on the way every
value that is no object gives way to a new one.
-/

namespace PageContext.Json

def step? (value : Json) (segment : String) : Option Json :=
  match value with
  | .object entries => Entries.get? segment entries
  | .array items => (Text.unsigned? 64 segment).bind fun index => items[index]?
  | _ => none

/-- The part that a list of segments selects. -/
def follow? : List String → Json → Option Json
  | [], value => some value
  | segment :: segments, value => (value.step? segment).bind (follow? segments)

/-- The segments of a dot path; there is always at least one. -/
def segments (path : String) : List String :=
  Text.pieces '.' path

def get? (value : Json) (path : String) : Option Json :=
  follow? (segments path) value

/-- The entries of an object, none for any other value. -/
def entriesOrNone : Json → List (String × Json)
  | .object entries => entries
  | _ => []

/-- Puts a value into an object at the end of a list of segments. -/
def place (found : Json) : List String → List (String × Json) → List (String × Json)
  | [], entries => entries
  | [segment], entries => Entries.insert segment found entries
  | segment :: next :: segments, entries =>
      let inner := ((Entries.get? segment entries).map entriesOrNone).getD []
      Entries.insert segment (.object (place found (next :: segments) inner)) entries

/-- Copies the part of `source` at a path to the same path of an object; none when `source` has no
such part. -/
def copy? (source : Json) (path : String) (target : List (String × Json)) :
    Option (List (String × Json)) :=
  (source.get? path).map fun found => place found (segments path) target

end PageContext.Json
