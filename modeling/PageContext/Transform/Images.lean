import PageContext.Json.Path
import PageContext.Transform.Dates

/-!
# Image fields

Records carry their images in several layouts.  The fields `heroImage`, `heroLink` and `thumbImage`
are derived from the first place of a list of places that holds an address.  An image has its
address and those of the width and height of the place that are truthy; a link is an address alone.
A field that is truthy already stays as it is.
-/

namespace PageContext.Transform

/-- A place where the address of an image may be, and the place of its width and height. -/
structure ImagePlace where
  address : String
  dimensions : Option String
deriving DecidableEq, Repr, Inhabited

/-- The places of the large image, the best first. -/
def heroImagePlaces : List ImagePlace :=
  [⟨"image.url", some "image"⟩, ⟨"images.hero.full.url", some "images.hero.full"⟩,
    ⟨"images.hero.url", some "images.hero"⟩, ⟨"image", none⟩]

/-- The places of the link behind the large image, the best first. -/
def heroLinkPlaces : List ImagePlace :=
  [⟨"image.link", some "image"⟩, ⟨"images.hero.link", some "images.hero"⟩, ⟨"image-link", none⟩]

/-- The places of the small image, the best first. -/
def thumbImagePlaces : List ImagePlace :=
  [⟨"image.url", some "image"⟩, ⟨"images.hero.thumb.url", some "images.hero.thumb"⟩,
    ⟨"thumb", none⟩, ⟨"image", none⟩, ⟨"images.hero.url", some "images.hero"⟩,
    ⟨"images.hero.full.url", some "images.hero.full"⟩]

/-- The entry for a dimension, if it is truthy. -/
def dimensionEntry (source : Json) (dimension : String) : List (String × Json) :=
  match (source.field? dimension).filter Json.isTruthy with
  | some value => [(dimension, value)]
  | none => []

/-- The address at a place: a text that is not empty. -/
def addressAt? (record : Json) (place : ImagePlace) : Option String :=
  ((record.get? place.address).bind Json.text?).filter (· ≠ "")

def imageAt? (record : Json) (place : ImagePlace) : Option Json :=
  (addressAt? record place).map fun address =>
    let dimensions :=
      match place.dimensions.bind record.get? with
      | some source => dimensionEntry source "width" ++ dimensionEntry source "height"
      | none => []
    .object (("url", .string address) :: dimensions)

/-- The value of a derived field; other fields have none. -/
def derivedImage? (record : Json) (field : String) : Option Json :=
  if field = "heroImage" then heroImagePlaces.findSome? (imageAt? record)
  else if field = "thumbImage" then thumbImagePlaces.findSome? (imageAt? record)
  else if field = "heroLink" then (heroLinkPlaces.findSome? (addressAt? record)).map .string
  else none

/-- A record with one more derived field, where it was absent or falsy. -/
def addImage (record : Json) (field : String) : Json :=
  match record with
  | .object entries =>
      if Json.isTruthy? (Entries.get? field entries) then record
      else
        match derivedImage? record field with
        | some value => .object (Entries.insert field value entries)
        | none => record
  | _ => record

def withImages (fields : List String) (record : Json) : Json :=
  fields.foldl addImage record

end PageContext.Transform
