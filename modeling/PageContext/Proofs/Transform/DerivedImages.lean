import PageContext.Proofs.Transform.Projections
import PageContext.Proofs.Transform.Provenance

/-!
# Derived image fields

An image field takes its value from the first of its places at which the record has an address.  No
image field is itself such a place, so what is derived for one does not depend on the others, and
the order in which they are asked for does not matter.  What is derived is truthy and stays.
-/

namespace PageContext.Transform

/-! ## What is derived -/

/-- The places of an image field, the best first. -/
def imagePlaces (field : String) : List ImagePlace :=
  if field = "heroImage" then heroImagePlaces
  else if field = "thumbImage" then thumbImagePlaces
  else if field = "heroLink" then heroLinkPlaces
  else []

/-- The address that a record has at a place. -/
structure HasAddress (record : Json) (place : ImagePlace) (address : String) : Prop where
  isText : record.get? place.address = some (.string address)
  nonempty : address ≠ ""

/-- An address with the truthy ones among the width and the height that its place has. -/
structure IsImage (record : Json) (place : ImagePlace) (address : String)
    (image : List (String × Json)) : Prop where
  keys : (Entries.keys image).Sublist ["url", "width", "height"]
  url : Entries.get? "url" image = some (.string address)
  dimension : ∀ key ∈ ["width", "height"], ∀ value, Entries.get? key image = some value ↔
    value.isTruthy = true ∧ ∃ path source, place.dimensions = some path ∧
      record.get? path = some source ∧ source.field? key = some value

/-- The value of a field for the address at one of its places: a link is the address alone. -/
inductive IsImageValue (record : Json) (place : ImagePlace) (address : String) :
    String → Json → Prop where
  | hero {image : List (String × Json)} (isImage : IsImage record place address image) :
      IsImageValue record place address "heroImage" (.object image)
  | thumb {image : List (String × Json)} (isImage : IsImage record place address image) :
      IsImageValue record place address "thumbImage" (.object image)
  | link : IsImageValue record place address "heroLink" (.string address)

/-- What is derived for a field: the value for the first of its places that has an address, or
nothing when none has. -/
inductive Derives (record : Json) (field : String) : Option Json → Prop where
  | first {before after : List ImagePlace} {place : ImagePlace} {address : String} {value : Json}
      (places : imagePlaces field = before ++ place :: after)
      (noneBefore : ∀ earlier ∈ before, ∀ other, ¬HasAddress record earlier other)
      (hasAddress : HasAddress record place address)
      (isValue : IsImageValue record place address field value) : Derives record field (some value)
  | nothing (nowhere : ∀ place ∈ imagePlaces field, ∀ address, ¬HasAddress record place address) :
      Derives record field none

theorem addressAt?_eq_some_iff {record : Json} {place : ImagePlace} {address : String} :
    addressAt? record place = some address ↔ HasAddress record place address := by
  have isText : ∀ value : Json, value.text? = some address ↔ value = .string address := by
    intro value
    cases value <;> simp [Json.text?]
  simp only [addressAt?, Option.filter_eq_some_iff, Option.bind_eq_some_iff, isText,
    decide_eq_true_eq]
  constructor
  · rintro ⟨⟨_, isAddress, rfl⟩, nonempty⟩
    exact ⟨isAddress, nonempty⟩
  · rintro ⟨isAddress, nonempty⟩
    exact ⟨⟨_, isAddress, rfl⟩, nonempty⟩

theorem addressAt?_eq_none_iff {record : Json} {place : ImagePlace} :
    addressAt? record place = none ↔ ∀ address, ¬HasAddress record place address := by
  simp only [Option.eq_none_iff_forall_ne_some, ne_eq, addressAt?_eq_some_iff]

theorem get?_dimensionEntry (source : Json) (dimension key : String) :
    Entries.get? key (dimensionEntry source dimension) =
      if key = dimension then (source.field? dimension).filter Json.isTruthy else none := by
  rw [dimensionEntry]
  split
  · next value isValue => simp [Entries.get?, isValue, eq_comm]
  · next isNone => simp [isNone]

theorem keys_dimensionEntry_sublist (source : Json) (dimension : String) :
    (Entries.keys (dimensionEntry source dimension)).Sublist [dimension] := by
  rw [dimensionEntry]
  split <;> simp [Entries.keys]

theorem get?_dimensionEntries (source : Json) (address : Json) {key : String}
    (isDimension : key ∈ ["width", "height"]) :
    Entries.get? key (("url", address) ::
      (dimensionEntry source "width" ++ dimensionEntry source "height")) =
      (source.field? key).filter Json.isTruthy := by
  rcases List.mem_pair.mp isDimension with rfl | rfl <;>
    simp [Entries.get?, Entries.get?_append, get?_dimensionEntry]

theorem keys_dimensionEntries_sublist (source : Json) (address : Json) :
    (Entries.keys (("url", address) ::
      (dimensionEntry source "width" ++ dimensionEntry source "height"))).Sublist
      ["url", "width", "height"] := by
  have dimensions := (keys_dimensionEntry_sublist source "width").append
    (keys_dimensionEntry_sublist source "height")
  simpa [Entries.keys] using dimensions

theorem imageAt?_eq_some {record : Json} {place : ImagePlace} {value : Json}
    (isImage : imageAt? record place = some value) :
    ∃ address image, HasAddress record place address ∧ IsImage record place address image ∧
      value = .object image := by
  rcases Option.map_eq_some_iff.mp isImage with ⟨address, isAddress, rfl⟩
  refine ⟨address, _, addressAt?_eq_some_iff.mp isAddress, ?_, rfl⟩
  cases isSource : place.dimensions.bind record.get? with
  | none =>
      refine ⟨by simp [Entries.keys], by simp [Entries.get?], ?_⟩
      intro key isDimension value
      have notUrl : "url" ≠ key := by
        rintro rfl
        simp at isDimension
      simp only [Option.bind_eq_none_iff] at isSource
      simp only [Entries.get?, notUrl, if_false, reduceCtorEq, false_iff]
      rintro ⟨_, path, source, isPath, isAtPath, _⟩
      simp [isSource path isPath] at isAtPath
  | some source =>
      refine ⟨keys_dimensionEntries_sublist source _, by simp [Entries.get?], ?_⟩
      intro key isDimension value
      rcases Option.bind_eq_some_iff.mp isSource with ⟨path, isPath, isAtPath⟩
      rw [get?_dimensionEntries source _ isDimension]
      simp [Option.filter_eq_some_iff, isPath, isAtPath, and_comm]

theorem imageAt?_eq_none_iff {record : Json} {place : ImagePlace} :
    imageAt? record place = none ↔ ∀ address, ¬HasAddress record place address := by
  rw [← addressAt?_eq_none_iff]
  simp [imageAt?]

/-- What the first place with an address gives is derived. -/
theorem derives_findSome? {record : Json} {field : String} {value? : ImagePlace → Option Json}
    (isNone : ∀ place, value? place = none → ∀ address, ¬HasAddress record place address)
    (isSome : ∀ place value, value? place = some value →
      ∃ address, HasAddress record place address ∧ IsImageValue record place address field value) :
    Derives record field ((imagePlaces field).findSome? value?) := by
  cases isFound : (imagePlaces field).findSome? value? with
  | none =>
      rw [List.findSome?_eq_none_iff] at isFound
      exact .nothing fun place isPlace => isNone place (isFound place isPlace)
  | some value =>
      rcases List.findSome?_eq_some_iff.mp isFound with
        ⟨before, place, after, places, isValue, fails⟩
      rcases isSome place value isValue with ⟨address, hasAddress, isImageValue⟩
      exact .first places (fun earlier isEarlier => isNone earlier (fails earlier isEarlier))
        hasAddress isImageValue

theorem derives_image (record : Json) {field : String}
    (isImageField : field = "heroImage" ∨ field = "thumbImage") :
    Derives record field ((imagePlaces field).findSome? (imageAt? record)) := by
  apply derives_findSome?
  · exact fun place isNone => imageAt?_eq_none_iff.mp isNone
  · intro place value isValue
    rcases imageAt?_eq_some isValue with ⟨address, image, hasAddress, isImage, rfl⟩
    rcases isImageField with rfl | rfl
    · exact ⟨address, hasAddress, .hero isImage⟩
    · exact ⟨address, hasAddress, .thumb isImage⟩

theorem derives_link (record : Json) :
    Derives record "heroLink" ((heroLinkPlaces.findSome? (addressAt? record)).map .string) := by
  rw [List.map_findSome?]
  apply derives_findSome?
  · intro place isNone
    exact addressAt?_eq_none_iff.mp (Option.map_eq_none_iff.mp isNone)
  · intro place value isValue
    rcases Option.map_eq_some_iff.mp isValue with ⟨address, isAddress, rfl⟩
    exact ⟨address, addressAt?_eq_some_iff.mp isAddress, .link⟩

theorem derives_derivedImage? (record : Json) (field : String) :
    Derives record field (derivedImage? record field) := by
  unfold derivedImage?
  split
  · next isHero => simpa [imagePlaces, isHero] using derives_image record (.inl isHero)
  · next notHero =>
    split
    · next isThumb => simpa [imagePlaces, isThumb] using derives_image record (.inr isThumb)
    · next notThumb =>
      split
      · next isLink => exact isLink ▸ derives_link record
      · next notLink => exact .nothing (by simp [imagePlaces, notHero, notThumb, notLink])

section

variable {record : Json} {field : String}

theorem derivedImage?_of_notMem (noField : field ∉ allImageFields) :
    derivedImage? record field = none := by
  simp only [allImageFields, List.mem_cons, List.not_mem_nil, or_false, not_or] at noField
  simp [derivedImage?, noField]

theorem IsImage.hasDistinctKeys {place : ImagePlace} {address : String}
    {image : List (String × Json)} (isImage : IsImage record place address image)
    (distinct : record.HasDistinctKeys) : (Json.object image).HasDistinctKeys := by
  have distinctKeys : Entries.DistinctKeys image := isImage.keys.nodup (by decide)
  refine .object distinctKeys fun entry member => ?_
  have isEntry := Entries.get?_of_mem distinctKeys member
  have isKey := isImage.keys.subset (List.mem_map_of_mem member)
  rcases List.mem_cons.mp isKey with isUrl | isDimension
  · rw [isUrl, isImage.url, Option.some.injEq] at isEntry
    rw [← isEntry]
    exact .string address
  · rcases (isImage.dimension _ isDimension _).mp isEntry with
      ⟨_, path, source, _, isSource, isValue⟩
    cases source with
    | object entries => exact (distinct.follow? isSource).step? isValue
    | _ => simp [Json.field?] at isValue

theorem Derives.isTruthy {value : Json} (derives : Derives record field (some value)) :
    value.isTruthy = true := by
  cases derives with
  | first _ _ hasAddress isValue =>
      cases isValue with
      | hero => rfl
      | thumb => rfl
      | link => simp [Json.isTruthy, hasAddress.nonempty]

theorem Derives.hasDistinctKeys {value : Json} (derives : Derives record field (some value))
    (distinct : record.HasDistinctKeys) : value.HasDistinctKeys := by
  cases derives with
  | first _ _ _ isValue =>
      cases isValue with
      | hero isImage => exact isImage.hasDistinctKeys distinct
      | thumb isImage => exact isImage.hasDistinctKeys distinct
      | link => exact .string _

end

/-! ## Places and fields -/

theorem findSome?_congr {α β : Type} {function other : α → Option β} {items : List α}
    (same : ∀ item ∈ items, function item = other item) :
    items.findSome? function = items.findSome? other := by
  have onValues : ∀ function : α → Option β,
      items.findSome? function = (items.map function).findSome? id := by
    simp [List.findSome?_map]
  rw [onValues, onValues, List.map_congr_left same]

/-- No path of a place starts at an image field. -/
theorem head?_segments_notMem :
    ∀ place ∈ heroImagePlaces ++ thumbImagePlaces ++ heroLinkPlaces,
      ∀ path ∈ place.address :: place.dimensions.toList,
        ∀ root ∈ (Json.segments path).head?, root ∉ allImageFields := by
  decide

section

variable {entries others : List (String × Json)}
  (agree : ∀ key ∉ allImageFields, Entries.get? key entries = Entries.get? key others)
include agree

theorem get?_eq_of_agree {path : String}
    (apart : ∀ root ∈ (Json.segments path).head?, root ∉ allImageFields) :
    (Json.object entries).get? path = (Json.object others).get? path := by
  unfold Json.get?
  cases isPath : Json.segments path with
  | nil => exact absurd isPath (Json.segments_ne_nil path)
  | cons root rest =>
      have isApart : root ∉ allImageFields := apart root (by simp [isPath])
      simp [Json.follow?, Json.step?, agree root isApart]

theorem imageAt?_eq_of_agree {place : ImagePlace}
    (apart : ∀ path ∈ place.address :: place.dimensions.toList,
      ∀ root ∈ (Json.segments path).head?, root ∉ allImageFields) :
    addressAt? (.object entries) place = addressAt? (.object others) place ∧
      imageAt? (.object entries) place = imageAt? (.object others) place := by
  have sameAddress : addressAt? (.object entries) place = addressAt? (.object others) place := by
    rw [addressAt?, addressAt?, get?_eq_of_agree agree (apart _ List.mem_cons_self)]
  have sameSource : place.dimensions.bind (Json.object entries).get? =
      place.dimensions.bind (Json.object others).get? := by
    cases isPath : place.dimensions with
    | none => rfl
    | some path => exact get?_eq_of_agree agree (apart path (by simp [isPath]))
  exact ⟨sameAddress, by rw [imageAt?, imageAt?, sameAddress, sameSource]⟩

/-- Image fields do not matter to what is derived. -/
theorem derivedImage?_eq_of_agree (field : String) :
    derivedImage? (.object entries) field = derivedImage? (.object others) field := by
  have hero : heroImagePlaces.findSome? (imageAt? (.object entries)) =
      heroImagePlaces.findSome? (imageAt? (.object others)) :=
    findSome?_congr fun place isPlace =>
      (imageAt?_eq_of_agree agree (head?_segments_notMem place (by simp [isPlace]))).2
  have thumb : thumbImagePlaces.findSome? (imageAt? (.object entries)) =
      thumbImagePlaces.findSome? (imageAt? (.object others)) :=
    findSome?_congr fun place isPlace =>
      (imageAt?_eq_of_agree agree (head?_segments_notMem place (by simp [isPlace]))).2
  have link : heroLinkPlaces.findSome? (addressAt? (.object entries)) =
      heroLinkPlaces.findSome? (addressAt? (.object others)) :=
    findSome?_congr fun place isPlace =>
      (imageAt?_eq_of_agree agree (head?_segments_notMem place (by simp [isPlace]))).1
  simp only [derivedImage?, hero, thumb, link]

end

/-! ## One field after the other -/

/-- The value that is written into a field: none if it is truthy already. -/
def imageFor? (entries : List (String × Json)) (field : String) : Option Json :=
  if Json.isTruthy? (Entries.get? field entries) then none
  else derivedImage? (.object entries) field

def writeImage (entries : List (String × Json)) (field : String) : List (String × Json) :=
  match imageFor? entries field with
  | some value => Entries.insert field value entries
  | none => entries

section

variable {entries : List (String × Json)} {field : String}

theorem addImage_object (entries : List (String × Json)) (field : String) :
    addImage (.object entries) field = .object (writeImage entries field) := by
  rw [addImage, writeImage, imageFor?]
  split
  · rfl
  · cases derivedImage? (.object entries) field <;> rfl

theorem withImages_object (fields : List String) (entries : List (String × Json)) :
    withImages fields (.object entries) = .object (fields.foldl writeImage entries) := by
  unfold withImages
  induction fields generalizing entries with
  | nil => rfl
  | cons field rest hypothesis => rw [List.foldl_cons, addImage_object, hypothesis, List.foldl_cons]

theorem imageFor?_of_notMem (noField : field ∉ allImageFields) :
    imageFor? entries field = none := by
  simp [imageFor?, derivedImage?_of_notMem noField]

theorem imageFor?_eq_some {value : Json} (isValue : imageFor? entries field = some value) :
    Derives (.object entries) field (some value) := by
  rw [imageFor?, Option.ite_none_left_eq_some] at isValue
  exact isValue.2 ▸ derives_derivedImage? (.object entries) field

theorem writeImage_of_none (isNone : imageFor? entries field = none) :
    writeImage entries field = entries := by
  rw [writeImage, isNone]

theorem get?_writeImage (entries : List (String × Json)) (field key : String) :
    Entries.get? key (writeImage entries field) =
      if key = field then (imageFor? entries field).or (Entries.get? key entries)
      else Entries.get? key entries := by
  rw [writeImage]
  split
  · next value isValue =>
    split
    · next same => simp [same, isValue]
    · next differ => exact Entries.get?_insert_of_ne differ value entries
  · next isNone => simp [isNone]

theorem derivedImage?_writeImage (entries : List (String × Json)) (field other : String) :
    derivedImage? (.object (writeImage entries field)) other =
      derivedImage? (.object entries) other := by
  apply derivedImage?_eq_of_agree
  intro key noField
  rw [get?_writeImage]
  split
  · next same => rw [imageFor?_of_notMem (same ▸ noField), Option.none_or]
  · rfl

/-- A field that has been written is truthy, and the others are as they were. -/
theorem imageFor?_writeImage (entries : List (String × Json)) (field other : String) :
    imageFor? (writeImage entries field) other =
      if other = field then none else imageFor? entries other := by
  split
  · next same =>
    subst same
    cases isImage : imageFor? entries other with
    | none => rw [writeImage_of_none isImage, isImage]
    | some value =>
        have isWritten : Entries.get? other (writeImage entries other) = some value := by
          simp [get?_writeImage, isImage]
        have truthy : Json.isTruthy? (some value) = true := (imageFor?_eq_some isImage).isTruthy
        rw [imageFor?, isWritten, if_pos truthy]
  · next differ =>
    rw [imageFor?, imageFor?, get?_writeImage, if_neg differ, derivedImage?_writeImage]

theorem imageFor?_writeImages (fields : List String) (entries : List (String × Json))
    (other : String) :
    imageFor? (fields.foldl writeImage entries) other =
      if other ∈ fields then none else imageFor? entries other := by
  induction fields generalizing entries with
  | nil => simp
  | cons field rest hypothesis =>
      rw [List.foldl_cons, hypothesis, imageFor?_writeImage]
      by_cases same : other = field <;> simp [same]

/-- Each field of a list has the value that is derived from the entries as they were. -/
theorem get?_writeImages (fields : List String) (entries : List (String × Json)) (key : String) :
    Entries.get? key (fields.foldl writeImage entries) =
      if key ∈ fields then (imageFor? entries key).or (Entries.get? key entries)
      else Entries.get? key entries := by
  induction fields generalizing entries with
  | nil => simp
  | cons field rest hypothesis =>
      rw [List.foldl_cons, hypothesis, imageFor?_writeImage, get?_writeImage]
      by_cases same : key = field
      · subst same
        simp
      · simp [same]

theorem writeImages_of_none {fields : List String}
    (settled : ∀ field ∈ fields, imageFor? entries field = none) :
    fields.foldl writeImage entries = entries := by
  induction fields with
  | nil => rfl
  | cons field rest hypothesis =>
      rw [List.forall_mem_cons] at settled
      rw [List.foldl_cons, writeImage_of_none settled.1, hypothesis settled.2]

theorem writeImages_writeImages (fields : List String) (entries : List (String × Json)) :
    fields.foldl writeImage (fields.foldl writeImage entries) = fields.foldl writeImage entries := by
  apply writeImages_of_none
  intro field isField
  rw [imageFor?_writeImages, if_pos isField]

theorem hasDistinctKeys_writeImage (distinct : (Json.object entries).HasDistinctKeys)
    (field : String) : (Json.object (writeImage entries field)).HasDistinctKeys := by
  rw [writeImage]
  split
  · next value isValue =>
    rcases Json.hasDistinctKeys_object_iff.mp distinct with ⟨distinctKeys, inside⟩
    refine .object (distinctKeys.insert field value) fun entry member => ?_
    rcases Entries.mem_insert member with rfl | isOld
    · exact (imageFor?_eq_some isValue).hasDistinctKeys distinct
    · exact inside entry isOld
  · exact distinct

theorem hasDistinctKeys_writeImages (distinct : (Json.object entries).HasDistinctKeys)
    (fields : List String) : (Json.object (fields.foldl writeImage entries)).HasDistinctKeys := by
  induction fields generalizing entries with
  | nil => exact distinct
  | cons field rest hypothesis => exact hypothesis (hasDistinctKeys_writeImage distinct field)

end

/-! ## Records with their images -/

/-- A record in which fields have their images: only image fields are written, and each field of a
list that was absent or falsy has what is derived for it, if anything is. -/
inductive GivesImages (fields : List String) : Json → Json → Prop where
  | record {entries result : List (String × Json)}
      (writes : Writes (fields.filter (· ∈ allImageFields)) entries result)
      (images : ∀ field ∈ fields, ∃ derived, Derives (.object entries) field derived ∧
        Entries.get? field result =
          if Json.isTruthy? (Entries.get? field entries) then Entries.get? field entries
          else derived.or (Entries.get? field entries)) :
      GivesImages fields (.object entries) (.object result)
  | other {value : Json} (noObject : ∀ entries, value ≠ .object entries) :
      GivesImages fields value value

theorem withImages_of_not_object (fields : List String) {value : Json}
    (noObject : ∀ entries, value ≠ .object entries) : withImages fields value = value := by
  have unchanged : ∀ field, addImage value field = value := by
    intro field
    unfold addImage
    split
    · next entries => exact absurd rfl (noObject entries)
    · rfl
  unfold withImages
  induction fields with
  | nil => rfl
  | cons field rest hypothesis => rw [List.foldl_cons, unchanged, hypothesis]

theorem writes_writeImages (fields : List String) (entries : List (String × Json)) :
    Writes (fields.filter (· ∈ allImageFields)) entries (fields.foldl writeImage entries) where
  keys := by
    have isWritten := written_withImages fields (.object entries)
    rw [withImages_object] at isWritten
    exact isWritten.writes.keys
  others := by
    intro key noField
    rw [get?_writeImages]
    split
    · next isField =>
      have noImageField : key ∉ allImageFields := by
        intro isImageField
        exact noField (List.mem_filter.mpr ⟨isField, by simpa using isImageField⟩)
      rw [imageFor?_of_notMem noImageField, Option.none_or]
    · rfl

theorem givesImages_withImages (fields : List String) (record : Json) :
    GivesImages fields record (withImages fields record) := by
  cases record with
  | object entries =>
      rw [withImages_object]
      refine .record (writes_writeImages fields entries) fun field isField => ?_
      refine ⟨_, derives_derivedImage? (.object entries) field, ?_⟩
      rw [get?_writeImages, if_pos isField, imageFor?]
      split <;> rfl
  | _ =>
      rw [withImages_of_not_object fields (by simp)]
      exact .other (by simp)

theorem withImages_withImages (fields : List String) (record : Json) :
    withImages fields (withImages fields record) = withImages fields record := by
  cases record with
  | object entries => simp only [withImages_object, writeImages_writeImages]
  | _ => simp [withImages_of_not_object]

/-- The order in which fields are asked for does not matter, nor how often. -/
theorem same_withImages {fields others : List String}
    (sameFields : ∀ field, field ∈ others ↔ field ∈ fields) {record : Json}
    (distinct : record.HasDistinctKeys) :
    (withImages others record).same (withImages fields record) = true := by
  cases record with
  | object entries =>
      rw [withImages_object, withImages_object]
      have resultDistinct := hasDistinctKeys_writeImages distinct fields
      have otherDistinct := hasDistinctKeys_writeImages distinct others
      apply Json.same_object_of_get? (Json.hasDistinctKeys_object_iff.mp otherDistinct).1
        (Json.hasDistinctKeys_object_iff.mp resultDistinct).1
      intro key
      have sameValue : Entries.get? key (others.foldl writeImage entries) =
          Entries.get? key (fields.foldl writeImage entries) := by
        simp only [get?_writeImages, sameFields]
      rw [sameValue]
      cases isValue : Entries.get? key (fields.foldl writeImage entries) with
      | none => exact .none
      | some value => exact .some (Json.same_refl (resultDistinct.step? isValue))
  | _ =>
      rw [withImages_of_not_object others (by simp), withImages_of_not_object fields (by simp)]
      exact Json.same_refl distinct

theorem onEach_onEach_withImages (fields : List String) (input : Json) :
    onEach (withImages fields) (onEach (withImages fields) input) =
      onEach (withImages fields) input := by
  have again := withImages_withImages fields
  cases input with
  | array records => simp [onEach, again]
  | object entries =>
      have isObject := withImages_object fields entries
      simp only [onEach, isObject]
      rw [← isObject, again]
  | _ => simp [onEach, withImages_of_not_object]

theorem same_onEach_withImages {fields others : List String}
    (sameFields : ∀ field, field ∈ others ↔ field ∈ fields) {input : Json}
    (distinct : input.HasDistinctKeys) :
    (onEach (withImages others) input).same (onEach (withImages fields) input) = true := by
  cases distinct with
  | array inside =>
      simp only [onEach, Json.same_array_iff, List.forall₂_map_left_iff, List.forall₂_map_right_iff,
        List.forall₂_same]
      intro record isRecord
      exact same_withImages sameFields (inside record isRecord)
  | object distinctKeys inside => exact same_withImages sameFields (.object distinctKeys inside)
  | _ => exact same_withImages sameFields (by constructor)

/-- Deriving images again changes nothing, each record gets the images that are derived from it
alone, and neither the order of the fields matters nor how often one is asked for. -/
theorem normalizeImages_idempotent (frame : TimeFrame) (fields : List String) (input : Json) :
    ∃ result, apply frame input (.normalizeImages fields) = .ok result ∧
      apply frame result (.normalizeImages fields) = .ok result ∧
      OnEach (GivesImages fields) input result ∧
      ∀ others : List String, (∀ field, field ∈ others ↔ field ∈ fields) →
        input.HasDistinctKeys →
          ∃ other, apply frame input (.normalizeImages others) = .ok other ∧
            other.same result = true := by
  refine ⟨_, rfl, ?_, onEach_onEach (givesImages_withImages fields) input, ?_⟩
  · exact congrArg Except.ok (onEach_onEach_withImages fields input)
  · exact fun others sameFields distinct => ⟨_, rfl, same_onEach_withImages sameFields distinct⟩

/-- The conclusions for a record whose thumbnail is falsy and whose width is, too; a field that is no
image field stays as it is. -/
theorem normalizeImages_idempotent_reordered :
    let record : Json := .object [("thumbImage", .string ""), ("date", .null),
      ("image", .object [("url", .string "a.png"), ("width", .int 0), ("height", .int 9),
        ("link", .string "b")])]
    let fields := ["heroLink", "thumbImage", "date"]
    let others := ["date", "thumbImage", "heroLink", "thumbImage"]
    (∀ field, field ∈ others ↔ field ∈ fields) ∧ record.HasDistinctKeys ∧
      ∃ result, apply ⟨0, ⟨0, 0⟩⟩ record (.normalizeImages fields) = .ok result ∧
        result.field? "thumbImage" =
          some (.object [("url", .string "a.png"), ("height", .int 9)]) ∧
        apply ⟨0, ⟨0, 0⟩⟩ result (.normalizeImages fields) = .ok result ∧
        OnEach (GivesImages fields) record result ∧
        ∃ other, apply ⟨0, ⟨0, 0⟩⟩ record (.normalizeImages others) = .ok other ∧
          other.same result = true := by
  intro record fields others
  have sameFields : ∀ field, field ∈ others ↔ field ∈ fields := by
    simp [fields, others]
    grind
  have isImage : (Json.object [("url", .string "a.png"), ("width", .int 0), ("height", .int 9),
      ("link", .string "b")]).HasDistinctKeys :=
    .object (by decide) (by simpa using ⟨.string _, .number _, .number _, .string _⟩)
  have distinct : record.HasDistinctKeys :=
    .object (by decide) (by simpa using ⟨.string _, .null, isImage⟩)
  rcases normalizeImages_idempotent ⟨0, ⟨0, 0⟩⟩ fields record with
    ⟨result, isResult, again, each, sameForOthers⟩
  have isThumb : result.field? "thumbImage" =
      some (.object [("url", .string "a.png"), ("height", .int 9)]) := by
    cases isResult
    rfl
  exact ⟨sameFields, distinct, result, isResult, isThumb, again, each,
    sameForOthers others sameFields distinct⟩

end PageContext.Transform
