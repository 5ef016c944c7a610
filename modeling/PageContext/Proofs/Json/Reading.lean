import PageContext.Json.Reader
import PageContext.Proofs.Json.Keys
import PageContext.Proofs.Success

/-!
# Values that are read

The readers make a value of the values inside it, and they count the levels of arrays and objects on
the way.  A property that goes over from the parts of a value to the whole, level by level, therefore
holds of every value that is read.  There are two such properties: an object whose text repeats a key
is read with the key once, and a value is nested no deeper than the reader allows.
-/

namespace PageContext.Json

/-- Arrays and objects of a value are nested at most so many levels deep. -/
inductive NestsWithin : Nat → Json → Prop where
  | null (levels : Nat) : NestsWithin levels .null
  | bool (levels : Nat) (value : Bool) : NestsWithin levels (.bool value)
  | number (levels : Nat) (value : Number) : NestsWithin levels (.number value)
  | string (levels : Nat) (value : String) : NestsWithin levels (.string value)
  | array {levels : Nat} {items : List Json} (inside : ∀ item ∈ items, NestsWithin levels item) :
      NestsWithin (levels + 1) (.array items)
  | object {levels : Nat} {entries : List (String × Json)}
      (inside : ∀ entry ∈ entries, NestsWithin levels entry.2) :
      NestsWithin (levels + 1) (.object entries)

/-- A property of values of so many levels that goes over from parts to wholes. -/
structure IsInherited (property : Nat → Json → Prop) : Prop where
  null (levels : Nat) : property levels .null
  bool (levels : Nat) (value : Bool) : property levels (.bool value)
  number (levels : Nat) {characters rest : List Char} {value : Number}
    (isRead : readNumber characters = .ok (value, rest)) : property levels (.number value)
  string (levels : Nat) (value : String) : property levels (.string value)
  array {levels : Nat} {items : List Json} (inside : ∀ item ∈ items, property levels item) :
    property (levels + 1) (.array items)
  object {levels : Nat} {entries : List (String × Json)} (distinct : Entries.DistinctKeys entries)
    (inside : ∀ entry ∈ entries, property levels entry.2) : property (levels + 1) (.object entries)

/-- What the readers of values, items and entries give with some fuel has a property. -/
structure ReadsOnly (property : Nat → Json → Prop) (fuel : Nat) : Prop where
  value : ∀ {levels characters value rest},
    readValue fuel levels characters = .ok (value, rest) → property levels value
  items : ∀ {levels characters items rest},
    readItems fuel levels characters = .ok (items, rest) → ∀ item ∈ items, property levels item
  entries : ∀ {levels characters entries rest},
    readEntries fuel levels characters = .ok (entries, rest) →
      ∀ entry ∈ entries, property levels entry.2

variable {property : Nat → Json → Prop}

theorem ReadsOnly.readValue {fuel levels : Nat} {characters rest : List Char} {value : Json}
    (smaller : ReadsOnly property fuel) (inherited : IsInherited property)
    (read : readValue (fuel + 1) levels characters = .ok (value, rest)) :
    property levels value := by
  rw [Json.readValue] at read
  split at read
  · contradiction
  · simp only [Except.map_eq_ok_iff, Prod.mk.injEq] at read
    rcases read with ⟨_, _, rfl, _⟩
    exact inherited.string levels _
  · cases levels with
    | zero => simp at read
    | succ levels =>
        simp only [Nat.add_one_ne_zero, if_false, Nat.add_sub_cancel] at read
        split at read
        · simp only [Except.ok.injEq, Prod.mk.injEq] at read
          rw [← read.1]
          exact inherited.array (by simp)
        · simp only [Except.map_eq_ok_iff, Prod.mk.injEq] at read
          rcases read with ⟨_, inside, rfl, _⟩
          exact inherited.array (smaller.items inside)
  · cases levels with
    | zero => simp at read
    | succ levels =>
        simp only [Nat.add_one_ne_zero, if_false, Nat.add_sub_cancel] at read
        split at read
        · simp only [Except.ok.injEq, Prod.mk.injEq] at read
          rw [← read.1]
          exact inherited.object List.nodup_nil (by simp)
        · simp only [Except.map_eq_ok_iff, Prod.mk.injEq] at read
          rcases read with ⟨_, inside, rfl, _⟩
          refine inherited.object (Entries.distinctKeys_ofPairs _) ?_
          intro entry member
          exact smaller.entries inside entry (Entries.mem_of_mem_ofPairs member)
  · rw [behindWord_value read]
    exact inherited.bool levels true
  · rw [behindWord_value read]
    exact inherited.bool levels false
  · rw [behindWord_value read]
    exact inherited.null levels
  · split at read
    · simp only [Except.map_eq_ok_iff, Prod.mk.injEq] at read
      rcases read with ⟨_, isRead, rfl, _⟩
      exact inherited.number levels isRead
    · contradiction

theorem ReadsOnly.readItems {fuel levels : Nat} {characters rest : List Char}
    {items : List Json} (smaller : ReadsOnly property fuel)
    (read : readItems (fuel + 1) levels characters = .ok (items, rest)) :
    ∀ item ∈ items, property levels item := by
  simp only [Json.readItems, Except.bind_eq_ok_iff] at read
  rcases read with ⟨⟨item, more⟩, first, read⟩
  split at read
  · simp at read
  · simp only [Except.pure_eq_ok_iff, Prod.mk.injEq] at read
    rw [← read.1]
    simpa using smaller.value first
  · simp only [Except.bind_eq_ok_iff, Except.pure_eq_ok_iff, Prod.mk.injEq] at read
    rcases read with ⟨⟨others, _⟩, following, rfl, _⟩
    exact List.forall_mem_cons.mpr ⟨smaller.value first, smaller.items following⟩
  · simp at read

theorem ReadsOnly.readEntries {fuel levels : Nat} {characters rest : List Char}
    {entries : List (String × Json)} (smaller : ReadsOnly property fuel)
    (read : readEntries (fuel + 1) levels characters = .ok (entries, rest)) :
    ∀ entry ∈ entries, property levels entry.2 := by
  rw [Json.readEntries] at read
  split at read
  · contradiction
  · simp only [Except.bind_eq_ok_iff] at read
    rcases read with ⟨⟨key, afterKey⟩, _, read⟩
    split at read
    · simp at read
    · simp only [Except.bind_eq_ok_iff] at read
      rcases read with ⟨⟨value, afterValue⟩, first, read⟩
      split at read
      · simp at read
      · simp only [Except.pure_eq_ok_iff, Prod.mk.injEq] at read
        rw [← read.1]
        simpa using smaller.value first
      · simp only [Except.bind_eq_ok_iff, Except.pure_eq_ok_iff, Prod.mk.injEq] at read
        rcases read with ⟨⟨others, _⟩, following, rfl, _⟩
        exact List.forall_mem_cons.mpr ⟨smaller.value first, smaller.entries following⟩
      · simp at read
    · simp at read
  · contradiction

theorem readsOnly (inherited : IsInherited property) (fuel : Nat) : ReadsOnly property fuel := by
  induction fuel with
  | zero => constructor <;> simp [Json.readValue, Json.readItems, Json.readEntries]
  | succ fuel hypothesis =>
      exact ⟨hypothesis.readValue inherited, hypothesis.readItems, hypothesis.readEntries⟩

/-- A property that goes over from parts to wholes holds of what is read. -/
theorem property_of_readNested (inherited : IsInherited property) {levels : Nat} {text : String}
    {value : Json} (isRead : readNested levels text = .ok value) : property levels value := by
  simp only [readNested, Except.bind_eq_ok_iff] at isRead
  rcases isRead with ⟨⟨whole, rest⟩, reads, isWhole⟩
  have isProperty := (readsOnly inherited _).value reads
  split at isWhole
  · rw [← Except.pure_eq_ok_iff.mp isWhole]
    exact isProperty
  · simp at isWhole

/-- No object of a value that is read has a key twice. -/
theorem hasDistinctKeys_of_read {text : String} {value : Json} (isRead : read text = .ok value) :
    value.HasDistinctKeys := by
  have inherited : IsInherited fun _ value => value.HasDistinctKeys := {
    null := fun _ => .null
    bool := fun _ => .bool
    number := fun _ _ _ _ _ => .number _
    string := fun _ => .string
    array := .array
    object := .object }
  exact property_of_readNested inherited isRead

/-- A value that is read is nested no deeper than its reader allows. -/
theorem nestsWithin_of_read {text : String} {value : Json} (isRead : read text = .ok value) :
    value.NestsWithin levelLimit := by
  have inherited : IsInherited fun levels value => value.NestsWithin levels := {
    null := .null
    bool := .bool
    number := fun levels _ _ _ _ => .number levels _
    string := .string
    array := .array
    object := fun _ => .object }
  exact property_of_readNested inherited isRead

end PageContext.Json
