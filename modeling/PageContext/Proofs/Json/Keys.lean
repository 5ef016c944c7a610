import PageContext.Json.Basic

/-!
# Values under keys

A list of keys leads from a value through nested objects to a value inside it, which can also be
replaced.  Objects are maps when no key occurs twice in any of them, however deep it lies; every
value that stands for data is of this kind.
-/

namespace PageContext.Json

/-- What holds of an object whenever it holds of all its entries, and of all other values, holds of
every value. -/
theorem byEntries {motive : Json → Prop}
    (object : ∀ entries, (∀ entry ∈ entries, motive entry.2) → motive (.object entries))
    (other : ∀ value, (∀ entries, value ≠ .object entries) → motive value) :
    ∀ value, motive value
  | .object entries => object entries fun entry _ => byEntries object other entry.2
  | .null => other .null nofun
  | .bool value => other (.bool value) nofun
  | .number value => other (.number value) nofun
  | .string value => other (.string value) nofun
  | .array items => other (.array items) nofun
termination_by value => sizeOf value
decreasing_by
  rename_i member
  have smaller := List.sizeOf_lt_of_mem member
  rcases entry with ⟨key, value⟩
  simp at smaller ⊢
  omega

/-- No object of a value has a key twice. -/
inductive HasDistinctKeys : Json → Prop where
  | null : HasDistinctKeys .null
  | bool (value : Bool) : HasDistinctKeys (.bool value)
  | number (value : Number) : HasDistinctKeys (.number value)
  | string (value : String) : HasDistinctKeys (.string value)
  | array {items : List Json} (inside : ∀ item ∈ items, HasDistinctKeys item) :
      HasDistinctKeys (.array items)
  | object {entries : List (String × Json)} (distinct : Entries.DistinctKeys entries)
      (inside : ∀ entry ∈ entries, HasDistinctKeys entry.2) : HasDistinctKeys (.object entries)

/-- The value to which keys lead through objects. -/
def under? : List String → Json → Option Json
  | [], value => some value
  | key :: keys, value => (value.field? key).bind (under? keys)

/-- A value in which the part to which keys lead gives way to another. -/
def replaceUnder (replacement : Json) : List String → Json → Json
  | [], _ => replacement
  | key :: keys, .object entries =>
      .object (entries.map fun entry =>
        if entry.1 = key then (entry.1, replaceUnder replacement keys entry.2) else entry)
  | _ :: _, value => value

end PageContext.Json
