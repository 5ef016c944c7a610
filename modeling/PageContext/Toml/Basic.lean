import PageContext.Entries
import PageContext.Number.Decimal

/-!
# TOML tables

A TOML document is a table that headers and assignments fill.  A table remembers how it came about,
because that decides what may still be added to it: a table under a header cannot get a second
header, a table made by dotted keys only grows by dotted keys, and an inline table never grows.  An
array grows if headers have begun it, each of which adds a table.
-/

namespace PageContext

/-- How a table came about. -/
inductive TableKind where
  /-- On the way to the table of a header. -/
  | implicit
  /-- By a header of its own. -/
  | header
  /-- By dotted keys. -/
  | dotted
  /-- Between braces. -/
  | inline
deriving DecidableEq, Repr, Inhabited

/-- A value of a TOML document. -/
inductive Toml where
  /-- A string, or a date or a time as it is printed. -/
  | text (value : String)
  | integer (value : Int)
  | float (value : PlainNumber)
  | boolean (value : Bool)
  /-- An array, and whether headers have begun it. -/
  | array (grows : Bool) (items : List Toml)
  | table (kind : TableKind) (entries : List (String × Toml))
deriving Repr, Inhabited

namespace Toml

/-- The entries of a table. -/
abbrev Table := List (String × Toml)

/-- Changes the last table of an array that headers have begun. -/
def changeLast (change : Table → Option Table) (items : List Toml) : Option Toml :=
  match items.getLast? with
  | some (.table kind entries) =>
      (change entries).map fun inner => .array true (items.dropLast ++ [.table kind inner])
  | _ => none

/-- Changes the table at the end of the keys on the way to a header, and makes the tables that are
missing on the way. -/
def changeBelow (change : Table → Option Table) : List String → Table → Option Table
  | [], current => change current
  | key :: keys, current =>
      let changed? : Option Toml :=
        match Entries.get? key current with
        | none => (changeBelow change keys []).map (.table .implicit)
        | some (.table .inline _) => none
        | some (.table kind entries) => (changeBelow change keys entries).map (.table kind)
        | some (.array true items) => changeLast (changeBelow change keys) items
        | some _ => none
      changed?.map fun changed => Entries.insert key changed current

/-- Opens the table of a header under its last key.  None if it has been defined before, or if
something else is there. -/
def openLast (key : String) (current : Table) : Option Table :=
  match Entries.get? key current with
  | none => some (Entries.insert key (.table .header []) current)
  | some (.table .implicit entries) => some (Entries.insert key (.table .header entries) current)
  | some _ => none

/-- Adds a table to the array of a header under its last key.  None if something else is there. -/
def addLast (key : String) (current : Table) : Option Table :=
  match Entries.get? key current with
  | none => some (Entries.insert key (.array true [.table .header []]) current)
  | some (.array true items) =>
      some (Entries.insert key (.array true (items ++ [.table .header []])) current)
  | some _ => none

/-- Carries out what a header does under its last key. -/
def atHeader (change : String → Table → Option Table) (keys : List String) (document : Table) :
    Option Table := do
  changeBelow (change (← keys.getLast?)) keys.dropLast document

/-- Assigns a value to a dotted key.  None if the key has a value, or if a table on the way was not
made by dotted keys. -/
def assign (value : Toml) : List String → Table → Option Table
  | [], _ => none
  | [key], current =>
      if Entries.contains key current then none else some (Entries.insert key value current)
  | key :: next :: keys, current =>
      let changed? : Option Toml :=
        match Entries.get? key current with
        | none => (assign value (next :: keys) []).map (.table .dotted)
        | some (.table .dotted entries) =>
            (assign value (next :: keys) entries).map (.table .dotted)
        | some (.table .implicit entries) =>
            if keys.isEmpty then none
            else (assign value (next :: keys) entries).map (.table .implicit)
        | some (.array true items) =>
            if keys.isEmpty then none else changeLast (assign value (next :: keys)) items
        | some _ => none
      changed?.map fun changed => Entries.insert key changed current

/-- Changes the table of a header. -/
def changeAt (change : Table → Option Table) : List String → Table → Option Table
  | [], current => change current
  | key :: keys, current =>
      let changed? : Option Toml :=
        match Entries.get? key current with
        | some (.table kind entries) => (changeAt change keys entries).map (.table kind)
        | some (.array true items) => changeLast (changeAt change keys) items
        | _ => none
      changed?.map fun changed => Entries.insert key changed current

/-- The table that assignments in one pair of braces make. -/
def ofAssignments : List (List String × Toml) → Table → Option Table
  | [], current => some current
  | (keys, value) :: rest, current => (assign value keys current).bind (ofAssignments rest)

end Toml

end PageContext
