import PageContext.Transform.Basic
import PageContext.Transform.Error

/-!
# Transforms that write dates into records

The labelling transforms write a label on a record only when it differs from the label of the
record labelled before, so that a run of records with one label carries it once.  The calendar
does the same for year, month and day, each for itself.  Values that are no objects, and records
whose date cannot be read, stay as they are and do not end a run.
-/

namespace PageContext.Transform

/-- The items of an array, which a transform needs. -/
def arrayFor (action : String) : Json → Except (Stop TransformError) (List Json)
  | .array items => .ok items
  | value => .error (.failure (.notAnArray action value))

/-- Writes a text into a field of a record. -/
def writeText (key text : String) (entries : List (String × Json)) : List (String × Json) :=
  Entries.insert key (.string text) entries

/-- Writes a text into a field unless the previous record had the same one. -/
def writeChanged (key text : String) (previous : Option String)
    (entries : List (String × Json)) : List (String × Json) :=
  if previous = some text then entries else writeText key text entries

/-- Writes the parts of a date in which a record differs from the previous one, and its time. -/
def writeParts (parts : CalendarParts) (previous : Option CalendarParts)
    (entries : List (String × Json)) : List (String × Json) :=
  writeText "time" parts.time
    (writeChanged "day" parts.day (previous.map CalendarParts.day)
      (writeChanged "month" parts.month (previous.map CalendarParts.month)
        (writeChanged "year" parts.year (previous.map CalendarParts.year) entries)))

/-- The instant of an event: its `date` if it has one, else its `TS`. -/
def eventInstant? (frame : TimeFrame) (entries : List (String × Json)) : Option Instant :=
  ((Entries.get? "date" entries).or (Entries.get? "TS" entries)).bind frame.instant?

/-- The events with the parts of their dates, `previous` being those of the event before. -/
def decompose (frame : TimeFrame) (previous : Option CalendarParts) : List Json → List Json
  | [] => []
  | .object entries :: rest =>
      match eventInstant? frame entries with
      | some instant =>
          let parts := frame.calendarParts instant
          .object (writeParts parts previous entries) :: decompose frame (some parts) rest
      | none => .object entries :: decompose frame previous rest
  | event :: rest => event :: decompose frame previous rest

/-- The instant under `TS`, by which records are labelled. -/
def labelledInstant? (frame : TimeFrame) (entries : List (String × Json)) : Option Instant :=
  (Entries.get? "TS" entries).bind frame.instant?

/-- The records with labels under `date`, `previous` being the label before.  The first record with
a date and no label ends it. -/
def labelRuns {ε : Type} (frame : TimeFrame) (label : Instant → Except ε String)
    (previous : Option String) : List Json → Except ε (List Json)
  | [] => .ok []
  | .object entries :: rest =>
      match labelledInstant? frame entries with
      | some instant => do
          let current ← label instant
          let following ← labelRuns frame label (some current) rest
          return .object (writeChanged "date" current previous entries) :: following
      | none => (labelRuns frame label previous rest).map (.object entries :: ·)
  | event :: rest => (labelRuns frame label previous rest).map (event :: ·)

/-- The failure of a transform whose hours offset moves a date out of range. -/
def outOfRange (action : String) : Stop TransformError :=
  .failure (.invalidParams action .outOfRange)

/-- What a date that cannot be told does to a transform. -/
def dateStop (action : String) : Stop DateError → Stop TransformError
  | .failure .outOfRange => outOfRange action
  | .crash => .crash

def labelled (action : String) (frame : TimeFrame)
    (label : Instant → Except (Stop DateError) String) (input : Json) :
    Except (Stop TransformError) Json := do
  let events ← arrayFor action input
  let results ← (labelRuns frame label none events).mapError (dateStop action)
  return .array results

/-- The first of some fields that a record has. -/
def firstPresent? (fields : List String) (entries : List (String × Json)) : Option Json :=
  fields.findSome? fun field => Entries.get? field entries

/-- The style of the short text of an article's date. -/
def shortDateStyle : DateStyle :=
  { year := .never, shortMonth := true, dayOfWeek := false }

/-- The style of the full text of an article's date. -/
def fullDateStyle : DateStyle :=
  { year := .always, shortMonth := false, dayOfWeek := true }

/-- A record with both texts of its date; any other value stays as it is. -/
def withArticleDate (frame : TimeFrame) (rule : ArticleDateRule) : Json → Json
  | .object entries =>
      match (firstPresent? rule.input entries).bind frame.instant? with
      | some instant =>
          .object (writeText rule.fullDateField (frame.dateText instant fullDateStyle)
            (writeText rule.shortDateField (frame.dateText instant shortDateStyle) entries))
      | none => .object entries
  | value => value

/-- Applies a function to each item of an array, or to a value that is no array. -/
def onEach (function : Json → Json) : Json → Json
  | .array items => .array (items.map function)
  | value => function value

end PageContext.Transform
