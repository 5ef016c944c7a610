import PageContext.Calendar.Label
import PageContext.Json.Basic

/-!
# Transforms

A transform turns a value into another.  There are fifteen of them, each with a name and settings
of its own; settings that a specification leaves out have the values given here.
-/

namespace PageContext

/-- The direction of one sort key. -/
inductive SortOrder where
  | ascending
  | descending
deriving DecidableEq, Repr, Inhabited

/-- Sort keys with their directions; keys without a direction ascend. -/
structure SortRule where
  /-- Dot paths, the most important first. -/
  fields : List String := []
  orders : List SortOrder := []
deriving DecidableEq, Repr, Inhabited

/-- Which records are duplicates of each other, and which of them stays. -/
structure DedupRule where
  /-- Records with equal values of this field are duplicates. -/
  dedupField : Option String := none
  /-- The field whose value decides which duplicate stays. -/
  priorityField : Option String := none
  /-- The values of the priority field, the best first. -/
  priorityValues : List Json := []
deriving Repr, Inhabited

/-- Which fields hold the date of an article and its two texts. -/
structure ArticleDateRule where
  /-- The fields that may hold the date; the first one present counts. -/
  input : List String := ["date", "publishUp", "TS"]
  shortDateField : String := "shortDate"
  fullDateField : String := "fullDate"
deriving DecidableEq, Repr, Inhabited

/-- How headings of years and months are written. -/
structure HeadingRule where
  hoursOffset : Int := 0
  showYearInMonth : Bool := true
deriving DecidableEq, Repr, Inhabited

/-- Which parts of a record stay. -/
structure Projection where
  /-- Dot paths. -/
  fields : List String := []
  /-- Whether records of which nothing stays are dropped. -/
  removeEmpty : Bool := true
deriving DecidableEq, Repr, Inhabited

/-- A transform with its settings. -/
inductive Transform where
  | calendarEvents
  | timeAgo
  | timeAgoInDays (hoursOffset : Int)
  | displayDate (style : DisplayStyle)
  | articleDate (rule : ArticleDateRule)
  | groupByDate
  | addYearMonthHeadings (rule : HeadingRule)
  | limit (size : Nat)
  | removeDuplicates (rule : DedupRule)
  | removeDuplicatesFromGroups (rule : DedupRule)
  | sort (rule : SortRule)
  | sortEachGroup (rule : SortRule)
  | project (projection : Projection)
  | firstItem (default : Json)
  | normalizeImages (fields : List String)
deriving Repr, Inhabited

/-- The name under which a specification asks for a transform. -/
def Transform.name : Transform → String
  | .calendarEvents => "CalendarEvents"
  | .timeAgo => "TimeAgo"
  | .timeAgoInDays _ => "TimeAgoInDays"
  | .displayDate _ => "DisplayDate"
  | .articleDate _ => "ArticleDate"
  | .groupByDate => "GroupByDate"
  | .addYearMonthHeadings _ => "AddYearMonthHeadings"
  | .limit _ => "Limit"
  | .removeDuplicates _ => "RemoveDuplicates"
  | .removeDuplicatesFromGroups _ => "RemoveDuplicatesFromGroups"
  | .sort _ => "Sort"
  | .sortEachGroup _ => "SortEachGroup"
  | .project _ => "Project"
  | .firstItem _ => "FirstItem"
  | .normalizeImages _ => "NormalizeImages"

end PageContext
