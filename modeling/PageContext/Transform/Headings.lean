import PageContext.Calendar.Timeline
import PageContext.Transform.Dates

/-!
# Headings among records

Before the first record of each new year and each new month stands a heading.  The date of a record
is its own `TS` if that is truthy, else the `TS` of the first of its `items`; records without a date
stay where they are and get no heading.
-/

namespace PageContext.Transform

def representative? (record : Json) : Option Json :=
  match (record.field? "TS").filter Json.isTruthy with
  | some value => some value
  | none => do
      let items ← (← record.field? "items").items?
      (← items.head?).field? "TS"

def headingLabel (rule : HeadingRule) (yearMonth : YearMonth) : String :=
  if rule.showYearInMonth then yearMonth.name ++ " " ++ toString yearMonth.year
  else yearMonth.name

/-- The headings that are due before a record of a month, after the given year and month. -/
def headingsBefore (rule : HeadingRule) (current : YearMonth) (lastYear : Option Int)
    (lastMonth : Option YearMonth) (yearMonth : YearMonth) : List Marker :=
  (if lastYear = some yearMonth.year then [] else [Marker.ofYear current yearMonth.year]) ++
    (if lastMonth = some yearMonth then []
      else [Marker.ofMonth current (headingLabel rule yearMonth) yearMonth])

/-- An element of a list with headings. -/
inductive Headed where
  | heading (marker : Marker)
  | record (value : Json)
deriving Repr, Inhabited

def Headed.toJson : Headed → Json
  | .heading marker => marker.toJson
  | .record value => value

/-- The records with their headings.  Fails when the hours offset moves a record out of range. -/
def withHeadings (frame : TimeFrame) (rule : HeadingRule) (current : YearMonth)
    (lastYear : Option Int) (lastMonth : Option YearMonth) : List Json → Option (List Headed)
  | [] => some []
  | record :: rest =>
      match (representative? record).bind frame.instant? with
      | none => do
          let following ← withHeadings frame rule current lastYear lastMonth rest
          return .record record :: following
      | some instant => do
          let yearMonth ← frame.monthAfter? instant rule.hoursOffset
          let following ←
            withHeadings frame rule current (some yearMonth.year) (some yearMonth) rest
          return (headingsBefore rule current lastYear lastMonth yearMonth).map .heading ++
            .record record :: following

/-- Puts headings among the records of an array. -/
def insertHeadings (frame : TimeFrame) (rule : HeadingRule) (input : Json) :
    Except (Stop TransformError) Json := do
  let action := (Transform.addYearMonthHeadings rule).name
  let records ← arrayFor action input
  let headed? := do
    let current ← frame.currentMonthAfter? rule.hoursOffset
    withHeadings frame rule current none none records
  match headed? with
  | some headed => return .array (headed.map Headed.toJson)
  | none => throw (outOfRange action)

end PageContext.Transform
