import PageContext.Calendar.Expression
import PageContext.Calendar.Label
import PageContext.Params

/-!
# Timelines

A timeline runs from one date to another, forwards or backwards, in steps of a year or a month.
Every year and every month on it is a marker; in a timeline of months the marker of a year stands
before the first month of each stretch of months of that year.
-/

namespace PageContext

/-- What a marker stands for. -/
inductive MarkerKind where
  | year
  | month
deriving DecidableEq, Repr, Inhabited

/-- A marker of a year or a month on a timeline or among records. -/
structure Marker where
  label : String
  reference : String
  kind : MarkerKind
  /-- Whether it is the current year or month. -/
  current : Bool
deriving DecidableEq, Repr, Inhabited

namespace Marker

def ofYear (current : YearMonth) (year : Int) : Marker where
  label := toString year
  reference := toString year
  kind := .year
  current := year == current.year

/-- The marker of a month under a given label. -/
def ofMonth (current : YearMonth) (label : String) (yearMonth : YearMonth) : Marker where
  label := label
  reference := yearMonth.reference
  kind := .month
  current := yearMonth == current

def kindName : MarkerKind → String
  | .year => "year"
  | .month => "month"

/-- A marker as an object; `current` is present only when it is true. -/
def toJson (marker : Marker) : Json :=
  .object ([("date", .string marker.label), ("ref", .string marker.reference),
    ("type", .string (kindName marker.kind))] ++
    (if marker.current then [("current", .bool true)] else []))

end Marker

/-- The whole numbers from one to another, upwards or downwards, both ends included. -/
def stretch (first last : Int) : List Int :=
  if first ≤ last then (List.range ((last - first).toNat + 1)).map fun (step : Nat) => first + step
  else (List.range ((first - last).toNat + 1)).map fun (step : Nat) => first - step

namespace TimeFrame

/-- The months of a timeline as markers, `lastYear` being the last year marked before. -/
def monthMarkers (current : YearMonth) (short : Bool) (lastYear : Option Int) :
    List YearMonth → List Marker
  | [] => []
  | yearMonth :: rest =>
      let label := monthLabel short yearMonth.month ++ " " ++ toString yearMonth.year
      let month := Marker.ofMonth current label yearMonth
      let following := monthMarkers current short (some yearMonth.year) rest
      if lastYear = some yearMonth.year then month :: following
      else Marker.ofYear current yearMonth.year :: month :: following

/-- The timeline from one instant to another. -/
def timeline (frame : TimeFrame) (first last : Instant) (unit : MarkerKind) (short : Bool) :
    List Marker :=
  let current := frame.localMonth frame.now
  let start := frame.localMonth first
  let finish := frame.localMonth last
  match unit with
  | .year => (stretch start.year finish.year).map (Marker.ofYear current)
  | .month =>
      monthMarkers current short none ((stretch start.index finish.index).map YearMonth.ofIndex)

end TimeFrame

/-- The dates, the unit and the style that the parameters of a timeline ask for. -/
structure TimelineRange where
  unit : MarkerKind
  start : Option Instant
  finish : Option Instant
  shortMonth : Bool
deriving DecidableEq, Repr, Inhabited

namespace TimelineRange

/-- Reads the unit of a timeline, in any case, singular or plural. -/
def unit? (text : String) : Option MarkerKind :=
  let lowered := Text.lowerAscii text
  if lowered = "year" || lowered = "years" then some .year
  else if lowered = "month" || lowered = "months" then some .month
  else none

/-- Reads the parameters of a timeline.  Both dates are now if they are not given; the end date
may be a distance from the start date. -/
def ofParams (frame : TimeFrame) (unit : MarkerKind) (params : Params) : TimelineRange :=
  let start := frame.evaluate? ((params.value? "startDate").getD "now") none
  let finish := start.bind fun start =>
    frame.evaluate? ((params.value? "endDate").getD "now") (some start)
  let shortMonth := params.value? "shortMonth"
  { unit := unit
    start := start
    finish := finish
    shortMonth := shortMonth = some "true" || shortMonth = some "1" }

/-- The markers of the range; none if a date cannot be read. -/
def markers (frame : TimeFrame) (range : TimelineRange) : List Marker :=
  match range.start, range.finish with
  | some start, some finish => frame.timeline start finish range.unit range.shortMonth
  | _, _ => []

def toJson (frame : TimeFrame) (range : TimelineRange) : Json :=
  .array ((range.markers frame).map Marker.toJson)

end TimelineRange

end PageContext
