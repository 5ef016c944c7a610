import PageContext.Calendar.Frame
import PageContext.Text.Split

/-!
# Date expressions

A date expression is the word `now`, a distance such as `+3 months` or `-1 year` from a base
instant, or a written moment.  Days and weeks are added on the line of universal time; months and
years are added to the local date, whose day is limited to the length of the month reached.
-/

namespace PageContext

/-- A unit of a distance. -/
inductive DistanceUnit where
  | day
  | week
  | month
  | year
deriving DecidableEq, Repr

namespace DistanceUnit

/-- Reads a unit: its name in any case, with any number of letters `s` behind it. -/
def ofText? (text : String) : Option DistanceUnit :=
  let letters := (Text.lowerAscii text).toList
  let singular := String.ofList (letters.reverse.dropWhile (· = 's')).reverse
  if singular = "day" then some .day
  else if singular = "week" then some .week
  else if singular = "month" then some .month
  else if singular = "year" then some .year
  else none

end DistanceUnit

namespace TimeFrame

/-- The instant some months later or earlier at the same local time of day. -/
def addMonths? (frame : TimeFrame) (instant : Instant) (months : Int) : Option Instant := do
  let time := frame.localTime instant
  let date ← time.date.addMonths? months
  LocalTime.toInstant? { time with date := date } frame.offset

def move? (frame : TimeFrame) (instant : Instant) (amount : Int) :
    DistanceUnit → Option Instant
  | .day => instant.addSeconds? (86400 * amount)
  | .week => instant.addSeconds? (604800 * amount)
  | .month => frame.addMonths? instant amount
  | .year => frame.addMonths? instant (12 * amount)

/-- Reads a distance without its sign, an amount of 32 bits and a unit, and moves by it; further
words do not count. -/
def moveBy? (frame : TimeFrame) (instant : Instant) (sign : Int) (distance : String) :
    Option Instant :=
  match Text.words distance with
  | amount :: unit :: _ => do
      let amount ← Text.unsigned? 32 amount
      let unit ← DistanceUnit.ofText? unit
      frame.move? instant (sign * amount) unit
  | _ => none

/-- Whether the text behind a minus sign is a distance: a digit in front, a blank somewhere. -/
def isDistance (characters : List Char) : Bool :=
  match characters with
  | [] => false
  | first :: _ => first.isDigit && characters.contains ' '

/-- The instant that a date expression stands for; distances count from the base, or from now
without one. -/
def evaluate? (frame : TimeFrame) (expression : String) (base : Option Instant) :
    Option Instant :=
  let text := Text.trim expression
  if Text.lowerAscii text = "now" then some frame.now
  else
    match text.toList with
    | '+' :: rest => frame.moveBy? (base.getD frame.now) 1 (String.ofList rest)
    | '-' :: rest =>
        if isDistance rest then frame.moveBy? (base.getD frame.now) (-1) (String.ofList rest)
        else DateReader.readMoment? frame.offset text
    | _ => DateReader.readMoment? frame.offset text

end TimeFrame

end PageContext
