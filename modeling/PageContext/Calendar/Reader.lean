import PageContext.Calendar.Instant
import PageContext.Text.Blank
import PageContext.Text.Integer

/-!
# Reading dates and times

A moment is written in one of four ways: as a number of milliseconds of more than four characters;
with an offset from universal time, as in `2020-07-15T12:00:00-06:00`; as a local date, with or
without a time of day; or as a local month or year, which stand for their first day.

Fields of a moment with an offset have a fixed number of digits.  Fields of a local date may have
fewer digits and blanks in front, and a year with a sign may have more than four.
-/

namespace PageContext

/-- The fields of a written date and time; fields that are not written keep their first value. -/
structure DateFields where
  year : Int := 1970
  month : Nat := 1
  day : Nat := 1
  hour : Nat := 0
  minute : Nat := 0
  /-- The number 60 stands for a leap second. -/
  second : Nat := 0
  nanoseconds : Nat := 0
deriving DecidableEq, Repr, Inhabited

/-- The local time with the given fields, if they are in range and the date exists. -/
def DateFields.toLocalTime? (fields : DateFields) : Option LocalTime := do
  let date ← Date.ofParts? fields.year fields.month fields.day
  if fields.hour < 24 && fields.minute < 60 && fields.second ≤ 60 then
    return {
      date := date
      secondOfDay := fields.hour * 3600 + fields.minute * 60 + min fields.second 59
      nanoseconds :=
        fields.nanoseconds + (if fields.second = 60 then nanosecondsPerSecond else 0)
    }
  else none

namespace DateReader

/-- A field or a character that a format expects. -/
inductive Item where
  | year
  | month
  | day
  | hour
  | minute
  | second
  /-- A fraction of a second with its point, or nothing. -/
  | fraction
  /-- Any number of blanks, or none. -/
  | blanks
  | literal (character : Char)
deriving DecidableEq, Repr

/-- Reads at least one and at most `most` digits. -/
def readDigits? (most : Nat) (characters : List Char) : Option (Nat × List Char) :=
  let digits := (characters.take most).takeWhile Char.isDigit
  (Text.digits? digits).map fun value => (value, characters.drop digits.length)

def readExactly? (count : Nat) (characters : List Char) : Option (Nat × List Char) :=
  if ((characters.take count).takeWhile Char.isDigit).length = count then
    readDigits? count characters
  else none

def readCharacter? (expected : Char) : List Char → Option (List Char)
  | [] => none
  | character :: rest => if character = expected then some rest else none

/-- Reads the digits of a fraction of a second; digits after the ninth do not count. -/
def readFraction? (characters : List Char) : Option (Nat × List Char) :=
  let digits := characters.takeWhile Char.isDigit
  let counted := digits.take 9
  (Text.digits? counted).map fun value =>
    (value * Nat.pow 10 (9 - counted.length), characters.drop digits.length)

/-- Reads a year: any number of digits after a sign, at most four without one. -/
def readYear? (characters : List Char) : Option (Int × List Char) :=
  match characters with
  | '-' :: rest => (readDigits? rest.length rest).map fun (value, rest) => (-(value : Int), rest)
  | '+' :: rest => (readDigits? rest.length rest).map fun (value, rest) => ((value : Int), rest)
  | _ => (readDigits? 4 characters).map fun (value, rest) => ((value : Int), rest)

def readShort? (characters : List Char) : Option (Nat × List Char) :=
  readDigits? 2 (Text.dropBlanks characters)

def readItem? (item : Item) (fields : DateFields) (characters : List Char) :
    Option (DateFields × List Char) :=
  match item with
  | .year =>
      (readYear? (Text.dropBlanks characters)).map fun (year, rest) =>
        ({ fields with year := year }, rest)
  | .month =>
      (readShort? characters).map fun (month, rest) => ({ fields with month := month }, rest)
  | .day => (readShort? characters).map fun (day, rest) => ({ fields with day := day }, rest)
  | .hour => (readShort? characters).map fun (hour, rest) => ({ fields with hour := hour }, rest)
  | .minute =>
      (readShort? characters).map fun (minute, rest) => ({ fields with minute := minute }, rest)
  | .second =>
      (readShort? characters).map fun (second, rest) => ({ fields with second := second }, rest)
  | .fraction =>
      match characters with
      | '.' :: rest =>
          (readFraction? rest).map fun (nanoseconds, rest) =>
            ({ fields with nanoseconds := nanoseconds }, rest)
      | _ => some (fields, characters)
  | .blanks => some (fields, Text.dropBlanks characters)
  | .literal character => (readCharacter? character characters).map fun rest => (fields, rest)

/-- Reads the items of a format one after the other; nothing may be left over. -/
def readItems? : List Item → DateFields → List Char → Option DateFields
  | [], fields, [] => some fields
  | [], _, _ :: _ => none
  | item :: items, fields, characters => do
      let (fields, rest) ← readItem? item fields characters
      readItems? items fields rest

/-- A date: year, month and day with hyphens between them. -/
def dateItems : List Item :=
  [.year, .literal '-', .month, .literal '-', .day]

def clockItems : List Item :=
  [.hour, .literal ':', .minute]

/-- The formats of local dates, in the order in which they are tried. -/
def localFormats : List (List Item) :=
  [dateItems ++ [.literal 'T'] ++ clockItems ++ [.literal ':', .second, .fraction],
    dateItems ++ [.literal 'T'] ++ clockItems,
    dateItems ++ [.blanks] ++ clockItems ++ [.literal ':', .second],
    dateItems]

def readFormat? (format : List Item) (text : String) : Option LocalTime :=
  (readItems? format {} text.toList).bind DateFields.toLocalTime?

/-- The first of January of a year written with four characters. -/
def readFourCharacterYear? (text : String) : Option LocalTime :=
  if text.utf8ByteSize = 4 then do
    let year ← Text.signed? 32 text
    let date ← Date.ofParts? year 1 1
    return LocalTime.midnight date
  else none

/-- Reads a local date, month or year; the first notation that fits decides. -/
def readLocal? (text : String) : Option LocalTime :=
  localFormats.findSome? (fun format => readFormat? format text)
    |>.or (readFormat? dateItems (text ++ "-01"))
    |>.or (readFourCharacterYear? text)

/-- Reads an offset in seconds: the letter Z, or a sign, hours and minutes. -/
def readOffset? (characters : List Char) : Option (Int × List Char) :=
  match characters with
  | [] => none
  | mark :: rest =>
      if mark = 'Z' || mark = 'z' then some (0, rest)
      else do
        let sign : Int ←
          if mark = '+' then some 1
          else if mark = '-' || mark.toNat = 0x2212 then some (-1)
          else none
        let (hours, rest) ← readExactly? 2 rest
        let rest ← readCharacter? ':' rest
        let (minutes, rest) ← readExactly? 2 rest
        if hours < 24 && minutes < 60 then
          return (sign * (hours * 3600 + minutes * 60), rest)
        else none

/-- Reads the separator of date and time: the letter T or a blank. -/
def readSeparator? : List Char → Option (List Char)
  | [] => none
  | character :: rest =>
      if character = 'T' || character = 't' || character = ' ' then some rest else none

/-- Reads what stands behind the minute of a moment with its offset from universal time. -/
def readUniversalEnd? (year month day hour minute : Nat) (rest : List Char) : Option Instant := do
  let rest ← readCharacter? ':' rest
  let (second, rest) ← readExactly? 2 rest
  let (nanoseconds, rest) ←
    match rest with
    | '.' :: rest => readFraction? rest
    | _ => some (0, rest)
  let (offset, rest) ← readOffset? rest
  if rest.isEmpty then
    let time ← DateFields.toLocalTime? ⟨year, month, day, hour, minute, second, nanoseconds⟩
    time.toInstant? offset
  else none

/-- Reads a moment with its offset from universal time. -/
def readUniversal? (text : String) : Option Instant := do
  let (year, rest) ← readExactly? 4 text.toList
  let rest ← readCharacter? '-' rest
  let (month, rest) ← readExactly? 2 rest
  let rest ← readCharacter? '-' rest
  let (day, rest) ← readExactly? 2 rest
  let rest ← readSeparator? rest
  let (hour, rest) ← readExactly? 2 rest
  let rest ← readCharacter? ':' rest
  let (minute, rest) ← readExactly? 2 rest
  readUniversalEnd? year month day hour minute rest

/-- Reads a moment without blanks at its ends, a local date as shown by a clock with the given
offset. -/
def readMoment? (offset : Int) (text : String) : Option Instant :=
  match (Text.signed? 64 text).filter fun _ => 4 < text.utf8ByteSize with
  | some milliseconds => Instant.ofMilliseconds? milliseconds
  | none =>
      match readUniversal? text with
      | some instant => some instant
      | none => (readLocal? text).bind fun time => time.toInstant? offset

end DateReader

end PageContext
