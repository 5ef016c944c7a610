import PageContext.Calendar.Reader
import PageContext.Text.Split
import PageContext.Toml.Basic

/-!
# Single values in TOML

Strings stand in double quotes, where a backslash has a meaning, or in single quotes, where it has
none; in three quotes they extend over several lines.  All other values are words: booleans,
integers, floating-point numbers, dates and times.  A date or a time stands for the text in which it
is printed.
-/

namespace PageContext.Toml

def skipBlanks (characters : List Char) : List Char :=
  characters.dropWhile fun character => character = ' ' || character = '\t'

/-- Whether a character may not stand in a line as it is. -/
def isControl (character : Char) : Bool :=
  (character.toNat < 32 && character ≠ '\t') || character.toNat = 127

/-! ## Strings -/

/-- The value of a hexadecimal digit in either case. -/
def hexadecimal? (character : Char) : Option Nat :=
  if character.isDigit then some (character.toNat - '0'.toNat)
  else if 'a' ≤ character && character ≤ 'f' then some (character.toNat - 'a'.toNat + 10)
  else if 'A' ≤ character && character ≤ 'F' then some (character.toNat - 'A'.toNat + 10)
  else none

/-- The character whose code is written with a number of hexadecimal digits. -/
def readCode? (count : Nat) (characters : List Char) : Option (Char × List Char) := do
  let digits := characters.take count
  let code ← digits.foldlM (fun value digit => return 16 * value + (← hexadecimal? digit)) 0
  if code.isValidChar then return (Char.ofNat code, characters.drop count) else none

/-- Reads what stands behind a backslash. -/
def readEscape? : List Char → Option (Char × List Char)
  | [] => none
  | sign :: rest =>
      if sign = 'b' then some (Char.ofNat 8, rest)
      else if sign = 't' then some ('\t', rest)
      else if sign = 'n' then some ('\n', rest)
      else if sign = 'f' then some (Char.ofNat 12, rest)
      else if sign = 'r' then some ('\r', rest)
      else if sign = '"' || sign = '\\' then some (sign, rest)
      else if sign = 'u' then readCode? 4 rest
      else if sign = 'U' then readCode? 8 rest
      else none

/-- Reads the rest of a string in double quotes; `fuel` exceeds the length of the text. -/
def readBasic? : (fuel : Nat) → List Char → Option (List Char × List Char)
  | 0, _ => none
  | _ + 1, [] => none
  | _ + 1, '"' :: rest => some ([], rest)
  | fuel + 1, '\\' :: rest => do
      let (character, rest) ← readEscape? rest
      let (characters, rest) ← readBasic? fuel rest
      return (character :: characters, rest)
  | fuel + 1, character :: rest =>
      if isControl character then none
      else (readBasic? fuel rest).map fun (characters, rest) => (character :: characters, rest)

/-- Reads the rest of a string in single quotes. -/
def readLiteral? : List Char → Option (List Char × List Char)
  | [] => none
  | '\'' :: rest => some ([], rest)
  | character :: rest =>
      if isControl character then none
      else (readLiteral? rest).map fun (characters, rest) => (character :: characters, rest)

def readText? (characters : List Char) : Option (String × List Char) :=
  match characters with
  | '"' :: rest =>
      (readBasic? (rest.length + 1) rest).map fun (value, rest) => (String.ofList value, rest)
  | '\'' :: rest => (readLiteral? rest).map fun (value, rest) => (String.ofList value, rest)
  | _ => none

/-- What is left behind a backslash at the end of a line, if it is one: the blanks and the line ends
that follow are no part of the string. -/
def continued? (characters : List Char) : Option (List Char) :=
  match skipBlanks characters with
  | '\n' :: rest =>
      some (rest.dropWhile fun character =>
        character = ' ' || character = '\t' || character = '\n')
  | _ => none

/-- Reads the rest of a string in three quotes, of which up to two more may be the end of the string;
`fuel` exceeds the length of the text. -/
def readLong? (quote : Char) : (fuel : Nat) → List Char → Option (List Char × List Char)
  | 0, _ => none
  | _ + 1, [] => none
  | fuel + 1, character :: rest =>
      if character = quote then
        let quotes := ((character :: rest).takeWhile (· = quote)).length
        if 3 ≤ quotes then
          some (List.replicate (min (quotes - 3) 2) quote, (character :: rest).drop (min quotes 5))
        else
          (readLong? quote fuel rest).map fun (characters, rest) => (quote :: characters, rest)
      else if character = '\\' && quote = '"' then
        match continued? rest with
        | some rest => readLong? quote fuel rest
        | none => do
            let (character, rest) ← readEscape? rest
            let (characters, rest) ← readLong? quote fuel rest
            return (character :: characters, rest)
      else if isControl character && character ≠ '\n' then none
      else
        (readLong? quote fuel rest).map fun (characters, rest) => (character :: characters, rest)

/-- Reads a string in three quotes behind them; a line end at once is no part of it. -/
def readLongText? (quote : Char) (characters : List Char) : Option (String × List Char) :=
  let inside :=
    match characters with
    | '\n' :: rest => rest
    | _ => characters
  (readLong? quote (inside.length + 1) inside).map fun (value, rest) => (String.ofList value, rest)

/-! ## Numbers -/

/-- The digits of a number in which single underscores stand between digits. -/
def digitsBetween? (isDigit : Char → Bool) (characters : List Char) : Option (List Char) :=
  let groups := Text.splitAtEach '_' characters
  if groups.all fun group => !group.isEmpty && group.all isDigit then some groups.flatten else none

/-- The value of the digits of a number with a base. -/
def valueInBase? (base : Nat) (characters : List Char) : Option Nat := do
  let isDigit (character : Char) := ((hexadecimal? character).filter (· < base)).isSome
  let digits ← digitsBetween? isDigit characters
  digits.foldlM (fun value digit => return base * value + (← hexadecimal? digit)) 0

/-- The value of a decimal number; a zero in front stands alone. -/
def decimal? (characters : List Char) : Option Nat :=
  match characters with
  | '0' :: _ :: _ => none
  | _ => valueInBase? 10 characters

/-- The integer of 64 bits that a word stands for. -/
def integer? (word : List Char) : Option Int :=
  let value? : Option Int :=
    match word with
    | '0' :: 'x' :: digits => (valueInBase? 16 digits).map Int.ofNat
    | '0' :: 'o' :: digits => (valueInBase? 8 digits).map Int.ofNat
    | '0' :: 'b' :: digits => (valueInBase? 2 digits).map Int.ofNat
    | '+' :: digits => (decimal? digits).map Int.ofNat
    | '-' :: digits => (decimal? digits).map fun magnitude => -Int.ofNat magnitude
    | digits => (decimal? digits).map Int.ofNat
  value?.filter (Text.fitsSigned 64)

def withoutSign : List Char → List Char
  | '+' :: rest => rest
  | '-' :: rest => rest
  | characters => characters

def isDigits (characters : List Char) : Bool :=
  (digitsBetween? Char.isDigit characters).isSome

/-- Whether a power of ten stands at the end of a number. -/
def isPower : List Char → Bool
  | mark :: rest => (mark == 'e' || mark == 'E') && isDigits (withoutSign rest)
  | [] => false

/-- Whether a number without its sign has a fraction or a power of ten, in the form that they have. -/
def isFloat (unsigned : List Char) : Bool :=
  let isPart (character : Char) := character.isDigit || character == '_'
  (decimal? (unsigned.takeWhile isPart)).isSome &&
    match unsigned.dropWhile isPart with
    | '.' :: rest =>
        isDigits (rest.takeWhile isPart) &&
          ((rest.dropWhile isPart).isEmpty || isPower (rest.dropWhile isPart))
    | rest => isPower rest

/-- The floating-point number that a word stands for.  Positive numbers that are too large are
refused. -/
def float? (word : List Char) : Option PlainNumber :=
  let unsigned := withoutSign word
  if unsigned = ['i', 'n', 'f'] || unsigned = ['n', 'a', 'n'] then
    PlainNumber.ofText? (String.ofList word)
  else if isFloat unsigned then
    (PlainNumber.ofText? (String.ofList (word.filter (· ≠ '_')))).filter (· ≠ .infinite false)
  else none

/-! ## Dates and times -/

open DateReader in
/-- Reads a date and gives it as it is printed. -/
def readDate? (characters : List Char) : Option (String × List Char) := do
  let (year, rest) ← readExactly? 4 characters
  let rest ← readCharacter? '-' rest
  let (month, rest) ← readExactly? 2 rest
  let rest ← readCharacter? '-' rest
  let (day, rest) ← readExactly? 2 rest
  if 1 ≤ day && day ≤ Date.monthLength year month then
    return (Text.padded 4 year ++ "-" ++ Text.padded 2 month ++ "-" ++ Text.padded 2 day, rest)
  else none

/-- The fraction of a second as it is printed, nothing if it is zero. -/
def fractionText (nanoseconds : Nat) : String :=
  if nanoseconds = 0 then ""
  else
    let digits := (Text.padded 9 nanoseconds).toList.reverse.dropWhile (· = '0')
    "." ++ String.ofList digits.reverse

open DateReader in
/-- Reads a time of day and gives it as it is printed; the number 60 stands for a leap second. -/
def readTime? (characters : List Char) : Option (String × List Char) := do
  let (hour, rest) ← readExactly? 2 characters
  let rest ← readCharacter? ':' rest
  let (minute, rest) ← readExactly? 2 rest
  let rest ← readCharacter? ':' rest
  let (second, rest) ← readExactly? 2 rest
  let (nanoseconds, rest) ←
    match rest with
    | '.' :: rest => readFraction? rest
    | _ => some (0, rest)
  if hour < 24 && minute < 60 && second ≤ 60 then
    return (Text.padded 2 hour ++ ":" ++ Text.padded 2 minute ++ ":" ++ Text.padded 2 second ++
      fractionText nanoseconds, rest)
  else none

open DateReader in
/-- The offset from universal time that is all of a text, as it is printed. -/
def offset? : List Char → Option String
  | ['Z'] => some "Z"
  | ['z'] => some "Z"
  | sign :: rest => do
      let (hours, rest) ← readExactly? 2 rest
      let rest ← readCharacter? ':' rest
      let (minutes, rest) ← readExactly? 2 rest
      if (sign = '+' || sign = '-') && hours < 24 && minutes < 60 && rest.isEmpty then
        let isWest := sign = '-' && hours + minutes ≠ 0
        return (if isWest then "-" else "+") ++ Text.padded 2 hours ++ ":" ++ Text.padded 2 minutes
      else none
  | [] => none

/-- The date, the time, or the date with a time and perhaps an offset that a word stands for, as it
is printed. -/
def moment? (word : List Char) : Option String :=
  match readDate? word with
  | some (date, []) => some date
  | some (date, separator :: rest) => do
      let (time, rest) ← readTime? rest
      let offset ← if rest.isEmpty then some "" else offset? rest
      if separator = 'T' || separator = 't' || separator = ' ' then
        return date ++ "T" ++ time ++ offset
      else none
  | none =>
      match readTime? word with
      | some (time, []) => some time
      | _ => none

/-! ## Words -/

/-- Whether a character belongs to a word. -/
def isWordPart (character : Char) : Bool :=
  character.isAlphanum || character == '_' || character == '+' || character == '-' ||
    character == '.' || character == ':'

/-- A word and what is left behind it.  A blank belongs to it between a date and a time. -/
def wordOf (characters : List Char) : List Char × List Char :=
  let word := characters.takeWhile isWordPart
  match characters.dropWhile isWordPart with
  | ' ' :: rest =>
      let next := rest.takeWhile isWordPart
      if ((readDate? word).filter (·.2.isEmpty)).isSome && (readTime? next).isSome then
        (word ++ ' ' :: next, rest.dropWhile isWordPart)
      else (word, ' ' :: rest)
  | rest => (word, rest)

def word? (word : List Char) : Option Toml :=
  if word = ['t', 'r', 'u', 'e'] then some (.boolean true)
  else if word = ['f', 'a', 'l', 's', 'e'] then some (.boolean false)
  else
    ((integer? word).map .integer).or <| ((float? word).map .float).or <|
      (moment? word).map .text

end PageContext.Toml
