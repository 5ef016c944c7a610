import PageContext.Json.Basic
import PageContext.Number.Decimal

/-!
# Reading JSON text

A JSON text is one value with blanks around it.  The reader keeps the order of keys; a repeated key
keeps its first place and takes its last value.  It refuses arrays and objects that are nested
deeper than a given number of levels.

A number without fraction and exponent is an integer when it fits into 64 bits, `-0` excepted; every
other number is read as a floating-point number, stepwise.  Of a long run of digits only as many
count as fit into 64 bits; later digits before the point count as zeros and later digits after it
not at all.
-/

namespace PageContext

/-- Why a text is no JSON text. -/
inductive JsonError where
  /-- The text ends inside a value. -/
  | unexpectedEnd
  /-- A character stands where no value can have it. -/
  | unexpectedCharacter
  /-- A string holds a control character or an escape that means nothing. -/
  | invalidString
  /-- Digits are missing, or zeros stand in front of an integer. -/
  | invalidNumber
  /-- A number lies beyond the largest finite one. -/
  | numberOutOfRange
  /-- Arrays and objects are nested too deeply. -/
  | nestedTooDeeply
  /-- Something follows the value. -/
  | trailingCharacters
deriving DecidableEq, Repr, Inhabited

namespace JsonError

def message : JsonError → String
  | .unexpectedEnd => "unexpected end of input"
  | .unexpectedCharacter => "unexpected character"
  | .invalidString => "invalid string"
  | .invalidNumber => "invalid number"
  | .numberOutOfRange => "number out of range"
  | .nestedTooDeeply => "recursion limit exceeded"
  | .trailingCharacters => "trailing characters"

end JsonError

namespace Json

/-- The characters from the first one that is not white space in JSON. -/
def skipSpace (characters : List Char) : List Char :=
  characters.dropWhile fun character =>
    character = ' ' || character = '\n' || character = '\t' || character = '\r'

/-- The value of a hexadecimal digit in either case. -/
def hexValue? (character : Char) : Option Nat :=
  if '0' ≤ character && character ≤ '9' then some (character.toNat - '0'.toNat)
  else if 'a' ≤ character && character ≤ 'f' then some (character.toNat - 'a'.toNat + 10)
  else if 'A' ≤ character && character ≤ 'F' then some (character.toNat - 'A'.toNat + 10)
  else none

/-- The code unit written with four hexadecimal digits. -/
def codeUnit? (first second third fourth : Char) : Option Nat := do
  return ((← hexValue? first) * 16 + (← hexValue? second)) * 256 +
    (← hexValue? third) * 16 + (← hexValue? fourth)

/-- The character of an escape that consists of one letter or sign. -/
def shortEscape? : Char → Option Char
  | '"' => some '"'
  | '\\' => some '\\'
  | '/' => some '/'
  | 'b' => some (Char.ofNat 8)
  | 'f' => some (Char.ofNat 12)
  | 'n' => some '\n'
  | 'r' => some '\r'
  | 't' => some '\t'
  | _ => none

/-- Adds a character in front of a string that was read. -/
private def startWith (character : Char)
    (read : Except JsonError (List Char × List Char)) : Except JsonError (List Char × List Char) :=
  read.map fun (characters, rest) => (character :: characters, rest)

/-- Reads a string after its opening quote: its characters and the text behind it. -/
def readString : List Char → Except JsonError (List Char × List Char)
  | [] => .error .unexpectedEnd
  | '"' :: rest => .ok ([], rest)
  | '\\' :: 'u' :: first :: second :: third :: fourth :: rest =>
      match codeUnit? first second third fourth with
      | none => .error .invalidString
      | some unit =>
          if unit < 0xD800 || 0xDFFF < unit then startWith (Char.ofNat unit) (readString rest)
          else if 0xDBFF < unit then .error .invalidString
          else
            match rest with
            | '\\' :: 'u' :: fifth :: sixth :: seventh :: eighth :: rest =>
                match codeUnit? fifth sixth seventh eighth with
                | none => .error .invalidString
                | some low =>
                    if low < 0xDC00 || 0xDFFF < low then .error .invalidString
                    else
                      startWith (Char.ofNat (0x10000 + (unit - 0xD800) * 1024 + (low - 0xDC00)))
                        (readString rest)
            | _ => .error .invalidString
  | '\\' :: sign :: rest =>
      match shortEscape? sign with
      | some character => startWith character (readString rest)
      | none => .error .invalidString
  | character :: rest =>
      if character.toNat < 32 || character = '\\' then .error .invalidString
      else startWith character (readString rest)

/-- Takes digits into a significand as long as it fits into 64 bits; the rest of the digits is
counted. -/
def absorbWhole (significand : Nat) : List Char → Nat × Nat
  | [] => (significand, 0)
  | digit :: rest =>
      let longer := 10 * significand + (digit.toNat - '0'.toNat)
      if longer < Nat.pow 2 64 then absorbWhole longer rest else (significand, rest.length + 1)

/-- Takes digits after the point into a significand as long as it fits into 64 bits; each lowers
the exponent by one, and the rest of the digits is ignored. -/
def absorbFraction (significand : Nat) (exponent : Int) : List Char → Nat × Int
  | [] => (significand, exponent)
  | digit :: rest =>
      let longer := 10 * significand + (digit.toNat - '0'.toNat)
      if longer < Nat.pow 2 64 then absorbFraction longer (exponent - 1) rest
      else (significand, exponent)

/-- The number written with a sign, digits before the point, digits after the point and an
exponent; neither of the last two makes it an integer. -/
def numberOf (negative : Bool) (whole : List Char) (fraction : Option (List Char))
    (exponent : Option Int) : Except JsonError Number :=
  let (significand, dropped) := absorbWhole 0 whole
  let float (significand : Nat) (exponent : Int) :=
    match Binary64.ofDecimalStepwise negative significand exponent with
    | some value => .ok (.float value)
    | none => .error .numberOutOfRange
  match fraction, exponent with
  | none, none =>
      if dropped = 0 && !negative then .ok (.integer significand)
      else if dropped = 0 && 0 < significand && significand ≤ Nat.pow 2 63 then
        .ok (.integer (-significand))
      else float significand dropped
  | _, _ =>
      let (significand, power) := absorbFraction significand dropped (fraction.getD [])
      float significand (power + exponent.getD 0)

/-- Reads the fraction of a number, if there is one. -/
def readFraction : List Char → Except JsonError (Option (List Char) × List Char)
  | '.' :: rest =>
      match leadingDigits rest with
      | ([], []) => .error .unexpectedEnd
      | ([], _) => .error .invalidNumber
      | (digits, rest) => .ok (some digits, rest)
  | characters => .ok (none, characters)

/-- Reads the exponent of a number, if there is one. -/
def readExponent : List Char → Except JsonError (Option Int × List Char)
  | [] => .ok (none, [])
  | mark :: rest =>
      if mark = 'e' || mark = 'E' then
        let (negative, rest) :=
          match rest with
          | '+' :: more => (false, more)
          | '-' :: more => (true, more)
          | _ => (false, rest)
        let (digits, rest) := leadingDigits rest
        match Text.digits? digits with
        | some magnitude => .ok (some (if negative then -Int.ofNat magnitude else magnitude), rest)
        | none => .error (if rest.isEmpty then .unexpectedEnd else .invalidNumber)
      else .ok (none, mark :: rest)

/-- Reads a number and gives the text behind it. -/
def readNumber (characters : List Char) : Except JsonError (Number × List Char) := do
  let (negative, characters) :=
    match characters with
    | '-' :: rest => (true, rest)
    | _ => (false, characters)
  let (whole, rest) := leadingDigits characters
  match whole with
  | [] => throw (if rest.isEmpty then .unexpectedEnd else .invalidNumber)
  | '0' :: _ :: _ => throw .invalidNumber
  | _ =>
      let (fraction, rest) ← readFraction rest
      let (exponent, rest) ← readExponent rest
      return (← numberOf negative whole fraction exponent, rest)

private def behindWord (word : List Char) (value : Json) (characters : List Char) :
    Except JsonError (Json × List Char) :=
  if word.isPrefixOf characters then .ok (value, characters.drop word.length)
  else .error (if characters.isPrefixOf word then .unexpectedEnd else .unexpectedCharacter)

theorem behindWord_value {word characters rest : List Char} {value result : Json}
    (read : behindWord word value characters = .ok (result, rest)) : result = value := by
  unfold behindWord at read
  split at read
  · simp only [Except.ok.injEq, Prod.mk.injEq] at read
    exact read.1.symm
  · contradiction

mutual

/-- Reads a value at the front of a text.  `levels` is the number of levels of arrays and objects
still allowed; `fuel` exceeds the number of steps a text of its length can need. -/
def readValue : (fuel levels : Nat) → List Char → Except JsonError (Json × List Char)
  | 0, _, _ => .error .unexpectedEnd
  | fuel + 1, levels, characters =>
      match skipSpace characters with
      | [] => .error .unexpectedEnd
      | '"' :: rest => (readString rest).map fun (value, rest) => (.string (String.ofList value), rest)
      | '[' :: rest =>
          if levels = 0 then .error .nestedTooDeeply
          else
            match skipSpace rest with
            | ']' :: rest => .ok (.array [], rest)
            | rest => (readItems fuel (levels - 1) rest).map fun (items, rest) => (.array items, rest)
      | '\x7b' :: rest =>
          if levels = 0 then .error .nestedTooDeeply
          else
            match skipSpace rest with
            | '\x7d' :: rest => .ok (.object [], rest)
            | rest =>
                (readEntries fuel (levels - 1) rest).map fun (entries, rest) =>
                  (.object (Entries.ofPairs entries), rest)
      | 't' :: rest => behindWord ['r', 'u', 'e'] (.bool true) rest
      | 'f' :: rest => behindWord ['a', 'l', 's', 'e'] (.bool false) rest
      | 'n' :: rest => behindWord ['u', 'l', 'l'] .null rest
      | character :: rest =>
          if character = '-' || character.isDigit then
            (readNumber (character :: rest)).map fun (value, rest) => (.number value, rest)
          else .error .unexpectedCharacter

/-- Reads the items of an array up to its closing bracket; there is at least one. -/
def readItems : (fuel levels : Nat) → List Char → Except JsonError (List Json × List Char)
  | 0, _, _ => .error .unexpectedEnd
  | fuel + 1, levels, characters => do
      let (item, rest) ← readValue fuel levels characters
      match skipSpace rest with
      | [] => throw .unexpectedEnd
      | ']' :: rest => return ([item], rest)
      | ',' :: rest =>
          let (items, rest) ← readItems fuel levels rest
          return (item :: items, rest)
      | _ => throw .unexpectedCharacter

/-- Reads the entries of an object up to its closing brace; there is at least one. -/
def readEntries : (fuel levels : Nat) → List Char →
    Except JsonError (List (String × Json) × List Char)
  | 0, _, _ => .error .unexpectedEnd
  | fuel + 1, levels, characters =>
      match skipSpace characters with
      | [] => .error .unexpectedEnd
      | '"' :: rest => do
          let (key, rest) ← readString rest
          match skipSpace rest with
          | [] => throw .unexpectedEnd
          | ':' :: rest =>
              let (value, rest) ← readValue fuel levels rest
              let entry := (String.ofList key, value)
              match skipSpace rest with
              | [] => throw .unexpectedEnd
              | '\x7d' :: rest => return ([entry], rest)
              | ',' :: rest =>
                  let (entries, rest) ← readEntries fuel levels rest
                  return (entry :: entries, rest)
              | _ => throw .unexpectedCharacter
          | _ => throw .unexpectedCharacter
      | _ => .error .unexpectedCharacter

end

/-- The number of levels of arrays and objects that texts of files may have. -/
def levelLimit : Nat := 127

/-- Reads a whole text that is nested at most `levels` deep. -/
def readNested (levels : Nat) (text : String) : Except JsonError Json := do
  let characters := text.toList
  let (value, rest) ← readValue (2 * characters.length + 2) levels characters
  if (skipSpace rest).isEmpty then return value else throw .trailingCharacters

def read (text : String) : Except JsonError Json :=
  readNested levelLimit text

end Json

end PageContext
