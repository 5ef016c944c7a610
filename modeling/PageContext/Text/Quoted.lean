import PageContext.Text.Printable

/-!
# Quoted text in messages

A text that a message quotes stands between double quotes.  A quote and a backslash get a backslash
in front, the tab, the line feed, the carriage return and the null character have short escapes,
and any other character that is not printable is written as its code point in hexadecimal digits
between braces.
-/

namespace PageContext.Text

def hexDigit (value : Nat) : Char :=
  if value < 10 then Char.ofNat ('0'.toNat + value) else Char.ofNat ('a'.toNat + (value - 10))

/-- The hexadecimal digits of a number, least first; `fuel` bounds their count. -/
def hexDigitsReversed : Nat → Nat → List Char
  | 0, _ => []
  | fuel + 1, value =>
      if value < 16 then [hexDigit value]
      else hexDigit (value % 16) :: hexDigitsReversed fuel (value / 16)

def quotedCharacter (character : Char) : List Char :=
  if character = '"' then ['\\', '"']
  else if character = '\\' then ['\\', '\\']
  else if character = '\t' then ['\\', 't']
  else if character = '\n' then ['\\', 'n']
  else if character = '\r' then ['\\', 'r']
  else if character.toNat = 0 then ['\\', '0']
  else if isPrintable character then [character]
  else ['\\', 'u', '\x7b'] ++ (hexDigitsReversed 6 character.toNat).reverse ++ ['\x7d']

def quoted (text : String) : String :=
  String.ofList ('"' :: text.toList.flatMap quotedCharacter ++ ['"'])

end PageContext.Text
