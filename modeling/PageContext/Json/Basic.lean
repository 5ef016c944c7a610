import PageContext.Entries
import PageContext.Number.Binary64

/-!
# JSON values

A JSON value is a tree of nulls, booleans, numbers, strings, arrays and objects.  An object keeps
the order of its keys.  A number is an integer between `-2 ^ 63` and `2 ^ 64 - 1` or a finite
floating-point number; the two kinds are never equal, though they compare with each other through
the nearest floating-point number.

Equality of values, `same`, ignores the order of keys in objects.
-/

namespace PageContext

/-- A number of a JSON text. -/
inductive Number where
  | integer (value : Int)
  | float (value : Binary64)
deriving DecidableEq, Repr, Inhabited

namespace Number

def toBinary64 : Number → Binary64
  | .integer value => Binary64.ofInt value
  | .float value => value

/-- The whole part, limited to the signed integers of 64 bits. -/
def toSigned : Number → Int
  | .integer value =>
      if value < Nat.pow 2 63 then value else (Binary64.ofInt value).truncate 64
  | .float value => value.truncate 64

/-- Integers are the same when equal, floating-point numbers when neither is smaller. -/
def same : Number → Number → Bool
  | .integer left, .integer right => left == right
  | .float left, .float right => left.same right
  | _, _ => false

def isZero : Number → Bool
  | .integer value => value == 0
  | .float value => value.isZero

end Number

/-- A JSON value; the entries of an object have distinct keys. -/
inductive Json where
  | null
  | bool (value : Bool)
  | number (value : Number)
  | string (value : String)
  | array (items : List Json)
  | object (entries : List (String × Json))
deriving Inhabited, Repr

namespace Json

/-- The name of a value's kind, as messages give it. -/
def kindName : Json → String
  | .null => "null"
  | .bool _ => "boolean"
  | .number _ => "number"
  | .string _ => "string"
  | .array _ => "array"
  | .object _ => "object"

def int (value : Int) : Json :=
  .number (.integer value)

def field? (key : String) : Json → Option Json
  | .object entries => Entries.get? key entries
  | _ => none

def text? : Json → Option String
  | .string value => some value
  | _ => none

def items? : Json → Option (List Json)
  | .array items => some items
  | _ => none

def isObject : Json → Bool
  | .object _ => true
  | _ => false

/-- Null, false, zero and the empty string are falsy; arrays and objects never are. -/
def isTruthy : Json → Bool
  | .null => false
  | .bool value => value
  | .number value => !value.isZero
  | .string value => value != ""
  | .array _ => true
  | .object _ => true

def isTruthy? : Option Json → Bool
  | none => false
  | some value => value.isTruthy

mutual

/-- Equality of values, the order of keys in objects aside. -/
def same : Json → Json → Bool
  | .null, .null => true
  | .bool left, .bool right => left == right
  | .number left, .number right => left.same right
  | .string left, .string right => left == right
  | .array left, .array right => sameItems left right
  | .object left, .object right => left.length == right.length && sameEntries left right
  | _, _ => false

/-- Equality of two lists of values, item by item. -/
def sameItems : List Json → List Json → Bool
  | [], [] => true
  | left :: lefts, right :: rights => same left right && sameItems lefts rights
  | _, _ => false

/-- Whether every entry of the first object has an equal value in the second. -/
def sameEntries : List (String × Json) → List (String × Json) → Bool
  | [], _ => true
  | (key, left) :: rest, others =>
      (match Entries.get? key others with
        | some right => same left right
        | none => false) && sameEntries rest others

end

end Json

end PageContext
