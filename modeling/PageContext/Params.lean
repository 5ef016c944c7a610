import PageContext.Entries
import PageContext.Text.Blank
import PageContext.Text.Split
import PageContext.Text.Integer
import PageContext.Text.Quoted

/-!
# Parameters

Parameters are ordered entries whose values may be missing: the parameter text `limit=5&preview`
sets `limit` to `5` and gives the bare key `preview`.  Caller parameters and those of a directive
are merged key by key.  A directive wins over its caller, except that of two numeric limits the
smaller counts, so that a caller can tighten a directive's limit and never lift it.
-/

namespace PageContext

/-- Ordered parameters; a bare key has no value. -/
abbrev Params := List (String × Option String)

/-- A single parameter whose text names no key. -/
structure NamelessParam where
  text : String
deriving DecidableEq, Repr, Inhabited

def NamelessParam.message (param : NamelessParam) : String :=
  "parameter " ++ Text.quoted param.text ++ " has an empty name"

namespace Params

/-- A parameter text: a key and, after the first equals sign, a value, both without blanks at
their ends. -/
def ofPair (pair : String) : String × Option String :=
  match Text.cut '=' pair with
  | some (key, value) => (Text.trim key, some (Text.trim value))
  | none => (Text.trim pair, none)

/-- A single parameter that a caller gives, which must have a name. -/
def ofArgument (argument : String) : Except NamelessParam (String × Option String) :=
  let param := ofPair argument
  if param.1 = "" then .error ⟨argument⟩ else .ok param

/-- The parameters in a text in which ampersands separate them; the empty text has none. -/
def ofText (text : String) : Params :=
  if text = "" then [] else Entries.ofPairs ((Text.pieces '&' text).map ofPair)

/-- The value of a parameter that has one. -/
def value? (key : String) (params : Params) : Option String :=
  (Entries.get? key params).join

/-- A numeric limit: a signed integer of 64 bits, blanks around it aside. -/
def numericLimit? (params : Params) : Option Int :=
  (value? "limit" params).bind fun text => Text.signed? 64 (Text.trim text)

/-- Caller parameters overridden by those of a directive; the smaller of two numeric limits
counts. -/
def merge (caller : Option Params) (directive : Params) : Params :=
  let merged := Entries.insertAll directive (caller.getD [])
  match caller.bind numericLimit?, numericLimit? directive with
  | some requested, some ceiling =>
      Entries.insert "limit" (some (toString (min requested ceiling))) merged
  | _, _ => merged

end Params

end PageContext
