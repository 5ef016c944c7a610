import PageContext.Json.Basic

/-!
# Templates

A template is a JSON value read as a tree.  An object with the key `_query` is a directive, whatever
other keys it has; otherwise an object with the key `_data` stands for the value under that key, as
it is; any other object is a container, whose entries are templates in turn.  Arrays are not
searched for directives.  Containers may be nested 128 levels deep.
-/

namespace PageContext

/-- A node whose value is fetched by a query. -/
structure DirectiveNode where
  /-- The value under `_query`; only a text can be a directive. -/
  query : Json
  /-- The specifications of the transforms, in order. -/
  process : List Json
  /-- The value that stands in for a failed query. -/
  default : Option Json
deriving Repr, Inhabited

/-- A classified template. -/
inductive Template where
  | directive (node : DirectiveNode)
  | literal (value : Json)
  | container (entries : List (String × Template))
  | sequence (items : List Json)
  | scalar (value : Json)
deriving Repr, Inhabited

/-- A container that is nested too deeply, by the keys that lead to it. -/
structure TemplateError where
  keys : List String
deriving DecidableEq, Repr, Inhabited

namespace Template

def depthLimit : Nat := 128

/-- The specifications under `_process`: the items of an array, or a sole one. -/
def processSpecs : Option Json → List Json
  | none => []
  | some (.array specs) => specs
  | some spec => [spec]

/-- The directive that an object with the key `_query` is. -/
def directiveOf (query : Json) (entries : List (String × Json)) : DirectiveNode where
  query := query
  process := processSpecs (Entries.get? "_process" entries)
  default := Entries.get? "_default" entries

mutual

/-- Classifies a value to which the keys `above` lead, the last one first, with `levels` levels of
containers still allowed. -/
def classifyAt (above : List String) (levels : Nat) : Json → Except TemplateError Template
  | .object entries =>
      match Entries.get? "_query" entries, Entries.get? "_data" entries with
      | some query, _ => .ok (.directive (directiveOf query entries))
      | none, some value => .ok (.literal value)
      | none, none =>
          match levels with
          | 0 => .error ⟨above.reverse⟩
          | levels + 1 => (classifyEntries above levels entries).map .container
  | .array items => .ok (.sequence items)
  | .null => .ok (.scalar .null)
  | .bool value => .ok (.scalar (.bool value))
  | .number value => .ok (.scalar (.number value))
  | .string value => .ok (.scalar (.string value))

/-- Classifies the entries of a container. -/
def classifyEntries (above : List String) (levels : Nat) :
    List (String × Json) → Except TemplateError (List (String × Template))
  | [] => .ok []
  | (key, value) :: rest => do
      let template ← classifyAt (key :: above) levels value
      let templates ← classifyEntries above levels rest
      return (key, template) :: templates

end

def classify (value : Json) : Except TemplateError Template :=
  classifyAt [] depthLimit value

mutual

/-- The directives of a template in document order. -/
def directives : Template → List DirectiveNode
  | .directive node => [node]
  | .literal _ => []
  | .container entries => directivesOfEntries entries
  | .sequence _ => []
  | .scalar _ => []

/-- The directives among the entries of a container. -/
def directivesOfEntries : List (String × Template) → List DirectiveNode
  | [] => []
  | (_, template) :: rest => directives template ++ directivesOfEntries rest

end

mutual

/-- The value of a template in which each directive has a given value. -/
def fill (value : DirectiveNode → Json) : Template → Json
  | .directive node => value node
  | .literal data => data
  | .container entries => .object (fillEntries value entries)
  | .sequence items => .array items
  | .scalar data => data

/-- The values of the entries of a container. -/
def fillEntries (value : DirectiveNode → Json) :
    List (String × Template) → List (String × Json)
  | [] => []
  | (key, template) :: rest => (key, fill value template) :: fillEntries value rest

end

end Template

def TemplateError.message (error : TemplateError) : String :=
  "Invalid template node at $" ++ String.join (error.keys.map fun key => "." ++ key) ++
    ": containers nested deeper than " ++ toString Template.depthLimit ++ " levels"

end PageContext
