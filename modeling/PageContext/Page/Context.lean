import PageContext.Template.Resolution

/-!
# The context of a page

The context of a page joins the values of two templates, the global one and that of the page, with
the base addresses for links and the parameters of the request.  Both templates are resolved with
these parameters; if neither can be resolved, what stops the global one counts.
-/

namespace PageContext

/-- What is copied into the context of every page. -/
structure PageOptions where
  staticUrl : String := ""
  baseUrl : String := ""
  phpUrl : String := ""
  /-- The parameters of the request. -/
  query : Option Params := none
deriving DecidableEq, Repr, Inhabited

/-- The context of a page and the resolutions that it was made from. -/
structure PreparedPage where
  value : Json
  global : Resolution
  page : Resolution
deriving Repr, Inhabited

namespace PageOptions

/-- Parameters as an object; bare keys are null. -/
def queryValue : Option Params → Json
  | none => .null
  | some params => .object (params.map fun (key, value) => (key, (value.map Json.string).getD .null))

/-- Joins the values of the two templates with the options. -/
def assemble (options : PageOptions) (global page : Json) : Json :=
  .object [("STATIC", .string options.staticUrl), ("BASE", .string options.baseUrl),
    ("PHP", .string options.phpUrl), ("query", queryValue options.query), ("global", global),
    ("page", page)]

end PageOptions

namespace Resolver

/-- Prepares the context of a page; the parameters of the request are those of the caller.  Both
templates are resolved at the same time.  Only if the store keeps the global one waiting, its crash may
come after the page's refusal; here it comes first, as with replies that are there at once. -/
def preparePage (resolver : Resolver) (global page : Json) (options : PageOptions) :
    Except (Stop TemplateError) PreparedPage := do
  let resolver := { resolver with caller := options.query }
  let global ← resolver.resolve global
  let page ← resolver.resolve page
  return {
    value := options.assemble global.value page.value
    global := global
    page := page
  }

end Resolver

/-- The directives of both templates that fell back. -/
def PreparedPage.fallbacks (prepared : PreparedPage) : List Fallback :=
  prepared.global.fallbacks ++ prepared.page.fallbacks

end PageContext
