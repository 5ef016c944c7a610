import PageContext.Files.Path
import PageContext.Page.Context
import PageContext.Template.File

/-!
# Loading the templates of a page

The global template is the file `global.json` of the context directory, and the template of a page
the file with its name in the directory `pages`.  A name is a relative path that stays inside: it
is refused when it is empty, absolute, begins with a single dot, or goes up anywhere.
-/

namespace PageContext

/-- Why a page cannot be prepared. -/
inductive PageError where
  | load (cause : LoadError)
  | template (cause : TemplateError)
deriving DecidableEq, Repr, Inhabited

namespace Page

/-- Whether a name could lead out of the directory of pages. -/
def isRefused (name : String) : Bool :=
  let pieces := Text.pieces '/' name
  name = "" || Path.isAbsolute name || pieces.head? == some "." || pieces.contains ".."

/-- The path at which a name is looked for. -/
def path (contextDirectory name : String) : String :=
  Path.join (Path.join contextDirectory "pages") (name ++ ".json")

def globalPath (contextDirectory : String) : String :=
  Path.join contextDirectory "global.json"

/-- The path of a page's template, for a name that is not refused. -/
def path? (contextDirectory name : String) : Except LoadError String :=
  if isRefused name then .error (.notFound (path contextDirectory name))
  else .ok (path contextDirectory name)

/-- Reads the template of a page.  A refused name is found before any file is read. -/
def readPage (files : Files) (contextDirectory name : String) : Except LoadError Json := do
  readTemplate files (← path? contextDirectory name)

/-- Reads the global template and that of a page; here too a refused name is found first.  Both
files are read at the same time, and where neither can be read either failure may be the one that is
noticed.  This is a choice: it is always that of the global template. -/
def readTemplates (files : Files) (contextDirectory name : String) :
    Except LoadError (Json × Json) := do
  let pagePath ← path? contextDirectory name
  let global ← readTemplate files (globalPath contextDirectory)
  let page ← readTemplate files pagePath
  return (global, page)

end Page

/-- Prepares the page with a name from the files of the context directory. -/
def Resolver.loadPage (resolver : Resolver) (files : Files) (contextDirectory name : String)
    (options : PageOptions) : Except (Stop PageError) PreparedPage := do
  let (global, page) ←
    (Page.readTemplates files contextDirectory name).mapError fun cause => .failure (.load cause)
  (resolver.preparePage global page options).mapError (Stop.map .template)

end PageContext
