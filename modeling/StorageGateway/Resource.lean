import StorageGateway.Http.Response

/-!
# Static resources

Besides its pages the gateway serves a style sheet, which all pages link to.

## Main definitions

* `Resource.stylesheet`: the style sheet.
* `Resource.find?`: the resource of a path.
-/

namespace StorageGateway.Resource

/-- The lines of the style sheet. -/
def stylesheetLines : List String :=
  [ "body \x7b",
    "  font-family: system-ui, sans-serif;",
    "  margin: 2rem auto;",
    "  max-width: 960px;",
    "  color: #222;",
    "\x7d",
    "",
    ".form \x7b",
    "  max-width: 360px;",
    "  margin: 4rem auto;",
    "\x7d",
    "",
    ".form input,",
    ".form button \x7b",
    "  display: block;",
    "  width: 100%;",
    "  margin-bottom: 0.75rem;",
    "\x7d",
    "",
    ".error \x7b",
    "  color: #b00020;",
    "\x7d",
    "",
    "table \x7b",
    "  width: 100%;",
    "  border-collapse: collapse;",
    "\x7d",
    "",
    "th,",
    "td \x7b",
    "  text-align: left;",
    "  padding: 0.4rem;",
    "  border-bottom: 1px solid #ddd;",
    "\x7d" ]

/-- The style sheet. -/
def stylesheet : String := String.join (stylesheetLines.map (· ++ "\n"))

/-- The resource of a path below the directory of static resources. -/
def find? (path : String) : Except Fault Response :=
  if path = "style.css" then .ok (.ofText 200 "text/css" stylesheet)
  else .error (Cause.resourceNotFound path).fault

end StorageGateway.Resource
