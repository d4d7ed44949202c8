/-!
# HTML fragments

A page is a list of fragments: markup that the program wrote and text that came from elsewhere.
Text is escaped when the page is rendered, so that it can neither open a tag nor leave an
attribute value. The slash is escaped as well as the five characters with a meaning in markup.

## Main definitions

* `Html.escape`: a text as it stands between tags or in an attribute value.
* `Html.Fragment`, `Html.Page`, `Html.render`.
-/

namespace StorageGateway.Html

/-- The form of one character inside a text. -/
def escapeChar (c : Char) : List Char :=
  match c with
  | '<' => "&lt;".toList
  | '>' => "&gt;".toList
  | '&' => "&amp;".toList
  | '"' => "&quot;".toList
  | '\'' => "&#x27;".toList
  | '/' => "&#x2f;".toList
  | c => [c]

/-- A text without any character that has a meaning in markup. -/
def escape (s : String) : String := String.ofList (s.toList.flatMap escapeChar)

/-- A part of a page. -/
inductive Fragment where
  /-- Markup, rendered as it is. -/
  | markup (s : String)
  /-- Text, rendered escaped. -/
  | text (s : String)
  deriving DecidableEq, Repr

/-- A page in reading order. -/
abbrev Page := List Fragment

/-- What a fragment looks like in the page. -/
def Fragment.render : Fragment → String
  | .markup s => s
  | .text s => escape s

/-- The page as one text. -/
def render (page : Page) : String := String.join (page.map Fragment.render)

/-- The texts of a page in reading order. -/
def texts (page : Page) : List String :=
  page.filterMap fun
    | .markup _ => none
    | .text s => some s

end StorageGateway.Html
