import WikiPage.Html.Dom
/-!
# Open elements

The elements that are open while a hypertext is read, innermost first, and the classes of elements that
decide what a tag closes.  A search through the open elements ends at the bounds of a scope.
-/

namespace WikiPage.Html

/-- An open element. -/
structure OpenElement where
  id : NodeId
  space : Space
  name : String
  /-- Whether hypertext stands in it although its vocabulary is another. -/
  holdsHtml : Bool := false
  deriving DecidableEq, Repr, Inhabited

namespace OpenElement

/-- Whether this is a hypertext element with a given name. -/
def isHtml (e : OpenElement) (name : String) : Bool := e.space = .html && e.name == name

/-- Whether this is a hypertext element with one of some names. -/
def isHtmlIn (e : OpenElement) (names : List String) : Bool :=
  e.space = .html && names.contains e.name

/-- An element of mathematics that holds text. -/
def holdsMathText (e : OpenElement) : Bool :=
  e.space = .math && ["mi", "mo", "mn", "ms", "mtext"].contains e.name

/-- An element of graphics that holds hypertext. -/
def holdsGraphicText (e : OpenElement) : Bool :=
  e.space = .svg && ["foreignobject", "desc", "title"].contains e.name

end OpenElement

/-! ## 1. Classes of elements -/

/-- Elements that bound every scope but those of tables and choices. -/
def isBound (e : OpenElement) : Bool :=
  e.isHtmlIn ["applet", "caption", "html", "table", "td", "th", "marquee", "object", "template"] ||
    e.holdsMathText || e.holdsGraphicText

/-- The bounds of the scope of list items. -/
def isListBound (e : OpenElement) : Bool := isBound e || e.isHtmlIn ["ol", "ul"]

/-- The bounds of the scope of paragraphs. -/
def isButtonBound (e : OpenElement) : Bool := isBound e || e.isHtml "button"

/-- The bounds of the scope of table parts. -/
def isTableBound (e : OpenElement) : Bool := e.isHtmlIn ["html", "table", "template"]

/-- The bounds of the scope of choices. -/
def isSelectBound (e : OpenElement) : Bool := !e.isHtmlIn ["optgroup", "option"]

/-- Elements that hold the rows of a table. -/
def isBodyContext (e : OpenElement) : Bool :=
  e.isHtmlIn ["tbody", "tfoot", "thead", "template", "html"]

/-- Elements that hold the cells of a row. -/
def isRowContext (e : OpenElement) : Bool := e.isHtmlIn ["tr", "template", "html"]

/-- Elements in which what is not part of a table is moved out of the table. -/
def isFosterTarget (e : OpenElement) : Bool :=
  e.isHtmlIn ["table", "tbody", "tfoot", "thead", "tr"]

/-- Elements that an end tag of another element closes. -/
def impliedEnds : List String :=
  ["dd", "dt", "li", "option", "optgroup", "p", "rb", "rp", "rt", "rtc"]

/-- Elements that the end of a template closes. -/
def thoroughEnds : List String :=
  impliedEnds ++ ["caption", "colgroup", "tbody", "td", "tfoot", "th", "thead", "tr"]

/-- Headings. -/
def headings : List String := ["h1", "h2", "h3", "h4", "h5", "h6"]

/-- Elements that an end tag does not reach beyond. -/
def special : List String :=
  ["address", "applet", "area", "article", "aside", "base", "basefont", "bgsound", "blockquote",
   "body", "br", "button", "caption", "center", "col", "colgroup", "dd", "details", "dir", "div",
   "dl", "dt", "embed", "fieldset", "figcaption", "figure", "footer", "form", "frame", "frameset",
   "h1", "h2", "h3", "h4", "h5", "h6", "head", "header", "hgroup", "hr", "html", "iframe", "img",
   "input", "isindex", "li", "link", "listing", "main", "marquee", "menu", "meta", "nav", "noembed",
   "noframes", "noscript", "object", "ol", "p", "param", "plaintext", "pre", "script", "section",
   "select", "source", "style", "summary", "table", "tbody", "td", "template", "textarea", "tfoot",
   "th", "thead", "title", "tr", "track", "ul", "wbr", "xmp"]

/-- Whether an end tag does not reach beyond an element. -/
def isSpecial (e : OpenElement) : Bool := e.isHtmlIn special

/-! ## 2. Searches -/

/-- Whether an element of a kind is open in a scope with the given bounds. -/
def inScope (bound wanted : OpenElement → Bool) : List OpenElement → Bool
  | [] => false
  | e :: rest => wanted e || (!bound e && inScope bound wanted rest)

/-- The open elements after those down to the first one of a kind are closed. -/
def closeThrough (wanted : OpenElement → Bool) : List OpenElement → List OpenElement
  | [] => []
  | e :: rest => if wanted e then rest else closeThrough wanted rest

/-- The open elements from the first one of a kind on. -/
def closeUpTo (wanted : OpenElement → Bool) : List OpenElement → List OpenElement
  | [] => []
  | e :: rest => if wanted e then e :: rest else closeUpTo wanted rest

/-- The open elements without the innermost ones that have one of some names. -/
def closeImplied (names : List String) (stack : List OpenElement) : List OpenElement :=
  stack.dropWhile (·.isHtmlIn names)

end WikiPage.Html
