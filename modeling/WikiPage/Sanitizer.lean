import WikiPage.Address
import WikiPage.Html.Rules
/-!
# Cleaning hypertext

Authors may write hypertext into a page, so the finished page is cleaned: only elements and attributes
that are known to be harmless stay.  An element that may not stay gives way to what it holds, but scripts and
styles go with all they hold.  Frames keep their source only when it begins with one of the given addresses.

Main statement: `mem_cleanAttributes`, that what stays on a frame is no refused source.
-/

namespace WikiPage

namespace Sanitizer

open Html

/-! ## 1. What may stay -/

/-- Elements that may stay. -/
def allowedElements : List String :=
  ["a", "abbr", "acronym", "area", "article", "aside", "b", "bdi", "bdo", "blockquote", "br",
   "caption", "center", "cite", "code", "col", "colgroup", "data", "dd", "del", "details", "dfn",
   "div", "dl", "dt", "em", "figcaption", "figure", "footer", "h1", "h2", "h3", "h4", "h5", "h6",
   "header", "hgroup", "hr", "i", "img", "ins", "kbd", "li", "map", "mark", "nav", "ol", "p", "pre",
   "q", "rp", "rt", "rtc", "ruby", "s", "samp", "small", "span", "strike", "strong", "sub",
   "summary", "sup", "table", "tbody", "td", "th", "thead", "time", "tr", "tt", "u", "ul", "var",
   "wbr", "iframe", "input"]

/-- Elements that go with all they hold. -/
def removedElements : List String := ["script", "style"]

/-- Attributes that any element may have. -/
def commonAttributes : List String := ["lang", "title", "class", "id"]

/-- Further attributes that an element may have. -/
def ownAttributes : String → List String
  | "a" => ["href", "hreflang"]
  | "bdo" => ["dir"]
  | "blockquote" | "q" => ["cite"]
  | "col" | "colgroup" => ["align", "char", "charoff", "span"]
  | "del" | "ins" => ["cite", "datetime"]
  | "div" => ["data-rules"]
  | "hr" => ["align", "size", "width"]
  | "iframe" =>
    ["src", "allow", "allowfullscreen", "title", "height", "width", "scrolling", "frameborder"]
  | "img" => ["align", "alt", "height", "src", "width"]
  | "input" => ["type", "checked", "disabled"]
  | "ol" => ["start"]
  | "table" => ["align", "char", "charoff", "summary"]
  | "tbody" | "tfoot" | "thead" | "tr" => ["align", "char", "charoff"]
  | "td" => ["align", "char", "charoff", "colspan", "headers", "rowspan"]
  | "th" => ["align", "char", "charoff", "colspan", "headers", "rowspan", "scope"]
  | _ => []

/-- Whether attributes of a name hold addresses. -/
def holdsAddress (name : String) : Bool := name == "href" || name == "src"

/-- Schemes of the addresses that may stay. -/
def allowedSchemes : List String :=
  ["bitcoin", "ftp", "ftps", "geo", "http", "https", "im", "irc", "ircs", "magnet", "mailto", "mms",
   "mx", "news", "nntp", "openpgp4fpr", "sip", "sms", "smsto", "ssh", "tel", "url", "webcal", "wtai",
   "xmpp"]

/-- Whether an address may stay: relative ones may, and absolute ones with an allowed scheme. -/
def addressAllowed (value : String) : Bool :=
  match Address.status value with
  | .absolute scheme => allowedSchemes.contains scheme
  | .relative => true
  | .invalid => false

/-- Whether an attribute of an element may stay. -/
def attributeAllowed (element : String) (a : Attribute) : Bool :=
  (commonAttributes.contains a.1 || (ownAttributes element).contains a.1) &&
    (!holdsAddress a.1 || addressAllowed a.2)

/-! ## 2. Other vocabularies -/

/-- Elements of graphics. -/
def graphicElements : List String :=
  ["a", "altGlyph", "altGlyphDef", "altGlyphItem", "animate", "animateColor", "animateMotion",
   "animateTransform", "circle", "clipPath", "color-profile", "cursor", "defs", "desc", "ellipse",
   "filter", "font", "font-face", "font-face-format", "font-face-name", "font-face-src",
   "font-face-uri", "foreignObject", "g", "glyph", "glyphRef", "hkern", "image", "line",
   "linearGradient", "marker", "mask", "metadata", "missing-glyph", "mpath", "path", "pattern",
   "polygon", "polyline", "radialGradient", "rect", "script", "set", "stop", "style", "svg",
   "switch", "symbol", "text", "textPath", "title", "tref", "tspan", "use", "view", "vkern"]

/-- Elements of mathematics. -/
def mathElements : List String :=
  ["abs", "and", "annotation", "annotation-xml", "apply", "approx", "arccos", "arccosh", "arccot",
   "arccoth", "arccsc", "arccsch", "arcsec", "arcsech", "arcsin", "arcsinh", "arctan", "arctanh",
   "arg", "bind", "bvar", "card", "cartesianproduct", "cbytes", "ceiling", "cerror", "ci", "cn",
   "codomain", "complexes", "compose", "condition", "conjugate", "cos", "cosh", "cot", "coth", "cs",
   "csc", "csch", "csymbol", "curl", "declare", "degree", "determinant", "diff", "divergence",
   "divide", "domain", "domainofapplication", "emptyset", "eq", "equivalent", "eulergamma", "exists",
   "exp", "exponentiale", "factorial", "factorof", "false", "floor", "fn", "forall", "gcd", "geq",
   "grad", "gt", "ident", "image", "imaginary", "imaginaryi", "implies", "in", "infinity", "int",
   "integers", "intersect", "interval", "inverse", "lambda", "laplacian", "lcm", "leq", "limit",
   "list", "ln", "log", "logbase", "lowlimit", "lt", "maction", "maligngroup", "malignmark", "math",
   "matrix", "matrixrow", "max", "mean", "median", "menclose", "merror", "mfenced", "mfrac",
   "mglyph", "mi", "min", "minus", "mlabeledtr", "mlongdiv", "mmultiscripts", "mn", "mo", "mode",
   "moment", "momentabout", "mover", "mpadded", "mphantom", "mprescripts", "mroot", "mrow", "ms",
   "mscarries", "mscarry", "msgroup", "msline", "mspace", "msqrt", "msrow", "mstack", "mstyle",
   "msub", "msubsup", "msup", "mtable", "mtd", "mtext", "mtr", "munder", "munderover",
   "naturalnumbers", "neq", "none", "not", "notanumber", "notin", "notprsubset", "notsubset", "or",
   "otherwise", "outerproduct", "partialdiff", "pi", "piece", "piecewise", "plus", "power", "primes",
   "product", "prsubset", "quotient", "rationals", "real", "reals", "reln", "rem", "root",
   "scalarproduct", "sdev", "sec", "sech", "selector", "semantics", "sep", "set", "setdiff", "share",
   "sin", "sinh", "span", "subset", "sum", "tan", "tanh", "tendsto", "times", "transpose", "true",
   "union", "uplimit", "variance", "vector", "vectorproduct", "xor"]

/-- Names that hypertext shares with the other vocabularies. -/
def sharedElements : List String := ["title", "style", "font", "a", "script", "span"]

/-- Whether an element may stand where it stands after the elements around it have given way: an element
of another vocabulary may not come to stand in hypertext, nor one with a name of another vocabulary. -/
def inPlace (outer : Space × String) (inner : Space × String) : Bool :=
  match outer.1, inner.1 with
  | .html, .svg => inner.2 == "svg"
  | .html, .math => inner.2 == "math"
  | .math, .html | .math, .svg =>
    ["mi", "mo", "mn", "ms", "mtext", "annotation-xml"].contains outer.2
  | .svg, .html | .svg, .math => outer.2 == "foreignobject"
  | _, .svg => graphicElements.contains inner.2
  | _, .math => mathElements.contains inner.2
  | _, .html =>
    !(graphicElements.contains inner.2 || mathElements.contains inner.2) ||
      sharedElements.contains inner.2

end Sanitizer

/-! ## 3. Cleaning -/

/-- A sanitizer, with the addresses that sources of frames may begin with; each ends in a slash. -/
structure Sanitizer where
  sources : List String
  deriving Repr, DecidableEq, Inhabited

namespace Sanitizer

open Html

/-- Adds an address to those that sources may begin with, unless it is empty or there already. -/
def addSource (sources : List String) (source : String) : List String :=
  if source.isEmpty then sources
  else
    let source := Address.withSlash source
    if sources.contains source then sources else sources ++ [source]

/-- The sanitizer for frames from given addresses. -/
def ofSources (sources : List String) : Sanitizer := ⟨sources.foldl addSource []⟩

/-- Whether a source may stay. -/
def sourceAllowed (s : Sanitizer) (value : String) : Bool :=
  s.sources.any fun source => source.toList.isPrefixOf value.toList

/-- Whether an attribute is a source of a frame that may not stay. -/
def refused (s : Sanitizer) (element : String) (a : Attribute) : Bool :=
  element == "iframe" && a.1 == "src" && !s.sourceAllowed a.2

/-- A list without the elements that satisfy a condition; each of them, from the last to the first, gives
its place to the last element. -/
def swapOut (p : Attribute → Bool) : List Attribute → List Attribute
  | [] => []
  | a :: rest =>
    let rest := swapOut p rest
    if p a then
      match rest.getLast? with
      | some last => last :: rest.dropLast
      | none => []
    else a :: rest

/-- What is left are elements of the list that do not satisfy the condition. -/
theorem mem_swapOut {p : Attribute → Bool} {x : Attribute} :
    ∀ {l : List Attribute}, x ∈ swapOut p l → x ∈ l ∧ p x = false
  | [], h => by simp [swapOut] at h
  | a :: rest, h => by
    have ih := fun h => @mem_swapOut p x rest h
    simp only [swapOut] at h
    split at h
    · split at h
      · rename_i last hlast
        have hmem : x ∈ swapOut p rest := by
          rcases List.mem_cons.1 h with rfl | h
          · exact List.mem_of_getLast? hlast
          · exact List.dropLast_subset _ h
        exact ⟨List.mem_cons_of_mem _ (ih hmem).1, (ih hmem).2⟩
      · simp at h
    · rename_i hp
      rcases List.mem_cons.1 h with rfl | h
      · exact ⟨List.mem_cons_self, by simpa using hp⟩
      · exact ⟨List.mem_cons_of_mem _ (ih h).1, (ih h).2⟩

/-- The attributes that stay on an element. -/
def cleanAttributes (s : Sanitizer) (element : String) (attributes : List Attribute) :
    List Attribute :=
  let kept := attributes.filter (attributeAllowed element)
  let kept := if element == "a" then kept ++ [("rel", "noopener noreferrer")] else kept
  swapOut (s.refused element) kept

/-- What stays on an element is not refused. -/
theorem mem_cleanAttributes {s : Sanitizer} {element : String} {attributes : List Attribute}
    {a : Attribute} (h : a ∈ s.cleanAttributes element attributes) : s.refused element a = false :=
  (mem_swapOut h).2

mutual
/-- What stays of a tree in an element. -/
def cleanTree (s : Sanitizer) (outer : Space × String) : Tree → List Tree
  | .text value => [.text value]
  | .element space name attributes children =>
    if removedElements.contains name || !inPlace outer (space, name) then []
    else if allowedElements.contains name then
      [.element space name (s.cleanAttributes name attributes) (cleanTrees s (space, name) children)]
    else cleanTrees s outer children
/-- What stays of trees in a row. -/
def cleanTrees (s : Sanitizer) (outer : Space × String) : List Tree → List Tree
  | [] => []
  | t :: rest => cleanTree s outer t ++ cleanTrees s outer rest
end

/-- What stays of a hypertext, as trees. -/
def cleanTreesOf (s : Sanitizer) (text : String) : List Tree :=
  s.cleanTrees (.html, "html") (parseFragment text)

/-- What stays of a hypertext. -/
def clean (s : Sanitizer) (text : String) : String := Tree.writeAll false (s.cleanTreesOf text)

end Sanitizer

end WikiPage
