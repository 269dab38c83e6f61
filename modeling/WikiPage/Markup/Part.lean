/-!
# Markup text

Markup is written as a row of parts: start tags with their attributes, end tags, text, and markup that
was given as such.  Text and attribute values are escaped, so that neither holds `<`, `>` or a quotation
mark.
-/

namespace WikiPage.Markup

/-- What is written for a character of text or of an attribute value. -/
def escapeChar : Char → List Char
  | '&' => "&amp;".toList
  | '<' => "&lt;".toList
  | '>' => "&gt;".toList
  | '"' => "&quot;".toList
  | '\'' => "&#x27;".toList
  | c => [c]

/-- A text as it is written. -/
def escape (s : String) : String := String.ofList (s.toList.flatMap escapeChar)

/-- A name that an element or an attribute may have: a letter, then letters, digits, `-` and `_`. -/
def isName (s : String) : Bool :=
  match s.toList with
  | [] => false
  | c :: rest => c.isAlpha && rest.all fun c => c.isAlphanum || c == '-' || c == '_'

/-- A part of a markup text.  An attribute without a value is a bare name. -/
inductive Part where
  | start (tag : String) (attributes : List (String × Option String))
  | stop (tag : String)
  | text (value : String)
  | raw (value : String)
  deriving DecidableEq, Repr, Inhabited

namespace Part

/-- An attribute as it is written. -/
def attributeText : String × Option String → String
  | (name, some value) => " " ++ name ++ "=\"" ++ escape value ++ "\""
  | (name, none) => " " ++ name

/-- A part as it is written. -/
def write : Part → String
  | start tag attributes => "<" ++ tag ++ String.join (attributes.map attributeText) ++ ">"
  | stop tag => "</" ++ tag ++ ">"
  | text value => escape value
  | raw value => value

/-- Parts as they are written, in order. -/
def writeAll (parts : List Part) : String := String.join (parts.map write)

end Part

end WikiPage.Markup
