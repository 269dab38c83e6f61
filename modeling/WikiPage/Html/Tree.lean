import WikiPage.Html.Lexer
/-!
# Hypertext trees

A tree of elements and text, and how it is written.
-/

namespace WikiPage.Html

/-- The vocabulary that the name of an element is taken from. -/
inductive Space where
  | html | svg | math
  deriving DecidableEq, Repr, Inhabited

/-- A tree of elements and text. -/
inductive Tree where
  | text (value : String)
  | element (space : Space) (name : String) (attributes : List Attribute) (children : List Tree)
  deriving Repr, Inhabited

/-- What is written for a character of text. -/
def escapeTextChar : Char → List Char
  | '&' => "&amp;".toList
  | '\u00A0' => "&nbsp;".toList
  | '<' => "&lt;".toList
  | '>' => "&gt;".toList
  | c => [c]

/-- What is written for a character of the value of an attribute. -/
def escapeValueChar : Char → List Char
  | '&' => "&amp;".toList
  | '\u00A0' => "&nbsp;".toList
  | '"' => "&quot;".toList
  | c => [c]

/-- A text as it is written. -/
def escapeText (s : String) : String := String.ofList (s.toList.flatMap escapeTextChar)

/-- The value of an attribute as it is written. -/
def escapeValue (s : String) : String := String.ofList (s.toList.flatMap escapeValueChar)

/-- Elements that are written without an end tag and without what they hold. -/
def endless : List String :=
  ["area", "base", "basefont", "bgsound", "br", "col", "embed", "frame", "hr", "img", "input",
   "keygen", "link", "meta", "param", "source", "track", "wbr"]

/-- Elements whose text is written as it is. -/
def rawText : List String :=
  ["style", "script", "xmp", "iframe", "noembed", "noframes", "plaintext", "noscript"]

/-- An attribute as it is written. -/
def attributeText (a : Attribute) : String := " " ++ a.1 ++ "=\"" ++ escapeValue a.2 ++ "\""

mutual
/-- The text of a tree; `raw` says that text is written as it is. -/
def Tree.write (raw : Bool) : Tree → String
  | .text value => if raw then value else escapeText value
  | .element space name attributes children =>
    let start := "<" ++ name ++ String.join (attributes.map attributeText) ++ ">"
    if space = .html && endless.contains name then start
    else
      start ++ Tree.writeAll (space = .html && rawText.contains name) children ++ "</" ++ name ++ ">"
/-- The text of trees in a row. -/
def Tree.writeAll (raw : Bool) : List Tree → String
  | [] => ""
  | t :: rest => t.write raw ++ Tree.writeAll raw rest
end

end WikiPage.Html
