import WikiPage.Text.Trim
import WikiPage.Tree.Node
/-!
# Markers

A shortcode is written as a paragraph of its own that holds nothing but a marker: `{{tag …}}` opens one
and `{{/tag}}` closes one.
-/

namespace WikiPage.Shortcode

/-- A list without a start that it has. -/
def withoutStart? : (start s : List Char) → Option (List Char)
  | [], s => some s
  | _ :: _, [] => none
  | x :: start, c :: s => if x = c then withoutStart? start s else none

/-- What stands between the braces of a text, without the blanks around it. -/
def betweenBraces? (text : List Char) : Option (List Char) :=
  match withoutStart? ['\x7b', '\x7b'] text with
  | none => none
  | some inner =>
    (withoutStart? ['\x7d', '\x7d'] inner.reverse).map fun inner => Text.trim inner.reverse

/-- What the marker of a paragraph holds, if the paragraph is a marker. -/
def markerText? (n : Node) : Option (List Char) :=
  if n.isParagraph then
    match n.onlyChild with
    | some ⟨.text value, _, _⟩ => betweenBraces? value.toList
    | _ => none
  else none

/-- An opening marker: its tag, and what follows the tag. -/
structure Opening where
  tag : String
  params : String
  deriving DecidableEq, Repr, Inhabited

/-- A marker's text as an opening one: the tag ends at the first blank. -/
def Opening.ofText (text : List Char) : Opening :=
  ⟨String.ofList (text.takeWhile (!Unicode.isBlank ·)),
   String.ofList ((text.dropWhile (!Unicode.isBlank ·)).drop 1)⟩

/-- The opening marker that a node is. -/
def opening? (n : Node) : Option Opening :=
  match markerText? n with
  | none => none
  | some ('/' :: _) => none
  | some text => some (.ofText text)

/-- The tag that a node closes, if it is a closing marker. -/
def closedTag? (n : Node) : Option String :=
  match markerText? n with
  | some ('/' :: tag) => some (String.ofList tag)
  | _ => none

/-- Whether a node is the closing marker of a tag. -/
def closes (tag : String) (n : Node) : Bool := closedTag? n == some tag

end WikiPage.Shortcode
