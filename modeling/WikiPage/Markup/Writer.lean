import WikiPage.Error
import WikiPage.Markup.Part
import WikiPage.Tree.Node
/-!
# Trees as markup

`Node.parts` gives the markup of a tree.  Writing goes through the tree in document order and carries
the labels of the footnotes met so far: a footnote is numbered by the place of its label among them.  It
fails on the first generated element or attribute whose name is not a name.
-/

namespace WikiPage.Markup

/-- Elements that have no end tag. -/
def voidElements : List String :=
  ["area", "base", "br", "col", "embed", "hr", "img", "input", "link", "meta", "source", "track",
   "wbr"]

/-- What one part of a tree is written as, with the footnote labels met by its end. -/
abbrev Written := Except PassError (List Part × List String)

/-- Nothing. -/
def nothing (labels : List String) : Written := .ok ([], labels)

/-- Some parts that hold nothing else. -/
def single (parts : List Part) (labels : List String) : Written := .ok (parts, labels)

/-- One thing after another. -/
def andThen (first : Written) (next : List String → Written) : Written :=
  match first with
  | .error e => .error e
  | .ok (parts, labels) =>
    match next labels with
    | .error e => .error e
    | .ok (more, labels) => .ok (parts ++ more, labels)

/-- Something between other parts. -/
def between (before : List Part) (inner : Written) (after : List Part) : Written :=
  match inner with
  | .error e => .error e
  | .ok (parts, labels) => .ok (before ++ parts ++ after, labels)

/-- Something inside an element. -/
def inside (tag : String) (attributes : List (String × Option String)) (inner : Written) : Written :=
  between [.start tag attributes] inner [.stop tag]

/-- Text inside an element, which holds nothing else. -/
def textIn (tag : String) (attributes : List (String × Option String)) (value : String) : List Part :=
  [.start tag attributes, .text value, .stop tag]

/-- The number of a footnote label, and the labels met with it. -/
def footnoteNumber (labels : List String) (label : String) : Nat × List String :=
  match labels.idxOf? label with
  | some index => (index + 1, labels)
  | none => (labels.length + 1, labels ++ [label])

/-- A title attribute, where there is a title. -/
def titleAttribute (title : String) : List (String × Option String) :=
  if title.isEmpty then [] else [("title", some title)]

/-- The attribute that aligns a cell. -/
def alignAttribute : Option Alignment → List (String × Option String)
  | some .left => [("align", some "left")]
  | some .center => [("align", some "center")]
  | some .right => [("align", some "right")]
  | _ => []

/-- The attributes of a heading. -/
def headingAttributes (id : Option String) (classes : List String) : List (String × Option String) :=
  (match id with
    | some id => [("id", some id)]
    | none => []) ++
  (if classes.isEmpty then [] else [("class", some (" ".intercalate classes))])

/-- The attributes of a generated element, as far as they have names; an unset flag is left out. -/
def elementAttributes :
    List (String × AttrValue) → Except PassError (List (String × Option String))
  | [] => .ok []
  | (name, value) :: rest =>
    if isName name then
      match elementAttributes rest with
      | .error e => .error e
      | .ok rest =>
        .ok <| match value with
          | .text value => (name, some value) :: rest
          | .flag true => (name, none) :: rest
          | .flag false => rest
    else .error (.invalidName true name)

/-- Something in a generated element, which is not written when the element is void. -/
def generated (tag : String) (attributes : Attributes) (labels : List String) (inner : Written) :
    Written :=
  if isName tag then
    match elementAttributes attributes.entries with
    | .error e => .error e
    | .ok attributes =>
      if voidElements.contains tag then single [.start tag attributes] labels
      else inside tag attributes inner
  else .error (.invalidName false tag)

mutual
/-- The markup of a node. -/
def nodeParts (labels : List String) : Node → Written
  | ⟨kind, children, span⟩ =>
    match kind with
    | .root | .tableHead | .tableRow | .tableCell => allParts labels children
    | .paragraph => inside "p" [] (allParts labels children)
    | .heading level id classes =>
      inside ("h" ++ toString level) (headingAttributes id classes) (allParts labels children)
    | .blockQuote none => inside "blockquote" [] (allParts labels children)
    | .blockQuote (some alert) =>
      between
        ([.start "div" [("class", some ("alert alert-" ++ alert.name))]] ++
          textIn "div" [("class", some "alert-title")] alert.title ++
          [.start "div" [("class", some "alert-content")]])
        (allParts labels children) [.stop "div", .stop "div"]
    | .codeBlock lang code =>
      let attributes := match lang with
        | some lang => [("class", some ("language-" ++ lang))]
        | none => []
      single ([.start "pre" []] ++ textIn "code" attributes code ++ [.stop "pre"]) labels
    | .list none => inside "ul" [] (allParts labels children)
    | .list (some n) =>
      inside "ol" (if n = 1 then [] else [("start", some (toString n))]) (allParts labels children)
    | .listItem => inside "li" [] (allParts labels children)
    | .taskMarker checked =>
      single [.start "input" ([("type", some "checkbox"), ("disabled", none)] ++
        if checked then [("checked", none)] else [])] labels
    | .table alignments => inside "table" [] (sectionParts alignments false labels children)
    | .emphasis => inside "em" [] (allParts labels children)
    | .strong => inside "strong" [] (allParts labels children)
    | .strikethrough => inside "s" [] (allParts labels children)
    | .superscript => inside "sup" [] (allParts labels children)
    | .subscript => inside "sub" [] (allParts labels children)
    | .link url title =>
      inside "a" (("href", some url) :: titleAttribute title) (allParts labels children)
    | .image url title =>
      single [.start "img" (("src", some url) :: titleAttribute title ++
        [("alt", some (Node.plainText ⟨kind, children, span⟩))])] labels
    | .text value => single [.text value] labels
    | .inlineCode value => single (textIn "code" [] value) labels
    | .html value => single [.raw value] labels
    | .inlineMath value => single (textIn "span" [("class", some "math math-inline")] value) labels
    | .displayMath value => single (textIn "span" [("class", some "math math-display")] value) labels
    | .footnoteReference label =>
      let (number, labels) := footnoteNumber labels label
      single ([.start "sup" [("class", some "footnote-reference")]] ++
        textIn "a" [("href", some ("#fn-" ++ label))] (toString number) ++ [.stop "sup"]) labels
    | .footnoteDefinition label =>
      let (number, labels) := footnoteNumber labels label
      between
        ([.start "div" [("class", some "footnote-definition"), ("id", some ("fn-" ++ label))]] ++
          textIn "sup" [("class", some "footnote-definition-label")] (toString number))
        (allParts labels children) [.stop "div"]
    | .definitionList => inside "dl" [] (allParts labels children)
    | .definitionTitle => inside "dt" [] (allParts labels children)
    | .definitionDetails => inside "dd" [] (allParts labels children)
    | .softBreak => single [.text "\n"] labels
    | .hardBreak => single [.start "br" []] labels
    | .rule => single [.start "hr" []] labels
    | .element tag attributes => generated tag attributes labels (allParts labels children)
/-- The markup of nodes in a row. -/
def allParts (labels : List String) : List Node → Written
  | [] => nothing labels
  | n :: rest => andThen (nodeParts labels n) fun labels => allParts labels rest
/-- The markup of what a table holds; rows after the first one follow in the same body. -/
def sectionParts (alignments : List Alignment) (inBody : Bool) (labels : List String) :
    List Node → Written
  | [] => single (if inBody then [.stop "tbody"] else []) labels
  | ⟨.tableHead, cells, _⟩ :: rest =>
    andThen
      (between [.start "thead" [], .start "tr" []] (cellParts "th" alignments labels cells)
        [.stop "tr", .stop "thead"])
      fun labels => sectionParts alignments inBody labels rest
  | ⟨.tableRow, cells, _⟩ :: rest =>
    andThen
      (between ((if inBody then [] else [.start "tbody" []]) ++ [.start "tr" []])
        (cellParts "td" alignments labels cells) [.stop "tr"])
      fun labels => sectionParts alignments true labels rest
  | n :: rest =>
    andThen (nodeParts labels n) fun labels => sectionParts alignments inBody labels rest
/-- The markup of the cells of a row; whatever stands in a row is a cell. -/
def cellParts (tag : String) (alignments : List Alignment) (labels : List String) :
    List Node → Written
  | [] => nothing labels
  | ⟨_, children, _⟩ :: rest =>
    andThen (inside tag (alignAttribute alignments.head?) (allParts labels children))
      fun labels => cellParts tag alignments.tail labels rest
end

end WikiPage.Markup

namespace WikiPage.Node

/-- The markup of what a node holds, whatever the node itself is. -/
def parts (n : Node) : Except PassError (List Markup.Part) :=
  (Markup.allParts [] n.children).map Prod.fst

/-- The written markup of what a node holds. -/
def toMarkup (n : Node) : Except PassError String := n.parts.map Markup.Part.writeAll

end WikiPage.Node
