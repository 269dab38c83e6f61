import WikiPage.Html.Elements
/-!
# Building a tree from tokens

The state of reading a hypertext: the tree so far, the open elements, the formatting elements that are
to be opened again where they were closed too early, and how the next token is read.  This module has
the operations on the state; which token asks for which operation is said elsewhere.
-/

namespace WikiPage.Html

/-- Where in a hypertext a token stands, as far as tables, choices and templates are concerned. -/
inductive Mode where
  | body | text | table | tableText | caption | columns | tableBody | row | cell
  | select | selectInTable | template
  deriving DecidableEq, Repr, Inhabited

/-- A formatting element, with the tag that opens it again, or the mark of a place that such elements
are not carried beyond. -/
inductive Formatting where
  | mark
  | element (id : NodeId) (tag : StartTag)
  deriving DecidableEq, Repr, Inhabited

namespace Formatting

/-- Whether this is a mark. -/
def isMark : Formatting → Bool
  | mark => true
  | _ => false

/-- Whether this is the entry of an element. -/
def isFor (id : NodeId) : Formatting → Bool
  | mark => false
  | element id' _ => id == id'

/-- The name of the element. -/
def name? : Formatting → Option String
  | mark => none
  | element _ tag => some tag.name

end Formatting

/-- The state of reading a hypertext. -/
structure Builder where
  dom : Dom
  /-- The open elements, innermost first; the last one is the root. -/
  stack : List OpenElement
  /-- The formatting elements, the latest first. -/
  formatting : List Formatting := []
  mode : Mode := .body
  /-- The mode to come back to after text. -/
  resumed : Mode := .body
  /-- The modes of the open templates, innermost first. -/
  templates : List Mode := []
  /-- Text in a table that is not placed yet, the last piece first. -/
  pending : List (List Char) := []
  form : Option NodeId := none
  /-- Whether nodes are moved out of tables. -/
  fostering : Bool := false
  /-- Whether a line feed at the start of the next text is left out. -/
  skipLineFeed : Bool := false
  lexing : LexMode := .markup
  deriving Inhabited

namespace Builder

/-- The state before the first token. -/
def start : Builder :=
  let (id, dom) := Dom.create {} (.element .html "html" [])
  { dom, stack := [⟨id, .html, "html", false⟩] }

/-! ## 1. Open elements -/

/-- Whether the innermost open element satisfies a condition. -/
def current (b : Builder) (p : OpenElement → Bool) : Bool := b.stack.head?.any p

/-- Whether the innermost open element has a given name. -/
def currentIs (b : Builder) (name : String) : Bool := b.current (·.isHtml name)

/-- Whether an element is open in a scope. -/
def hasInScope (b : Builder) (bound : OpenElement → Bool) (name : String) : Bool :=
  inScope bound (·.isHtml name) b.stack

/-- Whether an element is open at all. -/
def hasOpen (b : Builder) (name : String) : Bool := b.stack.any (·.isHtml name)

/-- Closes the innermost open element. -/
def pop (b : Builder) : Builder := { b with stack := b.stack.drop 1 }

/-- Closes the innermost open element if it has a given name. -/
def popIf (b : Builder) (name : String) : Builder := if b.currentIs name then b.pop else b

/-- Closes elements down to one with a given name. -/
def closeNamed (b : Builder) (name : String) : Builder :=
  { b with stack := closeThrough (·.isHtml name) b.stack }

/-- Closes elements up to one of a kind. -/
def closeTo (b : Builder) (wanted : OpenElement → Bool) : Builder :=
  { b with stack := closeUpTo wanted b.stack }

/-- Closes the elements whose end is implied, but for those with a given name. -/
def impliedEnd (b : Builder) (except : String) : Builder :=
  { b with stack := closeImplied (impliedEnds.filter (· != except)) b.stack }

/-- Closes the paragraph, with everything in it. -/
def closeParagraph (b : Builder) : Builder := (b.impliedEnd "p").closeNamed "p"

/-- Closes a paragraph if one is open. -/
def endParagraph (b : Builder) : Builder :=
  if b.hasInScope isButtonBound "p" then b.closeParagraph else b

/-- Takes an element out of the open ones. -/
def removeOpen (b : Builder) (id : NodeId) : Builder :=
  { b with stack := b.stack.filter (·.id != id) }

/-! ## 2. Inserting nodes -/

/-- Puts a node where the table it would stand in allows it: in front of the table if that stands in
the tree, and otherwise in the element around it. -/
def placeOutside (dom : Dom) (child : NodeId) : List OpenElement → Dom
  | [] => dom
  | [e] => dom.append e.id child
  | e :: outer :: rest =>
    if e.isHtml "template" then dom.append e.id child
    else if e.isHtml "table" then
      if (dom.parent? e.id).isSome then dom.insertBefore e.id child else dom.append outer.id child
    else placeOutside dom child (outer :: rest)

/-- Puts a node into an element, or out of a table. -/
def placeIn (b : Builder) (target : OpenElement) (child : NodeId) : Builder :=
  if b.fostering && isFosterTarget target then
    { b with dom := placeOutside (b.dom.detach child) child b.stack }
  else { b with dom := b.dom.append target.id child }

/-- Puts a node into the innermost open element, or out of a table. -/
def place (b : Builder) (child : NodeId) : Builder :=
  match b.stack with
  | [] => b
  | e :: _ => b.placeIn e child

/-- Puts text into the tree. -/
def addText (b : Builder) (value : List Char) : Builder :=
  let (id, dom) := b.dom.create (.text (String.ofList value))
  { b with dom }.place id

/-- Puts an element into the tree. -/
def addElement (b : Builder) (space : Space) (tag : StartTag) : NodeId × Builder :=
  let (id, dom) := b.dom.create (.element space tag.name tag.attributes)
  (id, { b with dom }.place id)

/-- Whether an element of mathematics is marked as holding hypertext. -/
def marksHtml (tag : StartTag) : Bool :=
  tag.name == "annotation-xml" &&
    match tag.attributes.lookup "encoding" with
    | some value =>
      let value := String.ofList (value.toList.map Char.toLower)
      value == "text/html" || value == "application/xhtml+xml"
    | none => false

/-- Puts an element into the tree and opens it. -/
def openElement (b : Builder) (space : Space) (tag : StartTag) : NodeId × Builder :=
  let (id, b) := b.addElement space tag
  (id, { b with stack := ⟨id, space, tag.name, space = .math && marksHtml tag⟩ :: b.stack })

/-- Opens a hypertext element. -/
def openTag (b : Builder) (tag : StartTag) : Builder := (b.openElement .html tag).2

/-- Opens a hypertext element that no tag was written for. -/
def openImplied (b : Builder) (name : String) : Builder := b.openTag { name }

/-- Puts a hypertext element into the tree that holds nothing. -/
def addTag (b : Builder) (tag : StartTag) : Builder := (b.addElement .html tag).2

/-- Opens an element that holds nothing but text, and reads on accordingly. -/
def openText (b : Builder) (tag : StartTag) (lexing : LexMode) : Builder :=
  { b.openTag tag with lexing, resumed := b.mode, mode := .text }

/-! ## 3. Formatting elements -/

/-- The latest formatting elements, up to a mark. -/
def carried (b : Builder) : List Formatting := b.formatting.takeWhile (!·.isMark)

/-- Opens the elements of entries again, the earliest first, and gives their new entries. -/
def reopenAll (b : Builder) : List Formatting → Builder × List Formatting
  | [] => (b, [])
  | entry :: earlier =>
    let (b, entries) := reopenAll b earlier
    match entry with
    | .mark => (b, entry :: entries)
    | .element _ tag =>
      let (id, b) := b.openElement .html tag
      (b, .element id tag :: entries)

/-- Opens the formatting elements again that were closed too early. -/
def reopen (b : Builder) : Builder :=
  let closed := b.formatting.takeWhile fun
    | .mark => false
    | .element id _ => !b.stack.any (·.id == id)
  let (b', entries) := b.reopenAll closed
  { b' with formatting := entries ++ b.formatting.drop closed.length }

/-- Whether two tags would open the same element. -/
def sameTag (a b : StartTag) : Bool :=
  a.name == b.name && a.attributes.length == b.attributes.length &&
    a.attributes.all b.attributes.contains

/-- Opens a formatting element; of four equal ones the earliest is forgotten. -/
def openFormatting (b : Builder) (tag : StartTag) : Builder :=
  let same := b.carried.filter fun
    | .mark => false
    | .element _ other => sameTag tag other
  let formatting := match same.drop 2 with
    | [] => b.formatting
    | more => match more.getLast? with
      | some (.element id _) => b.formatting.filter (!·.isFor id)
      | _ => b.formatting
  let (id, b) := { b with formatting }.openElement .html tag
  { b with formatting := .element id tag :: b.formatting }

/-- Forgets a formatting element. -/
def forget (b : Builder) (id : NodeId) : Builder :=
  { b with formatting := b.formatting.filter (!·.isFor id) }

/-- Sets a mark that formatting elements are not carried beyond. -/
def mark (b : Builder) : Builder := { b with formatting := .mark :: b.formatting }

/-- Forgets the formatting elements up to a mark, and the mark. -/
def clearToMark (b : Builder) : Builder :=
  { b with formatting := (b.formatting.dropWhile (!·.isMark)).drop 1 }

/-- Closes an element by an end tag of no special meaning. -/
def closeOther (b : Builder) (name : String) : Builder :=
  let rec find : List OpenElement → Option OpenElement
    | [] => none
    | e :: rest => if e.isHtml name then some e else if isSpecial e then none else find rest
  match find b.stack with
  | none => b
  | some e => { b with stack := closeThrough (·.id == e.id) b.stack }

/-! ## 4. Formatting elements that end out of order -/

/-- How far the elements between a formatting element and the block in it have been renewed. -/
structure Renewal where
  builder : Builder
  /-- The renewed elements, innermost first. -/
  kept : List OpenElement := []
  /-- The node that goes into the next renewed element. -/
  last : NodeId
  /-- The first renewed element. -/
  innermost : Option NodeId := none

/-- Renews an element between the formatting element and the block; only the first three are kept. -/
def renew (r : Renewal) (index : Nat) (e : OpenElement) : Renewal :=
  let b := r.builder
  match b.formatting.find? (·.isFor e.id) with
  | some (.element _ tag) =>
    if 3 ≤ index then { r with builder := b.forget e.id }
    else
      let (id, dom) := b.dom.create (.element .html tag.name tag.attributes)
      let formatting := b.formatting.map fun f => if f.isFor e.id then .element id tag else f
      { builder := { b with formatting, dom := dom.append id r.last },
        kept := r.kept ++ [⟨id, .html, tag.name, false⟩],
        last := id,
        innermost := some (r.innermost.getD id) }
  | _ => r

/-- Renews elements in order. -/
def renewAll : Nat → Renewal → List OpenElement → Renewal
  | _, r, [] => r
  | index, r, e :: rest => renewAll (index + 1) (renew r index e) rest

/-- Puts an entry in the stead of that of an ended element, or after that of a renewed one. -/
def replaceEntry (ended : NodeId) (innermost : Option NodeId) (entry : Formatting)
    (formatting : List Formatting) : List Formatting :=
  match innermost with
  | none => formatting.map fun f => if f.isFor ended then entry else f
  | some id =>
    (formatting.flatMap fun f => if f.isFor id then [entry, f] else [f]).filter (!·.isFor ended)

/-- Ends a formatting element that has a block open in it: the part of the block that is read already
keeps the formatting, and the block goes on without it. -/
def splitBlock (b : Builder) (ended : NodeId) (tag : StartTag)
    (inner : List OpenElement) (block : OpenElement) (between : List OpenElement)
    (outer : OpenElement) (below : List OpenElement) : Builder :=
  let r := renewAll 0 { builder := b, last := block.id } between
  let b := { r.builder with dom := r.builder.dom.detach r.last }.placeIn outer r.last
  let (id, dom) := b.dom.create (.element .html tag.name tag.attributes)
  let dom := (dom.moveChildren block.id id).append block.id id
  { b with
    dom
    formatting := replaceEntry ended r.innermost (.element id tag) b.formatting
    stack := inner ++ ⟨id, .html, tag.name, false⟩ :: block :: r.kept ++ outer :: below }

/-- Ends a formatting element, at most a number of times. -/
def endFormattingMany : Nat → String → Builder → Builder
  | 0, _, b => b
  | n + 1, name, b =>
    match b.carried.find? (·.name? == some name) with
    | some (.element ended tag) =>
      let above := b.stack.takeWhile (·.id != ended)
      match b.stack.drop above.length with
      | [] => b.forget ended
      | e :: below =>
        if !inScope isBound (·.id == ended) b.stack then b
        else
          match above.reverse.dropWhile (!isSpecial ·), below with
          | block :: inner, outer :: rest =>
            let between := (above.reverse.takeWhile (!isSpecial ·)).reverse
            endFormattingMany n name
              (b.splitBlock ended tag inner.reverse block between outer rest)
          | _, _ => { b with stack := below }.forget e.id
    | _ => b.closeOther name

/-- Ends a formatting element by its end tag. -/
def endFormatting (b : Builder) (name : String) : Builder :=
  match b.stack with
  | e :: _ =>
    if e.isHtml name && !b.formatting.any (·.isFor e.id) then b.pop
    else endFormattingMany 8 name b
  | [] => b

/-! ## 5. Modes -/

/-- The mode that an open element asks for. -/
def modeOf? (e : OpenElement) (outer : List OpenElement) (templates : List Mode) : Option Mode :=
  if e.space ≠ .html then none
  else match e.name with
    | "select" =>
      match outer.find? (·.isHtmlIn ["template", "table"]) with
      | some t => if t.isHtml "table" then some .selectInTable else some .select
      | none => some .select
    | "td" | "th" => some .cell
    | "tr" => some .row
    | "tbody" | "thead" | "tfoot" => some .tableBody
    | "caption" => some .caption
    | "colgroup" => some .columns
    | "table" => some .table
    | "template" => some (templates.headD .template)
    | "body" => some .body
    | _ => none

/-- The mode that the open elements ask for; the root asks for none. -/
def modeFor (templates : List Mode) : List OpenElement → Mode
  | [] | [_] => .body
  | e :: rest => (modeOf? e rest templates).getD (modeFor templates rest)

/-- The mode that the open elements ask for. -/
def modeNow (b : Builder) : Mode := modeFor b.templates b.stack

end Builder

end WikiPage.Html
