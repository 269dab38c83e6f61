import WikiPage.Tree.Span
import WikiPage.Tree.Attributes
/-!
# Document trees

A page is a tree of nodes.  A node has a kind, its children in order, and the span of the source it was
read from, if there is one.  Every pass of the renderer takes a tree and gives a tree.

The views defined here (`plainText`, `count`, `depth`, `preorder`) are what the laws of the passes are
stated with.
-/

namespace WikiPage

/-- The kinds of alert block: `> [!NOTE]` and the like. -/
inductive Alert where
  | note | tip | important | warning | caution
  deriving DecidableEq, Repr, Inhabited

namespace Alert

/-- The name used in style classes. -/
def name : Alert → String
  | note => "note" | tip => "tip" | important => "important" | warning => "warning"
  | caution => "caution"

/-- The heading shown above the alert. -/
def title : Alert → String
  | note => "Note" | tip => "Tip" | important => "Important" | warning => "Warning"
  | caution => "Caution"

/-- All kinds. -/
def all : List Alert := [note, tip, important, warning, caution]

end Alert

/-- How a column of a table is aligned. -/
inductive Alignment where
  | none | left | center | right
  deriving DecidableEq, Repr, Inhabited

namespace Alignment

/-- The name of an alignment. -/
def name : Alignment → String
  | none => "none" | left => "left" | center => "center" | right => "right"

end Alignment

/-- What a node is, with the data that belongs to a node of that kind. -/
inductive NodeKind where
  | root
  | paragraph
  | heading (level : Nat) (id : Option String) (classes : List String)
  | blockQuote (alert : Option Alert)
  | codeBlock (lang : Option String) (code : String)
  | list (start : Option Nat)
  | listItem
  | taskMarker (checked : Bool)
  | table (alignments : List Alignment)
  | tableHead
  | tableRow
  | tableCell
  | emphasis
  | strong
  | strikethrough
  | superscript
  | subscript
  | link (url title : String)
  | image (url title : String)
  | text (value : String)
  | inlineCode (value : String)
  | html (value : String)
  | inlineMath (value : String)
  | displayMath (value : String)
  | footnoteReference (label : String)
  | footnoteDefinition (label : String)
  | definitionList
  | definitionTitle
  | definitionDetails
  | softBreak
  | hardBreak
  | rule
  | element (tag : String) (attributes : Attributes)
  deriving DecidableEq, Repr, Inhabited

namespace NodeKind

/-- The short name of a kind, used in messages. -/
def name : NodeKind → String
  | root => "root"
  | paragraph => "paragraph"
  | heading .. => "heading"
  | blockQuote _ => "blockquote"
  | codeBlock .. => "code"
  | list _ => "list"
  | listItem => "listItem"
  | taskMarker _ => "taskMarker"
  | table _ => "table"
  | tableHead => "tableHead"
  | tableRow => "tableRow"
  | tableCell => "tableCell"
  | emphasis => "emphasis"
  | strong => "strong"
  | strikethrough => "delete"
  | superscript => "superscript"
  | subscript => "subscript"
  | link .. => "link"
  | image .. => "image"
  | text _ => "text"
  | inlineCode _ => "inlineCode"
  | html _ => "html"
  | inlineMath _ => "inlineMath"
  | displayMath _ => "math"
  | footnoteReference _ => "footnoteReference"
  | footnoteDefinition _ => "footnoteDefinition"
  | definitionList => "definitionList"
  | definitionTitle => "definitionTitle"
  | definitionDetails => "definitionDetails"
  | softBreak => "softBreak"
  | hardBreak => "break"
  | rule => "thematicBreak"
  | element .. => "element"

/-- Whether this is the kind of a document's top node. -/
def isRoot : NodeKind → Bool
  | root => true
  | _ => false

/-- The text that kinds made of text carry. -/
def textValue : NodeKind → Option String
  | text value | inlineCode value | html value | inlineMath value | displayMath value => some value
  | codeBlock _ code => some code
  | _ => none

/-- What a node of this kind itself adds to the plain text: a break is a space, raw markup is nothing,
and of other kinds it is the text they carry. -/
def ownText : NodeKind → String
  | softBreak | hardBreak => " "
  | html _ => ""
  | kind => kind.textValue.getD ""

end NodeKind

/-- A node of a document tree. -/
structure Node where
  kind : NodeKind
  children : List Node := []
  span : Option Span := none
  deriving Repr, Inhabited

namespace Node

mutual
/-- Whether two trees are equal. -/
def decEq : (a b : Node) → Decidable (a = b)
  | ⟨k, cs, s⟩, ⟨k', cs', s'⟩ =>
    if hk : k = k' then
      if hs : s = s' then
        match decEqAll cs cs' with
        | isTrue hcs => isTrue (by rw [hk, hs, hcs])
        | isFalse h => isFalse fun e => h (Node.mk.inj e).2.1
      else isFalse fun e => hs (Node.mk.inj e).2.2
    else isFalse fun e => hk (Node.mk.inj e).1
/-- Whether two lists of trees are equal. -/
def decEqAll : (as bs : List Node) → Decidable (as = bs)
  | [], [] => isTrue rfl
  | [], _ :: _ => isFalse (by simp)
  | _ :: _, [] => isFalse (by simp)
  | a :: as, b :: bs =>
    match decEq a b with
    | isTrue h =>
      match decEqAll as bs with
      | isTrue hs => isTrue (by rw [h, hs])
      | isFalse hs => isFalse fun e => hs (List.cons.inj e).2
    | isFalse h => isFalse fun e => h (List.cons.inj e).1
end

instance : DecidableEq Node := decEq

/-! ## 1. Building nodes -/

/-- A childless node. -/
def ofKind (kind : NodeKind) : Node := { kind }

/-- An empty document. -/
def root : Node := ofKind .root

/-- A paragraph. -/
def paragraph (children : List Node) : Node := { kind := .paragraph, children }

/-- A run of text. -/
def text (value : String) : Node := ofKind (.text value)

/-- A link without a title. -/
def link (url : String) (children : List Node) : Node := { kind := .link url "", children }

/-- A generated element. -/
def element (tag : String) (attributes : Attributes) : Node := ofKind (.element tag attributes)

/-- The node with other children. -/
def withChildren (n : Node) (children : List Node) : Node := { n with children }

/-- The node with another span. -/
def withSpan (n : Node) (span : Option Span) : Node := { n with span }

/-- The node with a span to fall back on when it has none. -/
def withFallbackSpan (n : Node) (span : Option Span) : Node :=
  if n.span.isSome then n else n.withSpan span

/-! ## 2. Looking at nodes -/

/-- The text that the node carries itself. -/
def textValue (n : Node) : Option String := n.kind.textValue

/-- Whether the node is a paragraph. -/
def isParagraph (n : Node) : Bool :=
  match n.kind with
  | .paragraph => true
  | _ => false

/-- Whether the node is a run of text. -/
def isText (n : Node) : Bool :=
  match n.kind with
  | .text _ => true
  | _ => false

/-- The child of a node with exactly one. -/
def onlyChild (n : Node) : Option Node :=
  match n.children with
  | [child] => some child
  | _ => none

/-- The tag of a generated element. -/
def elementTag (n : Node) : Option String :=
  match n.kind with
  | .element tag _ => some tag
  | _ => none

/-- The attributes of a generated element. -/
def attributes (n : Node) : Option Attributes :=
  match n.kind with
  | .element _ attributes => some attributes
  | _ => none

/-! ## 3. Views of whole trees -/

mutual
/-- The text of the node and of all below it, in document order. -/
def plainText : Node → String
  | ⟨kind, children, _⟩ => kind.ownText ++ plainTextAll children
/-- The text of a list of trees. -/
def plainTextAll : List Node → String
  | [] => ""
  | n :: rest => plainText n ++ plainTextAll rest
end

mutual
/-- Number of nodes of the tree. -/
def count : Node → Nat
  | ⟨_, children, _⟩ => 1 + countAll children
/-- Number of nodes of a list of trees. -/
def countAll : List Node → Nat
  | [] => 0
  | n :: rest => count n + countAll rest
end

mutual
/-- Number of levels of the tree; a leaf has one. -/
def depth : Node → Nat
  | ⟨_, children, _⟩ => 1 + depthAll children
/-- The greatest depth in a list of trees, zero when it is empty. -/
def depthAll : List Node → Nat
  | [] => 0
  | n :: rest => max (depth n) (depthAll rest)
end

mutual
/-- The nodes of the tree, each before those below it, in document order. -/
def preorder : Node → List Node
  | ⟨kind, children, span⟩ => ⟨kind, children, span⟩ :: preorderAll children
/-- The nodes of a list of trees. -/
def preorderAll : List Node → List Node
  | [] => []
  | n :: rest => preorder n ++ preorderAll rest
end

mutual
theorem length_preorder : ∀ n : Node, n.preorder.length = n.count
  | ⟨_, children, _⟩ => by
    simp only [preorder, count, List.length_cons, length_preorderAll children]
    omega
theorem length_preorderAll : ∀ ns : List Node, (preorderAll ns).length = countAll ns
  | [] => rfl
  | n :: rest => by
    simp only [preorderAll, countAll, List.length_append, length_preorder n, length_preorderAll rest]
end

/-- A tree has a level for its top node. -/
theorem depth_pos (n : Node) : 0 < n.depth := by
  cases n
  simp only [depth]
  omega

end Node

end WikiPage
