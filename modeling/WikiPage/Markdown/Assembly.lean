import WikiPage.Error
import WikiPage.Markdown.Event
import WikiPage.Unicode.Letters
/-!
# Trees from events

`Assembly` is a tree that is being built from events: a top node, and the constructs that have started
below it and not yet finished.  Any sequence of events gives a tree: a surplus `finish` is passed over, and
what is still open at the end is closed there.  Main statements: `open_add`, `open_closeInner` say how many
constructs are open.

Neighbouring runs of text are joined, and so are neighbouring runs of raw markup, so that a run is one
node however it was cut into events.
-/

namespace WikiPage.Markdown

/-- A node that is still open; its children so far, the last one first. -/
structure OpenNode where
  kind : NodeKind
  span : Option Span
  reversed : List Node := []
  deriving Repr, Inhabited

namespace OpenNode

/-- Two neighbours as one node, when both are text or both are raw markup. -/
def joined? (a b : Node) : Option Node :=
  match a.kind, b.kind with
  | .text x, .text y => some { a with kind := .text (x ++ y), span := Span.merge? a.span b.span }
  | .html x, .html y => some { a with kind := .html (x ++ y), span := Span.merge? a.span b.span }
  | _, _ => none

/-- The node with one more child at the end. -/
def add (n : OpenNode) (child : Node) : OpenNode :=
  match n with
  | ⟨kind, span, []⟩ => ⟨kind, span, [child]⟩
  | ⟨kind, span, last :: earlier⟩ =>
    match joined? last child with
    | some both => ⟨kind, span, both :: earlier⟩
    | none => ⟨kind, span, child :: last :: earlier⟩

/-- The finished node. -/
def close (n : OpenNode) : Node := ⟨n.kind, n.reversed.reverse, n.span⟩

end OpenNode

/-- A tree that is being built: its top node, and the constructs open below it, innermost first. -/
structure Assembly where
  top : OpenNode
  opened : List OpenNode := []
  deriving Repr, Inhabited

/-- The language of a fenced code block: the first word of its info string. -/
def firstWord (info : String) : Option String :=
  match (info.toList.dropWhile Unicode.isBlank).takeWhile (!Unicode.isBlank ·) with
  | [] => none
  | word => some (String.ofList word)

/-- The kind of node that a construct becomes.  Blocks of raw markup and of metadata add no node of
their own. -/
def Tag.kind? : Tag → Option NodeKind
  | rawBlock | metadata => none
  | paragraph => some .paragraph
  | heading level id classes => some (.heading level id classes)
  | blockQuote alert => some (.blockQuote alert)
  | codeBlock info => some (.codeBlock (info.bind firstWord) "")
  | list start => some (.list start)
  | item => some .listItem
  | footnoteDefinition label => some (.footnoteDefinition label)
  | definitionList => some .definitionList
  | definitionTitle => some .definitionTitle
  | definitionDetails => some .definitionDetails
  | table alignments => some (.table alignments)
  | tableHead => some .tableHead
  | tableRow => some .tableRow
  | tableCell => some .tableCell
  | emphasis => some .emphasis
  | strong => some .strong
  | strikethrough => some .strikethrough
  | superscript => some .superscript
  | subscript => some .subscript
  | link url title => some (.link url title)
  | image url title => some (.image url title)

namespace Assembly

/-- An empty document of the given number of bytes. -/
def empty (size : Nat) : Assembly := ⟨⟨.root, some ⟨0, size⟩, []⟩, []⟩

/-- Adds a child to the innermost open node. -/
def add (a : Assembly) (child : Node) : Assembly :=
  match a with
  | ⟨top, []⟩ => ⟨top.add child, []⟩
  | ⟨top, inner :: outer⟩ => ⟨top, inner.add child :: outer⟩

/-- Adds a childless node. -/
def leaf (a : Assembly) (kind : NodeKind) (span : Span) : Assembly := a.add ⟨kind, [], some span⟩

/-- Adds a run of text, which inside a code block belongs to the code. -/
def text (a : Assembly) (value : String) (span : Span) : Assembly :=
  match a with
  | ⟨top, ⟨.codeBlock lang code, block, children⟩ :: outer⟩ =>
    ⟨top, ⟨.codeBlock lang (code ++ value), block, children⟩ :: outer⟩
  | a => a.leaf (.text value) span

/-- Opens a construct, if the limit on how many may be open allows one more. -/
def start (a : Assembly) (limit : Nat) (tag : Tag) (span : Span) : Except PassError Assembly :=
  match tag.kind? with
  | none => .ok a
  | some kind =>
    if a.opened.length < limit then .ok { a with opened := ⟨kind, some span, []⟩ :: a.opened }
    else .error (.tooDeep limit span.start)

/-- Closes the innermost open construct, if there is one. -/
def closeInner (a : Assembly) : Assembly :=
  match a with
  | ⟨top, []⟩ => ⟨top, []⟩
  | ⟨top, inner :: outer⟩ => add ⟨top, outer⟩ inner.close

/-- Ends a construct. -/
def finish (a : Assembly) (tag : Tag) : Assembly :=
  match tag.kind? with
  | none => a
  | some _ => a.closeInner

/-- Takes in one event. -/
def step (limit : Nat) (a : Assembly) : Located → Except PassError Assembly
  | (.start tag, span) => a.start limit tag span
  | (.finish tag, _) => .ok (a.finish tag)
  | (.text value, span) => .ok (a.text value span)
  | (.code value, span) => .ok (a.leaf (.inlineCode value) span)
  | (.html value, span) => .ok (a.leaf (.html value) span)
  | (.inlineMath value, span) => .ok (a.leaf (.inlineMath value) span)
  | (.displayMath value, span) => .ok (a.leaf (.displayMath value) span)
  | (.footnoteReference label, span) => .ok (a.leaf (.footnoteReference label) span)
  | (.softBreak, span) => .ok (a.leaf .softBreak span)
  | (.hardBreak, span) => .ok (a.leaf .hardBreak span)
  | (.rule, span) => .ok (a.leaf .rule span)
  | (.taskMarker ticked, span) => .ok (a.leaf (.taskMarker ticked) span)

/-- Takes in events in order, up to the first fault. -/
def feed (limit : Nat) (a : Assembly) (events : List Located) : Except PassError Assembly :=
  events.foldlM (step limit) a

/-- Closes a number of constructs, from the inside out. -/
def closeMany : Nat → Assembly → Assembly
  | 0, a => a
  | n + 1, a => closeMany n a.closeInner

/-- The tree, with everything that is still open closed. -/
def close (a : Assembly) : Node := (closeMany a.opened.length a).top.close

@[simp] theorem open_add (a : Assembly) (child : Node) :
    (a.add child).opened.length = a.opened.length := by
  obtain ⟨top, _ | ⟨inner, outer⟩⟩ := a <;> rfl

@[simp] theorem open_closeInner (a : Assembly) :
    a.closeInner.opened.length = a.opened.length - 1 := by
  obtain ⟨top, _ | ⟨inner, outer⟩⟩ := a
  · rfl
  · simp [closeInner]

/-- Nothing is open once as many constructs have been closed as were open. -/
theorem opened_closeMany : ∀ (n : Nat) (a : Assembly),
    a.opened.length ≤ n → (closeMany n a).opened = []
  | 0, a, h => List.length_eq_zero_iff.1 (Nat.le_zero.1 h)
  | n + 1, a, h => opened_closeMany n a.closeInner (by simp; omega)

end Assembly

/-- The tree of a sequence of events from a source of the given number of bytes. -/
def treeOfEvents (size limit : Nat) (events : List Located) : Except PassError Node :=
  ((Assembly.empty size).feed limit events).map Assembly.close

end WikiPage.Markdown
