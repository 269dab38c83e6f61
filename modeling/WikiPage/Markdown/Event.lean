import WikiPage.Markdown.RunningText
/-!
# Events

A page is handed on as a sequence of events, each with its bytes of the source: constructs that hold
others start and finish, and leaves stand for themselves.
-/

namespace WikiPage.Markdown

/-- A construct that holds others. -/
inductive Tag where
  | paragraph
  | heading (level : Nat) (id : Option String) (classes : List String)
  | blockQuote (alert : Option Alert)
  | codeBlock (info : Option String)
  | rawBlock
  | metadata
  | list (start : Option Nat)
  | item
  | footnoteDefinition (label : String)
  | definitionList
  | definitionTitle
  | definitionDetails
  | table (alignments : List Alignment)
  | tableHead
  | tableRow
  | tableCell
  | emphasis
  | strong
  | strikethrough
  | superscript
  | subscript
  | link (url title : String)
  | image (url title : String)
  deriving Repr, DecidableEq, Inhabited

/-- What is met in a page. -/
inductive Event where
  | start (tag : Tag)
  | finish (tag : Tag)
  | text (value : String)
  | code (value : String)
  | html (value : String)
  | inlineMath (value : String)
  | displayMath (value : String)
  | footnoteReference (label : String)
  | softBreak
  | hardBreak
  | rule
  | taskMarker (ticked : Bool)
  deriving Repr, DecidableEq, Inhabited

/-- An event with its bytes. -/
abbrev Located := Event × Span

/-- The events of a construct around the events of what it holds. -/
def framed (tag : Tag) (span : Span) (inner : List Located) : List Located :=
  (.start tag, span) :: inner ++ [(.finish tag, span)]

mutual
/-- The events of a piece of running text. -/
def Inline.events : Inline → List Located
  | .text span value => [(.text value, span)]
  | .code span value => [(.code value, span)]
  | .markup span value => [(.html value, span)]
  | .math span display value => [(if display then .displayMath value else .inlineMath value, span)]
  | .footnote span label => [(.footnoteReference label, span)]
  | .softBreak span => [(.softBreak, span)]
  | .hardBreak span _ => [(.hardBreak, span)]
  | .emphasis span children => framed .emphasis span (Inline.eventsAll children)
  | .strong span children => framed .strong span (Inline.eventsAll children)
  | .struck span children => framed .strikethrough span (Inline.eventsAll children)
  | .link span url title children => framed (.link url title) span (Inline.eventsAll children)
  | .image span url title children => framed (.image url title) span (Inline.eventsAll children)
/-- The events of pieces in a row. -/
def Inline.eventsAll : List Inline → List Located
  | [] => []
  | piece :: rest => piece.events ++ Inline.eventsAll rest
end

/-- The events of running text. -/
def RunningText.events (ext : Extensions) (definitions : Definitions) (text : RunningText) :
    List Located :=
  Inline.eventsAll (TextContext.resolve ⟨ext, definitions, text⟩)

/-- The event of a piece of code or raw markup. -/
def Piece.event (code : Bool) (p : Piece) : Located :=
  (if code || p.plain then .text p.text else .html p.text, p.span)

/-- The events of a row of a table. -/
def TableLine.events (ext : Extensions) (definitions : Definitions) (tag : Tag) (line : TableLine) :
    List Located :=
  framed tag line.span <|
    line.cells.flatMap fun (span, text) => framed .tableCell span (text.events ext definitions)

mutual
/-- The events of a block. -/
def Block.events (ext : Extensions) (definitions : Definitions) : Block → List Located
  | .paragraph span tight box text =>
    let box := match box with
      | some (ticked, span) => [(.taskMarker ticked, span)]
      | none => []
    let inner := box ++ text.events ext definitions
    if tight then inner else framed .paragraph span inner
  | .heading span level mark text =>
    framed (.heading level mark.id mark.classes) span (text.events ext definitions)
  | .quote span alert children =>
    framed (.blockQuote alert) span (Block.eventsAll ext definitions children)
  | .list span start items => framed (.list start) span (Block.eventsAll ext definitions items)
  | .item span children => framed .item span (Block.eventsAll ext definitions children)
  | .taskBox span ticked => [(.taskMarker ticked, span)]
  | .code span info pieces => framed (.codeBlock info) span (pieces.map (Piece.event true))
  | .raw span pieces => framed .rawBlock span (pieces.map (Piece.event false))
  | .rule span => [(.rule, span)]
  | .table span alignments head rows =>
    framed (.table alignments) span <|
      head.events ext definitions .tableHead ++
        rows.flatMap (TableLine.events ext definitions .tableRow)
  | .footnote span label children =>
    framed (.footnoteDefinition label) span (Block.eventsAll ext definitions children)
/-- The events of blocks in a row. -/
def Block.eventsAll (ext : Extensions) (definitions : Definitions) : List Block → List Located
  | [] => []
  | block :: rest => block.events ext definitions ++ Block.eventsAll ext definitions rest
end

end WikiPage.Markdown
