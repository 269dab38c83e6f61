import WikiPage.Markdown.Token
import WikiPage.Markdown.Margin
import WikiPage.Markdown.LinkParts
import WikiPage.Tree.Node
/-!
# Blocks

The structure of a page before its running text is understood: blocks, those that hold blocks, and
those that hold tokens.  Running text can only be understood when all link definitions and footnotes of
the page are known, wherever they stand.
-/

namespace WikiPage.Markdown

/-- Which syntax is on beside the basic one. -/
structure Extensions where
  /-- Tables, struck text, task items, alerts and footnotes. -/
  gfm : Bool
  /-- Mathematics between dollar signs. -/
  math : Bool
  deriving Repr, DecidableEq, Inhabited

/-- Running text: its tokens in order, the offset at which its block ends, the blocks around it, and
whether it is in a table. -/
structure RunningText where
  tokens : List Token
  stop : Nat
  containers : List Container
  inTable : Bool
  deriving Repr, Inhabited

/-- What an author may attach to a heading. -/
structure HeadingMark where
  id : Option String
  classes : List String
  deriving Repr, Inhabited

/-- A piece of a block of raw markup or code: its bytes, its text, and whether it is mere text. -/
structure Piece where
  span : Span
  text : String
  plain : Bool
  deriving Repr, Inhabited

/-- A row of a table: its bytes and its cells. -/
structure TableLine where
  span : Span
  cells : List (Span × RunningText)
  deriving Repr, Inhabited

/-- A block of a page. -/
inductive Block where
  /-- A paragraph; in a tight list it is shown without its own frame.  A task item's box stands in
  its first paragraph. -/
  | paragraph (span : Span) (tight : Bool) (box : Option (Bool × Span)) (text : RunningText)
  | heading (span : Span) (level : Nat) (mark : HeadingMark) (text : RunningText)
  | quote (span : Span) (alert : Option Alert) (children : List Block)
  | list (span : Span) (start : Option Nat) (items : List Block)
  | item (span : Span) (children : List Block)
  | taskBox (span : Span) (ticked : Bool)
  | code (span : Span) (info : Option String) (pieces : List Piece)
  | raw (span : Span) (pieces : List Piece)
  | rule (span : Span)
  | table (span : Span) (alignments : List Alignment) (head : TableLine) (rows : List TableLine)
  | footnote (span : Span) (label : String) (children : List Block)
  deriving Repr, Inhabited

namespace Block

/-- Marks a paragraph as belonging to a tight list. -/
def tighten : Block → Block
  | paragraph span _ box text => paragraph span true box text
  | b => b

/-- Marks the paragraphs of an item as belonging to a tight list. -/
def tightenItem : Block → Block
  | item span children => item span (children.map tighten)
  | b => b

end Block

/-- What a page defines: the targets of link labels and the labels of footnotes, by their keys. -/
structure Definitions where
  links : List (List Char × LinkTarget) := []
  footnotes : List (List Char) := []
  deriving Repr, Inhabited

namespace Definitions

/-- The target of a label. -/
def link? (d : Definitions) (label : List Char) : Option LinkTarget :=
  d.links.lookup (labelKey label)

/-- Adds the target of a label; the first one given stays. -/
def addLink (d : Definitions) (label : List Char) (target : LinkTarget) : Definitions :=
  let key := labelKey label
  if (d.links.lookup key).isSome then d else { d with links := (key, target) :: d.links }

/-- Adds a footnote. -/
def addFootnote (d : Definitions) (label : List Char) : Definitions :=
  { d with footnotes := labelKey label :: d.footnotes }

/-- Whether a footnote has a label. -/
def hasFootnote (d : Definitions) (label : List Char) : Bool :=
  d.footnotes.contains (labelKey label)

end Definitions

end WikiPage.Markdown
