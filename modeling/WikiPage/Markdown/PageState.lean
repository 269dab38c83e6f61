import WikiPage.Markdown.Block
import WikiPage.Markdown.LineShape
/-!
# The state of block parsing

While a page is read line by line, some blocks that hold blocks are open.  The state is the stack of
open blocks with what they hold so far, the blocks complete at the top level, and what has to be
remembered of the line before: whether it was blank, and whether it began an item without content.
-/

namespace WikiPage.Markdown

/-- The kinds of block that hold blocks. -/
inductive FrameKind where
  | quote (alert : Option Alert)
  | list (tight : Bool) (marker : ItemMarker)
  | item (indent : Nat)
  | footnote (label : String)
  deriving Repr

/-- An open block: its kind, where it began, and the blocks it holds, the last one first. -/
structure Frame where
  kind : FrameKind
  start : Nat
  children : List Block
  deriving Repr

namespace Frame

/-- What the block asks of the lines that continue it. -/
def container (f : Frame) : Container :=
  match f.kind with
  | .quote _ => .quote
  | .list .. => .free
  | .item indent => .indented indent
  | .footnote _ => .indented 4

/-- The block that a frame becomes when it ends at an offset. -/
def close (f : Frame) (stop : Nat) : Block :=
  let span : Span := ⟨f.start, stop⟩
  let children := f.children.reverse
  match f.kind with
  | .quote alert => .quote span alert children
  | .list tight marker =>
    let items := if tight then children.map Block.tightenItem else children
    .list span (if marker.ordered then some marker.number else none) items
  | .item _ => .item span children
  | .footnote label => .footnote span label children

/-- Whether this is a list. -/
def isList (f : Frame) : Bool :=
  match f.kind with
  | .list .. => true
  | _ => false

/-- Whether this is an item of a list. -/
def isItem (f : Frame) : Bool :=
  match f.kind with
  | .item _ => true
  | _ => false

/-- Whether this is a footnote. -/
def isFootnote (f : Frame) : Bool :=
  match f.kind with
  | .footnote _ => true
  | _ => false

/-- A list of which two items are parted by a blank line is not tight. -/
def loosen (f : Frame) : Frame :=
  match f.kind with
  | .list _ marker => { f with kind := .list false marker }
  | _ => f

end Frame

/-- What is known when a number of whole lines have been read. -/
structure PageState where
  /-- Open blocks, the innermost first. -/
  frames : List Frame := []
  /-- Complete blocks of the top level, the last one first. -/
  blocks : List Block := []
  /-- The end of the line, if the line before began an item without content. -/
  emptyItem : Option Nat := none
  /-- Whether the line before was blank. -/
  blankBefore : Bool := false
  /-- The box of a task item that waits for the item's first paragraph. -/
  box : Option (Bool × Span) := none
  definitions : Definitions := {}

namespace PageState

/-- What the open blocks ask for, the outermost first. -/
def containers (s : PageState) : List Container := (s.frames.map Frame.container).reverse

/-- Adds a complete block to the innermost open one. -/
def add (s : PageState) (b : Block) : PageState :=
  match s.frames with
  | [] => { s with blocks := b :: s.blocks }
  | f :: rest => { s with frames := { f with children := b :: f.children } :: rest }

/-- Opens a block. -/
def push (s : PageState) (kind : FrameKind) (start : Nat) : PageState :=
  { s with frames := ⟨kind, start, []⟩ :: s.frames }

/-- Closes the innermost open block. -/
def pop (s : PageState) (stop : Nat) : PageState :=
  match s.frames with
  | [] => s
  | f :: rest =>
    let s' := { s with frames := rest }.add (f.close stop)
    if f.isList then { s' with emptyItem := none } else s'

/-- Closes open blocks until `n` are left. -/
def popTo (s : PageState) (n stop : Nat) : PageState :=
  (List.range (s.frames.length - n)).foldl (fun s _ => s.pop stop) s

/-- An item without content ends with its own line if a blank line follows. -/
def finishEmptyItem (s : PageState) : PageState :=
  let closed :=
    match s.emptyItem, s.frames with
    | some stop, f :: _ => if s.blankBefore && f.isItem then s.pop stop else s
    | _, _ => s
  { closed with emptyItem := none }

/-- Closes an open list, as something begins that is no item of it.  If a blank line stands before
what begins inside an item, the list of that item is not tight. -/
def finishList (s : PageState) (stop : Nat) : PageState :=
  let s := s.finishEmptyItem
  let s := match s.frames with
    | f :: _ => if f.isList then s.pop stop else s
    | [] => s
  if s.blankBefore then
    let frames := match s.frames with
      | item :: list :: rest => item :: list.loosen :: rest
      | frames => frames
    { s with frames, blankBefore := false }
  else s

/-- Goes on with the open list if its marker is of the same kind, or begins a list. -/
def continueList (s : PageState) (start : Nat) (marker : ItemMarker) : PageState :=
  let s := s.finishEmptyItem
  let fresh (s : PageState) : PageState :=
    { s.push (.list true marker) start with blankBefore := false }
  match s.frames with
  | [] => fresh (s.finishList start)
  | f :: rest =>
    match f.kind with
    | .list _ open_ =>
      if open_.mark = marker.mark then
        if s.blankBefore then { s with frames := f.loosen :: rest, blankBefore := false } else s
      else fresh (s.finishList start)
    | _ => fresh (s.finishList start)

/-- Takes note of a blank line.  Nothing but a further item can follow a blank line after an item
without content, so the item asks for nothing any more. -/
def noteBlank (s : PageState) : PageState :=
  match s.frames with
  | f :: rest =>
    match f.kind with
    | .quote _ => s
    | .item _ =>
      if s.emptyItem.isSome then
        { s with frames := { f with kind := .item 0 } :: rest, blankBefore := true }
      else { s with blankBefore := true }
    | _ => { s with blankBefore := true }
  | [] => { s with blankBefore := true }

end PageState

end WikiPage.Markdown
