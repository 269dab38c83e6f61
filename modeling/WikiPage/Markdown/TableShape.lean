import WikiPage.Markdown.Margin
import WikiPage.Tree.Node
/-!
# Shapes of tables

A table begins with a row of headings and a row that gives the alignment of each column; it is a table
only if both have the same number of columns.
-/

namespace WikiPage.Markdown

/-- The pipes of a line that no backslash precedes: their number, the place after the last one, and
the place after the line.  A line that the source ends is none. -/
def pipesOfLine : List Char → Nat → Option Char → Nat → Option Cursor →
    Option (Nat × Option Cursor × Cursor)
  | [], _, _, _, _ => none
  | c :: cs, offset, before, count, last =>
    if isLineEnd c then
      (Cursor.mk offset (c :: cs)).lineEnd?.map fun next => (count, last, next)
    else if c = '|' ∧ before ≠ some '\\' then
      pipesOfLine cs (offset + 1) (some c) (count + 1) (some ⟨offset + 1, cs⟩)
    else pipesOfLine cs (offset + c.utf8Size) (some c) count last

/-- The number of columns of a row of headings, and the place after it.  Pipes at the ends of the row
part nothing. -/
def headingColumns? (c : Cursor) : Option (Nat × Cursor) := do
  let (count, last, next) ← pipesOfLine c.rest c.offset none 0 none
  let last ← last
  let leading := c.skipBlanks.at? '|'
  let inner := if leading then count - 1 else count
  some (if last.blankLine?.isSome then inner else inner + 1, next)

/-- What is known of a column while the row of alignments is read. -/
structure ColumnState where
  alignment : Alignment := .none
  /-- Whether nothing of the column has been read. -/
  fresh : Bool := true
  /-- Whether the column has a hyphen, which a pipe after it needs. -/
  hyphen : Bool := false

/-- Reads the row of alignments, given the columns read before, the last one first. -/
def alignmentsFrom : List Char → Nat → ColumnState → Bool → List Alignment →
    Option (List Alignment × Cursor)
  | [], offset, col, piped, cols => finish col piped cols ⟨offset, []⟩
  | c :: cs, offset, col, piped, cols =>
    if isLineEnd c then
      ((Cursor.mk offset (c :: cs)).lineEnd?).bind (finish col piped cols)
    else if c = ' ' then alignmentsFrom cs (offset + 1) col piped cols
    else if c = ':' then
      let alignment := match col.fresh, col.alignment with
        | true, .none => .left
        | false, .left => .center
        | false, .none => .right
        | _, alignment => alignment
      alignmentsFrom cs (offset + 1) { col with alignment, fresh := false } piped cols
    else if c = '-' then
      alignmentsFrom cs (offset + 1) { col with fresh := false, hyphen := true } piped cols
    else if c = '|' then
      if col.hyphen then alignmentsFrom cs (offset + 1) {} true (col.alignment :: cols) else none
    else none
where
  /-- The row is complete: it needs a pipe, and a hyphen in some column.  A column before the last one
  has its hyphen already. -/
  finish (col : ColumnState) (piped : Bool) (cols : List Alignment) (after : Cursor) :
      Option (List Alignment × Cursor) :=
    if !piped then none
    else if col.fresh then (if cols.isEmpty then none else some (cols.reverse, after))
    else if col.hyphen || !cols.isEmpty then some ((col.alignment :: cols).reverse, after)
    else none

/-- The alignments that a row gives, and the place after the row. -/
def alignmentRow? (m : Margin) : Option (List Alignment × Cursor) :=
  let (n, m) := Margin.readUpTo (.ofCursor m.place) 4
  if n > 3 || m.place.atEnd then none
  else if m.place.at? '|' then alignmentsFrom m.place.next.rest m.place.next.offset {} true []
  else alignmentsFrom m.place.rest m.place.offset {} false []

/-- Whether a table begins at a cursor, given the blocks that the row of alignments has to continue:
the alignments, and the place after that row. -/
def tableStart? (containers : List Container) (c : Cursor) : Option (List Alignment × Cursor) := do
  let (columns, next) ← headingColumns? c
  let (n, m) := matchContainers containers (.ofCursor next)
  if n ≠ containers.length then none
  else
    let (alignments, after) ← alignmentRow? m
    if alignments.length = columns then some (alignments, after) else none

end WikiPage.Markdown
