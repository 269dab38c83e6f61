import WikiPage.Markdown.Cursor
/-!
# Margins

The left margin of a line decides which of the open blocks the line belongs to.  A margin is a cursor
together with the columns of a tab that has been entered but not used up: a tab reaches to the next
multiple of four columns, and a marker may use a part of it.

An open block asks something of the margin of every line that continues it: a block quote its marker,
an item its indentation, a footnote four columns.  `matchContainers` counts how many of the open
blocks a line continues.
-/

namespace WikiPage.Markdown

/-! ## 1. Columns -/

/-- The left margin of a line, read up to `place`. -/
structure Margin where
  /-- What has not been read yet. -/
  place : Cursor
  /-- Where the last tab ended, or the line began. -/
  tabStart : Nat
  /-- Columns left over of the last tab. -/
  pending : Nat
  deriving Repr, Inhabited

namespace Margin

/-- The margin of a line that starts at a cursor. -/
def ofCursor (c : Cursor) : Margin := ⟨c, c.offset, 0⟩

/-- Reads columns off a list of characters: the columns still wanted, the place, the last tab's end,
and the columns left over of it. -/
def readColumns : List Char → Nat → Nat → Nat → Nat → Nat × Margin
  | cs, offset, tabStart, pending, 0 => (0, ⟨⟨offset, cs⟩, tabStart, pending⟩)
  | [], offset, tabStart, pending, wanted => (wanted, ⟨⟨offset, []⟩, tabStart, pending⟩)
  | c :: cs, offset, tabStart, pending, wanted + 1 =>
    if c = ' ' then readColumns cs (offset + 1) tabStart 0 wanted
    else if c = '\t' then
      let width := 4 - (offset - tabStart) % 4
      let used := min (wanted + 1) width
      readColumns cs (offset + 1) (offset + 1) (width - used) (wanted + 1 - used)
    else (wanted + 1, ⟨⟨offset, c :: cs⟩, tabStart, pending⟩)

/-- Reads up to `n` columns: the number not found, and the margin after them. -/
def read (m : Margin) (n : Nat) : Nat × Margin :=
  let held := min m.pending n
  readColumns m.place.rest m.place.offset m.tabStart (m.pending - held) (n - held)

/-- Reads up to `n` columns: the number found, and the margin after them. -/
def readUpTo (m : Margin) (n : Nat) : Nat × Margin :=
  let (missing, m') := m.read n
  (n - missing, m')

/-- Reads `n` columns: whether all were found, and the margin after those that were. -/
def readAll (m : Margin) (n : Nat) : Bool × Margin :=
  let (missing, m') := m.read n
  (missing == 0, m')

/-- Past all blanks. -/
def skipBlanks (m : Margin) : Margin :=
  { m with place := m.place.skipWhile (fun c => c == ' ' || c == '\t'), pending := 0 }

/-- Whether the line ends here. -/
def atLineEnd (m : Margin) : Bool := m.place.atLineEnd

/-- Past a character, if it is the next one. -/
def char? (m : Margin) (c : Char) : Option Margin :=
  if m.place.at? c then some { m with place := m.place.next } else none

/-- Past the marker of a block quote and one column after it. -/
def quoteMarker? (m : Margin) : Option Margin :=
  (m.char? '>').map fun m => (m.read 1).2

end Margin

/-! ## 2. Open blocks -/

/-- What an open block asks of the margin of the lines that continue it. -/
inductive Container where
  /-- The marker of a block quote. -/
  | quote
  /-- An indentation, or an empty line. -/
  | indented (columns : Nat)
  /-- Nothing. -/
  | free
  deriving Repr, DecidableEq, Inhabited

/-- Reads what one open block asks for. -/
def Container.match? (m : Margin) : Container → Option Margin
  | .quote => (m.read 3).2.quoteMarker?
  | .indented columns =>
    match m.readAll columns with
    | (true, m') => some m'
    | (false, m') => if m'.atLineEnd then some m' else none
  | .free => some m

/-- Reads what the open blocks ask for, the outermost first, as far as the line has it: the number of
blocks that the line continues, and the margin after what they asked for. -/
def matchContainers : List Container → Margin → Nat × Margin
  | [], m => (0, m)
  | c :: rest, m =>
    match c.match? m with
    | some m' =>
      let (n, m'') := matchContainers rest m'
      (n + 1, m'')
    | none => (0, m)

/-- Past what the open blocks ask for at a cursor. -/
def skipContainers (cs : List Container) (c : Cursor) : Cursor :=
  (matchContainers cs (.ofCursor c)).2.place

end WikiPage.Markdown
