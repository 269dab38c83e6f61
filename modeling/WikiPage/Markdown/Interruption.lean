import WikiPage.Markdown.PageState
import WikiPage.Markdown.TableShape
import WikiPage.Markdown.RawTag
/-!
# Interruptions

A paragraph goes on until a blank line or until a line begins another block.  The same test decides
whether a link definition may run over the end of a line.
-/

namespace WikiPage.Markdown

/-- Whether a line begins a footnote. -/
def startsFootnote (c : Cursor) : Bool :=
  c.startsWith "[^" &&
    match label? (fun _ => none) (c.skip 2) with
    | some (_, after) => after.at? ':'
    | none => false

/-- Whether a line begins a block other than a table that may interrupt a paragraph.  An item may do
so only if it has content and, when ordered, the number one, unless the line does not continue the
blocks around the paragraph. -/
def beginsBlock (ext : Extensions) (current inTable : Bool) (c : Cursor) : Bool :=
  c.atLineEnd || (rule? c).isSome || (headingLevel? c).isSome || (fence? c).isSome || c.at? '>' ||
    (match itemStart? c with
      | some (mark, number, after) =>
        !current || inTable || ((!(mark == '.' || mark == ')') || number == 1) && !emptyItem after)
      | none => false) ||
    (c.at? '<' && ((rawBlockEnd? c.rest.tail).isSome || startsBlockElement c.rest.tail)) ||
    (ext.gfm && startsFootnote c)

/-- Whether a line interrupts a paragraph that the given blocks are open around. -/
def interrupts (ext : Extensions) (containers : List Container) (current : Bool) (c : Cursor) :
    Bool :=
  beginsBlock ext current false c ||
    (ext.gfm && current && (tableStart? containers c).isSome)

/-- The place where a line goes on that may not be interrupted: past its margin, and past the columns
that would make it code. -/
def continueLine? (ext : Extensions) (containers : List Container) (c : Cursor) : Option Cursor :=
  let (n, m) := matchContainers containers (.ofCursor c)
  let current := n == containers.length
  let (deep, m) := m.readAll 4
  if deep then some m.place
  else if interrupts ext containers current m.place || (current && (underline? m.place).isSome) then
    none
  else some m.place

/-- Blanks between the parts of a link definition: the number of line ends among them, at most one, and
the place after them. -/
def definitionBlanks? (ext : Extensions) (containers : List Container) :
    Nat → Cursor → Nat → Option (Nat × Cursor)
  | 0, _, _ => none
  | fuel + 1, c, lines =>
    let c := c.skipBlanks
    match c.lineEnd? with
    | none => some (lines, c)
    | some next =>
      if lines ≥ 1 then none
      else match continueLine? ext containers next with
        | some place => definitionBlanks? ext containers fuel place (lines + 1)
        | none => none

/-- The target of a link definition after the colon, and the place after it.  A title that something
else follows on its line is none, and then it has to stand on a line of its own. -/
def definitionTarget? (ext : Extensions) (containers : List Container) (c : Cursor) :
    Option (LinkTarget × Cursor) := do
  let (_, c) ← definitionBlanks? ext containers 4 c 0
  let (url, afterUrl) ← destination? c
  if afterUrl.offset = c.offset then none
  else
    let url := unescape false url
    let untitled := (LinkTarget.mk url "", afterUrl)
    match definitionBlanks? ext containers 4 afterUrl 0 with
    | none => some untitled
    | some (lines, place) =>
      if place.offset = afterUrl.offset && lines == 0 && !place.atEnd then none
      else match title? (continueLine? ext containers) place with
        | some (title, after) =>
          if after.blankLine?.isSome then some (⟨url, unescape false title⟩, after)
          else if lines > 0 then some untitled
          else none
        | none => if lines > 0 || place.atEnd then some untitled else none

/-- The link definition at a cursor: its label, its target, and the place after it. -/
def linkDefinition? (ext : Extensions) (containers : List Container) (c : Cursor) :
    Option (List Char × LinkTarget × Cursor) :=
  if !c.at? '[' then none
  else do
    let (label, after) ← label? (continueLine? ext containers) c.next
    if !after.at? ':' then none
    else
      let (target, after) ← definitionTarget? ext containers after.next
      some (label, target, after)

/-- The start of a footnote at a cursor: its label, which stands on one line, and the place after it. -/
def footnoteStart? (c : Cursor) : Option (List Char × Cursor) :=
  if !c.startsWith "[^" then none
  else do
    let (label, after) ← label? (fun _ => none) (c.skip 2)
    if label.any isLineEnd || !after.at? ':' then none
    else some (label, after.next.skipBlanks)

end WikiPage.Markdown
