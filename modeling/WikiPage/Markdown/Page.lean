import WikiPage.Markdown.Leaf
/-!
# Reading a page into blocks

A line continues some of the open blocks and closes the others; what is left of it may open further
blocks that hold blocks, and then begins one that does not, which reads the lines that belong to it.
-/

namespace WikiPage.Markdown

/-! ## 1. Opening blocks -/

/-- What is left of a line when all blocks that hold blocks have been opened. -/
inductive Opened where
  /-- Nothing: reading goes on with a further line. -/
  | lineDone (s : PageState) (next : Cursor)
  /-- A margin that something or nothing follows. -/
  | content (s : PageState) (m : Margin)

/-- The kind of alert named at the beginning of a block quote, which nothing else may follow on its
line, and the place after the line. -/
def alertLine? (c : Cursor) : Option (Alert × Cursor) :=
  if !c.startsWith "[!" then none
  else do
    let after := c.skip 2
    let alert ← Alert.all.find? fun a => startsWithIgnoringCase after.rest a.name.toList
    let after := after.skip alert.name.length
    if !after.at? ']' then none
    else after.next.blankLine?.map fun next => (alert, next)

/-- After the line of an alert the block goes on as if a paragraph were open in it. -/
def openAlert (ext : Extensions) (s : PageState) (next : Cursor) : Opened :=
  let containers := s.containers
  let (n, m) := matchContainers containers (.ofCursor next)
  let (deep, m) := m.readAll 4
  if !deep && interrupts ext containers (n == containers.length) m.place then .lineDone s next
  else .content s m.skipBlanks

/-- Opens an item of a list, with the box of a task item; `next` opens what begins after its marker. -/
def openItem (ext : Extensions) (next : PageState → Nat → Margin → Opened) (start : Nat)
    (marker : ItemMarker) (m : Margin) (s : PageState) (lineStart : Nat) : Opened :=
  let s := (s.continueList start marker).push (.item marker.indent) start
  match m.place.blankLine? with
  | some after => .lineDone { s with emptyItem := some after.offset } after
  | none =>
    match (if ext.gfm then taskBox? m else none) with
    | none => next s lineStart m
    | some (ticked, m') =>
      let span : Span := ⟨m.place.offset, m'.place.offset⟩
      match m'.place.blankLine? with
      | some after =>
        .lineDone { s.add (.taskBox span ticked) with emptyItem := some after.offset } after
      | none => next { s with box := some (ticked, span) } lineStart m'

/-- Opens the blocks that hold blocks and begin on a line, from a margin on.  `lineStart` is where the
line, or what follows the label of a footnote, began. -/
def openContainers (ext : Extensions) : Nat → PageState → Nat → Margin → Opened
  | 0, s, _, m => .content s m
  | fuel + 1, s, lineStart, m =>
    let (columns, inner) := m.readUpTo 4
    if columns ≥ 4 then .content s m
    else
      let start := inner.place.offset
      match (if ext.gfm then footnoteStart? inner.place else none) with
      | some (label, after) =>
        let s := s.finishList start
        let s := match s.frames with
          | f :: _ => if f.isFootnote then s.pop start else s
          | [] => s
        let s := { s with definitions := s.definitions.addFootnote label }
        openContainers ext fuel (s.push (.footnote (String.ofList label)) start) after.offset
          (.ofCursor after)
      | none =>
        match itemMarker? inner columns with
        | some (marker, m) =>
          openItem ext (openContainers ext fuel) (start - columns) marker m s lineStart
        | none =>
          match inner.quoteMarker? with
          | some m =>
            let alert := if ext.gfm then alertLine? m.place else none
            let s := (s.finishList lineStart).push (.quote (alert.map Prod.fst)) start
            match alert with
            | some (_, next) => openAlert ext s next
            | none => openContainers ext fuel s lineStart m
          | none => .content s m

/-! ## 2. One line and what belongs to it -/

/-- Reads the block without blocks that begins after `indent` columns at a cursor. -/
def leafBlock (ext : Extensions) (s : PageState) (c : Cursor) (spaces indent : Nat) :
    PageState × Cursor :=
  let containers := s.containers
  let add (result : Block × Cursor) : PageState × Cursor := (s.add result.1, result.2)
  let markup := if c.at? '<' then some c.rest.tail else none
  match markup.bind rawBlockEnd? with
  | some ending => add (rawBlock containers c (some ending) (max spaces indent))
  | none =>
    if markup.any startsBlockElement || (markup.isSome && tagLine c) then
      add (rawBlock containers c none (max spaces indent))
    else match rule? c with
    | some after => (s.add (.rule ⟨c.offset, after.offset⟩), after)
    | none =>
      match headingLevel? c with
      | some level => add (numberSignHeading ext containers c level)
      | none =>
        match fence? c with
        | some (mark, length) => add (fencedCode containers c indent mark length)
        | none =>
          match linkDefinition? ext containers c with
          | some (label, target, after) =>
            ({ s with definitions := s.definitions.addLink label target },
              after.blankLine?.getD after)
          | none =>
            let (block, after) := paragraph ext containers s.box c
            ({ s with box := none }.add block, after)

/-- Reads one line and the further lines of the block that it begins. -/
def readBlock (ext : Extensions) (s : PageState) (c : Cursor) : PageState × Cursor :=
  let (n, m) := matchContainers s.containers (.ofCursor c)
  let s := s.popTo n c.offset
  match openContainers ext (c.rest.length + 1) s c.offset m with
  | .lineDone s next => (s, next)
  | .content s m =>
    match m.place.blankLine? with
    | some next => (s.noteBlank, next)
    | none =>
      let (indent, inner) := m.readUpTo 4
      let s := s.finishList inner.place.offset
      if indent = 4 then
        let (block, after, blank) := indentedCode s.containers inner.place inner.pending
        ({ s.add block with blankBefore := blank }, after)
      else leafBlock ext s inner.place m.pending indent

/-! ## 3. Pages -/

/-- Reads blocks to the end of the source. -/
def readBlocks (ext : Extensions) : Nat → PageState → Cursor → PageState × Cursor
  | 0, s, c => (s, c)
  | fuel + 1, s, c =>
    if c.atEnd then (s, c)
    else
      let (s, c) := readBlock ext s c
      readBlocks ext fuel s c

/-- A page: its blocks, and what they define. -/
structure Page where
  blocks : List Block
  definitions : Definitions

/-- The blocks of a source. -/
def Page.read (ext : Extensions) (source : String) : Page :=
  let c := Cursor.ofString source
  let (s, c) := readBlocks ext (c.rest.length + 1) {} c
  let s := s.popTo 0 c.offset
  ⟨s.blocks.reverse, s.definitions⟩

end WikiPage.Markdown
