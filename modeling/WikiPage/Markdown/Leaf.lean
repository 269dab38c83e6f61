import WikiPage.Markdown.Interruption
import WikiPage.Markdown.LineLexer
/-!
# Blocks without blocks

Code, raw markup, headings, paragraphs and tables.  Each reader takes the blocks that are open around
the one it reads and the cursor at which that one begins, and gives the block and the place after it.
-/

namespace WikiPage.Markdown

/-! ## 1. Code and raw markup -/

/-- The text of a line that is kept as it is: a carriage return before its last character is dropped. -/
def verbatimLine (c next : Cursor) : String :=
  let cs := c.upTo next.offset
  match cs.reverse with
  | last :: '\r' :: before => String.ofList (last :: before).reverse
  | _ => String.ofList cs

/-- The pieces of a line that is kept as it is, the last one first.  Columns left over of a tab are
spaces. -/
def verbatimPieces (spaces : Nat) (c next : Cursor) : List Piece :=
  let line : Piece := ⟨⟨c.offset, next.offset⟩, verbatimLine c next, false⟩
  if spaces = 0 then [line]
  else [line, ⟨⟨c.offset, c.offset⟩, String.ofList (List.replicate spaces ' '), true⟩]

/-- Reads the lines of fenced code up to its closing fence or the end of the blocks around it. -/
def fencedLines (containers : List Container) (mark : Char) (length indent : Nat) :
    Nat → Cursor → List Piece → List Piece × Nat × Cursor
  | 0, c, pieces => (pieces, c.offset, c)
  | fuel + 1, c, pieces =>
    let (n, m) := matchContainers containers (.ofCursor c)
    if n < containers.length then (pieces, c.offset, c)
    else
      let m := (m.readAll indent).2
      let (deep, closing) := m.readAll (4 - indent)
      match (if deep then none else closingFence? closing.place mark length) with
      | some after => (pieces, after.offset, after.blankLine?.getD after)
      | none =>
        let next := m.place.nextLine
        fencedLines containers mark length indent fuel next
          (verbatimPieces m.pending m.place next ++ pieces)

/-- Fenced code: the information after the fence, and lines without the indentation of the fence. -/
def fencedCode (containers : List Container) (c : Cursor) (indent : Nat) (mark : Char)
    (length : Nat) : Block × Cursor :=
  let info := (c.skip length).skipBlanks
  let next := info.nextLine
  let text := ((info.upTo next.offset).reverse.dropWhile isSpace).reverse
  let (pieces, stop, after) :=
    fencedLines containers mark length indent (next.rest.length + 2) next []
  (.code ⟨c.offset, stop⟩ (some (unescape false text)) pieces.reverse, after)

/-- Reads the lines of indented code: the pieces, the end of the last line that is not blank, with the
pieces up to it, and the place after. -/
def indentedLines (containers : List Container) :
    Nat → Cursor → Nat → Bool → List Piece → (List Piece × Nat) → (List Piece × Nat) × Cursor × Bool
  | 0, c, _, blank, _, kept => (kept, c, blank)
  | fuel + 1, c, spaces, blank, pieces, kept =>
    let next := c.nextLine
    let pieces := verbatimPieces spaces c next ++ pieces
    let kept := if blank then kept else (pieces, next.offset)
    let (n, m) := matchContainers containers (.ofCursor next)
    let (deep, m) := m.readAll 4
    if n < containers.length || !(deep || m.atLineEnd) || m.place.atEnd then (kept, next, blank)
    else
      indentedLines containers fuel m.place m.pending m.place.blankLine?.isSome pieces kept

/-- Indented code, without the blank lines at its end; whether there were any is told too. -/
def indentedCode (containers : List Container) (c : Cursor) (spaces : Nat) :
    Block × Cursor × Bool :=
  let ((pieces, stop), after, blank) :=
    indentedLines containers (c.rest.length + 1) c spaces false [] ([], 0)
  (.code ⟨c.offset, stop⟩ none pieces.reverse, after, blank)

/-- Whether a text holds another. -/
def containsText (word : List Char) : List Char → Bool
  | [] => word.isEmpty
  | c :: cs => word.isPrefixOf (c :: cs) || containsText word cs

/-- Reads the lines of raw markup.  With a word that ends it, the line that holds the word is the last;
without one, the line before a blank one is. -/
def rawLines (containers : List Container) (ending : Option String) :
    Nat → Cursor → Nat → List Piece → List Piece × Nat × Cursor
  | 0, c, _, pieces => (pieces, c.offset, c)
  | fuel + 1, c, spaces, pieces =>
    let next := c.nextLine
    let pieces := verbatimPieces spaces c next ++ pieces
    let (n, m) := matchContainers containers (.ofCursor next)
    let ended := match ending with
      | some word => containsText word.toList (c.upTo next.offset)
      | none => m.atLineEnd
    if n < containers.length || ended then (pieces, next.offset, next)
    else if m.place.atEnd || (ending.isNone && m.place.blankLine?.isSome) then
      (pieces, m.place.offset, next)
    else rawLines containers ending fuel m.place m.pending pieces

/-- A block of raw markup. -/
def rawBlock (containers : List Container) (c : Cursor) (ending : Option String) (spaces : Nat) :
    Block × Cursor :=
  let (pieces, stop, after) := rawLines containers ending (c.rest.length + 1) c spaces []
  (.raw ⟨c.offset, stop⟩ pieces.reverse, after)

/-! ## 2. Headings -/

/-- The words of the attachment of a heading: `#` before an id, of which the last counts, and `.`
before a class. -/
def headingWords : List (List Char) → HeadingMark → HeadingMark
  | [], mark => mark
  | word :: rest, mark =>
    headingWords rest <| match word with
      | '#' :: id@(_ :: _) => { mark with id := some (String.ofList id) }
      | '.' :: name@(_ :: _) => { mark with classes := mark.classes ++ [String.ofList name] }
      | _ => mark

/-- The words of a text between ASCII blanks. -/
def asciiWords (cs : List Char) : List (List Char) :=
  (cs.splitBy fun a b => blank a == blank b).filter fun word => !word.any blank
where
  /-- A blank that parts words. -/
  blank (c : Char) : Bool := isSpace c && c != '\x0b'

/-- Splits the attachment `\x7b#id .class\x7d` off the end of a heading's text: the bytes of the text
before it, and what it says. -/
def headingMark (text : List Char) : Nat × Option HeadingMark :=
  let whole := (Text.byteLength text, none)
  match text.reverse.dropWhile (fun c => isLineEnd c || c == ' ' || c == '\t') with
  | '\x7d' :: rest =>
    let inner := rest.takeWhile fun c =>
      !(c == '\x7b' || c == '\x7d' || c == '<' || c == '>' || c == '\\' || isLineEnd c)
    match rest.drop inner.length with
    | '\x7b' :: before =>
      (Text.byteLength before, some (headingWords (asciiWords inner.reverse) ⟨none, []⟩))
    | _ => whole
  | _ => whole

/-- The bytes of a heading's text without the number signs and spaces that may end it. -/
def headingTextLength (text : List Char) : Nat :=
  let trimmed := text.reverse.dropWhile fun c => isLineEnd c || c == ' '
  match trimmed.dropWhile (· == '#') with
  | [] => 0
  | unmarked@(c :: _) =>
    if c = ' ' then Text.byteLength (unmarked.dropWhile (· == ' ')) else Text.byteLength trimmed

/-- The lexer's mode for running text. -/
def Extensions.lexer (ext : Extensions) : LexerMode := { strike := ext.gfm, math := ext.math }

/-- A heading that begins with number signs. -/
def numberSignHeading (ext : Extensions) (containers : List Container) (c : Cursor) (level : Nat) :
    Block × Cursor :=
  let after := c.skip level
  match after.lineEnd? with
  | some next =>
    (.heading ⟨c.offset, next.offset⟩ level ⟨none, []⟩ ⟨[], next.offset, containers, false⟩, next)
  | none =>
    let text := after.skipBlanks
    let next := text.nextLine
    let (length, mark) := headingMark (text.upTo next.offset)
    let stop := text.offset + length
    let line := lexLine { ext.lexer with limit := some stop } text [] {}
    let limit := text.offset + headingTextLength (text.upTo stop)
    let tokens := Token.truncate limit (fun _ => none) line.tokens
    (.heading ⟨c.offset, next.offset⟩ level (mark.getD ⟨none, []⟩)
      ⟨tokens.reverse, next.offset, containers, false⟩, next)

/-- The cursor one backslash before another one. -/
def backslashBefore (c : Cursor) : Option Cursor :=
  if c.offset = 0 then none else some ⟨c.offset - 1, '\\' :: c.rest⟩

/-- A heading made of the lines of a paragraph by an underline: its attachment is split off, and blanks
at its end are dropped. -/
def underlinedTokens (c : Cursor) (tokens : List Token) (trailing : Bool) :
    List Token × HeadingMark :=
  match tokens with
  | [] => ([], ⟨none, []⟩)
  | last :: _ =>
    let (length, mark) := headingMark (c.upTo last.stop)
    let content := c.upTo (c.offset + length)
    let kept := if trailing then content else (content.reverse.dropWhile isLineBlank).reverse
    let stop := c.offset + Text.byteLength kept
    let tokens := if mark.isSome then Token.truncate stop backslashBefore tokens else tokens
    let tokens := match tokens with
      | last :: before => { last with stop } :: before
      | [] => []
    (tokens, mark.getD ⟨none, []⟩)

/-! ## 3. Tables -/

/-- Reads the cells of a row to the end of the line, the last one first. -/
def rowCells (ext : Extensions) (containers : List Container) :
    Nat → Cursor → BraceGroups → List (Span × RunningText) →
      List (Span × RunningText) × BraceGroups × Cursor
  | 0, c, braces, cells => (cells, braces, c)
  | fuel + 1, c, braces, cells =>
    let start := c.skipChar '|'
    let text := start.skipBlanks
    match text.lineEnd? with
    | some next => (cells, braces, next)
    | none =>
      let line := lexLine { ext.lexer with cell := true } text [] braces
      let stop := line.next.offset
      rowCells ext containers fuel line.next line.braces
        ((⟨start.offset, stop⟩, ⟨line.tokens.reverse, stop, containers, true⟩) :: cells)

/-- A row with the given number of cells: further cells are dropped, and missing ones are empty.  A row
without any cell is none. -/
def tableRow? (ext : Extensions) (containers : List Container) (columns : Nat) (c : Cursor)
    (braces : BraceGroups) : Option (TableLine × BraceGroups × Cursor) :=
  let (cells, braces, next) := rowCells ext containers (c.rest.length + 1) c braces []
  if cells.isEmpty then none
  else
    let empty : Span × RunningText :=
      (⟨next.offset, next.offset⟩, ⟨[], next.offset, containers, true⟩)
    let cells := cells.reverse.take columns ++ List.replicate (columns - cells.length) empty
    some (⟨⟨c.offset, next.offset⟩, cells⟩, braces, next)

/-- Reads rows until a line begins another block or ends the blocks around, the last one first. -/
def tableRows (ext : Extensions) (containers : List Container) (columns : Nat) :
    Nat → Cursor → BraceGroups → List TableLine → List TableLine × Cursor
  | 0, c, _, rows => (rows, c)
  | fuel + 1, c, braces, rows =>
    let (n, m) := matchContainers containers (.ofCursor c)
    if n < containers.length then (rows, c)
    else
      let m := m.skipBlanks
      if beginsBlock ext true true m.place then (rows, c)
      else match tableRow? ext containers columns m.place braces with
        | some (row, braces, next) => tableRows ext containers columns fuel next braces (row :: rows)
        | none => (rows, c)

/-- The table at a cursor. -/
def table? (ext : Extensions) (containers : List Container) (c : Cursor) : Option (Block × Cursor) := do
  if !ext.gfm then none
  else
    let (alignments, body) ← tableStart? containers c
    let (head, braces, _) ← tableRow? ext containers alignments.length c {}
    let (rows, after) :=
      tableRows ext containers alignments.length (body.rest.length + 1) body braces []
    some (.table ⟨c.offset, after.offset⟩ alignments head rows.reverse, after)

/-! ## 4. Paragraphs -/

/-- How a paragraph ended: its tokens, the last one first, the place after it, and the level of the
heading that an underline made of it. -/
structure ParagraphEnd where
  tokens : List Token
  after : Cursor
  level : Option Nat

/-- Reads the lines of a paragraph that begins at `first`.  A backslash before the end of the last line
is plain text. -/
def paragraphLines (ext : Extensions) (containers : List Container) :
    Nat → Cursor → List Token → BraceGroups → ParagraphEnd × Bool
  | 0, c, tokens, _ => (⟨tokens, c, none⟩, false)
  | fuel + 1, c, tokens, braces =>
    let line := lexLine ext.lexer c tokens braces
    let backslash := match line.lineBreak with
      | some ⟨.hardBreak true, place, _⟩ => some place
      | _ => none
    let closed := match backslash with
      | some place => Token.appendText line.tokens place (place.offset + 1) false
      | none => line.tokens
    let (n, m) := matchContainers containers (.ofCursor line.next)
    let current := n == containers.length
    let (deep, m) := m.readAll 4
    let heading := if !deep && current then underline? m.place else none
    match heading with
    | some (level, after) => (⟨line.tokens, after, some level⟩, backslash.isSome)
    | none =>
      let ended := !deep && interrupts ext containers current m.place
      let m := m.skipBlanks
      if ended || m.atLineEnd then (⟨closed, line.next, none⟩, false)
      else
        let tokens := match line.lineBreak with
          | some lineBreak => lineBreak :: line.tokens
          | none => line.tokens
        paragraphLines ext containers fuel m.place tokens line.braces

/-- A paragraph, or the table or heading that it turns out to be. -/
def paragraph (ext : Extensions) (containers : List Container) (box : Option (Bool × Span))
    (c : Cursor) : Block × Cursor :=
  match table? ext containers c with
  | some result => result
  | none =>
    let (ended, trailing) := paragraphLines ext containers (c.rest.length + 1) c [] {}
    let span : Span := ⟨c.offset, ended.after.offset⟩
    match ended.level with
    | some level =>
      let (tokens, mark) := underlinedTokens c ended.tokens trailing
      let tokens := if trailing then
          match ended.tokens with
          | last :: _ => Token.appendText tokens ⟨last.stop, ['\\']⟩ (last.stop + 1) false
          | [] => tokens
        else tokens
      (.heading span level mark ⟨tokens.reverse, span.stop, containers, false⟩, ended.after)
    | none =>
      (.paragraph span false box ⟨ended.tokens.reverse, span.stop, containers, false⟩, ended.after)

end WikiPage.Markdown
