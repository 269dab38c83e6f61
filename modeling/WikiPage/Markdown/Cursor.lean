import WikiPage.Text.Size
/-!
# Cursors

A cursor is a place in the source: the number of bytes before it together with the characters from it
on.  Scanning moves a cursor forward; keeping an old one is how a scanner goes back.
-/

namespace WikiPage.Markdown

open Text (byteLength)

/-- A place in the source. -/
structure Cursor where
  /-- Bytes before the place. -/
  offset : Nat
  /-- Characters from the place on. -/
  rest : List Char
  deriving Repr, Inhabited, DecidableEq

/-- A blank that does not end a line. -/
def isLineBlank (c : Char) : Bool := c == ' ' || c == '\t' || c == '\x0b' || c == '\x0c'

/-- A line feed or carriage return. -/
def isLineEnd (c : Char) : Bool := c == '\n' || c == '\r'

/-- A blank or an end of line. -/
def isSpace (c : Char) : Bool := isLineBlank c || isLineEnd c

namespace Cursor

/-- The beginning of a text. -/
def ofString (s : String) : Cursor := ⟨0, s.toList⟩

/-- The character at the cursor. -/
def peek? (c : Cursor) : Option Char := c.rest.head?

/-- Whether a given character stands at the cursor. -/
def at? (c : Cursor) (x : Char) : Bool := c.rest.head? == some x

/-- Whether nothing is left. -/
def atEnd (c : Cursor) : Bool := c.rest.isEmpty

/-- One character on. -/
def next (c : Cursor) : Cursor :=
  match c.rest with
  | [] => c
  | x :: rest => ⟨c.offset + x.utf8Size, rest⟩

/-- Several characters on. -/
def skip (c : Cursor) : Nat → Cursor
  | 0 => c
  | n + 1 => c.next.skip n

/-- Past a character if it stands at the cursor. -/
def skipChar (c : Cursor) (x : Char) : Cursor := if c.at? x then c.next else c

/-- Past the characters of a class, of a list with its offset. -/
def skipWhileFrom (p : Char → Bool) : Nat → List Char → Cursor
  | offset, [] => ⟨offset, []⟩
  | offset, x :: rest =>
    if p x then skipWhileFrom p (offset + x.utf8Size) rest else ⟨offset, x :: rest⟩

/-- Past the characters of a class. -/
def skipWhile (c : Cursor) (p : Char → Bool) : Cursor := skipWhileFrom p c.offset c.rest

/-- Past the blanks on the line. -/
def skipBlanks (c : Cursor) : Cursor := c.skipWhile isLineBlank

/-- Number of times a character is repeated at the cursor. -/
def countOf (c : Cursor) (x : Char) : Nat := (c.rest.takeWhile (· == x)).length

/-- The characters before a byte offset, of a list with its offset. -/
def upToFrom (stop : Nat) : Nat → List Char → List Char
  | _, [] => []
  | offset, x :: rest =>
    if offset < stop then x :: upToFrom stop (offset + x.utf8Size) rest else []

/-- The characters from the cursor up to a byte offset. -/
def upTo (c : Cursor) (stop : Nat) : List Char := upToFrom stop c.offset c.rest

/-- To a byte offset, of a list with its offset. -/
def seekFrom (stop : Nat) : Nat → List Char → Cursor
  | offset, [] => ⟨offset, []⟩
  | offset, x :: rest =>
    if offset < stop then seekFrom stop (offset + x.utf8Size) rest else ⟨offset, x :: rest⟩

/-- Forward to a byte offset; a cursor already there or beyond stays. -/
def seek (c : Cursor) (stop : Nat) : Cursor := seekFrom stop c.offset c.rest

/-- The cursor with nothing left beyond a byte offset. -/
def clip (c : Cursor) (stop : Nat) : Cursor := ⟨c.offset, c.upTo stop⟩

/-- Whether a text stands at the cursor. -/
def startsWith (c : Cursor) (s : String) : Bool := s.toList.isPrefixOf c.rest

/-- Past the end of the line, if the cursor stands before one; the end of the source ends a line. -/
def lineEnd? (c : Cursor) : Option Cursor :=
  match c.rest with
  | [] => some c
  | '\n' :: rest => some ⟨c.offset + 1, rest⟩
  | '\r' :: '\n' :: rest => some ⟨c.offset + 2, rest⟩
  | '\r' :: rest => some ⟨c.offset + 1, rest⟩
  | _ => none

/-- Whether the line ends at the cursor. -/
def atLineEnd (c : Cursor) : Bool :=
  match c.rest with
  | [] => true
  | x :: _ => isLineEnd x

/-- Past the end of the line, if only blanks stand before it. -/
def blankLine? (c : Cursor) : Option Cursor := c.skipBlanks.lineEnd?

/-- Past the next line feed, or to the end of the source. -/
def nextLine (c : Cursor) : Cursor := (c.skipWhile (· != '\n')).next

end Cursor

end WikiPage.Markdown
