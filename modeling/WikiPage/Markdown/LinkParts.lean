import WikiPage.Markdown.CharReference
import WikiPage.Unicode.Case
/-!
# The parts of links

Labels, destinations and titles, as they are written after a link text and in link definitions.  All of
them may run over the end of a line where a label or title allows it; the recognisers are given a
function that skips the margin of the next line, or refuses it.
-/

namespace WikiPage.Markdown

/-! ## 1. Labels -/

/-- Most characters that a label may have. -/
def maxLabelLength : Nat := 1000

/-- A blank run of a label: whether it has to be replaced by one space, whether it holds the end of a
line, and the place after it. -/
def labelBlanks (skipMargin : Cursor → Option Cursor) :
    Nat → Cursor → Nat → Bool → Option (Nat × Cursor)
  | 0, c, width, _ => some (width, c)
  | fuel + 1, c, width, broken =>
    match c.rest with
    | [] => some (width, c)
    | x :: _ =>
      if isLineEnd x then
        if broken then none
        else do
          let next ← c.lineEnd?
          let next ← skipMargin next
          labelBlanks skipMargin fuel next (width + 2) true
      else if isSpace x then
        labelBlanks skipMargin fuel c.next (if x = ' ' then width + 1 else width + 2) broken
      else some (width, c)

/-- Reads a label up to its closing bracket, given the characters read, the last one first. -/
def labelFrom (skipMargin : Cursor → Option Cursor) :
    Nat → Cursor → Nat → List Char → Option (List Char × Cursor)
  | 0, _, _, _ => none
  | fuel + 1, c, count, acc =>
    if count ≥ maxLabelLength then none
    else match c.rest with
      | [] => none
      | '[' :: _ => none
      | ']' :: _ => some (acc.reverse, c.next)
      | '\\' :: x :: _ => labelFrom skipMargin fuel (c.skip 2) (count + 2) (x :: '\\' :: acc)
      | '\\' :: [] => none
      | x :: _ =>
        if isSpace x then do
          let (_, after) ← labelBlanks skipMargin (fuel + 1) c 0 false
          labelFrom skipMargin fuel after (count + (after.offset - c.offset)) (' ' :: acc)
        else labelFrom skipMargin fuel c.next (count + 1) (x :: acc)

/-- The label after an opening bracket, blanks reduced to single spaces and none at its ends, and the
place after the closing bracket.  A label of blanks alone is none. -/
def label? (skipMargin : Cursor → Option Cursor) (c : Cursor) : Option (List Char × Cursor) := do
  let (cs, after) ← labelFrom skipMargin (c.rest.length + 1) c 0 []
  let trimmed := ((cs.dropWhile (· == ' ')).reverse.dropWhile (· == ' ')).reverse
  if trimmed.isEmpty then none else some (trimmed, after)

/-- Labels that differ in case alone have the same key. -/
def labelKey (label : List Char) : List Char := Unicode.caseFoldAll label

/-! ## 2. Destinations -/

/-- Deepest nesting of parentheses in a bare destination. -/
def maxNestedParens : Nat := 32

/-- Whether a backslash takes away the meaning of what follows it. -/
def escapes (rest : List Char) : Bool := rest.head?.any Unicode.isAsciiPunctuation

/-- Reads a destination in angle brackets, after the opening one. -/
def bracketedDestination : List Char → Nat → Bool → List Char → Option (List Char × Cursor)
  | [], _, _, _ => none
  | c :: cs, offset, escaped, acc =>
    if escaped then bracketedDestination cs (offset + 1) false (c :: acc)
    else if isLineEnd c ∨ c = '<' then none
    else if c = '>' then some (acc.reverse, ⟨offset + 1, cs⟩)
    else
      bracketedDestination cs (offset + c.utf8Size) (c == '\\' && escapes cs) (c :: acc)

/-- Reads a bare destination: up to a blank or control character, or a closing parenthesis that none
of its own opens. -/
def bareDestination (maxNest : Nat) :
    List Char → Nat → Bool → Nat → List Char → Option (List Char × Cursor)
  | [], offset, _, nest, acc => if nest = 0 then some (acc.reverse, ⟨offset, []⟩) else none
  | c :: cs, offset, escaped, nest, acc =>
    let stop := if nest = 0 then some (acc.reverse, Cursor.mk offset (c :: cs)) else none
    if escaped then bareDestination maxNest cs (offset + 1) false nest (c :: acc)
    else if c ≤ ' ' then stop
    else if c = '(' then
      if nest > maxNest then none
      else bareDestination maxNest cs (offset + 1) false (nest + 1) (c :: acc)
    else if c = ')' then
      if nest = 0 then stop
      else bareDestination maxNest cs (offset + 1) false (nest - 1) (c :: acc)
    else
      bareDestination maxNest cs (offset + c.utf8Size) (c == '\\' && escapes cs) nest (c :: acc)

/-- The destination at a cursor as it is written, and the place after it. -/
def destination? (c : Cursor) : Option (List Char × Cursor) :=
  match c.rest with
  | '<' :: rest => bracketedDestination rest (c.offset + 1) false []
  | rest => bareDestination maxNestedParens rest c.offset false 0 []

/-! ## 3. Titles -/

/-- Reads a title up to its closing mark. -/
def titleFrom (skipMargin : Cursor → Option Cursor) (opening closing : Char) :
    Nat → Cursor → List Char → Option (List Char × Cursor)
  | 0, _, _ => none
  | fuel + 1, c, acc =>
    match c.rest with
    | [] => none
    | x :: rest =>
      if x = closing then some (acc.reverse, c.next)
      else if x = opening then none
      else if isLineEnd x then do
        let next ← c.lineEnd?
        let next ← skipMargin next
        titleFrom skipMargin opening closing fuel next ('\n' :: acc)
      else if x = '\\' then
        match rest with
        | y :: _ =>
          if Unicode.isAsciiPunctuation y then
            titleFrom skipMargin opening closing fuel (c.skip 2) (y :: x :: acc)
          else titleFrom skipMargin opening closing fuel c.next (x :: acc)
        | [] => none
      else titleFrom skipMargin opening closing fuel c.next (x :: acc)

/-- The title at a cursor as it is written, without its marks, and the place after it. -/
def title? (skipMargin : Cursor → Option Cursor) (c : Cursor) : Option (List Char × Cursor) :=
  match c.rest with
  | '"' :: rest => titleFrom skipMargin '"' '"' (rest.length + 1) c.next []
  | '\'' :: rest => titleFrom skipMargin '\'' '\'' (rest.length + 1) c.next []
  | '(' :: rest => titleFrom skipMargin '(' ')' (rest.length + 1) c.next []
  | _ => none

/-- A link definition: where links with its label lead. -/
structure LinkTarget where
  url : String
  title : String
  deriving Repr, Inhabited, DecidableEq

end WikiPage.Markdown
