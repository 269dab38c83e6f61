import WikiPage.Markdown.Margin
/-!
# Shapes of lines

What a line that follows its margin begins with: a rule, a heading, a fence, the marker of a list item.
Each recogniser looks at the characters from a cursor on and answers with what it read.
-/

namespace WikiPage.Markdown

/-! ## 1. Rules and headings -/

/-- Counts the marks of a rule to the end of the line; nothing but marks and blanks may stand there. -/
def ruleMarks? (mark : Char) : List Char → Nat → Nat → Option Cursor
  | [], offset, n => if n ≥ 3 then some ⟨offset, []⟩ else none
  | c :: cs, offset, n =>
    if isLineEnd c then
      if n ≥ 3 then (Cursor.mk offset (c :: cs)).lineEnd? else none
    else if c = mark then ruleMarks? mark cs (offset + 1) (n + 1)
    else if c = ' ' ∨ c = '\t' then ruleMarks? mark cs (offset + 1) n
    else none

/-- Past a rule: three or more of one of the marks `*`, `-` and `_`, and nothing else on the line. -/
def rule? (c : Cursor) : Option Cursor :=
  match c.rest with
  | x :: _ => if x = '*' ∨ x = '-' ∨ x = '_' then ruleMarks? x c.rest c.offset 0 else none
  | [] => none

/-- The level of a heading written with one to six number signs, which a blank or the end of the line
follows. -/
def headingLevel? (c : Cursor) : Option Nat :=
  let n := c.countOf '#'
  if 1 ≤ n ∧ n ≤ 6 then
    match (c.rest.drop n).head? with
    | none => some n
    | some x => if isSpace x then some n else none
  else none

/-- The level of the heading that an underline makes of the paragraph above it, and past the line. -/
def underline? (c : Cursor) : Option (Nat × Cursor) :=
  match c.rest with
  | x :: _ =>
    if x = '=' ∨ x = '-' then
      ((c.skipWhile (· == x)).blankLine?).map fun after => (if x = '=' then 1 else 2, after)
    else none
  | [] => none

/-! ## 2. Fences and quotes -/

/-- The opening fence of a code block: its mark and length.  The information after a fence of
backticks may hold no backtick. -/
def fence? (c : Cursor) : Option (Char × Nat) :=
  match c.rest with
  | x :: _ =>
    if x = '\x60' ∨ x = '~' then
      let n := c.countOf x
      if n ≥ 3 then
        let info := (c.rest.drop n).takeWhile (· != '\n')
        if x = '\x60' ∧ info.contains '\x60' then none else some (x, n)
      else none
    else none
  | [] => none

/-- Past a closing fence at least as long as the opening one; the end of the source closes too. -/
def closingFence? (c : Cursor) (mark : Char) (length : Nat) : Option Cursor :=
  if c.atEnd then some c
  else if c.countOf mark < length then none
  else
    let after := (c.skipWhile (· == mark)).skipWhile (· == ' ')
    if after.atLineEnd then some after else none

/-! ## 3. List items -/

/-- The marker of a list item: the character that tells lists apart, the number of an ordered item,
and the width of the item's margin. -/
structure ItemMarker where
  mark : Char
  number : Nat
  indent : Nat
  deriving Repr

/-- Whether a marker is that of an ordered list. -/
def ItemMarker.ordered (m : ItemMarker) : Bool := m.mark == '.' || m.mark == ')'

/-- Reads the number of an ordered item, of at most nine digits, and the character after it. -/
def readItemNumber : List Char → Nat → Nat → Nat → Option (Nat × Char × Cursor)
  | [], _, _, _ => none
  | c :: cs, offset, count, value =>
    if c.isDigit then
      if count < 9 then readItemNumber cs (offset + 1) (count + 1) (value * 10 + (c.toNat - 48))
      else none
    else if count > 0 ∧ (c = ')' ∨ c = '.') then some (value, c, ⟨offset + 1, cs⟩)
    else none

/-- The item's margin ends with the blanks after the marker, unless they are so many that the item
begins with indented code, or nothing else is on the line. -/
def finishItemMarker (m : Margin) (mark : Char) (number indent : Nat) : ItemMarker × Margin :=
  if m.place.blankLine?.isSome then (⟨mark, number, indent⟩, m)
  else
    let (n, m') := m.readUpTo 4
    if n < 4 then (⟨mark, number, indent + n⟩, m') else (⟨mark, number, indent⟩, m)

/-- The marker of a list item after `indent` columns.  A line that is a rule is no item. -/
def itemMarker? (m : Margin) (indent : Nat) : Option (ItemMarker × Margin) :=
  match m.place.rest with
  | [] => none
  | c :: _ =>
    if c = '-' ∨ c = '+' ∨ c = '*' then
      if (rule? m.place).isSome then none
      else
        let (found, m') := { m with place := m.place.next }.readAll 1
        if found || m'.atLineEnd then some (finishItemMarker m' c 0 (indent + 2)) else none
    else if c.isDigit then
      match readItemNumber m.place.rest m.place.offset 0 0 with
      | none => none
      | some (value, mark, after) =>
        let (found, m') := { m with place := after }.readAll 1
        if found || m'.atLineEnd then
          some (finishItemMarker m' mark value (indent + 1 + (after.offset - m.place.offset)))
        else none
    else none

/-- The mark and number of an item that starts at a cursor, and the place after its marker; looser
than `itemMarker?`, it serves to tell whether a line interrupts a paragraph. -/
def itemStart? (c : Cursor) : Option (Char × Nat × Cursor) :=
  match c.rest with
  | [] => none
  | x :: _ =>
    let marked : Option (Char × Nat × Cursor) :=
      if x = '-' ∨ x = '+' ∨ x = '*' then some (x, 0, c.next)
      else (readItemNumber c.rest c.offset 0 0).map fun (value, mark, after) => (mark, value, after)
    marked.bind fun (mark, number, after) =>
      if after.blankLine?.isSome then
        if after.atLineEnd || after.rest.head?.any (fun y => y == ' ' || y == '\t') then
          some (mark, number, after)
        else none
      else
        let (n, m) := (Margin.ofCursor after).readUpTo 5
        if n = 0 then none
        else if n > 4 then some (mark, number, after.next)
        else some (mark, number, m.place)

/-- Whether two blank lines follow, so that an item has no content. -/
def emptyItem (c : Cursor) : Bool :=
  match c.blankLine? with
  | some next => next.blankLine?.isSome
  | none => false

/-- The box of a task item: whether it is ticked. -/
def taskBox? (m : Margin) : Option (Bool × Margin) := do
  let m ← (m.readUpTo 3).2.char? '['
  let x ← m.place.peek?
  let ticked ←
    if isLineBlank x then some false
    else if x = 'x' ∨ x = 'X' then some true
    else none
  let m ← { m with place := m.place.next }.char? ']'
  let y ← m.place.peek?
  if isSpace y then some (ticked, m) else none

end WikiPage.Markdown
