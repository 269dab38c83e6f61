import WikiPage.Markdown.Cursor
import WikiPage.Unicode.Letters
import WikiPage.Unicode.Symbols
import WikiPage.Tree.Span
/-!
# Tokens of running text

The first reading of running text cuts it into tokens: stretches of plain text, and marks that may turn
out to be markup once the whole of the text is known.  A token keeps the cursor of its place, so that
the text between two tokens can be read again as it stands in the source.
-/

namespace WikiPage.Markdown

/-- What a token may turn out to be. -/
inductive TokenKind where
  /-- Plain text; whether a backslash before it took away the meaning of its first character. -/
  | text (escaped : Bool)
  /-- Text that the source spells by a character reference. -/
  | spelled (text : String)
  /-- A run of a mark for emphasis, and whether it may open and close emphasis. -/
  | emphasis (mark : Char) (count : Nat) (opens closes : Bool)
  /-- A run of backticks, and whether a backslash stands before it. -/
  | backticks (count : Nat) (escaped : Bool)
  /-- A dollar sign, whether it may open and close mathematics, and the group of braces it is in. -/
  | dollar (opens closes : Bool) (group : Nat)
  /-- An opening angle bracket. -/
  | angle
  /-- An opening square bracket. -/
  | linkOpen
  /-- An exclamation mark with an opening square bracket. -/
  | imageOpen
  /-- A closing square bracket, and whether it may end the label of a reference. -/
  | linkClose (mayRefer : Bool)
  /-- An end of line. -/
  | softBreak
  /-- An end of line that breaks the line, and whether a backslash does it. -/
  | hardBreak (backslash : Bool)
  deriving Repr, DecidableEq, Inhabited

/-- A token with its place and the offset of its end. -/
structure Token where
  kind : TokenKind
  place : Cursor
  stop : Nat
  deriving Repr, Inhabited

namespace Token

/-- Offset of the first byte. -/
def start (t : Token) : Nat := t.place.offset

/-- The bytes of the token. -/
def span (t : Token) : Span := ⟨t.start, t.stop⟩

/-- The text of the token as it stands in the source. -/
def source (t : Token) : List Char := t.place.upTo t.stop

/-- Whether the token is plain text. -/
def isText (t : Token) : Bool :=
  match t.kind with
  | .text _ => true
  | _ => false

/-- Adds plain text to tokens, the last of which comes first.  Text that continues the last token is
joined to it. -/
def appendText (tokens : List Token) (place : Cursor) (stop : Nat) (escaped : Bool) : List Token :=
  if place.offset < stop then
    match tokens with
    | last :: before =>
      if last.isText && last.stop == place.offset then { last with stop } :: before
      else ⟨.text escaped, place, stop⟩ :: tokens
    | [] => [⟨.text escaped, place, stop⟩]
  else tokens

/-- Tokens up to a byte offset, the last of which comes first.  A token that begins at the offset is
dropped; if a backslash took away its meaning, the backslash stays as text. -/
def truncate (offset : Nat) (backslash : Cursor → Option Cursor) : List Token → List Token
  | [] => []
  | t :: before =>
    if t.stop ≤ offset then t :: before
    else if t.start < offset then { t with stop := offset } :: before
    else
      let kept := truncate offset backslash before
      if t.start = offset && t.kind == .text true then
        match backslash t.place with
        | some place => ⟨.text false, place, offset⟩ :: kept
        | none => kept
      else kept

end Token

/-! ## Marks for emphasis -/

/-- Whether a run of marks may open emphasis: something other than a blank follows, and the run is not
inside a word, which `*` and a double `~` may be. -/
def runOpens (mark : Char) (count : Nat) (before after : Option Char) (inTable : Bool) : Bool :=
  match after with
  | none => false
  | some next =>
    if Unicode.isBlank next then false
    else match before with
      | none => true
      | some prev =>
        if inTable && next == '|' then false
        else if mark == '*' && !Unicode.isPunctuation next then true
        else if mark == '~' && count > 1 then true
        else if mark == '~' && prev == '~' && !Unicode.isPunctuation next then true
        else Unicode.isBlank prev || Unicode.isPunctuation prev

/-- Whether a run of marks may close emphasis: something other than a blank stands before it, and the
run is not inside a word, which `*` and a double `~` may be. -/
def runCloses (mark : Char) (count : Nat) (before after : Option Char) (inTable : Bool) : Bool :=
  match before with
  | none => false
  | some prev =>
    if Unicode.isBlank prev then false
    else match after with
      | none => true
      | some next =>
        if inTable && next == '|' then true
        else if (mark == '*' || (mark == '~' && count > 1)) && !Unicode.isPunctuation prev then true
        else if mark == '~' && prev == '~' then true
        else Unicode.isBlank next || Unicode.isPunctuation next

/-! ## Groups of braces -/

/-- The groups of braces that are open in the running text of a block.  Mathematics has to be closed
in the group in which it is opened. -/
structure BraceGroups where
  /-- Open groups, the innermost first; empty until a dollar sign is met. -/
  stack : List Nat := []
  /-- The number of the next group. -/
  fresh : Nat := 0
  deriving Repr, Inhabited

namespace BraceGroups

/-- Deepest nesting for which groups are told apart; beyond it braces are only counted. -/
def maxDepth : Nat := 25

/-- The number of the outermost group of a block. -/
def outermost : Nat := 255

/-- The group of a dollar sign. -/
def current (g : BraceGroups) : Nat × BraceGroups :=
  if g.stack.length > maxDepth then (g.fresh % 256, g)
  else match g.stack with
    | top :: _ => (top, g)
    | [] => (outermost, { g with stack := [outermost] })

/-- An opening brace. -/
def openBrace (g : BraceGroups) : BraceGroups :=
  if g.stack.length = maxDepth then ⟨(g.fresh % 256) :: g.stack, maxDepth⟩
  else if g.stack.length > maxDepth then { g with fresh := g.fresh + 1 }
  else if g.stack.isEmpty then g
  else ⟨(g.fresh % 256) :: g.stack, g.fresh + 1⟩

/-- A closing brace.  One that closes nothing starts a new outermost group. -/
def closeBrace (g : BraceGroups) : BraceGroups :=
  match g.stack with
  | [_] => ⟨[g.fresh % 256], g.fresh + 1⟩
  | stack =>
    if stack.length > maxDepth then
      if g.fresh ≤ maxDepth then { g with stack := stack.tail } else { g with fresh := g.fresh - 1 }
    else { g with stack := stack.tail }

end BraceGroups

end WikiPage.Markdown
