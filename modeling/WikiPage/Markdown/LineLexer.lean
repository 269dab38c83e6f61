import WikiPage.Markdown.Token
import WikiPage.Markdown.CharReference
/-!
# Lexing lines of running text

Cuts one line of running text into tokens.  The lexer goes through the characters once; a construct of
several characters is recognised at its first, and its other characters are then passed over.
-/

namespace WikiPage.Markdown

/-- What decides which marks a line has. -/
structure LexerMode where
  /-- Whether `~` marks struck text. -/
  strike : Bool
  /-- Whether `$` marks mathematics. -/
  math : Bool
  /-- Whether the line is a cell of a table, which a pipe or the end of the line ends. -/
  cell : Bool := false
  /-- Where the text ends, whatever follows. -/
  limit : Option Nat := none
  deriving Repr, Inhabited

/-- What the lexer knows between two characters. -/
structure LexerState where
  /-- Tokens found, the last one first. -/
  tokens : List Token
  /-- Open groups of braces. -/
  braces : BraceGroups
  /-- Where the plain text begins that is no token yet. -/
  pending : Cursor
  /-- Whether that text begins with an escaped character. -/
  escaped : Bool := false
  /-- The character before. -/
  before : Option Char := none
  /-- Number of blanks immediately before. -/
  blanks : Nat := 0
  /-- Number of backslashes immediately before. -/
  backslashes : Nat := 0
  deriving Inhabited

/-- A line cut into tokens. -/
structure LexedLine where
  /-- Tokens found, the last one first. -/
  tokens : List Token
  braces : BraceGroups
  /-- Where the next line, or what follows the cell, begins. -/
  next : Cursor
  /-- The break that the end of the line is if the text goes on. -/
  lineBreak : Option Token

namespace LexerState

/-- Takes the character into account for what comes after it. -/
def pass (s : LexerState) (c : Char) : LexerState :=
  { s with
    before := some c
    blanks := if isLineBlank c then s.blanks + 1 else 0
    backslashes := if c = '\\' then s.backslashes + 1 else 0 }

/-- Makes the pending text up to a cursor a token. -/
def flush (s : LexerState) (stop : Nat) : LexerState :=
  { s with tokens := Token.appendText s.tokens s.pending stop s.escaped, escaped := false }

/-- Makes the pending text a token, then the characters from `place` up to `stop`; the text pending
from then on begins at `after`. -/
def emit (s : LexerState) (kind : TokenKind) (place after : Cursor) : LexerState :=
  let s := s.flush place.offset
  { s with tokens := ⟨kind, place, after.offset⟩ :: s.tokens, pending := after }

/-- The end of the text without the end of a line: blanks at the end are dropped. -/
def finish (s : LexerState) (at_ : Cursor) : LexedLine :=
  let s := s.flush (max s.pending.offset (at_.offset - s.blanks))
  ⟨s.tokens, s.braces, at_, none⟩

/-- The end of a line.  An odd number of backslashes before it, or two blanks, break the line; blanks
at the end of the text are dropped. -/
def finishLine (s : LexerState) (at_ next : Cursor) (last : Bool) : LexedLine :=
  if s.backslashes % 2 = 1 && !last then
    let stop := at_.offset - 1
    let s := s.flush stop
    ⟨s.tokens, s.braces, next, some ⟨.hardBreak true, ⟨stop, '\\' :: at_.rest⟩, next.offset⟩⟩
  else
    let stop := at_.offset - s.blanks
    let s' := s.flush stop
    if s.blanks ≥ 2 then
      ⟨s'.tokens, s'.braces, next, some ⟨.hardBreak false, ⟨stop, at_.rest⟩, next.offset⟩⟩
    else ⟨s'.tokens, s'.braces, next, some ⟨.softBreak, at_, next.offset⟩⟩

end LexerState

/-- One step at a character with no construct begun before it: the state after it, and the number of
further characters that belong to the construct. -/
def lexChar (mode : LexerMode) (c : Char) (rest : List Char) (at_ : Cursor) (s : LexerState) :
    LexerState × Nat :=
  match c with
  | '\\' =>
    match visible () with
    | x :: xs =>
      if Unicode.isAsciiPunctuation x then
        let s := s.flush at_.offset
        if x = '\x60' then
          let n := ((x :: xs).takeWhile (· == '\x60')).length
          let place := at_.next
          ({ s with
              tokens := ⟨.backticks n true, place, place.offset + n⟩ :: s.tokens
              pending := place.skip n }, n)
        else if x = '|' && mode.cell then ({ s with pending := at_.next }, 1)
        else if mode.cell && x == '\\' && xs.head? == some '|' then
          ({ s with pending := at_.skip 2, escaped := true }, 2)
        else ({ s with pending := at_.next, escaped := true }, 1)
      else (s, 0)
    | [] => (s, 0)
  | '*' | '_' => mark
  | '~' => if mode.strike then mark else (s, 0)
  | '$' =>
    if mode.math then
      let opens := match rest with
        | x :: _ => !isSpace x
        | [] => false
      let closes := match s.before with
        | some x => !isSpace x
        | none => false
      let (group, braces) := s.braces.current
      ({ s.emit (.dollar opens closes group) at_ at_.next with braces }, 0)
    else (s, 0)
  | '{' => if mode.math then ({ s with braces := s.braces.openBrace }, 0) else (s, 0)
  | '}' => if mode.math then ({ s with braces := s.braces.closeBrace }, 0) else (s, 0)
  | '\x60' =>
    let n := 1 + ((visible ()).takeWhile (· == '\x60')).length
    (s.emit (.backticks n false) at_ (at_.skip n), n - 1)
  | '<' => if (visible ()).head? == some '\\' then (s, 0) else (s.emit .angle at_ at_.next, 0)
  | '!' => if (visible ()).head? == some '[' then (s.emit .imageOpen at_ (at_.skip 2), 1) else (s, 0)
  | '[' => (s.emit .linkOpen at_ at_.next, 0)
  | ']' => (s.emit (.linkClose true) at_ at_.next, 0)
  | '&' =>
    match charReference? (c :: visible ()) with
    | some (n, value) => (s.emit (.spelled (String.ofList value)) at_ (at_.skip n), n - 1)
    | none => (s, 0)
  | _ => (s, 0)
where
  /-- What follows the character within the limit of the text. -/
  visible (_ : Unit) : List Char :=
    match mode.limit with
    | some limit => (at_.clip limit).rest.tail
    | none => rest
  /-- A run of marks for emphasis. -/
  mark : LexerState × Nat :=
    let n := 1 + (rest.takeWhile (· == c)).length
    let after := (rest.drop (n - 1)).head?
    let opens := runOpens c n s.before after mode.cell
    let closes := runCloses c n s.before after mode.cell
    if (opens || closes) && (c != '~' || n ≤ 2) then
      (s.emit (.emphasis c n opens closes) at_ (at_.skip n), n - 1)
    else (s, n - 1)

/-- Lexes a line from a list of characters and its offset; the number counts the characters still to be
passed over. -/
def lexFrom (mode : LexerMode) : List Char → Nat → Nat → LexerState → LexedLine
  | [], offset, _, s => s.finish ⟨offset, []⟩
  | c :: rest, offset, skip, s =>
    let at_ : Cursor := ⟨offset, c :: rest⟩
    let ended := match mode.limit with
      | some limit => decide (limit ≤ offset)
      | none => false
    if ended then s.finish at_
    else match skip with
      | skip + 1 => lexFrom mode rest (offset + c.utf8Size) skip (s.pass c)
      | 0 =>
        if isLineEnd c then
          if mode.cell then s.finish at_
          else
            let next := at_.lineEnd?.getD at_
            let last := match mode.limit with
              | some limit => decide (limit ≤ next.offset)
              | none => next.atEnd
            s.finishLine at_ next last
        else if mode.cell && c == '|' && s.before != some '\\' then s.finish at_
        else
          let (s, skip) := lexChar mode c rest at_ s
          lexFrom mode rest (offset + c.utf8Size) skip (s.pass c)

/-- Lexes the line at a cursor, after tokens of the lines before it. -/
def lexLine (mode : LexerMode) (c : Cursor) (tokens : List Token) (braces : BraceGroups) :
    LexedLine :=
  lexFrom mode c.rest c.offset 0 { tokens, braces, pending := c }

end WikiPage.Markdown
