import WikiPage.Markdown.Block
import WikiPage.Markdown.Emphasis
import WikiPage.Markdown.RawTag
/-!
# Understanding running text

Goes through the tokens of running text from left to right and finds code, mathematics, raw markup,
automatic links, links, images and references to footnotes; what is left are runs of marks for
emphasis.

A square bracket that may begin a link opens a level of its own.  The bracket that closes it makes a
link of the level, or joins it as plain text to the level around it.
-/

namespace WikiPage.Markdown

/-! ## 1. Automatic links -/

/-- Reads an address with a scheme up to the closing angle bracket, after the colon. -/
def addressEnd? : List Char → Nat → Option Nat
  | [], _ => none
  | c :: cs, offset =>
    if c = '>' then some offset
    else if c ≤ ' ' ∨ c = '<' then none
    else addressEnd? cs (offset + c.utf8Size)

/-- The end of an address with a scheme, a scheme having two to thirty-two characters. -/
def schemeAddress? (c : Cursor) : Option Nat := do
  let first ← c.peek?
  if !first.isAlpha then none
  else
    let scheme := c.rest.takeWhile fun x => x.isAlphanum || x == '.' || x == '-' || x == '+'
    let after := c.skip scheme.length
    if after.at? ':' && 2 ≤ scheme.length && scheme.length ≤ 32 then
      addressEnd? after.next.rest after.next.offset
    else none

/-- Whether a character may stand before the at sign of a mail address. -/
def isMailboxChar (c : Char) : Bool :=
  c.isAlphanum || ".!#$%&'*+/=?^_\x60\x7b|\x7d~-".toList.contains c

/-- The end of the domain of a mail address: labels of at most sixty-three characters, parted by
points, that neither begin nor end with a hyphen. -/
def mailDomainEnd? : Nat → Cursor → Option Cursor
  | 0, _ => none
  | fuel + 1, c =>
    let label := c.rest.takeWhile fun x => x.isAlphanum || x == '-'
    if label.isEmpty || label.length > 63 || label.head? == some '-' || label.getLast? == some '-' then
      none
    else
      let after := c.skip label.length
      if after.at? '.' then mailDomainEnd? fuel after.next else some after

/-- The end of a mail address. -/
def mailAddress? (c : Cursor) : Option Nat :=
  let mailbox := c.rest.takeWhile isMailboxChar
  let after := c.skip mailbox.length
  if mailbox.isEmpty || !after.at? '@' then none
  else
    match mailDomainEnd? (after.rest.length + 1) after.next with
    | some stop => if stop.at? '>' then some stop.offset else none
    | none => none

/-- The address in angle brackets at a cursor after the opening one, and its end. -/
def angleAddress? (c : Cursor) : Option (String × Nat) :=
  ((schemeAddress? c).or (mailAddress? c)).map fun stop => (String.ofList (c.upTo stop), stop)

/-! ## 2. Text between marks -/

/-- The text of code between its marks: an end of line counts as a space, what the blocks around ask
for at the start of a line is left out, and in a table an escaped pipe is a pipe. -/
def codeText (containers : List Container) (inTable : Bool) : Nat → Cursor → List Char
  | 0, _ => []
  | fuel + 1, c =>
    match c.rest with
    | [] => []
    | '\\' :: '|' :: _ =>
      if inTable then '|' :: codeText containers inTable fuel (c.skip 2)
      else '\\' :: codeText containers inTable fuel c.next
    | x :: _ =>
      if isLineEnd x then ' ' :: codeText containers inTable fuel (skipContainers containers c.next)
      else x :: codeText containers inTable fuel c.next

/-- Code may be set off from its marks by a space on each side, unless it is all spaces. -/
def stripCode (cs : List Char) : List Char :=
  match cs with
  | ' ' :: inner =>
    if cs.getLast? == some ' ' && cs.any (· != ' ') then inner.dropLast else cs
  | _ => cs

/-- The text of mathematics between its marks. -/
def mathText (containers : List Container) (inTable : Bool) : Nat → Cursor → List Char
  | 0, _ => []
  | fuel + 1, c =>
    match c.rest with
    | [] => []
    | '\\' :: '|' :: _ =>
      if inTable then '|' :: mathText containers inTable fuel (c.skip 2)
      else '\\' :: mathText containers inTable fuel c.next
    | x :: _ =>
      if isLineEnd x then x :: mathText containers inTable fuel (skipContainers containers c.next)
      else x :: mathText containers inTable fuel c.next

/-! ## 3. Link targets after a link text -/

/-- Blanks with at most one end of line among them. -/
def linkBlanks (containers : List Container) (c : Cursor) : Cursor :=
  let c := c.skipBlanks
  if c.atEnd then c
  else match c.lineEnd? with
    | some next => (skipContainers containers next).skipBlanks
    | none => c

/-- The target in parentheses at a cursor, and the place after it. -/
def parenthesizedTarget? (containers : List Container) (inTable : Bool) (c : Cursor) :
    Option (LinkTarget × Cursor) :=
  if !c.at? '(' then none
  else do
    let c := linkBlanks containers c.next
    let (url, c) ← destination? c
    let c := linkBlanks containers c
    let margin (d : Cursor) : Option Cursor := some (skipContainers containers d).skipBlanks
    let (title, c) := match title? margin c with
      | some (title, after) => (unescape inTable title, linkBlanks containers after)
      | none => ("", c)
    if c.at? ')' then some (⟨unescape inTable url, title⟩, c.next) else none

/-- A label in brackets: that of a link, or that of a footnote. -/
inductive Reference where
  | link (label : List Char)
  | footnote (label : List Char)

/-- The label in brackets at a cursor, and the place after it. -/
def reference? (ext : Extensions) (containers : List Container) (c : Cursor) :
    Option (Reference × Cursor) :=
  if !c.at? '[' then none
  else
    let footnote :=
      if ext.gfm && c.next.at? '^' && !c.next.next.at? ']' then
        label? (fun _ => none) (c.skip 2)
      else none
    match footnote with
    | some (label, after) => some (.footnote label, after)
    | none =>
      (label? (fun d => some (skipContainers containers d)) c.next).map fun (label, after) =>
        (.link label, after)

/-! ## 4. Levels of brackets -/

/-- An open bracket: whether it is that of an image, whether it may still begin a link, its token, and
the items before it, the last one first. -/
structure Bracket where
  image : Bool
  active : Bool
  token : Token
  before : List Item

/-- What is known at a place of the text. -/
structure TextState where
  /-- Items of the innermost level, the last one first. -/
  items : List Item := []
  /-- Open brackets, the innermost first. -/
  brackets : List Bracket := []
  /-- The text before this offset has been taken already. -/
  taken : Nat := 0
  /-- The offset of a bracket that ended the label of a link without a definition. -/
  spent : Option Nat := none

namespace TextState

/-- Adds a finished piece. -/
def add (s : TextState) (piece : Inline) : TextState := { s with items := .done piece :: s.items }

/-- Adds a token as plain text. -/
def addText (s : TextState) (t : Token) : TextState :=
  s.add (.text t.span (String.ofList t.source))

/-- The items of a level that is no link, joined to those before its bracket. -/
def joined (items : List Item) (b : Bracket) : List Item :=
  items ++ .done (.text b.token.span (String.ofList b.token.source)) :: b.before

/-- The items of all levels. -/
def flatten (items : List Item) (brackets : List Bracket) : List Item :=
  brackets.foldl joined items

/-- Makes a link or an image of the innermost level.  There are no links in links. -/
def makeLink (s : TextState) (b : Bracket) (outer : List Bracket) (target : LinkTarget)
    (stop taken : Nat) : TextState :=
  let span : Span := ⟨b.token.start, stop⟩
  let children := Emphasis.resolve s.items.reverse
  let piece : Inline :=
    if b.image then .image span target.url target.title children
    else .link span target.url target.title children
  let brackets :=
    if b.image then outer
    else outer.map fun o => if o.image then o else { o with active := false }
  { s with items := .done piece :: b.before, brackets, taken }

end TextState

/-! ## 5. Going through the tokens -/

/-- What surrounds running text: the syntax that is on, what the page defines, and the text itself. -/
structure TextContext where
  ext : Extensions
  definitions : Definitions
  text : RunningText

namespace TextContext

/-- The rest of the text from a cursor on. -/
def clip (x : TextContext) (c : Cursor) : Cursor := c.clip x.text.stop

/-- Handles a closing bracket; `rest` are the tokens after it. -/
def closeBracket (x : TextContext) (t : Token) (mayRefer : Bool) (rest : List Token)
    (s : TextState) : TextState :=
  match s.brackets with
  | [] => s.addText t
  | b :: outer =>
    let plain : TextState :=
      { s with items := TextState.joined s.items b, brackets := outer }.addText t
    if !b.active then plain
    else
      let containers := x.text.containers
      match parenthesizedTarget? containers x.text.inTable (x.clip t.place.next) with
      | some (target, after) => s.makeLink b outer target after.offset after.offset
      | none =>
        let following : Option Cursor := rest.head?.map fun next => x.clip next.place
        let collapsed := following.any (·.startsWith "[]")
        let explicit : Option (List Char × Cursor) :=
          if collapsed then none
          else match following.bind (reference? x.ext containers) with
            | some (.link label, after) => some (label, after)
            | _ => none
        match explicit with
        | some (label, after) =>
          match x.definitions.link? label with
          | some target => s.makeLink b outer target after.offset after.offset
          | none => { plain with spent := some (after.offset - 1) }
        | none =>
          if !mayRefer then plain
          else
            let bracket := if b.image then b.token.place.next else b.token.place
            match reference? x.ext containers (bracket.clip t.stop) with
            | none => plain
            | some (ref, after) =>
              if after.offset ≠ t.stop then plain
              else match ref with
                | .footnote label =>
                  if x.definitions.hasFootnote label then
                    let before := TextState.flatten b.before outer
                    let piece : Inline :=
                      .footnote ⟨bracket.offset, t.stop⟩ (String.ofList label)
                    let before :=
                      if b.image then
                        .done (.text ⟨b.token.start, bracket.offset⟩ "!") :: before
                      else before
                    { s with items := .done piece :: before, brackets := [] }
                  else plain
                | .link label =>
                  match x.definitions.link? label with
                  | some target =>
                    let taken := match collapsed, following with
                      | true, some c => c.offset + 2
                      | _, _ => s.taken
                    s.makeLink b outer target t.stop taken
                  | none => plain

/-- Handles a run of backticks: code up to the next run of the same length.  A backslash before the run
takes away the meaning of its first backtick. -/
def code (x : TextContext) (t : Token) (count : Nat) (escaped : Bool) (rest : List Token)
    (s : TextState) : TextState :=
  let length := if escaped then count - 1 else count
  let closing := rest.find? fun u =>
    match u.kind with
    | .backticks n _ => n == length
    | _ => false
  match (if length = 0 then none else closing) with
  | none => s.addText t
  | some u =>
    let inner := (t.place.seek t.stop).clip u.start
    let value := stripCode (codeText x.text.containers x.text.inTable (inner.rest.length + 1) inner)
    let s := if escaped then s.add (.text ⟨t.start, t.start + 1⟩ "\x60") else s
    let start := if escaped then t.start + 1 else t.start
    { s.add (.code ⟨start, u.stop⟩ (String.ofList value)) with taken := u.stop }

/-- Whether a list of tokens begins with a dollar sign. -/
def atDollar (tokens : List Token) : Bool :=
  match tokens with
  | ⟨.dollar .., _, _⟩ :: _ => true
  | _ => false

/-- The dollar sign that closes mathematics opened in a group of braces, with the tokens after it: the
first one of the same group, if it can close. -/
def closingDollar? (display : Bool) (group : Nat) : List Token → Option (Token × List Token)
  | [] => none
  | u :: rest =>
    match u.kind with
    | .dollar _ closes g =>
      if g = group then
        if (if display then atDollar rest else closes) then some (u, rest) else none
      else closingDollar? display group rest
    | _ => closingDollar? display group rest

/-- Handles a dollar sign: mathematics up to the sign that closes it, displayed when two signs stand on
either side. -/
def mathematics (x : TextContext) (t : Token) (opens : Bool) (group : Nat) (rest : List Token)
    (s : TextState) : TextState :=
  let display := atDollar rest
  match (if opens then closingDollar? display group (if display then rest.tail else rest) else none) with
  | none => s.addText t
  | some (u, after) =>
    let (innerStart, innerStop, stop) :=
      match display, after with
      | true, v :: _ => (t.stop + 1, u.start, v.stop)
      | _, _ => (t.stop, u.start, u.stop)
    if !display && innerStart = innerStop then s.addText t
    else
      let inner := (t.place.seek innerStart).clip innerStop
      let value := mathText x.text.containers x.text.inTable (inner.rest.length + 1) inner
      { s.add (.math ⟨t.start, stop⟩ display (String.ofList value)) with taken := stop }

/-- Handles an opening angle bracket: an automatic link, or raw markup. -/
def angle (x : TextContext) (t : Token) (rest : List Token) (s : TextState) : TextState :=
  if rest.isEmpty then s.addText t
  else
    let c := x.clip t.place
    match angleAddress? c.next with
    | some (url, stop) =>
      let text : Inline := .text ⟨t.start + 1, stop⟩ url
      { s.add (.link ⟨t.start, stop + 1⟩ url "" [text]) with taken := stop + 1 }
    | none =>
      match rawInline? (skipContainers x.text.containers) c with
      | some (value, after) =>
        { s.add (.markup ⟨t.start, after.offset⟩ value) with taken := after.offset }
      | none => s.addText t

/-- Takes one token; `rest` are the tokens after it. -/
def take (x : TextContext) (t : Token) (rest : List Token) (s : TextState) : TextState :=
  match t.kind with
  | .text _ => s.addText t
  | .spelled value => s.add (.text t.span value)
  | .emphasis mark count opens closes =>
    { s with items := .run ⟨mark, count, opens, closes, t.start⟩ :: s.items }
  | .backticks count escaped => x.code t count escaped rest s
  | .dollar opens _ group => x.mathematics t opens group rest s
  | .angle => x.angle t rest s
  | .linkOpen => { s with items := [], brackets := ⟨false, true, t, s.items⟩ :: s.brackets }
  | .imageOpen => { s with items := [], brackets := ⟨true, true, t, s.items⟩ :: s.brackets }
  | .linkClose mayRefer =>
    x.closeBracket t (mayRefer && s.spent != some t.start) rest s
  | .softBreak => s.add (.softBreak t.span)
  | .hardBreak backslash => s.add (.hardBreak t.span backslash)

/-- Takes tokens one after the other, except for what has been taken with an earlier one. -/
def takeAll (x : TextContext) : List Token → TextState → TextState
  | [], s => s
  | t :: rest, s =>
    if t.stop ≤ s.taken then takeAll x rest s
    else
      let t := if t.start < s.taken then { t with place := t.place.seek s.taken } else t
      takeAll x rest (x.take t rest s)

/-- The pieces of the running text. -/
def resolve (x : TextContext) : List Inline :=
  let s := x.takeAll x.text.tokens {}
  Emphasis.resolve (TextState.flatten s.items s.brackets).reverse

end TextContext

end WikiPage.Markdown
