import WikiPage.Markdown.Cursor
/-!
# Raw markup

Recognises tags, comments and the like that are copied to the output as they are.  A tag may run over
several lines; what the open blocks ask for at the start of a further line is no part of it, so the
recognisers are given a function that skips it, and they collect the text of the tag as they go.
-/

namespace WikiPage.Markdown

/-! ## 1. Blocks of raw markup -/

/-- Whether a text begins with a word, without regard to the case of ASCII letters. -/
def startsWithIgnoringCase (cs : List Char) (word : List Char) : Bool :=
  match word, cs with
  | [], _ => true
  | _ :: _, [] => false
  | w :: ws, c :: cs => c.toLower == w && startsWithIgnoringCase cs ws

/-- Elements whose text is kept as it is up to their end tag. -/
def verbatimElements : List String := ["pre", "style", "script", "textarea"]

/-- What ends a block of raw markup that starts with `<` and these characters, when it is one that does
not end at a blank line. -/
def rawBlockEnd? (cs : List Char) : Option String :=
  let verbatim := verbatimElements.find? fun tag =>
    startsWithIgnoringCase cs tag.toList &&
      match (cs.drop tag.length).head? with
      | none => true
      | some x => isSpace x || x == '>'
  match verbatim with
  | some tag => some ("</" ++ tag ++ ">")
  | none =>
    if "!--".toList.isPrefixOf cs then some "-->"
    else if "?".toList.isPrefixOf cs then some "?>"
    else if "![CDATA[".toList.isPrefixOf cs then some "]]>"
    else match cs with
      | '!' :: x :: _ => if x.isAlpha then some ">" else none
      | _ => none

/-- Elements that begin a block of raw markup ending at a blank line. -/
def blockElements : List String :=
  ["address", "article", "aside", "base", "basefont", "blockquote", "body", "caption", "center",
   "col", "colgroup", "dd", "details", "dialog", "dir", "div", "dl", "dt", "fieldset",
   "figcaption", "figure", "footer", "form", "frame", "frameset", "h1", "h2", "h3", "h4", "h5",
   "h6", "head", "header", "hr", "html", "iframe", "legend", "li", "link", "main", "menu",
   "menuitem", "nav", "noframes", "ol", "optgroup", "option", "p", "param", "search", "section",
   "summary", "table", "tbody", "td", "tfoot", "th", "thead", "title", "tr", "track", "ul"]

/-- Whether `<` and these characters begin a block of one of the block elements. -/
def startsBlockElement (cs : List Char) : Bool :=
  let cs := match cs with
    | '/' :: rest => rest
    | _ => cs
  let name := cs.takeWhile Char.isAlphanum
  blockElements.contains (String.ofList (name.map Char.toLower)) &&
    match cs.drop name.length with
    | [] => true
    | x :: rest => x == ' ' || x == '\t' || isLineEnd x || x == '>' ||
        (x == '/' && rest.head? == some '>')

/-! ## 2. Tags -/

/-- Text collected so far, the last character first, and the place reached. -/
structure TagScan where
  text : List Char
  place : Cursor

namespace TagScan

/-- Takes one character into the text. -/
def take (s : TagScan) : TagScan :=
  match s.place.rest with
  | [] => s
  | x :: _ => ⟨x :: s.text, s.place.next⟩

/-- Takes the characters of a class. -/
def takeWhile (s : TagScan) (p : Char → Bool) : TagScan :=
  let taken := s.place.rest.takeWhile p
  ⟨taken.reverse ++ s.text, s.place.skipWhile p⟩

/-- Takes the end of a line and skips what the open blocks ask for on the next one. -/
def takeLineEnd (skip : Cursor → Cursor) (s : TagScan) : TagScan :=
  match s.place.lineEnd? with
  | some next => ⟨(s.place.upTo next.offset).reverse ++ s.text, skip next⟩
  | none => s

/-- Takes blanks and ends of lines.  Without a function to skip margins a line may not end; the source
may not end in any case. -/
def takeSpace (skip : Option (Cursor → Cursor)) : Nat → TagScan → Option TagScan
  | 0, s => some s
  | fuel + 1, s =>
    let s := s.takeWhile isLineBlank
    if s.place.atEnd then none
    else if s.place.atLineEnd then
      match skip with
      | some skip => takeSpace (some skip) fuel (s.takeLineEnd skip)
      | none => none
    else some s

/-- Takes a quoted value up to its closing quote. -/
def takeQuoted (skip : Option (Cursor → Cursor)) (quote : Char) : Nat → TagScan → Option TagScan
  | 0, _ => none
  | fuel + 1, s =>
    match s.place.rest with
    | [] => none
    | x :: _ =>
      if x = quote then some s.take
      else if isLineEnd x then
        match skip with
        | some skip => takeQuoted (some skip) quote fuel (s.takeLineEnd skip)
        | none => none
      else takeQuoted skip quote fuel s.take

/-- Takes the value of an attribute. -/
def takeValue (skip : Option (Cursor → Cursor)) (fuel : Nat) (s : TagScan) : Option TagScan :=
  match s.place.rest with
  | [] => none
  | x :: _ =>
    if x = '"' ∨ x = '\'' then takeQuoted skip x fuel s.take
    else if x = ' ' ∨ x = '=' ∨ x = '>' ∨ x = '<' ∨ x = '\x60' ∨ isLineEnd x then none
    else
      some (s.takeWhile fun y =>
        !(y == '\'' || y == '"' || y == ' ' || y == '=' || y == '>' || y == '<' || y == '\x60' ||
          isLineEnd y))

/-- Takes the name of an attribute and its value, if it has one. -/
def takeAttribute (skip : Option (Cursor → Cursor)) (fuel : Nat) (s : TagScan) :
    Option TagScan := do
  let x ← s.place.peek?
  if !(x.isAlpha || x == '_' || x == ':') then none
  else
    let s := s.takeWhile fun y => y.isAlphanum || y == '_' || y == '.' || y == ':' || y == '-'
    let spaced ← s.takeSpace skip fuel
    if spaced.place.at? '=' then
      let s ← spaced.take.takeSpace skip fuel
      s.takeValue skip fuel
    else some s

/-- Takes attributes, each after a blank, up to `/` or `>`. -/
def takeAttributes (skip : Option (Cursor → Cursor)) : Nat → TagScan → Option TagScan
  | 0, _ => none
  | fuel + 1, s => do
    let spaced ← s.takeSpace skip fuel
    if spaced.place.at? '/' || spaced.place.at? '>' then some spaced
    else if spaced.place.offset = s.place.offset then none
    else
      let s ← spaced.takeAttribute skip fuel
      takeAttributes skip fuel s

end TagScan

/-- The tag at a cursor that stands at `<`: its text, and the place after it. -/
def rawTag? (skip : Option (Cursor → Cursor)) (c : Cursor) : Option (String × Cursor) := do
  let fuel := c.rest.length + 1
  let opened : TagScan := TagScan.take ⟨[], c⟩
  let closing := opened.place.at? '/'
  let named := if closing then opened.take else opened
  let first ← named.place.peek?
  if !first.isAlpha then none
  else
    let named := named.takeWhile fun y => y.isAlphanum || y == '-'
    let s ← if closing then some named else named.takeAttributes skip fuel
    let s := s.takeWhile isLineBlank
    let s := if !closing && s.place.at? '/' then s.take else s
    if s.place.at? '>' then
      let s := s.take
      some (String.ofList s.text.reverse, s.place)
    else none

/-- Whether a line consists of one whole tag. -/
def tagLine (c : Cursor) : Bool :=
  match rawTag? none c with
  | some (_, after) => after.blankLine?.isSome
  | none => false

/-! ## 3. Comments, instructions, declarations -/

/-- Past the next occurrence of a word. -/
def pastWord? (word : List Char) : List Char → Nat → Option Cursor
  | [], _ => none
  | c :: cs, offset =>
    if word.isPrefixOf (c :: cs) then some ((Cursor.mk offset (c :: cs)).skip word.length)
    else pastWord? word cs (offset + c.utf8Size)

/-- Past the markup that `<!` begins, the cursor standing after it. -/
def pastDeclaration? (c : Cursor) : Option Cursor :=
  match c.rest with
  | '-' :: '-' :: '>' :: _ => some (c.skip 3)
  | '-' :: '-' :: '-' :: '>' :: _ => some (c.skip 4)
  | '-' :: '-' :: _ => (c.skip 2 |> fun d => pastWord? "-->".toList d.rest d.offset)
  | '[' :: _ =>
    if c.startsWith "[CDATA[" then
      let brackets := (c.skip 7).skipWhile (· != ']')
      let d := brackets.skipWhile (· == ']')
      if brackets.at? ']' && d.at? '>' then some d.next else none
    else none
  | x :: _ => if x.isAlpha then pastWord? ['>'] c.rest c.offset else none
  | [] => none

/-- The raw markup at a cursor that stands at `<`: its text, and the place after it. -/
def rawInline? (skip : Cursor → Cursor) (c : Cursor) : Option (String × Cursor) :=
  let whole (after : Option Cursor) : Option (String × Cursor) :=
    after.map fun d => (String.ofList (c.upTo d.offset), d)
  match c.rest with
  | '<' :: '!' :: _ => whole (pastDeclaration? (c.skip 2))
  | '<' :: '?' :: _ => let d := c.skip 2; whole (pastWord? "?>".toList d.rest d.offset)
  | _ => rawTag? (some skip) c

end WikiPage.Markdown
