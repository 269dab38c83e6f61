import WikiPage.Html.Builder
/-!
# What tokens do

The rules by which each token changes the state of reading, in each mode.  A rule may also change the
mode and ask for the token to be looked at again.
-/

namespace WikiPage.Html

namespace Builder

/-- What a token has done: it is dealt with, or it is looked at again in another mode. -/
inductive Outcome where
  | done (b : Builder)
  | again (mode : Mode) (b : Builder)
  deriving Inhabited

/-! ## 1. Rules of the head, which hold in the body as well -/

/-- Tags that the rules of the head deal with. -/
def headTags : List String :=
  ["base", "basefont", "bgsound", "link", "meta", "noframes", "script", "style", "template", "title"]

/-- A start tag that belongs into a head. -/
def headStart (b : Builder) (tag : StartTag) : Builder :=
  match tag.name with
  | "title" => b.openText tag (.references "title")
  | "noframes" => b.openText tag (.raw "noframes")
  | "style" => b.openText tag (.raw "style")
  | "script" => b.openText tag .script
  | "template" =>
    { b.mark.openTag tag with mode := .template, templates := .template :: b.templates }
  | _ => b.addTag tag

/-- The end of a template. -/
def endTemplate (b : Builder) : Builder :=
  if b.hasOpen "template" then
    let b := { b with stack := closeImplied thoroughEnds b.stack }
    let b := (b.closeNamed "template").clearToMark
    let b := { b with templates := b.templates.drop 1 }
    { b with mode := b.modeNow }
  else b

/-! ## 2. Rules of the body -/

/-- Elements that are blocks of their own: they end a paragraph. -/
def blocks : List String :=
  ["address", "article", "aside", "blockquote", "center", "details", "dialog", "dir", "div", "dl",
   "fieldset", "figcaption", "figure", "footer", "header", "hgroup", "main", "menu", "nav", "ol",
   "p", "search", "section", "summary", "ul"]

/-- Elements whose end tags close them with everything in them. -/
def closedBlocks : List String :=
  ["address", "article", "aside", "blockquote", "button", "center", "details", "dialog", "dir",
   "div", "dl", "fieldset", "figcaption", "figure", "footer", "header", "hgroup", "listing", "main",
   "menu", "nav", "ol", "pre", "search", "section", "summary", "ul"]

/-- Formatting elements, but for links and unbroken lines. -/
def formattingTags : List String :=
  ["b", "big", "code", "em", "font", "i", "s", "small", "strike", "strong", "tt", "u"]

/-- Tags that mean nothing outside of their context. -/
def misplacedTags : List String :=
  ["body", "caption", "col", "colgroup", "frame", "frameset", "head", "html", "tbody", "td", "tfoot",
   "th", "thead", "tr"]

/-- The start of a list item or of a part of a definition list: an open one of its sort ends. -/
def startItem (b : Builder) (tag : StartTag) : Builder :=
  let sort := if tag.name == "li" then ["li"] else ["dd", "dt"]
  let stops := fun (e : OpenElement) =>
    e.isHtmlIn sort || (isSpecial e && !e.isHtmlIn ["address", "div", "p"])
  let b := match b.stack.find? stops with
    | some e => if e.isHtmlIn sort then (b.impliedEnd e.name).closeNamed e.name else b
    | none => b
  b.endParagraph.openTag tag

/-- The start of a link: an open link ends. -/
def startLink (b : Builder) (tag : StartTag) : Builder :=
  let b := match b.carried.find? (·.name? == some "a") with
    | some (.element id _) => ((b.endFormatting "a").forget id).removeOpen id
    | _ => b
  b.reopen.openFormatting tag

/-- The start of an element of another vocabulary. -/
def startForeign (b : Builder) (space : Space) (tag : StartTag) : Builder :=
  if tag.selfClosing then (b.addElement space tag).2 else (b.openElement space tag).2

/-- A start tag in the body. -/
def bodyStart (b : Builder) (tag : StartTag) : Builder :=
  let tag := if tag.name == "image" then { tag with name := "img" } else tag
  let name := tag.name
  if headTags.contains name then b.headStart tag
  else if misplacedTags.contains name then b
  else if blocks.contains name then b.endParagraph.openTag tag
  else if headings.contains name then
    let b := b.endParagraph
    (if b.current (·.isHtmlIn headings) then b.pop else b).openTag tag
  else if formattingTags.contains name then b.reopen.openFormatting tag
  else match name with
  | "pre" | "listing" => { b.endParagraph.openTag tag with skipLineFeed := true }
  | "form" =>
    let nested := b.hasOpen "template"
    if b.form.isSome && !nested then b
    else
      let (id, b) := b.endParagraph.openElement .html tag
      if nested then b else { b with form := some id }
  | "li" | "dd" | "dt" => b.startItem tag
  | "plaintext" => { b.endParagraph.openTag tag with lexing := .plain }
  | "button" =>
    let b := if b.hasInScope isBound "button" then (b.impliedEnd "").closeNamed "button" else b
    b.reopen.openTag tag
  | "a" => b.startLink tag
  | "nobr" =>
    let b := b.reopen
    let b := if b.hasInScope isBound "nobr" then (b.endFormatting "nobr").reopen else b
    b.openFormatting tag
  | "applet" | "marquee" | "object" => (b.reopen.openTag tag).mark
  | "table" => { b.endParagraph.openTag tag with mode := .table }
  | "area" | "br" | "embed" | "img" | "keygen" | "wbr" | "input" => b.reopen.addTag tag
  | "param" | "source" | "track" => b.addTag tag
  | "hr" => b.endParagraph.addTag tag
  | "textarea" => { b.openText tag (.references "textarea") with skipLineFeed := true }
  | "xmp" => b.endParagraph.reopen.openText tag (.raw "xmp")
  | "iframe" | "noembed" | "noscript" => b.openText tag (.raw name)
  | "select" =>
    let mode := match b.mode with
      | .table | .caption | .tableBody | .row | .cell => Mode.selectInTable
      | _ => .select
    { b.reopen.openTag tag with mode }
  | "optgroup" | "option" => (b.popIf "option").reopen.openTag tag
  | "rb" | "rtc" => (if b.hasInScope isBound "ruby" then b.impliedEnd "" else b).openTag tag
  | "rp" | "rt" => (if b.hasInScope isBound "ruby" then b.impliedEnd "rtc" else b).openTag tag
  | "math" => b.reopen.startForeign .math tag
  | "svg" => b.reopen.startForeign .svg tag
  | _ => b.reopen.openTag tag

/-- The end of a form. -/
def endForm (b : Builder) : Builder :=
  if b.hasOpen "template" then
    if b.hasInScope isBound "form" then (b.impliedEnd "").closeNamed "form" else b
  else match b.form with
    | none => b
    | some id =>
      let b := { b with form := none }
      if inScope isBound (·.id == id) b.stack then (b.impliedEnd "").removeOpen id else b

/-- An end tag in the body. -/
def bodyStop (b : Builder) (name : String) : Builder :=
  if closedBlocks.contains name then
    if b.hasInScope isBound name then (b.impliedEnd "").closeNamed name else b
  else if headings.contains name then
    if inScope isBound (·.isHtmlIn headings) b.stack then
      { b with stack := closeThrough (·.isHtmlIn headings) (b.impliedEnd "").stack }
    else b
  else if formattingTags.contains name then b.endFormatting name
  else match name with
  | "template" => b.endTemplate
  | "body" | "html" => b
  | "form" => b.endForm
  | "p" =>
    (if b.hasInScope isButtonBound "p" then b else b.openImplied "p").closeParagraph
  | "li" => if b.hasInScope isListBound name then (b.impliedEnd name).closeNamed name else b
  | "dd" | "dt" => if b.hasInScope isBound name then (b.impliedEnd name).closeNamed name else b
  | "a" | "nobr" => b.endFormatting name
  | "applet" | "marquee" | "object" =>
    if b.hasInScope isBound name then ((b.impliedEnd "").closeNamed name).clearToMark else b
  | "br" => b.reopen.addTag { name }
  | _ => b.closeOther name

/-- A token by the rules of the body. -/
def inBody (b : Builder) : Token → Builder
  | .text value => b.reopen.addText value
  | .null | .comment | .doctype => b
  | .start tag => b.bodyStart tag
  | .stop name => b.bodyStop name

/-- A token by the rules of the body, with what it adds moved out of the table. -/
def inBodyOutside (b : Builder) (t : Token) : Builder :=
  { inBody { b with fostering := true } t with fostering := false }

/-! ## 3. Rules of text -/

/-- A token in an element that holds nothing but text. -/
def inText (b : Builder) : Token → Builder
  | .text value => b.addText value
  | .stop _ => { b.pop with mode := b.resumed }
  | _ => b

/-! ## 4. Rules of tables -/

/-- Whether a list of characters is blank. -/
def isBlankText (value : List Char) : Bool := value.all isTagBlank

/-- A token between the parts of a table. -/
def inTable (b : Builder) (t : Token) : Outcome :=
  match t with
  | .text _ | .null =>
    if b.current isFosterTarget then .again .tableText { b with resumed := b.mode }
    else .done (b.inBodyOutside t)
  | .comment | .doctype => .done b
  | .start tag =>
    let b' := b.closeTo isTableBound
    match tag.name with
    | "caption" => .done { b'.mark.openTag tag with mode := .caption }
    | "colgroup" => .done { b'.openTag tag with mode := .columns }
    | "col" => .again .columns (b'.openImplied "colgroup")
    | "tbody" | "tfoot" | "thead" => .done { b'.openTag tag with mode := .tableBody }
    | "td" | "th" | "tr" => .again .tableBody (b'.openImplied "tbody")
    | "table" =>
      if b.hasInScope isTableBound "table" then
        let b := b.closeNamed "table"
        .again b.modeNow b
      else .done b
    | "style" | "script" | "template" => .done (b.headStart tag)
    | "input" =>
      let hidden := (tag.attributes.lookup "type").any fun v => v.toList.map Char.toLower == "hidden".toList
      .done (if hidden then b.addTag tag else b.inBodyOutside t)
    | "form" =>
      if !b.hasOpen "template" && b.form.isNone then
        let (id, b) := b.addElement .html tag
        .done { b with form := some id }
      else .done b
    | _ => .done (b.inBodyOutside t)
  | .stop name =>
    match name with
    | "table" =>
      if b.hasInScope isTableBound "table" then
        let b := b.closeNamed "table"
        .done { b with mode := b.modeNow }
      else .done b
    | "template" => .done b.endTemplate
    | _ =>
      if ["body", "caption", "col", "colgroup", "html", "tbody", "td", "tfoot", "th", "thead",
          "tr"].contains name then .done b
      else .done (b.inBodyOutside t)

/-- Places the text that was read in a table: blank text stays, other text is moved out. -/
def placePending (b : Builder) : Builder :=
  let pending := b.pending.reverse
  let b := { b with pending := [], mode := b.resumed }
  if pending.all isBlankText then pending.foldl addText b
  else pending.foldl (fun b value => b.inBodyOutside (.text value)) b

/-- A token after text in a table. -/
def inTableText (b : Builder) (t : Token) : Outcome :=
  match t with
  | .null => .done b
  | .text value => .done { b with pending := value :: b.pending }
  | _ =>
    let b := b.placePending
    .again b.mode b

/-- A token in the caption of a table. -/
def inCaption (b : Builder) (t : Token) : Outcome :=
  let ends := b.hasInScope isTableBound "caption"
  let closed := ((b.impliedEnd "").closeNamed "caption").clearToMark
  match t with
  | .start tag =>
    if ["caption", "col", "colgroup", "tbody", "td", "tfoot", "th", "thead", "tr"].contains tag.name then
      if ends then .again .table closed else .done b
    else .done (b.inBody t)
  | .stop name =>
    if name == "caption" then .done (if ends then { closed with mode := .table } else b)
    else if name == "table" then if ends then .again .table closed else .done b
    else if ["body", "col", "colgroup", "html", "tbody", "td", "tfoot", "th", "thead",
        "tr"].contains name then .done b
    else .done (b.inBody t)
  | _ => .done (b.inBody t)

/-- A token among the columns of a table. -/
def inColumns (b : Builder) (t : Token) : Outcome :=
  let leave := fun (b : Builder) =>
    if b.currentIs "colgroup" then Outcome.again .table b.pop else .done b
  match t with
  | .text value =>
    let blank := value.takeWhile isTagBlank
    let b := if blank.isEmpty then b else b.addText blank
    if blank.length = value.length then .done b else leave b
  | .comment | .doctype => .done b
  | .start tag =>
    match tag.name with
    | "html" => .done b
    | "col" => .done (b.addTag tag)
    | "template" => .done (b.headStart tag)
    | _ => leave b
  | .stop name =>
    match name with
    | "colgroup" =>
      .done (if b.currentIs "colgroup" then { b.pop with mode := .table } else b)
    | "col" => .done b
    | "template" => .done b.endTemplate
    | _ => leave b
  | .null => leave b

/-- A token between the rows of a table. -/
def inTableBody (b : Builder) (t : Token) : Outcome :=
  let b' := b.closeTo isBodyContext
  let leave :=
    if inScope isTableBound (·.isHtmlIn ["table", "tbody", "tfoot"]) b.stack then
      Outcome.again .table b'.pop
    else .done b
  match t with
  | .start tag =>
    match tag.name with
    | "tr" => .done { b'.openTag tag with mode := .row }
    | "th" | "td" => .again .row (b'.openImplied "tr")
    | "caption" | "col" | "colgroup" | "tbody" | "tfoot" | "thead" => leave
    | _ => b.inTable t
  | .stop name =>
    match name with
    | "tbody" | "tfoot" | "thead" =>
      .done (if b.hasInScope isTableBound name then { b'.pop with mode := .table } else b)
    | "table" => leave
    | "body" | "caption" | "col" | "colgroup" | "html" | "td" | "th" | "tr" => .done b
    | _ => b.inTable t
  | _ => b.inTable t

/-- A token between the cells of a row. -/
def inRow (b : Builder) (t : Token) : Outcome :=
  let b' := b.closeTo isRowContext
  let leave :=
    if b.hasInScope isTableBound "tr" then Outcome.again .tableBody b'.pop else .done b
  match t with
  | .start tag =>
    match tag.name with
    | "th" | "td" => .done { (b'.openTag tag).mark with mode := .cell }
    | "caption" | "col" | "colgroup" | "tbody" | "tfoot" | "thead" | "tr" => leave
    | _ => b.inTable t
  | .stop name =>
    match name with
    | "tr" =>
      .done (if b.hasInScope isTableBound "tr" then { b'.pop with mode := .tableBody } else b)
    | "table" => leave
    | "tbody" | "tfoot" | "thead" => if b.hasInScope isTableBound name then leave else .done b
    | "body" | "caption" | "col" | "colgroup" | "html" | "td" | "th" => .done b
    | _ => b.inTable t
  | _ => b.inTable t

/-- A token in a cell. -/
def inCell (b : Builder) (t : Token) : Outcome :=
  let isCell := fun (e : OpenElement) => e.isHtmlIn ["td", "th"]
  let closed := { b with stack := closeThrough isCell (b.impliedEnd "").stack }.clearToMark
  match t with
  | .start tag =>
    if ["caption", "col", "colgroup", "tbody", "td", "tfoot", "th", "thead", "tr"].contains tag.name then
      if inScope isTableBound isCell b.stack then .again .row closed else .done b
    else .done (b.inBody t)
  | .stop name =>
    match name with
    | "td" | "th" =>
      .done <|
        if b.hasInScope isTableBound name then
          { ((b.impliedEnd "").closeNamed name).clearToMark with mode := .row }
        else b
    | "body" | "caption" | "col" | "colgroup" | "html" => .done b
    | "table" | "tbody" | "tfoot" | "thead" | "tr" =>
      if b.hasInScope isTableBound name then .again .row closed else .done b
    | _ => .done (b.inBody t)
  | _ => .done (b.inBody t)

/-! ## 5. Rules of choices -/

/-- Closes a choice. -/
def endSelect (b : Builder) : Builder :=
  let b := b.closeNamed "select"
  { b with mode := b.modeNow }

/-- A token in a choice. -/
def inSelect (b : Builder) (t : Token) : Outcome :=
  let inside := b.hasInScope isSelectBound "select"
  match t with
  | .text value => .done (b.addText value)
  | .start tag =>
    match tag.name with
    | "option" => .done ((b.popIf "option").openTag tag)
    | "optgroup" => .done (((b.popIf "option").popIf "optgroup").openTag tag)
    | "hr" => .done (((b.popIf "option").popIf "optgroup").addTag tag)
    | "select" => .done (if inside then b.endSelect else b)
    | "input" | "keygen" | "textarea" =>
      if inside then
        let b := b.endSelect
        .again b.mode b
      else .done b
    | "script" | "template" => .done (b.headStart tag)
    | _ => .done b
  | .stop name =>
    match name with
    | "optgroup" =>
      let b := match b.stack with
        | e :: f :: _ => if e.isHtml "option" && f.isHtml "optgroup" then b.pop else b
        | _ => b
      .done (b.popIf "optgroup")
    | "option" => .done (b.popIf "option")
    | "select" => .done (if inside then b.endSelect else b)
    | "template" => .done b.endTemplate
    | _ => .done b
  | _ => .done b

/-- A token in a choice that stands in a table. -/
def inSelectInTable (b : Builder) (t : Token) : Outcome :=
  let parts := ["caption", "table", "tbody", "tfoot", "thead", "tr", "td", "th"]
  let again := fun (b : Builder) => let b := b.endSelect; Outcome.again b.mode b
  match t with
  | .start tag => if parts.contains tag.name then again b else b.inSelect t
  | .stop name =>
    if parts.contains name then if b.hasInScope isTableBound name then again b else .done b
    else b.inSelect t
  | _ => b.inSelect t

/-! ## 6. Rules of templates -/

/-- A token in a template, whose first tag decides how the template is read. -/
def inTemplate (b : Builder) (t : Token) : Outcome :=
  let become := fun mode => Outcome.again mode { b with templates := mode :: b.templates.drop 1 }
  match t with
  | .start tag =>
    if headTags.contains tag.name then .done (b.headStart tag)
    else match tag.name with
    | "caption" | "colgroup" | "tbody" | "tfoot" | "thead" => become .table
    | "col" => become .columns
    | "tr" => become .tableBody
    | "td" | "th" => become .row
    | _ => become .body
  | .stop name => .done (if name == "template" then b.endTemplate else b)
  | _ => .done (b.inBody t)

/-- A token by the rules of a mode. -/
def inMode (b : Builder) (mode : Mode) (t : Token) : Outcome :=
  match mode with
  | .body => .done (b.inBody t)
  | .text => .done (b.inText t)
  | .table => b.inTable t
  | .tableText => b.inTableText t
  | .caption => b.inCaption t
  | .columns => b.inColumns t
  | .tableBody => b.inTableBody t
  | .row => b.inRow t
  | .cell => b.inCell t
  | .select => b.inSelect t
  | .selectInTable => b.inSelectInTable t
  | .template => b.inTemplate t

/-! ## 7. Rules of other vocabularies -/

/-- Whether the innermost open element is one of another vocabulary; the root is not. -/
def inForeign (b : Builder) : Bool :=
  match b.stack with
  | e :: _ :: _ => e.space ≠ .html
  | _ => false

/-- Whether a token is one of the vocabulary of the innermost open element. -/
def isForeign (b : Builder) (t : Token) : Bool :=
  match b.stack with
  | e :: _ :: _ =>
    if e.space = .html then false
    else match t with
    | .text _ | .null => !(e.holdsMathText || e.holdsGraphicText || e.holdsHtml)
    | .start tag =>
      if e.holdsMathText && !(["mglyph", "malignmark"].contains tag.name) then false
      else if e.holdsGraphicText then false
      else if e.space = .math && e.name == "annotation-xml" then
        !(tag.name == "svg" || e.holdsHtml)
      else true
    | _ => true
  | _ => false

/-- Hypertext elements that do not stand in another vocabulary. -/
def breakingTags : List String :=
  ["b", "big", "blockquote", "body", "br", "center", "code", "dd", "div", "dl", "dt", "em", "embed",
   "h1", "h2", "h3", "h4", "h5", "h6", "head", "hr", "i", "img", "li", "listing", "menu", "meta",
   "nobr", "ol", "p", "pre", "ruby", "s", "small", "span", "strong", "strike", "sub", "sup", "table",
   "tt", "u", "ul", "var"]

/-- Whether a start tag leads out of another vocabulary. -/
def breaksOut (tag : StartTag) : Bool :=
  breakingTags.contains tag.name ||
    (tag.name == "font" && tag.attributes.any fun a => ["color", "face", "size"].contains a.1)

/-- A token that leads out of another vocabulary. -/
def breakOut (b : Builder) (t : Token) : Outcome :=
  let b := b.closeTo fun e => e.space = .html || e.holdsMathText || e.holdsGraphicText
  b.inMode b.mode t

/-- An end tag in another vocabulary: it closes an element of its name, in either case, unless a
hypertext element is open in between, whose rules then hold. -/
def foreignStop (b : Builder) (name : String) : (first : Bool) → List OpenElement → Outcome
  | _, [] | _, [_] => .done b
  | first, e :: rest =>
    if !first && e.space = .html then b.inMode b.mode (.stop name)
    else if String.ofList (e.name.toList.map Char.toLower) == name then .done { b with stack := rest }
    else b.foreignStop name false rest

/-- A token of another vocabulary. -/
def inOther (b : Builder) (t : Token) : Outcome :=
  match t with
  | .text value => .done (b.addText value)
  | .null => .done (b.addText ['\uFFFD'])
  | .comment | .doctype => .done b
  | .start tag =>
    if breaksOut tag then b.breakOut t
    else match b.stack with
      | e :: _ => .done (b.startForeign e.space tag)
      | [] => .done b
  | .stop name =>
    if name == "br" || name == "p" then b.breakOut t else b.foreignStop name true b.stack

/-! ## 8. Tokens in order -/

/-- Deals with a token, looking at it a bounded number of times. -/
def takeWithin : Nat → Token → Builder → Builder
  | 0, _, b => b
  | n + 1, t, b =>
    match (if b.isForeign t then b.inOther t else b.inMode b.mode t) with
    | .done b => b
    | .again mode b => takeWithin n t { b with mode }

/-- Deals with a token.  Each time it is looked at again, an element has been closed or the mode has
come nearer to that of the body. -/
def take (b : Builder) (t : Token) : Builder :=
  let skip := b.skipLineFeed
  let b := { b with skipLineFeed := false }
  let t := match t with
    | .text ('\n' :: rest) => if skip then .text rest else t
    | t => t
  if t == .text [] then b else takeWithin (2 * b.stack.length + 16) t b

/-- Reads tokens to the end of a text. -/
def readAll : Nat → List Char → Builder → Builder
  | 0, _, b => b
  | n + 1, text, b =>
    match readToken b.lexing b.inForeign text with
    | .finished => b
    | .nothing rest => readAll n rest b
    | .token t rest =>
      let b := match t with
        | .stop _ => { b with lexing := .markup }
        | _ => b
      readAll n rest (b.take t)

end Builder

/-- The trees of a hypertext that stands in a block element. -/
def parseFragment (text : String) : List Tree :=
  let input := inputOf text
  let b := Builder.readAll (input.length + 1) input .start
  let b := if b.mode = .tableText then b.placePending else b
  b.dom.treesIn 0

end WikiPage.Html
