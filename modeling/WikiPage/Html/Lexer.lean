import WikiPage.Markdown.CharReference
import WikiPage.Unicode.Named
/-!
# Tokens of hypertext

A markup text is read as tokens: runs of text, start and end tags, comments.  Nothing is an error: what
is no markup is text, and markup that the text ends in is left out.  Which characters are markup depends
on the element that is being read, so one token is read at a time, in a mode that its reader chooses.
-/

namespace WikiPage.Html

/-- An attribute with its value. -/
abbrev Attribute := String × String

/-- A start tag. -/
structure StartTag where
  name : String
  attributes : List Attribute := []
  selfClosing : Bool := false
  deriving DecidableEq, Repr, Inhabited

/-- A token. -/
inductive Token where
  /-- Text that holds no null character. -/
  | text (value : List Char)
  /-- A null character in text. -/
  | null
  | comment
  | doctype
  | start (tag : StartTag)
  | stop (name : String)
  deriving DecidableEq, Repr, Inhabited

/-- How the text is read. -/
inductive LexMode where
  /-- All markup is read. -/
  | markup
  /-- Nothing but references is read, up to the end tag of an element. -/
  | references (element : String)
  /-- Nothing is read, up to the end tag of an element. -/
  | raw (element : String)
  /-- Nothing is read, up to the end tag of a script. -/
  | script
  /-- Nothing is read any more. -/
  | plain
  deriving DecidableEq, Repr, Inhabited

/-- A blank between the parts of a tag. -/
def isTagBlank (c : Char) : Bool := c == ' ' || c == '\t' || c == '\n' || c == '\x0c'

/-- Null characters are shown as replacement characters. -/
def withoutNull (c : Char) : Char := if c == '\x00' then '\uFFFD' else c

/-! ## 1. References -/

/-- The characters that the codes from 0x80 to 0x9F are taken for; zero where a code stands for itself. -/
def legacyCodes : List Nat :=
  [0x20AC, 0, 0x201A, 0x0192, 0x201E, 0x2026, 0x2020, 0x2021, 0x02C6, 0x2030, 0x0160, 0x2039, 0x0152,
   0, 0x017D, 0, 0, 0x2018, 0x2019, 0x201C, 0x201D, 0x2022, 0x2013, 0x2014, 0x02DC, 0x2122, 0x0161,
   0x203A, 0x0153, 0, 0x017E, 0x0178]

/-- The character of a numeric reference. -/
def charOfCode (n : Nat) : Char :=
  if n = 0 ∨ 0x10FFFF < n ∨ (0xD800 ≤ n ∧ n ≤ 0xDFFF) then '\uFFFD'
  else if 0x80 ≤ n ∧ n ≤ 0x9F then
    match legacyCodes[n - 0x80]? with
    | some 0 | none => Char.ofNat n
    | some m => Char.ofNat m
  else Char.ofNat n

/-- A numeric reference after `&#`: the character and what follows. -/
def numericReference? (digit? : Char → Option Nat) (base : Nat) (text : List Char) :
    Option (List Char × List Char) :=
  let digits := text.takeWhile fun c => (digit? c).isSome
  let rest := text.dropWhile fun c => (digit? c).isSome
  if digits.isEmpty then none
  else
    let code := digits.foldl (fun n c => n * base + (digit? c).getD 0) 0
    some ([charOfCode code], if rest.head? = some ';' then rest.drop 1 else rest)

/-- The longest beginning of a name that is a name without a semicolon, of at most a given length. -/
def unclosedName? (run : List Char) : Nat → Option (Nat × List Char)
  | 0 => none
  | n + 1 =>
    let name := String.ofList (run.take (n + 1))
    if Unicode.unclosedNames.contains name then
      (Unicode.namedCharacters? name).map fun cs => (n + 1, cs)
    else unclosedName? run n

/-- The reference after an ampersand: the characters it stands for and what follows.  In the value of an
attribute, a name without a semicolon is none when a letter, a digit or an equals sign follows it. -/
def reference? (inAttribute : Bool) (text : List Char) : Option (List Char × List Char) :=
  match text with
  | '#' :: 'x' :: rest | '#' :: 'X' :: rest => numericReference? Markdown.hexDigit? 16 rest
  | '#' :: rest => numericReference? Markdown.decDigit? 10 rest
  | _ =>
    let run := text.takeWhile Char.isAlphanum
    let rest := text.dropWhile Char.isAlphanum
    let closed := match rest with
      | ';' :: after => (Unicode.namedCharacters? (String.ofList run)).map fun cs => (cs, after)
      | _ => none
    match closed with
    | some result => some result
    | none =>
      match unclosedName? run (min run.length 6) with
      | none => none
      | some (n, cs) =>
        let after := text.drop n
        let continued := match after with
          | c :: _ => c == '=' || c.isAlphanum
          | [] => false
        if inAttribute && continued then none else some (cs, after)

/-! ## 2. Tags -/

/-- Reads the value of an attribute up to a character that ends it. -/
def readValue (ends : Char → Bool) : Nat → List Char → List Char × List Char
  | 0, text => ([], text)
  | _ + 1, [] => ([], [])
  | fuel + 1, c :: rest =>
    if ends c then ([], c :: rest)
    else if c == '&' then
      match reference? true rest with
      | some (cs, after) =>
        let (value, after) := readValue ends fuel after
        (cs ++ value, after)
      | none =>
        let (value, after) := readValue ends fuel rest
        (c :: value, after)
    else
      let (value, after) := readValue ends fuel rest
      (withoutNull c :: value, after)

/-- The value after an equals sign, with the rest of the tag; nothing when the text ends before it. -/
def attributeValue? (text : List Char) : Option (List Char × List Char) :=
  match text.dropWhile isTagBlank with
  | [] => none
  | '>' :: rest => some ([], '>' :: rest)
  | '"' :: rest =>
    match readValue (· == '"') (rest.length + 1) rest with
    | (value, _ :: after) => some (value, after)
    | (_, []) => none
  | '\'' :: rest =>
    match readValue (· == '\'') (rest.length + 1) rest with
    | (value, _ :: after) => some (value, after)
    | (_, []) => none
  | text => some (readValue (fun c => isTagBlank c || c == '>') (text.length + 1) text)

/-- Adds an attribute at the end, unless there is one of its name. -/
def addAttribute (attributes : List Attribute) (name value : String) : List Attribute :=
  if attributes.any (·.1 == name) then attributes else attributes ++ [(name, value)]

/-- A name as tags and attributes have it. -/
def lowerName (cs : List Char) : String := String.ofList (cs.map fun c => withoutNull c.toLower)

/-- Reads the attributes of a tag: they, whether the tag closes itself, and what follows it.  A tag that
the text ends in is none. -/
def readAttributes : Nat → List Attribute → List Char → Option (List Attribute × Bool × List Char)
  | 0, _, _ => none
  | fuel + 1, attributes, text =>
    match text.dropWhile isTagBlank with
    | [] => none
    | '>' :: rest => some (attributes, false, rest)
    | '/' :: '>' :: rest => some (attributes, true, rest)
    | '/' :: rest => readAttributes fuel attributes rest
    | c :: rest =>
      let inName := fun c => !(isTagBlank c || c == '/' || c == '>' || c == '=')
      let name := lowerName (c :: rest.takeWhile inName)
      match (rest.dropWhile inName).dropWhile isTagBlank with
      | '=' :: after =>
        match attributeValue? after with
        | some (value, after) =>
          readAttributes fuel (addAttribute attributes name (String.ofList value)) after
        | none => none
      | after => readAttributes fuel (addAttribute attributes name "") after

/-- A tag from its name on. -/
def readTag (text : List Char) : Option (StartTag × List Char) :=
  let inName := fun c => !(isTagBlank c || c == '/' || c == '>')
  let name := lowerName (text.takeWhile inName)
  (readAttributes (text.length + 1) [] (text.dropWhile inName)).map
    fun (attributes, selfClosing, rest) => (⟨name, attributes, selfClosing⟩, rest)

/-! ## 3. Comments and other declarations -/

/-- What follows the first place where a given text stands; nothing when it does not stand anywhere. -/
def after (mark : List Char) : List Char → List Char
  | [] => []
  | c :: rest => if mark.isPrefixOf (c :: rest) then (c :: rest).drop mark.length else after mark rest

/-- What follows a comment whose text begins here. -/
def afterCommentText : List Char → List Char
  | [] => []
  | '-' :: '-' :: '>' :: rest => rest
  | '-' :: '-' :: '!' :: '>' :: rest => rest
  | _ :: rest => afterCommentText rest

/-- What follows a comment, from the end of its opening mark on. -/
def afterComment (text : List Char) : List Char :=
  match text with
  | '>' :: rest => rest
  | '-' :: '>' :: rest => rest
  | text => afterCommentText text

/-- Whether a text begins with a word, in either case. -/
def startsWithWord (word : String) (text : List Char) : Bool :=
  (text.take word.length).map Char.toLower == word.toList

/-- The text up to a mark, and what follows the mark. -/
def splitAt (mark : List Char) : List Char → List Char × List Char
  | [] => ([], [])
  | c :: rest =>
    if mark.isPrefixOf (c :: rest) then ([], (c :: rest).drop mark.length)
    else
      let (inside, after) := splitAt mark rest
      (c :: inside, after)

/-! ## 4. Scripts -/

/-- How far a script is commented out, and the number of dashes just before. -/
inductive ScriptState where
  | open
  | escaped (dashes : Nat)
  /-- In a script inside the comment. -/
  | nested (dashes : Nat)
  deriving DecidableEq, Repr, Inhabited

/-- Whether a word stands here as the name of a tag. -/
def nameFollows (name : String) (text : List Char) : Bool :=
  startsWithWord name text &&
    match text.drop name.length with
    | c :: _ => isTagBlank c || c == '/' || c == '>'
    | [] => false

/-- Passes over a script up to its end tag. -/
def afterScript : ScriptState → List Char → List Char
  | _, [] => []
  | s, c :: rest =>
    let next := match s with
      | .open => if c == '<' && "!--".toList.isPrefixOf rest then .escaped 0 else .open
      | .escaped n =>
        if c == '-' then .escaped (n + 1)
        else if c == '>' && 2 ≤ n then .open
        else if c == '<' && nameFollows "script" rest then .nested 0
        else .escaped 0
      | .nested n =>
        if c == '-' then .nested (n + 1)
        else if c == '>' && 2 ≤ n then .open
        else if c == '<' && rest.head? == some '/' && nameFollows "script" (rest.drop 1) then
          .escaped 0
        else .nested 0
    let ends := match s with
      | .nested _ => false
      | _ => c == '<' && rest.head? == some '/' && nameFollows "script" (rest.drop 1)
    if ends then c :: rest else afterScript next rest

/-! ## 5. Tokens -/

/-- What reading one token gives: the token and the rest, only a rest, or the end of the text. -/
inductive Lexed where
  | token (t : Token) (rest : List Char)
  | nothing (rest : List Char)
  | finished
  deriving Repr, Inhabited

/-- An end tag, from its name on. -/
def readStop (text : List Char) : Lexed :=
  match readTag text with
  | some (tag, rest) => .token (.stop tag.name) rest
  | none => .finished

/-- What stands after a `<`.  Sections of unparsed text are known in some elements only. -/
def readMarkup (sections : Bool) (text : List Char) : Lexed :=
  match text with
  | '!' :: '-' :: '-' :: rest => .token .comment (afterComment rest)
  | '!' :: rest =>
    if startsWithWord "doctype" rest then .token .doctype (after ['>'] rest)
    else if sections && "[CDATA[".toList.isPrefixOf rest then
      let (inside, rest) := splitAt "]]>".toList (rest.drop 7)
      .token (.text (inside.map withoutNull)) rest
    else .token .comment (after ['>'] rest)
  | '/' :: rest =>
    match rest with
    | [] => .token (.text ['<', '/']) []
    | '>' :: rest => .nothing rest
    | c :: _ => if c.isAlpha then readStop rest else .token .comment (after ['>'] rest)
  | '?' :: rest => .token .comment (after ['>'] rest)
  | c :: rest =>
    if c.isAlpha then
      match readTag (c :: rest) with
      | some (tag, rest) => .token (.start tag) rest
      | none => .finished
    else .token (.text ['<']) (c :: rest)
  | [] => .token (.text ['<']) []

/-- Reads a token where the text is read up to the end tag of an element. -/
def readUpTo (element : String) (references : Bool) (text : List Char) : Lexed :=
  match text with
  | [] => .finished
  | '<' :: '/' :: rest =>
    if nameFollows element rest then readStop rest else .token (.text ['<']) ('/' :: rest)
  | '<' :: rest => .token (.text ['<']) rest
  | c :: rest =>
    if c == '&' && references then
      match reference? false rest with
      | some (cs, after) => .token (.text cs) after
      | none => .token (.text [c]) rest
    else
      let plain := fun c => !(c == '<' || (c == '&' && references))
      .token (.text (withoutNull c :: (rest.takeWhile plain).map withoutNull)) (rest.dropWhile plain)

/-- Reads one token. -/
def readToken (mode : LexMode) (sections : Bool) (text : List Char) : Lexed :=
  match mode with
  | .references element => readUpTo element true text
  | .raw element => readUpTo element false text
  | .script =>
    match afterScript .open text with
    | '<' :: '/' :: rest => readStop rest
    | _ => .finished
  | .plain => if text.isEmpty then .finished else .token (.text (text.map withoutNull)) []
  | .markup =>
    match text with
    | [] => .finished
    | '<' :: rest => readMarkup sections rest
    | '&' :: rest =>
      match reference? false rest with
      | some (cs, after) => .token (.text cs) after
      | none => .token (.text ['&']) rest
    | '\x00' :: rest => .token .null rest
    | c :: rest =>
      let plain := fun c => !(c == '<' || c == '&' || c == '\x00')
      .token (.text (c :: rest.takeWhile plain)) (rest.dropWhile plain)

/-- Ends of lines are single line feeds. -/
def normalizeLines : List Char → List Char
  | '\r' :: '\n' :: rest => '\n' :: normalizeLines rest
  | '\r' :: rest => '\n' :: normalizeLines rest
  | c :: rest => c :: normalizeLines rest
  | [] => []

/-- A text as it is read: without a mark of byte order at its start. -/
def inputOf (text : String) : List Char :=
  normalizeLines (match text.toList with
    | '\uFEFF' :: rest => rest
    | cs => cs)

end WikiPage.Html
