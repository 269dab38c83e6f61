import WikiPage.Tree.Node
/-!
# Trees as data

A tree can be given to other programs: `Node.datum` says which names its kinds and fields have, and
`Datum.pretty` writes data in lines that are indented by two spaces a level.  The fields of a kind are always
written; children and a span only if there are any.
-/

namespace WikiPage

/-- Data for other programs. -/
inductive Datum where
  | none
  | truth (value : Bool)
  | number (value : Nat)
  | text (value : String)
  | list (items : List Datum)
  | record (fields : List (String × Datum))
  deriving Repr, Inhabited

namespace Datum

/-! ## 1. Writing -/

/-- A digit in base sixteen. -/
def hexDigit (n : Nat) : Char := if n < 10 then Char.ofNat (48 + n) else Char.ofNat (87 + n)

/-- How a character of a text is written. -/
def escapedChar (c : Char) : String :=
  if c = '"' then "\\\""
  else if c = '\\' then "\\\\"
  else if c = '\x08' then "\\b"
  else if c = '\x0c' then "\\f"
  else if c = '\n' then "\\n"
  else if c = '\r' then "\\r"
  else if c = '\t' then "\\t"
  else if c < ' ' then
    "\\u00" ++ String.ofList [hexDigit (c.toNat / 16), hexDigit (c.toNat % 16)]
  else String.singleton c

/-- A text between quotation marks. -/
def quoted (text : String) : String :=
  "\"" ++ String.join (text.toList.map escapedChar) ++ "\""

/-- The start of a line at a level. -/
def newLine (level : Nat) : String := "\n" ++ String.ofList (List.replicate (2 * level) ' ')

/-- Lines between brackets, with commas between them. -/
def enclosed (opening closing : String) (level : Nat) : List String → String
  | [] => opening ++ closing
  | lines =>
    opening ++ newLine (level + 1) ++ String.intercalate ("," ++ newLine (level + 1)) lines ++
      newLine level ++ closing

mutual
/-- Writes a datum that begins on a line of a level. -/
def write (level : Nat) : Datum → String
  | none => "null"
  | truth true => "true"
  | truth false => "false"
  | number n => toString n
  | text value => quoted value
  | list items => enclosed "[" "]" level (writeItems (level + 1) items)
  | record fields => enclosed "\x7b" "\x7d" level (writeFields (level + 1) fields)
/-- Writes the items of a list. -/
def writeItems (level : Nat) : List Datum → List String
  | [] => []
  | item :: rest => write level item :: writeItems level rest
/-- Writes the fields of a record. -/
def writeFields (level : Nat) : List (String × Datum) → List String
  | [] => []
  | (name, value) :: rest => (quoted name ++ ": " ++ write level value) :: writeFields level rest
end

/-- A datum in indented lines. -/
def pretty (d : Datum) : String := write 0 d

/-- A text that may be missing. -/
def optionalText : Option String → Datum
  | some value => text value
  | .none => none

/-- A list of texts. -/
def texts (values : List String) : Datum := list (values.map text)

end Datum

/-! ## 2. Trees -/

/-- A span as data. -/
def Span.datum (s : Span) : Datum := .record [("start", .number s.start), ("end", .number s.stop)]

/-- The value of an attribute as data. -/
def AttrValue.datum : AttrValue → Datum
  | .text value => .text value
  | .flag value => .truth value

/-- The name of a kind in data, and its fields. -/
def NodeKind.datumFields : NodeKind → String × List (String × Datum)
  | .root => ("root", [])
  | .paragraph => ("paragraph", [])
  | .heading level id classes =>
    ("heading",
      [("level", .number level), ("id", .optionalText id), ("classes", .texts classes)])
  | .blockQuote alert => ("blockQuote", [("alert", .optionalText (alert.map Alert.name))])
  | .codeBlock lang code => ("codeBlock", [("lang", .optionalText lang), ("code", .text code)])
  | .list start => ("list", [("start", match start with | some n => .number n | none => .none)])
  | .listItem => ("listItem", [])
  | .taskMarker checked => ("taskMarker", [("checked", .truth checked)])
  | .table alignments => ("table", [("alignments", .texts (alignments.map Alignment.name))])
  | .tableHead => ("tableHead", [])
  | .tableRow => ("tableRow", [])
  | .tableCell => ("tableCell", [])
  | .emphasis => ("emphasis", [])
  | .strong => ("strong", [])
  | .strikethrough => ("strikethrough", [])
  | .superscript => ("superscript", [])
  | .subscript => ("subscript", [])
  | .link url title => ("link", [("url", .text url), ("title", .text title)])
  | .image url title => ("image", [("url", .text url), ("title", .text title)])
  | .text value => ("text", [("value", .text value)])
  | .inlineCode value => ("inlineCode", [("value", .text value)])
  | .html value => ("html", [("value", .text value)])
  | .inlineMath value => ("inlineMath", [("value", .text value)])
  | .displayMath value => ("displayMath", [("value", .text value)])
  | .footnoteReference label => ("footnoteReference", [("label", .text label)])
  | .footnoteDefinition label => ("footnoteDefinition", [("label", .text label)])
  | .definitionList => ("definitionList", [])
  | .definitionTitle => ("definitionTitle", [])
  | .definitionDetails => ("definitionDetails", [])
  | .softBreak => ("softBreak", [])
  | .hardBreak => ("hardBreak", [])
  | .rule => ("rule", [])
  | .element tag attributes =>
    ("element",
      [("tag", .text tag),
       ("attributes", .record (attributes.entries.map fun (name, value) => (name, value.datum)))])

/-- The fields of a node: its kind, the fields of the kind, its children and its span. -/
def NodeKind.nodeDatum (kind : NodeKind) (children : List Datum) (span : Option Span) : Datum :=
  let (type, fields) := kind.datumFields
  .record <| ("type", .text type) :: fields ++
    (if children.isEmpty then [] else [("children", .list children)]) ++
    (span.map fun s => ("span", s.datum)).toList

mutual
/-- A tree as data. -/
def Node.datum : Node → Datum
  | ⟨kind, children, span⟩ => kind.nodeDatum (Node.dataOf children) span
/-- Trees in a row as data. -/
def Node.dataOf : List Node → List Datum
  | [] => []
  | n :: rest => n.datum :: Node.dataOf rest
end

end WikiPage
