import WikiPage.NameMap
import WikiPage.Unicode.Letters
/-!
# Parameters of a shortcode

The parameters that follow the tag in a marker: names, each bare or with a quoted value.  Characters that
belong to neither are passed over one at a time.  A later parameter replaces an earlier one of its name.
-/

namespace WikiPage.Shortcode

/-- The value of a parameter: a bare name is a flag, and so is one with an empty value. -/
inductive ParamValue where
  | flag
  | text (value : String)
  deriving DecidableEq, Repr, Inhabited

/-- Parameters by their names. -/
abbrev Params := NameMap ParamValue

/-- A character of a tag or of the name of a parameter. -/
def isNameChar (c : Char) : Bool := c.isAlphanum || c == '-' || c == '_'

/-- The value between quotation marks. -/
def quotedValue (value : List Char) : ParamValue :=
  if value.isEmpty then .flag else .text (String.ofList value)

/-- How far the reading of a parameter has come; names and values are held in reverse. -/
inductive ParamScan where
  /-- Between parameters. -/
  | outside
  /-- In a name. -/
  | name (reversed : List Char)
  /-- After the equals sign that follows a name. -/
  | equals (name : List Char)
  /-- Between the quotation marks that follow a name and its equals sign. -/
  | value (name reversed : List Char)
  deriving DecidableEq, Repr, Inhabited

namespace ParamScan

/-- A bare name. -/
def flag (reversed : List Char) : String × ParamValue := (String.ofList reversed.reverse, .flag)

/-- Reading of a character outside of parameters. -/
def begin (c : Char) : ParamScan := if isNameChar c then name [c] else outside

/-- Reads one character; a parameter may end with it or before it. -/
def step : ParamScan → Char → ParamScan × List (String × ParamValue)
  | outside, c => (begin c, [])
  | name n, c =>
    if isNameChar c then (name (c :: n), [])
    else if c == '=' then (equals n, [])
    else (outside, [flag n])
  | equals n, c => if c == '"' then (value n [], []) else (begin c, [flag n])
  | value n v, c =>
    if c == '"' then (outside, [(String.ofList n.reverse, quotedValue v.reverse)])
    else (value n (c :: v), [])

/-- What is left at the end: a value that has not been closed is none. -/
def finish : ParamScan → List (String × ParamValue)
  | outside => []
  | name n | equals n | value n _ => [flag n]

/-- Reads characters in order. -/
def run : ParamScan → List Char → List (String × ParamValue)
  | s, [] => s.finish
  | s, c :: rest => (s.step c).2 ++ run (s.step c).1 rest

end ParamScan

/-- The parameters in a list of characters, in order and with repetitions. -/
def scanParams (text : List Char) : List (String × ParamValue) := ParamScan.outside.run text

namespace Params

/-- The parameters of a text. -/
def parse (text : String) : Params :=
  (scanParams text.toList).foldl (fun params (name, value) => params.insert name value) NameMap.empty

/-- The text of a parameter; a flag has none. -/
def getText? (p : Params) (name : String) : Option String :=
  match p.get? name with
  | some (.text value) => some value
  | _ => none

end Params

end WikiPage.Shortcode
