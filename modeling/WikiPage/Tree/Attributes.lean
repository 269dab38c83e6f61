import WikiPage.NameMap
/-!
# Attributes

The attributes of a generated element: a finite map from names to values, written in the byte order of
the names.
-/

namespace WikiPage

/-- The value of an attribute.  A flag is written as a bare name when set and left out when not. -/
inductive AttrValue where
  | text (value : String)
  | flag (set : Bool)
  deriving DecidableEq, Repr, Inhabited

namespace AttrValue

/-- The text of a textual value. -/
def text? : AttrValue → Option String
  | .text value => some value
  | .flag _ => none

end AttrValue

/-- Attribute names with their values. -/
abbrev Attributes := NameMap AttrValue

namespace Attributes

/-- No attributes. -/
def empty : Attributes := NameMap.empty

/-- Adds a textual attribute. -/
def withText (a : Attributes) (name value : String) : Attributes := a.insert name (.text value)

/-- Adds a flag. -/
def withFlag (a : Attributes) (name : String) (set : Bool) : Attributes := a.insert name (.flag set)

/-- The attributes of a list of pairs, a later pair winning over an earlier one. -/
def ofList (entries : List (String × AttrValue)) : Attributes :=
  entries.foldl (fun a e => a.insert e.1 e.2) empty

/-- The text of a textual attribute. -/
def getText? (a : Attributes) (name : String) : Option String := (a.get? name).bind AttrValue.text?

end Attributes

end WikiPage
