import WikiPage.Config.Settings
import WikiPage.Toml.Document
/-!
# Reading configurations

Which entries of a configuration file set what.  An entry that is missing leaves a setting as it is, and
entries that nobody knows are passed over; a value of the wrong kind makes the file malformed.  A group of
settings may also be written as a list of their values in order.
-/

namespace WikiPage.Config

open Toml

/-! ## 1. Values of settings -/

/-- A setting that is on or off. -/
def truth? : Value → Option Bool
  | .truth value => some value
  | _ => none

/-- A setting that is a text. -/
def text? : Value → Option String
  | .text value => some value
  | _ => none

/-- A setting that is a list of texts. -/
def texts? : Value → Option (List String)
  | .list _ items => items.mapM text?
  | _ => none

/-- Numbers below this one can be set. -/
def numberLimit : Nat := 18446744073709551616

/-- A setting that is a number. -/
def number? : Value → Option Nat
  | .integer n => if 0 ≤ n ∧ n < numberLimit then some n.toNat else none
  | _ => none

/-! ## 2. Groups of settings -/

/-- The setting of a group with a name, or with a place where the group is a list; nothing where the
value is no group.  A date is a group without settings that anybody knows. -/
def setting? (group : Value) (place : Nat) (name : String) : Option (Option Value) :=
  match group with
  | .table _ entries => some (entries.lookup name)
  | .list _ items => some items[place]?
  | .moment => some none
  | _ => none

/-- Reads a setting of a group, which may be missing. -/
def read? {α : Type} (decode? : Value → Option α) (default : α) (group : Value) (place : Nat)
    (name : String) : Option α := do
  match ← setting? group place name with
  | some value => decode? value
  | none => some default

/-- How pages are rendered. -/
def renderOptions? (group : Value) : Option PipelineOptions := do
  let default : PipelineOptions := {}
  return {
    gfm := ← read? truth? default.gfm group 0 "gfm"
    math := ← read? truth? default.math group 1 "math"
    extractTitle := ← read? truth? default.extractTitle group 2 "extract_title"
    headingIds := ← read? truth? default.headingIds group 3 "heading_ids"
    maxNesting := ← read? number? default.maxNesting group 4 "max_nesting" }

/-- The shortcodes of a site. -/
def shortcodeSettings? (group : Value) : Option ShortcodeSettings := do
  let default : ShortcodeSettings := {}
  return {
    hints := ← read? texts? default.hints group 0 "hints"
    blueprintAddress := ← read? text? default.blueprintAddress group 1 "blueprint_base_url"
    versionGate := ← read? truth? default.versionGate group 2 "version_gate" }

/-- The configuration of a file's table, in which references to variables are not replaced yet. -/
def ofTable? (t : Table) : Option Config := do
  let default : Config := {}
  return {
    render := ← read? renderOptions? default.render t.toValue 0 "render"
    shortcodes := ← read? shortcodeSettings? default.shortcodes t.toValue 1 "shortcodes"
    video := ← read? (read? truth? default.video · 0 "video") default.video t.toValue 2 "embeds" }

/-- The configuration that a text is written for. -/
def parse? (text : String) : Option Config := Toml.read? text >>= ofTable?

end WikiPage.Config
