import WikiPage.Address
import WikiPage.Shortcode.Registry
import WikiPage.VersionRules
/-!
# Standard shortcodes

Hints (a coloured box around a part of a page), blueprints (a frame that shows one), and parts of a page
that apply to some versions only.
-/

namespace WikiPage.Shortcode

/-- A block shown as a hint of a kind. -/
def hint (kind : String) : Shortcode where
  name := kind
  handler := .block fun _ body _ =>
    ((Node.element "div" (Attributes.empty.withText "class" ("hint is-" ++ kind))).withChildren body,
      [])

/-- The usual kinds of hint. -/
def hintKinds : List String := ["tip", "note", "todo", "success", "warning", "danger"]

/-- Where blueprints are shown. -/
def blueprintAddress : String := "https://blueprintue.com/render/"

/-- Number of characters of a blueprint's id. -/
def blueprintIdLength : Nat := 8

/-- What shows a blueprint: a frame when the id has the right length, and a warning otherwise. -/
def blueprintNode (address : String) (params : Params) (ctx : Context) : Node × List String :=
  let id := (params.getText? "id").getD ""
  if id.length = blueprintIdLength then
    let attributes := Attributes.empty
      |>.withText "class" "blueprint"
      |>.withText "src" (address ++ id)
      |>.withText "scrolling" "no"
      |>.withFlag "allowfullscreen" true
      |>.withText "height" "500"
    (.element "iframe" attributes, [])
  else
    (.element "div" (Attributes.empty.withText "class" "blueprint is-invalid"),
      [ctx.warning ("id must be " ++ toString blueprintIdLength ++ " characters, got " ++
        Text.quote id)])

/-- A blueprint, shown under an address. -/
def blueprint (address : String) : Shortcode where
  name := "blueprint"
  handler := .inline (blueprintNode (Address.withSlash address))
  embedSource := some (Address.withSlash address)

/-- The warning about a rule that no reader's version can be compared with. -/
def ruleWarning? (rule : VersionRule) : Option String :=
  match rule.version with
  | .ok version => if version.isKnown then none else some ("unknown engine version " ++ rule.operand)
  | .error e => some e.message

/-- A block that applies to some versions only. -/
def versionGate : Shortcode where
  name := "version"
  handler := .block fun params body ctx =>
    let rules := versionRules params
    let attributes := (Attributes.empty.withText "class" "version").withText "data-rules"
      (rulesExpression rules)
    let warnings :=
      (if rules.isEmpty then ["no version bounds given"] else []) ++ rules.filterMap ruleWarning?
    ((Node.element "div" attributes).withChildren body, warnings.map ctx.warning)

/-- The standard shortcodes. -/
def standard : List Shortcode :=
  hintKinds.map hint ++ [blueprint blueprintAddress, versionGate]

/-- The registry of the standard shortcodes. -/
def Registry.standard : Registry := ⟨Shortcode.standard, by decide⟩

end WikiPage.Shortcode
