import WikiPage.Text.Quoted
/-!
# Errors of rendering

What may go wrong in one pass over a tree, and at which stage of rendering it went wrong.
-/

namespace WikiPage

/-- A fault that one pass finds. -/
inductive PassError where
  /-- Blocks and marks are nested too deeply; the offset is that of the first one beyond the limit. -/
  | tooDeep (limit offset : Nat)
  /-- A document was expected, and a node of another kind was found. -/
  | notRoot (found : String)
  /-- A generated element or one of its attributes has a name that markup cannot have. -/
  | invalidName (ofAttribute : Bool) (name : String)
  /-- The output could not be written. -/
  | format
  deriving DecidableEq, Repr, Inhabited

/-- The wording of a fault. -/
def PassError.message : PassError → String
  | tooDeep limit offset =>
    "document nesting exceeds " ++ toString limit ++ " levels at byte " ++ toString offset
  | notRoot found => "expected document root, found " ++ found
  | invalidName ofAttribute name =>
    "invalid " ++ (if ofAttribute then "attribute" else "element") ++ " name " ++ Text.quote name
  | format => "failed to write output"

/-- The stages of rendering a page. -/
inductive Stage where
  | parse | embed | shortcode | headings | serialize | sanitize
  deriving DecidableEq, Repr, Inhabited

/-- The name of a stage. -/
def Stage.name : Stage → String
  | parse => "parse" | embed => "embed" | shortcode => "shortcode" | headings => "headings"
  | serialize => "serialize" | sanitize => "sanitize"

/-- A fault with the stage at which it was found. -/
structure RenderError where
  stage : Stage
  cause : PassError
  deriving DecidableEq, Repr, Inhabited

/-- The wording of a failed rendering. -/
def RenderError.message (e : RenderError) : String :=
  e.stage.name ++ " stage failed: " ++ e.cause.message

end WikiPage
