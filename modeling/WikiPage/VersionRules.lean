import WikiPage.EngineVersion
import WikiPage.Shortcode.Params
/-!
# Version rules

Which versions of the engine a part of a page applies to: a conjunction of at most two comparisons,
read off the parameters of a marker.
-/

namespace WikiPage

/-- How a version is compared. -/
inductive Comparison where
  | equal | greater | atLeast | less | atMost
  deriving DecidableEq, Repr, Inhabited

/-- The operator of a comparison. -/
def Comparison.symbol : Comparison → String
  | equal => "==" | greater => ">" | atLeast => ">=" | less => "<" | atMost => "<="

/-- One comparison, with its operand as the author wrote it. -/
structure VersionRule where
  comparison : Comparison
  operand : String
  deriving DecidableEq, Repr, Inhabited

namespace VersionRule

/-- The operand as a version. -/
def version (r : VersionRule) : Except VersionSyntaxError EngineVersion :=
  EngineVersion.parse r.operand

/-- A comparison as it is written. -/
def display (r : VersionRule) : String := "version " ++ r.comparison.symbol ++ " " ++ r.operand

/-- The comparison that a parameter gives. -/
def ofParam? (params : Shortcode.Params) (comparison : Comparison) (name : String) :
    Option VersionRule :=
  (Shortcode.Params.getText? params name).map (⟨comparison, ·⟩)

end VersionRule

/-- The comparisons in the parameters.  The parameter `is` alone counts when it is there; otherwise one
lower bound and one upper bound do, the inclusive one before the other. -/
def versionRules (params : Shortcode.Params) : List VersionRule :=
  let rule := VersionRule.ofParam? params
  match rule .equal "is" with
  | some r => [r]
  | none =>
    ((rule .atLeast "gte").or (rule .greater "gt")).toList ++
      ((rule .atMost "lte").or (rule .less "lt")).toList

/-- The conjunction of rules as it is written. -/
def rulesExpression (rules : List VersionRule) : String :=
  " && ".intercalate (rules.map VersionRule.display)

end WikiPage
