import WikiPage.Text.Quoted
import WikiPage.Text.Trim
/-!
# Engine versions

A version is a decimal number whose two places are the minor release: `4.01` is release 4.1, while `4.1`
and `4.10` both are release 4.10.  It is kept in hundredths, which fit in 32 bits.
-/

namespace WikiPage

/-- A version, in hundredths. -/
structure EngineVersion where
  hundredths : Nat
  small : hundredths < 4294967296
  deriving DecidableEq, Repr

/-- A text that is not a version. -/
structure VersionSyntaxError where
  text : String
  deriving DecidableEq, Repr, Inhabited

/-- The wording of the fault. -/
def VersionSyntaxError.message (e : VersionSyntaxError) : String :=
  "invalid engine version " ++ Text.quote e.text

namespace EngineVersion

/-- A version in hundredths, when they fit. -/
def ofHundredths? (n : Nat) : Option EngineVersion :=
  if h : n < 4294967296 then some ⟨n, h⟩ else none

/-- A release by its two numbers. -/
def ofRelease? (major minor : Nat) : Option EngineVersion := ofHundredths? (major * 100 + minor)

/-- Whether this is a release that was published: 4.0 to 4.27 and 5.0 to 5.3. -/
def isKnown (v : EngineVersion) : Bool :=
  (400 ≤ v.hundredths && v.hundredths ≤ 427) || (500 ≤ v.hundredths && v.hundredths ≤ 503)

/-- The value of a digit. -/
def digitValue (c : Char) : Nat := c.toNat - '0'.toNat

/-- The number that a list of digits writes. -/
def digitsValue (ds : List Char) : Nat := ds.foldl (fun n c => n * 10 + digitValue c) 0

/-- One digit or more. -/
def isNumeral (ds : List Char) : Bool := !ds.isEmpty && ds.all Char.isDigit

/-- The hundredths that a trimmed text writes. -/
def hundredths? (text : List Char) : Option Nat :=
  let major := text.takeWhile (· != '.')
  let fraction := match text.dropWhile (· != '.') with
    | [] => ['0']
    | _ :: fraction => fraction
  if isNumeral major && isNumeral fraction then
    match fraction with
    | [a] => some (digitsValue major * 100 + digitValue a * 10)
    | [a, b] => some (digitsValue major * 100 + digitValue a * 10 + digitValue b)
    | _ => none
  else none

/-- The version that a text writes. -/
def parse (text : String) : Except VersionSyntaxError EngineVersion :=
  match (hundredths? (Text.trim text.toList)).bind ofHundredths? with
  | some v => .ok v
  | none => .error ⟨text⟩

/-- The shortest decimal of a version. -/
def display (v : EngineVersion) : String :=
  let major := toString (v.hundredths / 100)
  let minor := v.hundredths % 100
  if minor = 0 then major
  else if minor % 10 = 0 then major ++ "." ++ toString (minor / 10)
  else if minor < 10 then major ++ ".0" ++ toString minor
  else major ++ "." ++ toString minor

/-- The order of two versions. -/
def compare (a b : EngineVersion) : Ordering := Ord.compare a.hundredths b.hundredths

end EngineVersion

end WikiPage
