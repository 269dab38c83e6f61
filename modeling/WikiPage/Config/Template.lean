import WikiPage.Unicode.Letters
/-!
# Settings that refer to variables

A setting may refer to variables: `${NAME}` stands for the value of a variable, `${NAME:-text}` for a text
where the variable is not set.  A setting with a reference in braces may also refer to variables by `$NAME`,
and then two dollar signs stand for one; in a setting without braces nothing is replaced.

Main statement: `expand_of_not_braced`, that such a setting stays as it is.
-/

namespace WikiPage.Config

/-- A piece of a setting. -/
inductive TemplatePiece where
  | plain (c : Char)
  | reference (name : String) (fallback : Option (List Char))
  deriving DecidableEq, Repr, Inhabited

namespace TemplatePiece

/-- A character of a name that is written without braces. -/
def isNameChar (c : Char) : Bool := Unicode.isAlphanumeric c || c == '_'

/-- What stands before the first colon with a dash, and what follows it. -/
def splitFallback : List Char → List Char × Option (List Char)
  | ':' :: '-' :: rest => ([], some rest)
  | c :: rest =>
    let (name, fallback) := splitFallback rest
    (c :: name, fallback)
  | [] => ([], none)

/-- The reference between braces; a text for unset variables has to follow a name. -/
def braced (inside : List Char) : TemplatePiece :=
  match splitFallback inside with
  | (c :: name, some fallback) => reference (String.ofList (c :: name)) (some fallback)
  | _ => reference (String.ofList inside) none

/-- The text of a piece, or the name of a variable that is not set. -/
def fill {m : Type → Type} [Monad m] (lookup : String → m (Option String)) :
    TemplatePiece → ExceptT String m (List Char)
  | plain c => return [c]
  | reference name fallback => do
    match ← lookup name, fallback with
    | some value, _ => return value.toList
    | none, some text => return text
    | none, none => throw name

end TemplatePiece

open TemplatePiece in
/-- The pieces of a setting. -/
def templatePieces : List Char → List TemplatePiece
  | [] => []
  | '$' :: '{' :: rest =>
    if rest.contains '}' then
      braced (rest.takeWhile (· != '}')) :: templatePieces ((rest.dropWhile (· != '}')).drop 1)
    else plain '$' :: plain '{' :: templatePieces rest
  | '$' :: '$' :: rest => plain '$' :: templatePieces rest
  | '$' :: c :: rest =>
    if isNameChar c then
      reference (String.ofList (c :: rest.takeWhile isNameChar)) none ::
        templatePieces (rest.dropWhile isNameChar)
    else plain '$' :: templatePieces (c :: rest)
  | c :: rest => plain c :: templatePieces rest
termination_by text => text.length
decreasing_by
  all_goals simp only [List.length_cons, List.length_drop]
  · have := (List.dropWhile_sublist (· != '}') (l := rest)).length_le
    omega
  · omega
  · omega
  · have := (List.dropWhile_sublist isNameChar (l := rest)).length_le
    omega
  · omega
  · omega

/-- Whether a setting has an opening brace after a dollar sign. -/
def hasBraces : List Char → Bool
  | [] => false
  | c :: rest => "$\x7b".toList.isPrefixOf (c :: rest) || hasBraces rest

/-- A setting with its references replaced, or the name of a variable that is not set. -/
def expand {m : Type → Type} [Monad m] (lookup : String → m (Option String)) (setting : String) :
    ExceptT String m String := do
  if hasBraces setting.toList then
    let texts ← (templatePieces setting.toList).mapM (TemplatePiece.fill lookup)
    return String.ofList texts.flatten
  else return setting

/-- A setting without braces stays as it is. -/
theorem expand_of_not_braced {m : Type → Type} [Monad m] (lookup : String → m (Option String))
    {setting : String} (h : hasBraces setting.toList = false) :
    expand lookup setting = pure setting := by
  simp [expand, h]

end WikiPage.Config
