import WikiPage.Text.Slug
import WikiPage.Text.Trim
import WikiPage.Tree.Node
/-!
# Headings and the outline of a page

Every heading of a page gets an anchor, and the headings in document order are the page's table of
contents.  An anchor that the author gave is kept; the others are slugs of the headings' text, with a
number behind a slug that was used before.  The first heading of level one may be taken out as the title
of the page.
-/

namespace WikiPage

/-- An entry of a table of contents. -/
structure TocEntry where
  level : Nat
  title : String
  id : String
  deriving DecidableEq, Repr, Inhabited

/-- What is read off the headings of a page. -/
structure Outline where
  title : Option String
  toc : List TocEntry
  deriving DecidableEq, Repr, Inhabited

/-- What is done with the headings of a page. -/
structure HeadingPolicy where
  assignIds : Bool
  extractTitle : Bool
  deriving DecidableEq, Repr, Inhabited

namespace Outline

/-- How often each anchor has been asked for. -/
abbrev Uses := List (String × Nat)

/-- The uses so far of an anchor. -/
def usesOf (uses : Uses) (id : String) : Nat := (uses.lookup id).getD 0

/-- Counts one more use of an anchor. -/
def use (uses : Uses) (id : String) : Uses := (id, usesOf uses id + 1) :: uses.filter (·.1 != id)

/-- The headings seen so far. -/
structure Progress where
  title : Option String := none
  /-- The entries, the last one first. -/
  reversed : List TocEntry := []
  uses : Uses := []
  deriving Repr, Inhabited

/-- The anchor of a heading with the given text that has none of its own, before it is numbered. -/
def baseId (text : String) : String :=
  let slug := Text.slugify text
  if slug.isEmpty then "section" else slug

/-- An anchor with the number of its earlier uses, if there were any. -/
def numbered (base : String) : Nat → String
  | 0 => base
  | n => base ++ "-" ++ toString n

/-- Takes note of a heading with its trimmed text, and gives its anchor. -/
def visit (policy : HeadingPolicy) (p : Progress) (level : Nat) (id : Option String)
    (text : String) : Option String × Progress :=
  if policy.extractTitle && level == 1 && p.title.isNone then (id, { p with title := some text })
  else if !policy.assignIds then (id, p)
  else
    match id with
    | some given =>
      (some given,
        { p with uses := use p.uses given, reversed := ⟨level, text, given⟩ :: p.reversed })
    | none =>
      let base := baseId text
      let made := numbered base (usesOf p.uses base)
      (some made, { p with uses := use p.uses base, reversed := ⟨level, text, made⟩ :: p.reversed })

mutual
/-- Goes through a tree. -/
def walk (policy : HeadingPolicy) (p : Progress) : Node → Node × Progress
  | ⟨.heading level id classes, children, span⟩ =>
    let (id, p) := visit policy p level id (Text.trimmed (Node.plainTextAll children))
    let (children, p) := walkAll policy p children
    (⟨.heading level id classes, children, span⟩, p)
  | ⟨kind, children, span⟩ =>
    let (children, p) := walkAll policy p children
    (⟨kind, children, span⟩, p)
/-- Goes through trees in a row. -/
def walkAll (policy : HeadingPolicy) (p : Progress) : List Node → List Node × Progress
  | [] => ([], p)
  | n :: rest =>
    let (n, p) := walk policy p n
    let (rest, p) := walkAll policy p rest
    (n :: rest, p)
end

end Outline

/-- The tree with its anchors, and its outline. -/
def Node.outlined (policy : HeadingPolicy) (n : Node) : Node × Outline :=
  let (n, p) := Outline.walk policy {} n
  (n, ⟨p.title, p.reversed.reverse⟩)

end WikiPage
