import WikiPage.Embed
import WikiPage.Markdown.Tree
import WikiPage.Markup.Writer
import WikiPage.Outline
import WikiPage.Sanitizer
import WikiPage.Shortcode.Expansion
import WikiPage.Shortcode.Standard
/-!
# Rendering a page

A page goes through a row of passes: it is read as a tree, links to media become frames, shortcodes are
expanded, headings get anchors, and the tree is written as markup, which is cleaned.  A pass that fails
names its stage.
-/

namespace WikiPage

/-- How pages are rendered. -/
structure PipelineOptions where
  /-- Tables, struck text, task items, alerts, footnotes, and links for addresses in plain text. -/
  gfm : Bool := true
  /-- Mathematics between dollar signs. -/
  math : Bool := true
  /-- Anchors for headings. -/
  headingIds : Bool := true
  /-- The first heading of level one is the title of the page. -/
  extractTitle : Bool := false
  /-- How many constructs of a page may be open in one another. -/
  maxNesting : Nat := 128
  deriving DecidableEq, Repr, Inhabited

namespace PipelineOptions

/-- How a page is read. -/
def parseOptions (o : PipelineOptions) : Markdown.ParseOptions := ⟨o.gfm, o.math, o.maxNesting⟩

/-- What is done with headings. -/
def headingPolicy (o : PipelineOptions) : HeadingPolicy := ⟨o.headingIds, o.extractTitle⟩

end PipelineOptions

/-- Everything that rendering a page depends on. -/
structure Pipeline where
  options : PipelineOptions := {}
  registry : Shortcode.Registry := .standard
  embeds : Embeds := .standard

/-- A page after its media and shortcodes have been put in. -/
structure TransformedPage where
  tree : Node
  warnings : List String
  deriving DecidableEq, Repr, Inhabited

/-- A rendered page. -/
structure RenderedPage where
  html : String
  title : Option String
  toc : List TocEntry
  warnings : List String
  deriving DecidableEq, Repr, Inhabited

/-- What a stage gave; a failure names the stage. -/
def Stage.run {α : Type} (stage : Stage) (result : Except PassError α) : Except RenderError α :=
  result.mapError (⟨stage, ·⟩)

namespace Pipeline

/-- The sanitizer of a pipeline: the frames that its providers and shortcodes make may stay. -/
def sanitizer (p : Pipeline) : Sanitizer :=
  .ofSources (p.embeds.sources ++ p.registry.embedSources)

/-- The tree of a page with its media and shortcodes put in. -/
def transform (p : Pipeline) (source : String) : Except RenderError TransformedPage := do
  let tree ← Stage.run .parse (Markdown.parse p.options.parseOptions source)
  let tree := p.embeds.rewrite tree
  let (tree, warnings) ← Stage.run .shortcode (p.registry.expandDocument (some source) tree)
  return ⟨tree, warnings⟩

/-- The cleaned markup of a page, with its title and table of contents. -/
def render (p : Pipeline) (source : String) : Except RenderError RenderedPage := do
  let page ← p.transform source
  let (tree, outline) := page.tree.outlined p.options.headingPolicy
  let markup ← Stage.run .serialize tree.toMarkup
  return ⟨p.sanitizer.clean markup, outline.title, outline.toc, page.warnings⟩

end Pipeline

end WikiPage
