import WikiPage.Markdown.Assembly
import WikiPage.Markdown.Page
import WikiPage.Links.Autolink
/-!
# From source to tree

Reading a page: its blocks, the events of these, and the tree of the events.
-/

namespace WikiPage.Markdown

/-- How a page is read. -/
structure ParseOptions where
  /-- Tables, struck text, task items, alerts, footnotes, and links for addresses in plain text. -/
  gfm : Bool := true
  /-- Mathematics between dollar signs. -/
  math : Bool := true
  /-- How many constructs may be open in one another below the document. -/
  maxNesting : Nat := 128
  deriving Repr, DecidableEq, Inhabited

/-- The syntax that is on. -/
def ParseOptions.extensions (o : ParseOptions) : Extensions := ⟨o.gfm, o.math⟩

/-- The events of a source. -/
def eventsOf (ext : Extensions) (source : String) : List Located :=
  let page := Page.read ext source
  Block.eventsAll ext page.definitions page.blocks

/-- The tree of a source before addresses in its text are linked. -/
def parseEvents (options : ParseOptions) (source : String) : Except PassError Node :=
  treeOfEvents source.utf8ByteSize options.maxNesting (eventsOf options.extensions source)

/-- The tree of a source. -/
def parse (options : ParseOptions) (source : String) : Except PassError Node :=
  (parseEvents options source).map fun tree => if options.gfm then Links.autolink tree else tree

end WikiPage.Markdown
