import WikiPage.Text.Pattern
import WikiPage.Tree.Node
import WikiPage.Unicode.Letters
/-!
# Embedded media

A paragraph of the page itself that holds nothing but a link to a known provider of media is replaced
by a frame that shows the medium.  The provider's pattern finds the medium's id in the address of the link.
Links elsewhere, in lists or beside other text, stay links.
-/

namespace WikiPage

/-- A provider of media. -/
structure EmbedProvider where
  name : String
  /-- Finds the id of a medium in an address: the text of the pattern's group. -/
  pattern : Text.Pattern
  /-- The address of a frame is this one followed by the id. -/
  base : String
  /-- What the frame may do, and its title; nothing is written for either when it is empty. -/
  allow : String := ""
  title : String := ""

namespace EmbedProvider

/-- A character of a medium's id. -/
def isIdChar (c : Char) : Bool := Unicode.isWord c || c == '-'

open Text.Pattern in
/-- Addresses of videos on YouTube, on its own host and on its short one. -/
def youtubePattern : Text.Pattern :=
  inOrder
    [atStart,
     optional (inOrder [word "http", optional (word "s"), word "://"]),
     optional (word "www."),
     word "youtu", optional (word "."), word "be",
     optional (word ".com"),
     optional (word "/"),
     many any,
     optional (alt (word "watch") (word "embed")),
     oneOf [seq (many any) (word "v="), word "v/", word "/"],
     group (many1 (char isIdChar)),
     optional (word "&")]

/-- Videos on YouTube. -/
def youtube : EmbedProvider where
  name := "youtube"
  pattern := youtubePattern
  base := "https://www.youtube.com/embed/"
  allow :=
    "accelerometer; autoplay; clipboard-write; encrypted-media; gyroscope; picture-in-picture"
  title := "YouTube Video Player"

/-- The address of the frame for a link, if the provider knows the link. -/
def frameAddress? (p : EmbedProvider) (url : String) : Option String :=
  (p.pattern.capture? url).map (p.base ++ ·)

/-- The frame for an address. -/
def frame (p : EmbedProvider) (address : String) : Node :=
  let attributes := (Attributes.empty.withText "src" address).withFlag "allowfullscreen" true
  let attributes := if p.allow.isEmpty then attributes else attributes.withText "allow" p.allow
  .element "iframe" (if p.title.isEmpty then attributes else attributes.withText "title" p.title)

end EmbedProvider

/-- The providers whose media are shown, the first that knows a link counting. -/
structure Embeds where
  providers : List EmbedProvider

namespace Embeds

/-- The usual providers. -/
def standard : Embeds := ⟨[.youtube]⟩

/-- The addresses that frames begin with. -/
def sources (e : Embeds) : List String := e.providers.map EmbedProvider.base

/-- The frame for a link by the first provider that knows it. -/
def frame? (e : Embeds) (url : String) : Option Node :=
  e.providers.findSome? fun p => (p.frameAddress? url).map p.frame

/-- What a paragraph is replaced by. -/
def video? (e : Embeds) (n : Node) : Option Node :=
  if n.isParagraph then
    match n.onlyChild with
    | some ⟨.link url _, _, _⟩ =>
      (e.frame? url).map fun frame =>
        ((Node.element "div" (Attributes.empty.withText "class" "video")).withChildren
          [frame]).withSpan n.span
    | _ => none
  else none

mutual
/-- Puts frames in the place of paragraphs that stand in a document itself. -/
def rewrite (e : Embeds) : Node → Node
  | ⟨kind, children, span⟩ => ⟨kind, rewriteAll e kind.isRoot children, span⟩
/-- Puts frames in the place of paragraphs among nodes that do or do not stand in a document itself. -/
def rewriteAll (e : Embeds) (inDocument : Bool) : List Node → List Node
  | [] => []
  | n :: rest =>
    match (if inDocument then e.video? n else none) with
    | some video => video :: rewriteAll e inDocument rest
    | none => rewrite e n :: rewriteAll e inDocument rest
end

end Embeds

end WikiPage
