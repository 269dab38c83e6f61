import WikiPage.Proofs.ExpansionLevels
/-!
# Properly nested blocks

A block ends at the nearest closing marker of its tag, and nothing counts the opening markers in
between.  Where blocks are properly nested this finds the right end all the same: what stands behind
an opening marker is expanded before the marker is looked at, so every block within has taken its
own closing marker by then.

* `Document` is a row of nodes whose blocks are properly nested, read as a tree of blocks.
* `Document.expansion` is what such a document stands for: handlers applied from the inside out.
* `expand_nodes`: expanding the nodes of a document gives just that, and the only warnings are those
  of the handlers; whatever these expand by, and by the registry itself if they expand what they are
  given.
-/

namespace WikiPage.Shortcode

/-! ## 1. Documents -/

/-- A node that is nothing to a registry: it opens no registered shortcode and closes no registered
block. -/
structure Content (r : Registry) where
  node : Node
  opens : r.recognize? node = none
  closes : ∀ s ∈ r.shortcodes, s.handler.isBlock = true → closes s.name node = false

/-- The marker of an inline shortcode. -/
structure InlineMarker (r : Registry) where
  node : Node
  directive : Directive
  make : Params → Context → Node × List String
  recognized : r.recognize? node = some directive
  isInline : directive.shortcode.handler = .inline make

/-- The two markers of a block. -/
structure BlockMarkers (r : Registry) where
  opening : Node
  closing : Node
  directive : Directive
  make : Params → List Node → Context → Node × List String
  recognized : r.recognize? opening = some directive
  isBlock : directive.shortcode.handler = .block make
  closes : closes directive.shortcode.name closing = true

/-- What stands in the place of the marker, with the warnings of the handler. -/
def InlineMarker.made {r : Registry} (m : InlineMarker r) (source : Option String)
    (inner : List Node → Expansion) : Node × List String :=
  let span := m.node.span
  let made := m.make m.directive.params
    ⟨m.directive.shortcode.name, span, lineOf? source span, inner⟩
  (made.1.withFallbackSpan span, made.2)

/-- What stands in the place of a block with a body, with the warnings of the handler. -/
def BlockMarkers.made {r : Registry} (m : BlockMarkers r) (source : Option String)
    (inner : List Node → Expansion) (body : List Node) : Node × List String :=
  let span := Span.merge? m.opening.span m.closing.span
  let made := m.make m.directive.params body
    ⟨m.directive.shortcode.name, span, lineOf? source span, inner⟩
  (made.1.withFallbackSpan span, made.2)

/-- Nodes in a row whose blocks are properly nested. -/
inductive Document (r : Registry) where
  | empty
  | content (c : Content r) (rest : Document r)
  | inline (m : InlineMarker r) (rest : Document r)
  | block (m : BlockMarkers r) (body rest : Document r)

namespace Document

variable {r : Registry}

/-- The nodes of a document, markers among them. -/
def nodes : Document r → List Node
  | empty => []
  | content c rest => c.node :: rest.nodes
  | inline m rest => m.node :: rest.nodes
  | block m body rest => m.opening :: (body.nodes ++ m.closing :: rest.nodes)

/-- What a document stands for: content as it is, a marker by what its handler makes, and a block by
what its handler makes of the expansion of the document in it.  Handlers are called from the end of
the document, a block's after those within it. -/
def expansion (source : Option String) (inner : List Node → Expansion) : Document r → Expansion
  | empty => ⟨[], []⟩
  | content c rest =>
    let after := rest.expansion source inner
    ⟨c.node :: after.nodes, after.warnings⟩
  | inline m rest =>
    let after := rest.expansion source inner
    let made := m.made source inner
    ⟨made.1 :: after.nodes, after.warnings ++ made.2⟩
  | block m body rest =>
    let after := rest.expansion source inner
    let within := body.expansion source inner
    let made := m.made source inner within.nodes
    ⟨made.1 :: after.nodes, after.warnings ++ within.warnings ++ made.2⟩

/-! ## 2. Expanding the nodes of a document -/

variable {source : Option String} {inner : List Node → Expansion}

theorem closedTag?_made_inline (hr : ∀ s ∈ r.shortcodes, s.handler.NeverCloses)
    (m : InlineMarker r) : closedTag? (m.made source inner).1 = none := by
  have h := hr _ (Registry.mem_of_recognize? m.recognized)
  rw [m.isInline] at h
  rw [InlineMarker.made, closedTag?_withFallbackSpan]
  exact h _ _

theorem closedTag?_made_block (hr : ∀ s ∈ r.shortcodes, s.handler.NeverCloses)
    (m : BlockMarkers r) (body : List Node) : closedTag? (m.made source inner body).1 = none := by
  have h := hr _ (Registry.mem_of_recognize? m.recognized)
  rw [m.isBlock] at h
  rw [BlockMarkers.made, closedTag?_withFallbackSpan]
  exact h _ _ _

/-- Nothing in an expanded document closes a registered block. -/
theorem closes_of_mem_expansion (hr : ∀ s ∈ r.shortcodes, s.handler.NeverCloses) {s : Shortcode}
    (hs : s ∈ r.shortcodes) (hblock : s.handler.isBlock = true) :
    ∀ (d : Document r), ∀ n ∈ (d.expansion source inner).nodes, closes s.name n = false
  | content c rest, n, hn => by
    rcases List.mem_cons.1 hn with rfl | hn
    · exact c.closes s hs hblock
    · exact closes_of_mem_expansion hr hs hblock rest n hn
  | inline m rest, n, hn => by
    rcases List.mem_cons.1 hn with rfl | hn
    · exact closes_of_closedTag?_eq_none (closedTag?_made_inline hr m) _
    · exact closes_of_mem_expansion hr hs hblock rest n hn
  | block m body rest, n, hn => by
    rcases List.mem_cons.1 hn with rfl | hn
    · exact closes_of_closedTag?_eq_none (closedTag?_made_block hr m _) _
    · exact closes_of_mem_expansion hr hs hblock rest n hn

/-- A block takes all that stands in front of its closing marker when nothing there closes it. -/
theorem expandBefore_opening (m : BlockMarkers r) {body : List Node}
    (hbody : ∀ n ∈ body, closes m.directive.shortcode.name n = false) (rest : List Node)
    (warnings : List String) :
    expandBefore r source inner m.opening ⟨body ++ m.closing :: rest, warnings⟩ =
      ⟨(m.made source inner body).1 :: rest, warnings ++ (m.made source inner body).2⟩ := by
  have hopen : ∀ n ∈ body, (!closes m.directive.shortcode.name n) = true := fun n hn => by
    rw [hbody n hn]
    rfl
  have hstop : (!closes m.directive.shortcode.name m.closing) = false := by
    rw [m.closes]
    rfl
  have htake : (body ++ m.closing :: rest).takeWhile (!closes m.directive.shortcode.name ·) =
      body := by
    rw [List.takeWhile_append_of_pos hopen, List.takeWhile_cons_of_neg (by simp [hstop]),
      List.append_nil]
  have hdrop : (body ++ m.closing :: rest).dropWhile (!closes m.directive.shortcode.name ·) =
      m.closing :: rest := by
    rw [List.dropWhile_append_of_pos hopen, List.dropWhile_cons_of_neg (by simp [hstop])]
  rw [expandBefore_block ⟨body ++ m.closing :: rest, warnings⟩ m.recognized m.isBlock hdrop]
  dsimp only
  rw [htake]
  rfl

/-- **The nodes of a document in front of expanded nodes** become the expansion of the document in
front of these, whatever stands there: a block of the document ends within the document. -/
theorem foldr_nodes (hr : ∀ s ∈ r.shortcodes, s.handler.NeverCloses) (d : Document r) :
    ∀ after : Expansion, d.nodes.foldr (expandBefore r source inner) after =
      ⟨(d.expansion source inner).nodes ++ after.nodes,
        after.warnings ++ (d.expansion source inner).warnings⟩ := by
  induction d with
  | empty =>
    intro after
    simp [nodes, expansion]
  | content c rest ih =>
    intro after
    rw [nodes, List.foldr_cons, ih, expandBefore_none _ c.opens]
    rfl
  | inline m rest ih =>
    intro after
    rw [nodes, List.foldr_cons, ih, expandBefore_inline _ m.recognized m.isInline]
    simp only [expansion, InlineMarker.made, List.cons_append, List.append_assoc]
  | block m body rest ihbody ihrest =>
    intro after
    -- the closing marker stays in front of what follows, until the opening one is reached
    have hclosing := r.recognize?_of_closes m.closes
    have hbody := @closes_of_mem_expansion r source inner hr _
      (Registry.mem_of_recognize? m.recognized) (by rw [m.isBlock]; rfl) body
    rw [nodes, List.foldr_cons, List.foldr_append, List.foldr_cons, ihrest,
      expandBefore_none _ hclosing, ihbody, expandBefore_opening m hbody]
    simp only [expansion, List.cons_append, List.append_assoc]

end Document

/-- Expanding the nodes of a document, whatever handlers expand by. -/
theorem Document.expandFromRight_nodes {r : Registry} {source : Option String}
    {inner : List Node → Expansion} (hr : ∀ s ∈ r.shortcodes, s.handler.NeverCloses)
    (d : Document r) : expandFromRight r source inner d.nodes = d.expansion source inner := by
  have h := @Document.foldr_nodes r source inner hr d ⟨[], []⟩
  rw [foldr_expandBefore, List.nil_append, List.nil_append, List.append_nil] at h
  exact h

/-- **Properly nested blocks pair correctly**, tags being the same or different and blocks as deep
as one likes: expanding the nodes of a document gives the expansion of its blocks from the inside
out, and no warnings but those that handlers give.  This holds whatever handlers expand by, so at
every number of levels.  Handlers that expand what they are given call the registry back, when there
are more levels than nodes. -/
theorem expand_nodes (r : Registry) (hr : ∀ s ∈ r.shortcodes, s.handler.NeverCloses)
    (source : Option String) (d : Document r) :
    (∀ inner, expandBy r source inner d.nodes = d.expansion source inner) ∧
    r.expand source d.nodes =
      d.expansion source (expandWithin r source (Node.countAll d.nodes)) ∧
    ((∀ s ∈ r.shortcodes, s.handler.ExpandsBody) → ∀ levels, d.nodes.length + 1 ≤ levels →
      expandWithin r source levels d.nodes = d.expansion source (r.expand source)) := by
  have hinner : ∀ inner, expandBy r source inner d.nodes = d.expansion source inner := fun inner =>
    (expandBy_eq_expandFromRight d.nodes).trans (d.expandFromRight_nodes hr)
  refine ⟨hinner, hinner _, fun hbody levels hlevels => ?_⟩
  rw [expandWithin_of_le hbody hlevels, Registry.expand_eq_expandFromRight_expand hbody]
  exact d.expandFromRight_nodes hr

/-- The box around a tip. -/
def tipBox (children : List Node) : Node :=
  (Node.element "div" (Attributes.empty.withText "class" "hint is-tip")).withChildren children

/-- The frame that shows a blueprint. -/
def shownBlueprint : Node :=
  (blueprintNode blueprintAddress (Params.parse "id=\"AbCdEfGh\"")
    ⟨"blueprint", none, none, fun nodes => ⟨nodes, []⟩⟩).1

/-- A hint in a hint of the same kind, with a text and a frame in it. -/
def hintInHint : Document .standard :=
  let tip : BlockMarkers .standard :=
    { opening := markerOf "tip", closing := markerOf "/tip", directive := ⟨hint "tip", .empty⟩,
      make := _, recognized := rfl, isBlock := rfl, closes := by decide }
  let frame : InlineMarker .standard :=
    { node := markerOf "blueprint id=\"AbCdEfGh\"",
      directive := ⟨blueprint blueprintAddress, Params.parse "id=\"AbCdEfGh\""⟩,
      make := _, recognized := rfl, isInline := rfl }
  let text : Content .standard :=
    { node := .paragraph [.text "Text"], opens := rfl, closes := fun _ _ _ => rfl }
  .block tip (.block tip (.content text (.inline frame .empty)) (.content text .empty)) .empty

/-- The inner hint ends at the first closing marker, and the outer one at the second, at every
number of levels greater than that of the nodes. -/
theorem expand_hintInHint :
    (∀ s ∈ Registry.standard.shortcodes, s.handler.NeverCloses) ∧
    (∀ s ∈ Registry.standard.shortcodes, s.handler.ExpandsBody) ∧
    hintInHint.nodes =
      [markerOf "tip", markerOf "tip", .paragraph [.text "Text"],
        markerOf "blueprint id=\"AbCdEfGh\"", markerOf "/tip", .paragraph [.text "Text"],
        markerOf "/tip"] ∧
    Registry.standard.expand none hintInHint.nodes =
      ⟨[tipBox [tipBox [.paragraph [.text "Text"], shownBlueprint], .paragraph [.text "Text"]]],
        []⟩ ∧
    ∀ levels, 8 ≤ levels → expandWithin .standard none levels hintInHint.nodes =
      hintInHint.expansion none (Registry.standard.expand none) := by
  have hnever : ∀ s ∈ Registry.standard.shortcodes, s.handler.NeverCloses := fun _ hs =>
    (builtIn_of_mem_standard hs).neverCloses
  have hbody : ∀ s ∈ Registry.standard.shortcodes, s.handler.ExpandsBody := fun _ hs =>
    (builtIn_of_mem_standard hs).expandsBody
  obtain ⟨-, hexpand, hlevels⟩ := expand_nodes .standard hnever none hintInHint
  exact ⟨hnever, hbody, rfl, hexpand.trans (by rfl), hlevels hbody⟩

end WikiPage.Shortcode
