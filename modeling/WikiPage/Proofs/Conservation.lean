import WikiPage.Proofs.Standard
/-!
# Nothing is lost in expansion

Markers may be nested in any way: opening ones without an end, stray closing ones, blocks that cross.
A node may be taken into a block and, with this block, into another one.  What is not used up as a
marker comes out all the same, once, as it was, and in its place.

* `Piece` is a node of the outcome with its history: a node that was kept, what an inline shortcode
  made of its marker, or a block around further pieces.  `Piece.node` is the node itself.
* `Piece.came` are the nodes that a piece came from, each with a note whether it was used up as a
  marker; `Piece.content` are the nodes that one finds in it, looking into blocks that were made and
  into nothing else.
* `Registry.trace` keeps the history of an expansion.  By `expand_conserves` its nodes are those of
  the expansion, it came from the nodes that were expanded, and what one finds in it are just those
  of them that were not used up.
-/

namespace WikiPage.Shortcode

/-! ## 1. Pieces -/

/-- A node of the outcome, with its history. -/
inductive Piece where
  /-- A node that stands as it was given. -/
  | kept (n : Node)
  /-- What an inline shortcode made of its marker. -/
  | inline (marker made : Node)
  /-- What a block made of its markers: its kind, its span, and what stands in it. -/
  | block (opening closing : Node) (kind : NodeKind) (span : Option Span) (body : List Piece)

namespace Piece

mutual
/-- The node of a piece. -/
def node : Piece → Node
  | kept n => n
  | inline _ made => made
  | block _ _ kind span body => ⟨kind, nodeAll body, span⟩
/-- The nodes of pieces in a row. -/
def nodeAll : List Piece → List Node
  | [] => []
  | p :: rest => p.node :: nodeAll rest
end

mutual
/-- The nodes that a piece came from, in their order, each with a note whether it was used up as a
marker. -/
def came : Piece → List (Node × Bool)
  | kept n => [(n, false)]
  | inline marker _ => [(marker, true)]
  | block opening closing _ _ body => (opening, true) :: (cameAll body ++ [(closing, true)])
/-- The nodes that pieces in a row came from. -/
def cameAll : List Piece → List (Node × Bool)
  | [] => []
  | p :: rest => p.came ++ cameAll rest
end

mutual
/-- The nodes that were given, as one finds them in a piece from left to right, looking into blocks
that were made and into nothing else. -/
def content : Piece → List Node
  | kept n => [n]
  | inline _ _ => []
  | block _ _ _ _ body => contentAll body
/-- The nodes that were given, as one finds them in pieces in a row. -/
def contentAll : List Piece → List Node
  | [] => []
  | p :: rest => p.content ++ contentAll rest
end

mutual
/-- Number of markers that a piece used up: one for an inline shortcode, two for a block. -/
def markers : Piece → Nat
  | kept _ => 0
  | inline _ _ => 1
  | block _ _ _ _ body => 2 + markersAll body
/-- Number of markers that pieces in a row used up. -/
def markersAll : List Piece → Nat
  | [] => 0
  | p :: rest => p.markers + markersAll rest
end

theorem nodeAll_eq_map : ∀ ps : List Piece, nodeAll ps = ps.map node
  | [] => rfl
  | p :: rest => congrArg (p.node :: ·) (nodeAll_eq_map rest)

theorem cameAll_append : ∀ ps qs : List Piece, cameAll (ps ++ qs) = cameAll ps ++ cameAll qs
  | [], _ => rfl
  | p :: rest, qs => by
    rw [List.cons_append, cameAll, cameAll, cameAll_append rest qs, List.append_assoc]

/-- The nodes of a list of notes that were not used up. -/
def unused (notes : List (Node × Bool)) : List Node := (notes.filter (!·.2)).map Prod.fst

theorem unused_append (a b : List (Node × Bool)) : unused (a ++ b) = unused a ++ unused b := by
  rw [unused, List.filter_append, List.map_append]
  rfl

mutual
/-- **One finds what was not used up**, in its order. -/
theorem content_eq_unused : ∀ p : Piece, p.content = unused p.came
  | kept _ => rfl
  | inline _ _ => rfl
  | block opening closing _ _ body => by
    have hopening : unused [(opening, true)] = [] := rfl
    have hclosing : unused [(closing, true)] = [] := rfl
    rw [content, came, ← List.singleton_append, unused_append, unused_append, hopening, hclosing,
      contentAll_eq_unused body, List.nil_append, List.append_nil]
theorem contentAll_eq_unused : ∀ ps : List Piece, contentAll ps = unused (cameAll ps)
  | [] => rfl
  | p :: rest => by
    rw [contentAll, cameAll, unused_append, content_eq_unused p, contentAll_eq_unused rest]
end

mutual
/-- What a piece came from is what one finds in it and the markers that it used up. -/
theorem length_came : ∀ p : Piece, p.came.length = p.content.length + p.markers
  | kept _ => rfl
  | inline _ _ => rfl
  | block _ _ _ _ body => by
    have := length_cameAll body
    simp only [came, content, markers, List.length_cons, List.length_append, List.length_nil]
    omega
theorem length_cameAll : ∀ ps : List Piece,
    (cameAll ps).length = (contentAll ps).length + markersAll ps
  | [] => rfl
  | p :: rest => by
    have hp := length_came p
    have hrest := length_cameAll rest
    simp only [cameAll, contentAll, markersAll, List.length_append]
    omega
end

end Piece

/-! ## 2. The history of an expansion -/

/-- Puts a node in front of pieces, as `expandBefore` puts it in front of their nodes. -/
def traceBefore (registry : Registry) (source : Option String) (inner : List Node → Expansion)
    (n : Node) (after : List Piece) : List Piece :=
  match registry.recognize? n with
  | none => .kept n :: after
  | some ⟨shortcode, params⟩ =>
    let tag := shortcode.name
    match shortcode.handler with
    | .inline make =>
      let made := (make params ⟨tag, n.span, lineOf? source n.span, inner⟩).1
      .inline n (made.withFallbackSpan n.span) :: after
    | .block make =>
      match after.dropWhile (!closes tag ·.node) with
      | .kept closing :: rest =>
        let body := after.takeWhile (!closes tag ·.node)
        let span := Span.merge? n.span closing.span
        let made := (make params (body.map Piece.node) ⟨tag, span, lineOf? source span, inner⟩).1
        let box := made.withFallbackSpan span
        .block n closing box.kind box.span body :: rest
      | _ => .kept n :: after

/-- The history of expanding nodes by a registry. -/
def Registry.trace (registry : Registry) (source : Option String) (nodes : List Node) :
    List Piece :=
  nodes.foldr (traceBefore registry source (expandWithin registry source (Node.countAll nodes))) []

section Trace

variable {registry : Registry} {source : Option String} {inner : List Node → Expansion}

/-- Whether a piece is a node that was given, or closes nothing. -/
def Piece.Settled (p : Piece) : Prop := (∃ n, p = .kept n) ∨ closedTag? p.node = none

/-- A piece that closes a block is a node that was given. -/
theorem Piece.Settled.eq_kept {p : Piece} (hp : p.Settled) {tag : String}
    (h : closes tag p.node = true) : ∃ n, p = .kept n := by
  refine hp.resolve_right fun hnone => ?_
  rw [closes_of_closedTag?_eq_none hnone] at h
  cases h

theorem traceBefore_inline {n : Node} {d : Directive} {make : Params → Context → Node × List String}
    (after : List Piece) (hn : registry.recognize? n = some d)
    (hmake : d.shortcode.handler = .inline make) :
    traceBefore registry source inner n after =
      let made := (make d.params ⟨d.shortcode.name, n.span, lineOf? source n.span, inner⟩).1
      .inline n (made.withFallbackSpan n.span) :: after := by
  simp only [traceBefore, hn, hmake]

theorem traceBefore_block {n : Node} {d : Directive}
    {make : Params → List Node → Context → Node × List String} (after : List Piece)
    {closing : Node} {rest : List Piece} (hn : registry.recognize? n = some d)
    (hmake : d.shortcode.handler = .block make)
    (hafter : after.dropWhile (!closes d.shortcode.name ·.node) = .kept closing :: rest) :
    traceBefore registry source inner n after =
      let body := after.takeWhile (!closes d.shortcode.name ·.node)
      let span := Span.merge? n.span closing.span
      let box := (make d.params (body.map Piece.node)
        ⟨d.shortcode.name, span, lineOf? source span, inner⟩).1.withFallbackSpan span
      .block n closing box.kind box.span body :: rest := by
  simp only [traceBefore, hn, hmake, hafter]

/-- Whether a handler makes no closing marker, and as a block holds just what it takes, when this is
the beginning of some nodes and handlers expand by `inner`. -/
def Handler.HoldsTaken (inner : List Node → Expansion) (after : List Node) (h : Handler) : Prop :=
  h.NeverCloses ∧ ∀ make, h = .block make → ∀ params body rest ctx,
    after = body ++ rest → ctx.expand = inner → (make params body ctx).1.children = body

/-- A built-in block holds whatever it takes. -/
theorem BuiltIn.holdsTaken {s : Shortcode} (hs : BuiltIn s) (after : List Node) :
    s.handler.HoldsTaken inner after :=
  ⟨hs.neverCloses, fun _ hmake params body _ ctx _ _ => (hs.block_made hmake params body ctx).2⟩

/-- A block that holds what it takes is its box around that. -/
theorem box_eq {made : Node} {body : List Node} (h : made.children = body) (span : Option Span) :
    let box := made.withFallbackSpan span
    box = ⟨box.kind, body, box.span⟩ := by
  have hchildren := (Node.children_withFallbackSpan made span).trans h
  dsimp only
  generalize made.withFallbackSpan span = box at hchildren ⊢
  obtain ⟨kind, children, boxSpan⟩ := box
  subst hchildren
  rfl

/-- What a block takes of pieces: those in front of the first closing marker of its tag. -/
theorem nearest_kept {tag : String} {after : List Piece} (hafter : ∀ p ∈ after, p.Settled)
    {p : Piece} {rest : List Piece} (h : after.dropWhile (!closes tag ·.node) = p :: rest) :
    ∃ closing, p = .kept closing ∧ closes tag closing = true ∧
      after = after.takeWhile (!closes tag ·.node) ++ .kept closing :: rest ∧
      (after.map Piece.node).takeWhile (!closes tag ·) =
        (after.takeWhile (!closes tag ·.node)).map Piece.node ∧
      (after.map Piece.node).dropWhile (!closes tag ·) = closing :: rest.map Piece.node := by
  have hsplit : after = after.takeWhile (!closes tag ·.node) ++ p :: rest := by
    rw [← h, List.takeWhile_append_dropWhile]
  have hclosing : closes tag p.node = true := by
    have := List.head?_dropWhile_not (!closes tag ·.node) after
    simpa [h] using this
  obtain ⟨closing, rfl⟩ := (hafter p (hsplit ▸ by simp)).eq_kept hclosing
  have hmap : (after.map Piece.node).dropWhile (!closes tag ·) =
      (after.dropWhile (!closes tag ·.node)).map Piece.node := List.dropWhile_map ..
  rw [h] at hmap
  exact ⟨closing, rfl, hclosing, hsplit, List.takeWhile_map .., hmap⟩

/-- No piece closes a block when no node does. -/
theorem dropWhile_map_eq_nil {tag : String} {after : List Piece}
    (h : after.dropWhile (!closes tag ·.node) = []) :
    (after.map Piece.node).dropWhile (!closes tag ·) = [] := by
  have hmap : (after.map Piece.node).dropWhile (!closes tag ·) =
      (after.dropWhile (!closes tag ·.node)).map Piece.node := List.dropWhile_map ..
  rw [hmap, h]
  rfl

/-- **What becomes of a node in front of pieces**, in their history and in their nodes at once. -/
theorem traceBefore_cases (n : Node) {after : List Piece}
    (hr : ∀ s ∈ registry.shortcodes, s.handler.HoldsTaken inner (after.map Piece.node))
    (hafter : ∀ p ∈ after, p.Settled) (warnings : List String) :
    let pieces := traceBefore registry source inner n after
    let nodes := (expandBefore registry source inner n ⟨after.map Piece.node, warnings⟩).nodes
    (pieces = .kept n :: after ∧ nodes = n :: after.map Piece.node) ∨
    (∃ made, pieces = .inline n made :: after ∧ nodes = made :: after.map Piece.node ∧
      registry.IsMarker n ∧ closedTag? made = none) ∨
    ∃ closing kind span body rest, pieces = .block n closing kind span body :: rest ∧
      nodes = ⟨kind, body.map Piece.node, span⟩ :: rest.map Piece.node ∧
      registry.IsMarker n ∧ registry.IsMarker closing ∧
      after = body ++ .kept closing :: rest ∧
      closedTag? ⟨kind, body.map Piece.node, span⟩ = none := by
  dsimp only
  cases hn : registry.recognize? n with
  | none =>
    rw [expandBefore_none _ hn]
    exact .inl ⟨by simp only [traceBefore, hn], rfl⟩
  | some d =>
    obtain ⟨hcloses, hholds⟩ := hr _ (Registry.mem_of_recognize? hn)
    have hmarker : registry.IsMarker n := .inl (by rw [hn]; rfl)
    cases hmake : d.shortcode.handler with
    | inline make =>
      rw [hmake] at hcloses
      rw [expandBefore_inline _ hn hmake]
      refine .inr (.inl ⟨_, traceBefore_inline after hn hmake, rfl, hmarker, ?_⟩)
      rw [closedTag?_withFallbackSpan]
      exact hcloses _ _
    | block make =>
      rw [hmake] at hcloses
      cases hdrop : after.dropWhile (!closes d.shortcode.name ·.node) with
      | nil =>
        rw [expandBefore_unterminated _ hn hmake (dropWhile_map_eq_nil hdrop)]
        exact .inl ⟨by simp only [traceBefore, hn, hmake, hdrop], rfl⟩
      | cons p rest =>
        obtain ⟨closing, rfl, hclosing, hsplit, htake, hrest⟩ := nearest_kept hafter hdrop
        rw [expandBefore_block _ hn hmake hrest, htake]
        have hnodes := congrArg (List.map Piece.node) hsplit
        rw [List.map_append] at hnodes
        have hmade := hholds make hmake d.params _ _
          ⟨d.shortcode.name, Span.merge? n.span closing.span,
            lineOf? source (Span.merge? n.span closing.span), inner⟩ hnodes rfl
        refine .inr (.inr ⟨closing, _, _, _, rest, traceBefore_block after hn hmake hdrop,
          congrArg (· :: _) (box_eq hmade _), hmarker, .inr ?_, hsplit, ?_⟩)
        · exact Option.isSome_of_mem (@closedTag?_of_closes _ closing hclosing)
        · rw [← box_eq hmade, closedTag?_withFallbackSpan]
          exact hcloses _ _ _

/-! ## 3. What the history holds -/

/-- What pieces are to nodes that were given and to nodes that came out. -/
structure Records (registry : Registry) (given made : List Node) (pieces : List Piece) : Prop where
  settled : ∀ p ∈ pieces, p.Settled
  made : pieces.map Piece.node = made
  given : (Piece.cameAll pieces).map Prod.fst = given
  used : ∀ x ∈ Piece.cameAll pieces, x.2 = true → registry.IsMarker x.1

/-- One more node in front is one more node that was given, whatever becomes of it. -/
theorem Records.step {given : List Node} {after : Expansion} {pieces : List Piece}
    (hr : ∀ s ∈ registry.shortcodes, s.handler.HoldsTaken inner after.nodes)
    (h : Records registry given after.nodes pieces) (n : Node) :
    Records registry (n :: given) (expandBefore registry source inner n after).nodes
      (traceBefore registry source inner n pieces) := by
  obtain ⟨nodes, warnings⟩ := after
  obtain ⟨hsettled, rfl, hgiven, hused⟩ := h
  rcases @traceBefore_cases registry source inner n pieces hr hsettled warnings with
    ⟨htrace, hnodes⟩ | ⟨made, htrace, hnodes, hn, hcloses⟩ |
    ⟨closing, kind, span, body, rest, htrace, hnodes, hn, hclosing, hsplit, hcloses⟩
  · rw [htrace, hnodes]
    exact ⟨List.forall_mem_cons.2 ⟨.inl ⟨n, rfl⟩, hsettled⟩, rfl, congrArg (n :: ·) hgiven,
      List.forall_mem_cons.2 ⟨fun h => (nomatch h), hused⟩⟩
  · rw [htrace, hnodes]
    exact ⟨List.forall_mem_cons.2 ⟨.inr hcloses, hsettled⟩, rfl, congrArg (n :: ·) hgiven,
      List.forall_mem_cons.2 ⟨fun _ => hn, hused⟩⟩
  · rw [htrace, hnodes]
    have hblock : (Piece.block n closing kind span body).node = ⟨kind, body.map Piece.node, span⟩ := by
      rw [Piece.node, Piece.nodeAll_eq_map]
    -- a block and what follows it came from its opening marker and what was there before
    have hcame : Piece.cameAll (.block n closing kind span body :: rest) =
        (n, true) :: (Piece.cameAll body ++ (closing, true) :: Piece.cameAll rest) := by
      simp [Piece.cameAll, Piece.came]
    rw [hsplit, Piece.cameAll_append] at hgiven hused
    refine ⟨List.forall_mem_cons.2 ⟨.inr (by rw [hblock]; exact hcloses), fun p hp => ?_⟩,
      congrArg (· :: _) hblock, ?_, ?_⟩
    · exact hsettled p (by simp [hsplit, hp])
    · rw [hcame, ← hgiven]
      simp [Piece.cameAll, Piece.came]
    · rw [hcame]
      refine List.forall_mem_cons.2 ⟨fun _ => hn, List.forall_mem_append.2 ⟨fun x hx => ?_,
        List.forall_mem_cons.2 ⟨fun _ => hclosing, fun x hx => ?_⟩⟩⟩
      · exact hused x (List.mem_append_left _ hx)
      · exact hused x (List.mem_append_right _ (List.mem_cons_of_mem _ hx))

/-- The history of an expansion records it, when blocks hold what they take of expanded nodes. -/
theorem records_trace_of_holds
    (hr : ∀ after, ∀ s ∈ registry.shortcodes,
      s.handler.HoldsTaken inner (expandFromRight registry source inner after).nodes)
    (nodes : List Node) :
    Records registry nodes (expandFromRight registry source inner nodes).nodes
      (nodes.foldr (traceBefore registry source inner) []) := by
  induction nodes with
  | nil =>
    exact ⟨fun _ h => absurd h List.not_mem_nil, rfl, rfl, fun _ h => absurd h List.not_mem_nil⟩
  | cons n rest ih => exact ih.step (hr rest) n

/-- The history of an expansion by built-in shortcodes records it. -/
theorem records_trace (hr : ∀ s ∈ registry.shortcodes, BuiltIn s) (nodes : List Node) :
    Records registry nodes (expandFromRight registry source inner nodes).nodes
      (nodes.foldr (traceBefore registry source inner) []) :=
  records_trace_of_holds (fun _ s hs => (hr s hs).holdsTaken _) nodes

end Trace

/-- **Expansion by built-in shortcodes conserves content**, however ill-nested markers are.  The nodes
that come out are those of the pieces of its history, and these came from the nodes that were given,
one after the other, of which only markers were used up.  What one finds in the outcome from left to
right, looking into the blocks that were made and into nothing else, are the nodes that were given
and not used up, each once and as it was; besides these there are one marker for each inline shortcode
and two for each block. -/
theorem expand_conserves (r : Registry) (hr : ∀ s ∈ r.shortcodes, BuiltIn s)
    (source : Option String) (nodes : List Node) :
    (r.trace source nodes).map Piece.node = (r.expand source nodes).nodes ∧
      (Piece.cameAll (r.trace source nodes)).map Prod.fst = nodes ∧
      (∀ x ∈ Piece.cameAll (r.trace source nodes), x.2 = true → r.IsMarker x.1) ∧
      Piece.contentAll (r.trace source nodes) =
        Piece.unused (Piece.cameAll (r.trace source nodes)) ∧
      nodes.length = (Piece.contentAll (r.trace source nodes)).length +
        Piece.markersAll (r.trace source nodes) := by
  have h := @records_trace r source (expandWithin r source (Node.countAll nodes)) hr nodes
  refine ⟨?_, h.given, h.used, Piece.contentAll_eq_unused _, ?_⟩
  · rw [Registry.expand_eq_expandFromRight]
    exact h.made
  · rw [← Piece.length_cameAll]
    exact (congrArg List.length h.given).symm.trans (List.length_map _)

/-- Two blocks that cross: the first one ends within the second. -/
def crossingBlocks : List Node :=
  [markerOf "tip", markerOf "note", .paragraph [.text "a"], markerOf "/tip",
    .paragraph [.text "b"], markerOf "/note"]

/-- The second block takes the end of the first one, which is content then, as is its beginning. -/
theorem content_crossingBlocks : (∀ s ∈ Registry.standard.shortcodes, BuiltIn s) ∧
    Piece.contentAll (Registry.standard.trace none crossingBlocks) =
      [markerOf "tip", .paragraph [.text "a"], markerOf "/tip", .paragraph [.text "b"]] ∧
    Piece.markersAll (Registry.standard.trace none crossingBlocks) = 2 := by
  have hstandard : ∀ s ∈ Registry.standard.shortcodes, BuiltIn s := fun _ => builtIn_of_mem_standard
  obtain ⟨-, -, -, -, hlength⟩ := expand_conserves .standard hstandard none crossingBlocks
  have hcontent : Piece.contentAll (Registry.standard.trace none crossingBlocks) =
      [markerOf "tip", .paragraph [.text "a"], markerOf "/tip", .paragraph [.text "b"]] := by
    decide +kernel
  have hsix : crossingBlocks.length = 6 := rfl
  rw [hcontent, hsix] at hlength
  simp only [List.length_cons, List.length_nil] at hlength
  exact ⟨hstandard, hcontent, by omega⟩

end WikiPage.Shortcode
