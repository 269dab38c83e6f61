import WikiPage.Proofs.Conservation
import WikiPage.Proofs.Fates
import WikiPage.Proofs.OwnFrames
import WikiPage.Proofs.ReadTrees
/-!
# The videos of a page

A video takes the place of a paragraph of the document before shortcodes are expanded, and a block
may take it with all else that stands between its markers.  No pass after that makes a video or loses
one: a marker is a paragraph with a text, so no video is used up as one.

* `videos` are the videos of a tree, in document order.
* `videos_of_asRead`: no page is read as a video; `rewriteAll_document`: where they are put in,
  and that everything else is left as it is.
* `videosAll_expandBefore` is the step and `videos_expandFromRight` the run of expansion.
* `transform_videos` follows a page through the three passes.
-/

namespace WikiPage

open Node

/-- Whether nodes of this kind are videos. -/
def NodeKind.isVideo : NodeKind → Bool
  | .element tag attributes => tag == "div" && attributes.getText? "class" == some "video"
  | _ => false

namespace Node

/-- The videos of a tree, in document order. -/
def videos (n : Node) : List Node := n.preorder.filter (·.kind.isVideo)

/-- The videos of trees in a row. -/
def videosAll (ns : List Node) : List Node := (preorderAll ns).filter (·.kind.isVideo)

@[simp] theorem videosAll_cons (n : Node) (rest : List Node) :
    videosAll (n :: rest) = n.videos ++ videosAll rest := by
  rw [videosAll, preorderAll, List.filter_append]
  rfl

theorem videosAll_append (a b : List Node) : videosAll (a ++ b) = videosAll a ++ videosAll b := by
  induction a with
  | nil => rfl
  | cons n a ih => rw [List.cons_append, videosAll_cons, videosAll_cons, ih, List.append_assoc]

/-- A video comes before those below it. -/
theorem videos_of_isVideo {n : Node} (h : n.kind.isVideo = true) :
    n.videos = n :: videosAll n.children := by
  obtain ⟨kind, children, span⟩ := n
  exact List.filter_cons_of_pos h

/-- The videos in a node that is none are those below it. -/
theorem videos_of_not_isVideo {n : Node} (h : n.kind.isVideo = false) :
    n.videos = videosAll n.children := by
  obtain ⟨kind, children, span⟩ := n
  exact List.filter_cons_of_neg (by simp [h])

end Node

/-! ## 1. Reading -/

theorem NodeKind.isVideo_of_isElement {kind : NodeKind} (h : kind.isElement = false) :
    kind.isVideo = false := by
  cases kind <;> first | rfl | cases h

/-- No page is read as a video. -/
theorem videos_of_asRead {n : Node} (h : n.Everywhere Markdown.AsRead) : n.videos = [] := by
  refine List.filter_eq_nil_iff.2 fun m hm hvideo => ?_
  have hkind := NodeKind.isVideo_of_isElement (h m hm).isElement
  rw [hkind] at hvideo
  cases hvideo

/-! ## 2. Media -/

namespace Embeds

variable {e : Embeds}

/-- **What becomes a video**: a paragraph with nothing but a link that a provider knows. -/
theorem video?_eq_some_iff {n video : Node} :
    e.video? n = some video ↔ n.isParagraph = true ∧ ∃ url title label span frame,
      n.children = [⟨.link url title, label, span⟩] ∧ e.frame? url = some frame ∧
        video = ⟨.element "div" (Attributes.empty.withText "class" "video"), [frame], n.span⟩ := by
  constructor
  · intro h
    unfold video? at h
    split at h
    · rename_i hparagraph
      split at h
      · rename_i url title label span honly
        obtain ⟨frame, hframe, rfl⟩ := Option.map_eq_some_iff.1 h
        refine ⟨hparagraph, url, title, label, span, frame, ?_, hframe, rfl⟩
        unfold onlyChild at honly
        split at honly
        · rename_i child hchildren
          rw [hchildren, Option.some.inj honly]
        · cases honly
      · cases h
    · cases h
  · rintro ⟨hparagraph, url, title, label, span, frame, hchildren, hframe, rfl⟩
    simp only [video?, hparagraph, if_true, onlyChild, hchildren, hframe, Option.map_some]
    rfl

/-- Which links become videos: those that some provider knows. -/
theorem isSome_frame?_iff {url : String} : (e.frame? url).isSome = true ↔
    ∃ provider ∈ e.providers, (provider.frameAddress? url).isSome = true := by
  simp only [frame?, List.findSome?_isSome_iff, Option.isSome_map]

/-- Which nodes become videos. -/
theorem isSome_video?_iff {n : Node} : (e.video? n).isSome = true ↔
    n.isParagraph = true ∧ ∃ url title label span, n.children = [⟨.link url title, label, span⟩] ∧
      ∃ provider ∈ e.providers, (provider.frameAddress? url).isSome = true := by
  constructor
  · intro h
    obtain ⟨video, hvideo⟩ := Option.isSome_iff_exists.1 h
    obtain ⟨hparagraph, url, title, label, span, frame, hchildren, hframe, -⟩ :=
      video?_eq_some_iff.1 hvideo
    refine ⟨hparagraph, url, title, label, span, hchildren, isSome_frame?_iff.1 ?_⟩
    rw [hframe]
    rfl
  · rintro ⟨hparagraph, url, title, label, span, hchildren, hprovider⟩
    obtain ⟨frame, hframe⟩ := Option.isSome_iff_exists.1 (isSome_frame?_iff.2 hprovider)
    exact Option.isSome_iff_exists.2
      ⟨_, video?_eq_some_iff.2 ⟨hparagraph, url, title, label, span, frame, hchildren, hframe, rfl⟩⟩

/-- A frame is no video, and there is nothing in it. -/
theorem videos_frame (p : EmbedProvider) (address : String) : (p.frame address).videos = [] := by
  unfold EmbedProvider.frame
  dsimp only
  split <;> rfl

/-- What takes the place of a paragraph is one video, and no paragraph. -/
theorem videos_of_video? {n video : Node} (h : e.video? n = some video) :
    video.videos = [video] ∧ video.isParagraph = false := by
  obtain ⟨-, url, title, label, span, frame, -, hframe, rfl⟩ := video?_eq_some_iff.1 h
  obtain ⟨provider, -, id, -, rfl⟩ := frame?_eq_some hframe
  refine ⟨?_, rfl⟩
  rw [videos_of_isVideo (by simp [NodeKind.isVideo]), videosAll_cons, videos_frame]
  rfl

mutual
/-- Nothing is put into a tree without a document in it. -/
theorem rewrite_eq_self (e : Embeds) : ∀ n : Node, n.Everywhere (·.kind.isRoot = false) →
    e.rewrite n = n
  | ⟨kind, children, span⟩, h => by
    obtain ⟨hself, hchildren⟩ := everywhere_iff.1 h
    have hroot : kind.isRoot = false := hself
    rw [rewrite, hroot, rewriteAll_eq_self e children hchildren]
theorem rewriteAll_eq_self (e : Embeds) : ∀ ns : List Node,
    (∀ n ∈ ns, n.Everywhere (·.kind.isRoot = false)) → e.rewriteAll false ns = ns
  | [], _ => rfl
  | n :: rest, h => by
    obtain ⟨hn, hrest⟩ := List.forall_mem_cons.1 h
    rw [rewriteAll]
    exact congrArg₂ (· :: ·) (rewrite_eq_self e n hn) (rewriteAll_eq_self e rest hrest)
end

/-- **Where videos are put in**: in the place of nodes of the document itself, each for itself, and
the other ones are left as they are with all that is below them. -/
theorem rewriteAll_document (e : Embeds) : ∀ {ns : List Node},
    (∀ n ∈ ns, n.Everywhere (·.kind.isRoot = false)) →
      e.rewriteAll true ns = ns.map fun n => (e.video? n).getD n
  | [], _ => rfl
  | n :: rest, h => by
    obtain ⟨hn, hrest⟩ := List.forall_mem_cons.1 h
    have ih := rewriteAll_document e hrest
    rw [List.map_cons, ← ih]
    cases hvideo : e.video? n with
    | none => simp [rewriteAll, hvideo, rewrite_eq_self e n hn]
    | some video => simp [rewriteAll, hvideo]

/-- So it is in a document that was read. -/
theorem children_rewrite (e : Embeds) {ns : List Node}
    (h : ∀ n ∈ ns, n.Everywhere Markdown.AsRead) :
    e.rewriteAll true ns = ns.map fun n => (e.video? n).getD n :=
  rewriteAll_document e fun n hn m hm => (h n hn m hm).isRoot

/-- The videos of a document with media put in. -/
theorem videosAll_rewriteAll (e : Embeds) {ns : List Node}
    (h : ∀ n ∈ ns, n.Everywhere Markdown.AsRead) :
    videosAll (ns.map fun n => (e.video? n).getD n) = ns.filterMap e.video? := by
  induction ns with
  | nil => rfl
  | cons n rest ih =>
    obtain ⟨hn, hrest⟩ := List.forall_mem_cons.1 h
    rw [List.map_cons, videosAll_cons, ih hrest, List.filterMap_cons]
    cases hvideo : e.video? n with
    | none =>
      rw [Option.getD_none, videos_of_asRead hn]
      rfl
    | some video =>
      rw [Option.getD_some, (videos_of_video? hvideo).1]
      rfl

end Embeds

/-! ## 3. Shortcodes -/

namespace Shortcode

/-- Whether a node is no video, and no paragraph either. -/
def Neither (n : Node) : Prop := n.kind.isVideo = false ∧ n.isParagraph = false

theorem isVideo_of_isBox {kind : NodeKind} (h : isBox kind = true) : kind.isVideo = false := by
  cases kind with
  | element tag attributes =>
    cases hclass : attributes.getText? "class" with
    | none => simp [isBox, hclass] at h
    | some c =>
      rw [isBox_element hclass] at h
      by_cases hc : c = "video"
      · subst hc
        exact absurd h (by decide)
      · simp [NodeKind.isVideo, hclass, hc]
  | _ => rfl

/-- A built-in shortcode makes neither. -/
theorem BuiltIn.makes_neither {s : Shortcode} (hs : BuiltIn s) : s.handler.Makes Neither := by
  cases hs with
  | hint kind =>
    intro params body ctx
    exact ⟨isVideo_of_isBox ((BuiltIn.hint kind).block_made rfl params body ctx).1, rfl⟩
  | blueprint address =>
    intro params ctx
    show Neither (blueprintNode (Address.withSlash address) params ctx).1
    unfold blueprintNode
    dsimp only
    split
    · exact ⟨rfl, rfl⟩
    · exact ⟨by simp [NodeKind.isVideo, Node.element, ofKind], rfl⟩
  | versionGate =>
    intro params body ctx
    exact ⟨isVideo_of_isBox (BuiltIn.versionGate.block_made rfl params body ctx).1, rfl⟩

/-- What a built-in shortcode makes holds what it took. -/
theorem BuiltIn.children_node {call : Call} (hs : BuiltIn call.directive.shortcode)
    (hinline : call.directive.shortcode.handler.isBlock = false → call.body = []) :
    call.node.children = call.body := by
  rw [Call.node, children_withFallbackSpan]
  unfold Call.made
  cases hmake : call.directive.shortcode.handler with
  | inline make =>
    rw [hinline (by rw [hmake]; rfl)]
    exact (hs.inline_made hmake _ _).2
  | block make => exact (hs.block_made hmake _ _ _).2

section Videos

variable {registry : Registry} {source : Option String} {inner : List Node → Expansion}

/-- The node in the place of markers is no paragraph, and its videos are those that were taken. -/
theorem videos_node (hr : ∀ s ∈ registry.shortcodes, BuiltIn s) {n : Node} {call : Call}
    (hn : registry.recognize? n = some call.directive)
    (hinline : call.directive.shortcode.handler.isBlock = false → call.body = []) :
    call.node.isParagraph = false ∧ call.node.videos = videosAll call.body := by
  have hmade : Neither call.made.1 := made_of_makes (fun s hs => (hr s hs).makes_neither) hn
  have hkind : call.node.kind = call.made.1.kind := kind_withFallbackSpan _ _
  have hchildren := (hr _ (Registry.mem_of_recognize? hn)).children_node hinline
  refine ⟨?_, ?_⟩
  · rw [isParagraph, hkind]
    exact hmade.2
  · rw [videos_of_not_isVideo (by rw [hkind]; exact hmade.1), hchildren]

/-- **One node more**: its videos come in front of those behind it, when paragraphs have none. -/
theorem videosAll_expandBefore (hr : ∀ s ∈ registry.shortcodes, BuiltIn s) {n : Node}
    {after : Expansion} (hn : n.isParagraph = true → n.videos = [])
    (hafter : ∀ m ∈ after.nodes, m.isParagraph = true → m.videos = []) :
    (∀ m ∈ (expandBefore registry source inner n after).nodes,
      m.isParagraph = true → m.videos = []) ∧
    videosAll (expandBefore registry source inner n after).nodes =
      n.videos ++ videosAll after.nodes := by
  obtain ⟨f, -, hbecomes, hexpand⟩ := @exists_fate registry inner source n after
  rw [hexpand]
  -- a marker is a paragraph, whether it opens or closes
  have hopening : ∀ d, registry.recognize? n = some d → n.videos = [] := by
    intro d hd
    exact hn (Links.isParagraph_of_isMarker (.inl (by rw [hd]; rfl)))
  cases hbecomes with
  | content _ => exact ⟨List.forall_mem_cons.2 ⟨hn, hafter⟩, videosAll_cons _ _⟩
  | unclosed _ _ _ _ => exact ⟨List.forall_mem_cons.2 ⟨hn, hafter⟩, videosAll_cons _ _⟩
  | inline call hd hinline hbody _ =>
    obtain ⟨hparagraph, hvideos⟩ := videos_node hr hd fun _ => hbody
    refine ⟨List.forall_mem_cons.2 ⟨fun h => ?_, hafter⟩, ?_⟩
    · rw [hparagraph] at h
      cases h
    · show videosAll (call.node :: after.nodes) = _
      rw [videosAll_cons, hvideos, hbody, hopening _ hd]
      rfl
  | block call closing rest hd hblock hsplit hclosing _ _ =>
    obtain ⟨hparagraph, hvideos⟩ := videos_node hr hd fun h => by
      rw [hblock] at h
      cases h
    have hend : closing.videos = [] := by
      refine hafter closing (hsplit ▸ List.mem_append_right _ List.mem_cons_self) ?_
      refine Links.isParagraph_of_isMarker (r := registry) (.inr ?_)
      rw [closedTag?_of_closes hclosing]
      rfl
    refine ⟨List.forall_mem_cons.2 ⟨fun h => ?_, fun m hm => hafter m ?_⟩, ?_⟩
    · rw [hparagraph] at h
      cases h
    · rw [hsplit]
      exact List.mem_append_right _ (List.mem_cons_of_mem _ hm)
    · show videosAll (call.node :: rest) = _
      rw [videosAll_cons, hvideos, hopening _ hd, hsplit, videosAll_append, videosAll_cons, hend]
      rfl

/-- **Expansion keeps every video**, whatever blocks take it. -/
theorem videos_expandFromRight (hr : ∀ s ∈ registry.shortcodes, BuiltIn s) :
    ∀ {nodes : List Node}, (∀ n ∈ nodes, n.isParagraph = true → n.videos = []) →
      (∀ m ∈ (expandFromRight registry source inner nodes).nodes,
        m.isParagraph = true → m.videos = []) ∧
      videosAll (expandFromRight registry source inner nodes).nodes = videosAll nodes
  | [], _ => ⟨fun _ hm => absurd hm List.not_mem_nil, rfl⟩
  | n :: rest, h => by
    obtain ⟨hn, hrest⟩ := List.forall_mem_cons.1 h
    obtain ⟨hafter, ih⟩ := @videos_expandFromRight hr rest hrest
    obtain ⟨hall, hvideos⟩ := @videosAll_expandBefore registry source inner hr n _ hn hafter
    refine ⟨hall, ?_⟩
    rw [expandFromRight, hvideos, ih, videosAll_cons]

mutual
/-- What one finds in a piece stands in its node. -/
theorem Piece.mem_preorder_of_mem_content {n : Node} : ∀ p : Piece, n ∈ p.content →
    n ∈ p.node.preorder
  | .kept m, h => by
    rw [List.mem_singleton.1 h]
    exact Embeds.mem_preorder_self m
  | .inline _ _, h => absurd h List.not_mem_nil
  | .block _ _ kind span body, h =>
    List.mem_cons_of_mem _ (Piece.mem_preorderAll_of_mem_contentAll body h)
theorem Piece.mem_preorderAll_of_mem_contentAll {n : Node} : ∀ ps : List Piece,
    n ∈ Piece.contentAll ps → n ∈ preorderAll (Piece.nodeAll ps)
  | p :: rest, h => by
    rcases List.mem_append.1 h with h | h
    · exact List.mem_append_left _ (Piece.mem_preorder_of_mem_content p h)
    · exact List.mem_append_right _ (Piece.mem_preorderAll_of_mem_contentAll rest h)
end

/-- A node is used up as a marker, or stands somewhere in what the nodes become, as it was. -/
theorem isMarker_or_mem_expandFromRight (hr : ∀ s ∈ registry.shortcodes, BuiltIn s) {n : Node}
    {nodes : List Node} (hn : n ∈ nodes) :
    registry.IsMarker n ∨
      n ∈ preorderAll (expandFromRight registry source inner nodes).nodes := by
  have h := @records_trace registry source inner hr nodes
  rw [← h.given] at hn
  obtain ⟨⟨m, used⟩, hm, rfl⟩ := List.mem_map.1 hn
  cases used with
  | true => exact .inl (h.used _ hm rfl)
  | false =>
    refine .inr ?_
    rw [← h.made, ← Piece.nodeAll_eq_map]
    refine Piece.mem_preorderAll_of_mem_contentAll _ ?_
    rw [Piece.contentAll_eq_unused]
    exact List.mem_map.2 ⟨_, List.mem_filter.2 ⟨hm, rfl⟩, rfl⟩

end Videos

end Shortcode

/-! ## 4. Pages -/

/-- **The videos of a transformed page**, in document order, are those that take the place of nodes
of the document that was read, in their order, however deep blocks take them.  These nodes are the
paragraphs with nothing but a link that a provider knows.  Any other node of the document is used up
as a marker, or stands in the page as it was read, with all paragraphs below it.  There is such a
page whenever the source can be read. -/
theorem transform_videos (p : Pipeline) (hr : ∀ s ∈ p.registry.shortcodes, Shortcode.BuiltIn s)
    {source : String} {parsed : Node}
    (h : Markdown.parse p.options.parseOptions source = .ok parsed) :
    ∃ page, p.transform source = .ok page ∧
      page.tree.videos = parsed.children.filterMap p.embeds.video? ∧
      (∀ n, (p.embeds.video? n).isSome = true ↔ n.isParagraph = true ∧
        ∃ url title label span, n.children = [⟨.link url title, label, span⟩] ∧
          ∃ provider ∈ p.embeds.providers, (provider.frameAddress? url).isSome = true) ∧
      ∀ n ∈ parsed.children, p.embeds.video? n = none →
        p.registry.IsMarker n ∨ n ∈ page.tree.preorder := by
  obtain ⟨hroot, hread⟩ := Markdown.asRead_parse h
  have hpage := Pipeline.transform_of_parse h hroot
  obtain ⟨kind, children, span⟩ := parsed
  obtain rfl : kind = .root := hroot
  have hchildren : (p.embeds.rewrite ⟨.root, children, span⟩).children =
      children.map fun n => (p.embeds.video? n).getD n :=
    p.embeds.children_rewrite hread
  -- a node of the document is read, and has no videos, or it is one
  have hparagraphs : ∀ n ∈ children.map fun n => (p.embeds.video? n).getD n,
      n.isParagraph = true → n.videos = [] := by
    intro n hn hparagraph
    obtain ⟨m, hm, rfl⟩ := List.mem_map.1 hn
    cases hvideo : p.embeds.video? m with
    | none => exact videos_of_asRead (hread m hm)
    | some video =>
      rw [hvideo, Option.getD_some, (Embeds.videos_of_video? hvideo).2] at hparagraph
      cases hparagraph
  refine ⟨_, hpage, ?_, fun n => Embeds.isSome_video?_iff, fun n hn hvideo => ?_⟩
  · rw [hchildren, Shortcode.Registry.expand_eq_expandFromRight]
    refine (videos_of_not_isVideo rfl).trans ?_
    exact (Shortcode.videos_expandFromRight hr hparagraphs).2.trans
      (p.embeds.videosAll_rewriteAll hread)
  · have hmem : n ∈ children.map fun n => (p.embeds.video? n).getD n :=
      List.mem_map.2 ⟨n, hn, by rw [hvideo, Option.getD_none]⟩
    rw [hchildren, Shortcode.Registry.expand_eq_expandFromRight]
    exact (Shortcode.isMarker_or_mem_expandFromRight hr hmem).imp_right (List.mem_cons_of_mem _)

/-- A page with a video, another one in a hint in a part for some versions, and a link in a list. -/
def videoPage : String :=
  "https://youtu.be/a1\n\n\x7b\x7bversion from=\"4.0\"\x7d\x7d\n\n\x7b\x7btip\x7d\x7d\n\n" ++
    "https://youtu.be/b2\n\n- https://youtu.be/c3\n\n\x7b\x7b/tip\x7d\x7d\n\n" ++
    "\x7b\x7b/version\x7d\x7d\n"

/-- The addresses that the frames of some videos show. -/
def shownIn (videos : List Node) : List (List String) :=
  videos.map (·.children.filterMap frameSource?)

theorem parse_videoPage : ((Markdown.parse {} videoPage).toOption.map fun parsed =>
      shownIn (parsed.children.filterMap Embeds.standard.video?)) =
    some [["https://www.youtube.com/embed/a1"], ["https://www.youtube.com/embed/b2"]] := by
  decide +kernel

/-- The two videos of the page are shown, and the link in the list is none of them. -/
theorem transform_videoPage :
    ∃ parsed page, Markdown.parse {} videoPage = .ok parsed ∧
      Pipeline.transform {} videoPage = .ok page ∧
      page.tree.videos = parsed.children.filterMap Embeds.standard.video? ∧
      shownIn page.tree.videos =
        [["https://www.youtube.com/embed/a1"], ["https://www.youtube.com/embed/b2"]] := by
  obtain ⟨parsed, hparsed, hshown⟩ := of_toOption_map parse_videoPage
  obtain ⟨page, hpage, hvideos, -⟩ := transform_videos {}
    (fun _ hs => Shortcode.builtIn_of_mem_standard hs) hparsed
  exact ⟨parsed, page, hparsed, hpage, hvideos, hvideos ▸ hshown⟩

end WikiPage
