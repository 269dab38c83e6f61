import WikiPage.Proofs.LinkLabels
import WikiPage.Proofs.PlainLines
import WikiPage.Proofs.ReadText
import WikiPage.Proofs.VideoAddresses
import WikiPage.Proofs.Videos
/-!
# Videos by their addresses

A page that consists of the address of a video shows the video, unless the underscores of its id make
emphasis of a part of the address.

* `feed_asPlain`: running text without emphasis is one node, however many tokens it has.
* `stressed_feed`: emphasis in running text is there in the tree.
* `transform_address`: a page of one address shows the video exactly when no run of underscores in the
  id may close an earlier one; otherwise no video is shown.
-/

namespace WikiPage

/-- Whether this is the kind of a node for emphasis. -/
def NodeKind.isStressed : NodeKind → Bool
  | emphasis | strong | strikethrough => true
  | _ => false

namespace Markdown

open Text (byteLength)

/-! ## 1. Plain text is one node -/

section Plain

variable {top : OpenNode} {outer : List OpenNode} {span : Option Span} {limit : Nat}

/-- Text that goes on with a text is joined to it. -/
theorem step_text {value further : String} {lo mid hi : Nat} (hlo : lo ≤ mid) (hhi : mid ≤ hi) :
    Assembly.step limit
        ⟨top, ⟨.paragraph, span, [⟨.text value, [], some ⟨lo, mid⟩⟩]⟩ :: outer⟩
        (.text further, ⟨mid, hi⟩) =
      .ok ⟨top, ⟨.paragraph, span, [⟨.text (value ++ further), [], some ⟨lo, hi⟩⟩]⟩ :: outer⟩ := by
  have hmerge : Span.merge ⟨lo, mid⟩ ⟨mid, hi⟩ = ⟨lo, hi⟩ := Span.merge_eq hlo hhi
  simp [Assembly.step, Assembly.text, Assembly.leaf, Assembly.add, OpenNode.add, OpenNode.joined?,
    Span.merge?, hmerge]

variable {offset : Nat} {text : List Char} {items : List Item} {runs : List Underscores}

/-- **Plain text that goes on** with a text is joined to it as a whole. -/
theorem feed_asPlain (h : Spells offset text items runs) : ∀ {value : String} {lo : Nat},
    lo ≤ offset → Assembly.feed limit
        ⟨top, ⟨.paragraph, span, [⟨.text value, [], some ⟨lo, offset⟩⟩]⟩ :: outer⟩
        (Inline.eventsAll (items.map Emphasis.asPlain)) =
      .ok ⟨top, ⟨.paragraph, span, [⟨.text (value ++ String.ofList text), [],
        some ⟨lo, offset + byteLength text⟩⟩]⟩ :: outer⟩ := by
  induction h with
  | nil offset =>
    intro value lo hlo
    rw [show String.ofList ([] : List Char) = "" from rfl, String.append_empty]
    rfl
  | @text offset text rest items runs hne hrest ih =>
    intro value lo hlo
    have hstep := @step_text top outer span limit value (String.ofList text) lo offset
      (offset + byteLength text) hlo (Nat.le_add_right ..)
    show (Assembly.step limit _ (.text (String.ofList text), ⟨offset, _⟩) >>=
      (Assembly.feed limit · _)) = _
    rw [hstep]
    refine (ih (Nat.le_add_right_of_le hlo)).trans ?_
    rw [String.append_assoc, ← String.ofList_append, Text.byteLength_append, Nat.add_assoc]
  | @run offset rest items runs u hpos hrest ih =>
    intro value lo hlo
    have hstep := @step_text top outer span limit value
      (String.ofList (List.replicate u.count '_')) lo offset (offset + u.count) hlo
      (Nat.le_add_right ..)
    have hcount : (u.run offset).count = u.count := rfl
    have hmark : (u.run offset).mark = '_' := rfl
    show (Assembly.step limit _ (.text _, ⟨offset, offset + u.count⟩) >>=
      (Assembly.feed limit · _)) = _
    rw [hcount, hmark, hstep]
    refine (ih (Nat.le_add_right_of_le hlo)).trans ?_
    rw [String.append_assoc, ← String.ofList_append, Text.byteLength_append, byteLength_replicate,
      Nat.add_assoc]

/-- Plain text at the beginning of a paragraph is one node. -/
theorem feed_asPlain_empty (h : Spells offset text items runs) (hne : text ≠ []) :
    Assembly.feed limit ⟨top, ⟨.paragraph, span, []⟩ :: outer⟩
        (Inline.eventsAll (items.map Emphasis.asPlain)) =
      .ok ⟨top, ⟨.paragraph, span,
        [⟨.text (String.ofList text), [], some ⟨offset, offset + byteLength text⟩⟩]⟩ :: outer⟩ := by
  cases h with
  | nil => exact absurd rfl hne
  | @text _ text rest items _ _ hrest =>
    refine (@feed_asPlain top outer span limit _ _ _ _ hrest (String.ofList text) offset
      (Nat.le_add_right ..)).trans ?_
    rw [← String.ofList_append, Text.byteLength_append, Nat.add_assoc]
  | @run _ rest items runs u hcount hrest =>
    refine (@feed_asPlain top outer span limit _ _ _ _ hrest
      (String.ofList (List.replicate u.count '_')) offset (Nat.le_add_right ..)).trans ?_
    rw [← String.ofList_append, Text.byteLength_append, byteLength_replicate, Nat.add_assoc]

end Plain

/-! ## 2. Emphasis stays -/

namespace OpenNode

/-- A child that is no run of text or markup is never joined to another one. -/
theorem joined?_eq_none {a b : Node} (h : a.kind.isStressed = true ∨ b.kind.isStressed = true) :
    joined? a b = none := by
  unfold joined?
  split
  · rename_i ha hb
    rw [ha, hb] at h
    simp [NodeKind.isStressed] at h
  · rename_i ha hb
    rw [ha, hb] at h
    simp [NodeKind.isStressed] at h
  · rfl

/-- Emphasis stays a child of its own when another child is added. -/
theorem mem_add_of_mem {o : OpenNode} {c : Node} (hc : c ∈ o.reversed)
    (hkind : c.kind.isStressed = true) (child : Node) : c ∈ (o.add child).reversed := by
  obtain ⟨kind, span, _ | ⟨last, earlier⟩⟩ := o
  · cases hc
  · unfold add
    dsimp only
    split
    · rename_i both hboth
      rcases List.mem_cons.1 hc with rfl | hc
      · rw [joined?_eq_none (.inl hkind)] at hboth
        cases hboth
      · exact List.mem_cons_of_mem _ hc
    · exact List.mem_cons_of_mem _ hc

theorem mem_add_self (o : OpenNode) {child : Node} (hkind : child.kind.isStressed = true) :
    child ∈ (o.add child).reversed := by
  obtain ⟨kind, span, _ | ⟨last, earlier⟩⟩ := o
  · exact List.mem_cons_self ..
  · unfold add
    dsimp only
    rw [joined?_eq_none (.inr hkind)]
    exact List.mem_cons_self ..

end OpenNode

namespace Assembly

variable {limit : Nat} {a b c : Assembly}

/-- Whether only the innermost construct has changed, and neither its kind nor the emphasis in it. -/
def Keeps (a b : Assembly) : Prop :=
  ∃ o, b = a.withInnermost o ∧ (a.innermost.kind.isCode = false → o.kind = a.innermost.kind) ∧
    ∀ n ∈ a.innermost.reversed, n.kind.isStressed = true → n ∈ o.reversed

theorem Keeps.refl (a : Assembly) : Keeps a a :=
  ⟨a.innermost, a.withInnermost_innermost.symm, fun _ => rfl, fun _ hn _ => hn⟩

theorem Keeps.trans (hab : Keeps a b) (hbc : Keeps b c) : Keeps a c := by
  obtain ⟨o, rfl, hkind, hmem⟩ := hab
  obtain ⟨o', rfl, hkind', hmem'⟩ := hbc
  rw [innermost_withInnermost] at hkind' hmem'
  refine ⟨o', a.withInnermost_withInnermost _ _, fun hcode => ?_, fun n hn hs =>
    hmem' n (hmem n hn hs) hs⟩
  rw [hkind' (by rw [hkind hcode]; exact hcode), hkind hcode]

theorem keeps_add (a : Assembly) (child : Node) : Keeps a (a.add child) :=
  ⟨_, a.add_eq_withInnermost _, fun _ => OpenNode.kind_add _ _, fun _ hn hs =>
    OpenNode.mem_add_of_mem hn hs child⟩

/-- An event that stands for itself adds a child, or more code. -/
theorem keeps_step {event : Event} {s : Span} (hevent : event.isLeaf = true)
    (hb : a.step limit (event, s) = .ok b) : Keeps a b := by
  cases event with
  | start tag => cases hevent
  | finish tag => cases hevent
  | text value =>
    cases hb
    unfold Assembly.text
    split
    · refine ⟨_, rfl, fun hcode => ?_, fun _ hn _ => hn⟩
      cases hcode
    · exact keeps_add _ _
  | _ =>
    cases hb
    exact keeps_add _ _

/-- What a construct holds leaves alone what is around it. -/
theorem keeps_feed {events : List Located} (h : Nested events) : ∀ {a b : Assembly},
    a.feed limit events = .ok b → Keeps a b := by
  induction h with
  | nil =>
    intro a b hb
    cases hb
    exact .refl a
  | leaf e he hrest ih =>
    intro a b hb
    obtain ⟨c, hc, hb⟩ := ok_of_bind hb
    exact (keeps_step he hc).trans (ih hb)
  | framed tag s hinner hrest ihinner ih =>
    intro a b hb
    obtain ⟨started, held, hstarted, hheld, hb⟩ := feed_framed hb
    refine Keeps.trans ?_ (ih hb)
    obtain ⟨hkind, rfl⟩ | ⟨kind, hkind, rfl⟩ := start_spec hstarted
    · rw [finish, hkind]
      exact ihinner hheld
    · obtain ⟨o, rfl, -⟩ := ihinner hheld
      rw [finish, hkind]
      exact keeps_add a o.close

/-- A construct is fed as its start, what it holds, and its end. -/
theorem feed_framed_of {started held : Assembly} {tag : Tag} {s : Span} {inner : List Located}
    (hstart : a.start limit tag s = .ok started) (hheld : started.feed limit inner = .ok held) :
    a.feed limit (framed tag s inner) = .ok (held.finish tag) := by
  rw [feed, framed, List.cons_append, List.foldlM_cons]
  show (a.start limit tag s >>= _) = _
  rw [hstart]
  show List.foldlM (step limit) started (inner ++ [(.finish tag, s)]) = _
  rw [List.foldlM_append]
  show (started.feed limit inner >>= _) = _
  rw [hheld]
  rfl

theorem innermost_add (a : Assembly) (child : Node) :
    (a.add child).innermost = a.innermost.add child := by
  rw [add_eq_withInnermost, innermost_withInnermost]

/-- What is left of emphasis when it ends is a child of what is around it. -/
theorem stressed_framed {tag : Tag} {kind : NodeKind} {s : Span} {inner : List Located}
    (hkind : tag.kind? = some kind) (hstressed : kind.isStressed = true) (hinner : Nested inner)
    (hb : a.feed limit (framed tag s inner) = .ok b) :
    ∃ n ∈ b.innermost.reversed, n.kind.isStressed = true := by
  rw [← List.append_nil (framed tag s inner)] at hb
  obtain ⟨started, held, hstarted, hheld, hb⟩ := feed_framed hb
  cases hb
  obtain ⟨hnone, -⟩ | ⟨kind', hkind', rfl⟩ := start_spec hstarted
  · rw [hkind] at hnone
    cases hnone
  · obtain rfl : kind = kind' := Option.some.inj (hkind.symm.trans hkind')
    obtain ⟨o, rfl, ho, -⟩ := keeps_feed hinner hheld
    have hclosed : o.close.kind.isStressed = true := by
      have hcode : kind.isCode = false := by cases kind <;> first | rfl | cases hstressed
      show o.kind.isStressed = true
      rw [ho hcode]
      exact hstressed
    refine ⟨o.close, ?_, hclosed⟩
    rw [finish, hkind]
    show o.close ∈ (a.add o.close).innermost.reversed
    rw [innermost_add]
    exact OpenNode.mem_add_self _ hclosed

/-- **Emphasis in running text** becomes a child of what holds the text. -/
theorem stressed_feed : ∀ {pieces : List Inline} {a : Assembly},
    (∃ piece ∈ pieces, Emphasis.isStressed piece = true) →
      a.feed limit (Inline.eventsAll pieces) = .ok b →
        ∃ n ∈ b.innermost.reversed, n.kind.isStressed = true
  | [], _, ⟨_, hmem, _⟩, _ => by cases hmem
  | piece :: rest, a, ⟨p, hmem, hstressed⟩, hb => by
    rw [Inline.eventsAll, feed, List.foldlM_append] at hb
    obtain ⟨c, hc, hlater⟩ := ok_of_bind hb
    rcases List.mem_cons.1 hmem with rfl | hmem
    · obtain ⟨n, hn, hkind⟩ : ∃ n ∈ c.innermost.reversed, n.kind.isStressed = true := by
        cases p with
        | emphasis span children =>
          exact stressed_framed rfl rfl (Inline.nested_eventsAll children) hc
        | strong span children =>
          exact stressed_framed rfl rfl (Inline.nested_eventsAll children) hc
        | struck span children =>
          exact stressed_framed rfl rfl (Inline.nested_eventsAll children) hc
        | _ => cases hstressed
      obtain ⟨o, rfl, -, hkept⟩ := keeps_feed (Inline.nested_eventsAll rest) hlater
      rw [innermost_withInnermost]
      exact ⟨n, hkept n hn hkind, hkind⟩
    · exact stressed_feed ⟨p, hmem, hstressed⟩ hlater

end Assembly

/-! ## 3. The tree of a plain page -/

section Page

variable {options : ParseOptions} {source : String} {rest : List Char}

/-- The events of a plain page are those of a paragraph of plain text and runs of underscores. -/
theorem eventsOf_plain (hsource : source.toList = 'h' :: rest)
    (hrest : ∀ c ∈ rest, isPlain c = true) : ∃ items,
      eventsOf options.extensions source = framed .paragraph ⟨0, source.utf8ByteSize⟩
        (Inline.eventsAll (Emphasis.resolve items)) ∧
      Spells 0 source.toList items ((underscores true 0 rest).filter Underscores.marks) := by
  obtain ⟨tokens, hread, hsimple, hspells⟩ := read_plain options.extensions hsource hrest
  refine ⟨tokens.map Token.item, ?_, hspells⟩
  unfold eventsOf
  rw [hread, Links.byteLength_toList]
  simp only [Block.eventsAll, Block.events, RunningText.events, List.append_nil, List.nil_append]
  rw [TextContext.resolve_of_isSimple hsimple]
  rfl

/-- **A plain page without emphasis** is one paragraph of one text. -/
theorem parseEvents_of_unpaired (hsource : source.toList = 'h' :: rest)
    (hrest : ∀ c ∈ rest, isPlain c = true) (hnesting : 0 < options.maxNesting)
    (hruns : (underscores true 0 rest).Pairwise fun a b => a.pairs b = false) :
    parseEvents options source =
      .ok ⟨.root, [⟨.paragraph, [⟨.text source, [], some ⟨0, source.utf8ByteSize⟩⟩],
        some ⟨0, source.utf8ByteSize⟩⟩], some ⟨0, source.utf8ByteSize⟩⟩ := by
  obtain ⟨items, hevents, hspells⟩ := @eventsOf_plain options source rest hsource hrest
  have hresolve := Emphasis.resolve_of_unpaired hspells (pairwise_filter_marks.2 hruns)
  have hfeed := @feed_asPlain_empty (Assembly.empty source.utf8ByteSize).top []
    (some ⟨0, source.utf8ByteSize⟩) options.maxNesting _ _ _ _ hspells (by rw [hsource]; simp)
  rw [String.ofList_toList, Links.byteLength_toList, Nat.zero_add] at hfeed
  have hstart : (Assembly.empty source.utf8ByteSize).start options.maxNesting .paragraph
      ⟨0, source.utf8ByteSize⟩ = .ok ⟨(Assembly.empty source.utf8ByteSize).top,
        [⟨.paragraph, some ⟨0, source.utf8ByteSize⟩, []⟩]⟩ := by
    simp [Assembly.start, Tag.kind?, Assembly.empty, hnesting]
  rw [parseEvents, treeOfEvents, hevents, hresolve, Assembly.feed_framed_of hstart hfeed]
  rfl

/-- **A plain page with emphasis** is one paragraph that is not all text. -/
theorem parseEvents_of_paired (hsource : source.toList = 'h' :: rest)
    (hrest : ∀ c ∈ rest, isPlain c = true)
    (hruns : ¬ (underscores true 0 rest).Pairwise fun a b => a.pairs b = false) {tree : Node}
    (htree : parseEvents options source = .ok tree) :
    ∃ children span, tree.children = [⟨.paragraph, children, span⟩] ∧
      ∃ c ∈ children, c.kind.isStressed = true := by
  obtain ⟨items, hevents, hspells⟩ := @eventsOf_plain options source rest hsource hrest
  have hstressed := Emphasis.resolve_of_paired hspells fun h => hruns (pairwise_filter_marks.1 h)
  obtain ⟨a, ha, rfl⟩ := ok_of_map htree
  rw [hevents, ← List.append_nil (framed ..)] at ha
  obtain ⟨started, held, hstarted, hheld, ha⟩ := Assembly.feed_framed ha
  cases ha
  obtain ⟨hnone, -⟩ | ⟨kind, hkind, rfl⟩ := Assembly.start_spec hstarted
  · cases hnone
  · cases hkind
    obtain ⟨o, rfl, ho, -⟩ := Assembly.keeps_feed (Inline.nested_eventsAll _) hheld
    obtain ⟨c, hc, hstressed⟩ := Assembly.stressed_feed hstressed hheld
    rw [Assembly.innermost_withInnermost] at hc
    refine ⟨o.reversed.reverse, o.span, ?_, c, List.mem_reverse.2 hc, hstressed⟩
    show [o.close] = _
    rw [OpenNode.close, ho rfl]
    rfl

end Page

end Markdown

/-! ## 4. Paragraphs with emphasis -/

open Markdown Shortcode

section Stressed

variable {n c : Node}

/-- Making links leaves emphasis where it is. -/
theorem Links.stressed_autolink (hc : c ∈ n.children) (hstressed : c.kind.isStressed = true) :
    ∃ c' ∈ (autolink n).children, c'.kind.isStressed = true := by
  obtain ⟨kind, children, span⟩ := n
  refine ⟨autolink c, mem_autolinkAll_of_mem hc fun _ => ?_, by rw [kind_autolink]; exact hstressed⟩
  refine splitTextWith?_eq_none fun value hvalue => ?_
  rw [hvalue] at hstressed
  cases hstressed

/-- Nothing else but the emphasis may be all that a node holds. -/
theorem isStressed_of_children (hc : c ∈ n.children) (hstressed : c.kind.isStressed = true)
    {only : Node} (h : n.children = [only]) : only.kind.isStressed = true := by
  rw [h] at hc
  rw [← List.mem_singleton.1 hc]
  exact hstressed

/-- No video takes the place of a paragraph with emphasis. -/
theorem Embeds.video?_of_stressed (embeds : Embeds) (hc : c ∈ n.children)
    (hstressed : c.kind.isStressed = true) : embeds.video? n = none := by
  refine Option.eq_none_iff_forall_ne_some.2 fun video h => ?_
  obtain ⟨-, url, title, label, span, frame, hlink, -⟩ := video?_eq_some_iff.1 h
  cases isStressed_of_children hc hstressed hlink

/-- A paragraph with emphasis opens no shortcode. -/
theorem markerText?_of_stressed (hc : c ∈ n.children) (hstressed : c.kind.isStressed = true) :
    markerText? n = none := by
  refine Links.markerText?_eq_none fun only h => ?_
  have hkind := isStressed_of_children hc hstressed h
  obtain ⟨kind, _, _⟩ := only
  cases kind <;> first | rfl | cases hkind

end Stressed

/-! ## 5. Pages of one address -/

/-- An address of a video is a plain line, whose runs of underscores are those of the id. -/
theorem VideoForm.plain_address (form : VideoForm) (id : VideoId) :
    ∃ rest, (form.address id).toList = 'h' :: rest ∧ (∀ c ∈ rest, isPlain c = true) ∧
      underscores true 0 rest = underscores false 0 id.chars := by
  have hid : ∀ c ∈ id.chars, isPlain c = true := fun c hc =>
    forall_videoIdChar (P := (isPlain · = true)) (by decide) (id.allowed c hc)
  have hstart : ∀ c ∈ form.start.toList.tail, isPlain c = true :=
    List.all_eq_true.1 (by cases form <;> rfl)
  refine ⟨form.start.toList.tail ++ id.chars, ?_, List.forall_mem_append.2 ⟨hstart, hid⟩, ?_⟩
  · rw [toList_address]
    cases form <;> rfl
  · cases form <;> simp [start, underscores]

/-- The frame that shows a video. -/
def VideoId.frame (id : VideoId) : Node :=
  EmbedProvider.youtube.frame ("https://www.youtube.com/embed/" ++ String.ofList id.chars)

namespace VideoForm

variable (form : VideoForm) (id : VideoId)

/-- All of the page that an address is. -/
def whole : Span := ⟨0, (form.address id).utf8ByteSize⟩

/-- An address as it is read: a paragraph that holds a link and nothing else. -/
def paragraph (label : List Node) : Node :=
  ⟨.paragraph, [⟨.link (form.address id) "", label, some (form.whole id)⟩], some (form.whole id)⟩

/-- The box with a video that takes the place of the paragraph. -/
def box : Node :=
  ⟨.element "div" (Attributes.empty.withText "class" "video"), [id.frame], some (form.whole id)⟩

/-- The page of an address as it is shown: a document with nothing in it but the video. -/
def document : Node := ⟨.root, [form.box id], some (form.whole id)⟩

end VideoForm

/-- A document with one node that opens no shortcode is expanded to itself. -/
theorem Shortcode.Registry.expand_singleton {registry : Registry} {source : Option String} {n : Node}
    (hn : markerText? n = none) : registry.expand source [n] = ⟨[n], []⟩ := by
  have hrecognize : registry.recognize? n = none := by
    simp [recognize?, opening?, hn]
  rw [expand_eq_expandFromRight, expandFromRight, expandBefore_none _ hrecognize]
  rfl

/-- **A page of one node** is shown as this node, or as the video that takes its place. -/
theorem Pipeline.transform_single {p : Pipeline} {source : String} {n : Node} {span : Option Span}
    (hparse : Markdown.parse p.options.parseOptions source = .ok ⟨.root, [n], span⟩)
    (hmarker : markerText? ((p.embeds.video? n).getD n) = none) :
    p.transform source = .ok ⟨⟨.root, [(p.embeds.video? n).getD n], span⟩, []⟩ := by
  have hrewrite : p.embeds.rewriteAll true [n] = [(p.embeds.video? n).getD n] :=
    Embeds.children_rewrite p.embeds (asRead_parse hparse).2
  have hexpand := @Registry.expand_singleton p.registry (some source) _ hmarker
  refine (transform_of_parse hparse rfl).trans ?_
  show Except.ok (TransformedPage.mk
    ⟨.root, (p.registry.expand (some source) (p.embeds.rewriteAll true [n])).nodes, span⟩
    (p.registry.expand (some source) (p.embeds.rewriteAll true [n])).warnings) = _
  rw [hrewrite, hexpand]

section Address

variable {form : VideoForm} {id : VideoId}

/-- Read as a page, an address without runs that pair is a paragraph with nothing but a link. -/
theorem parse_of_unpaired
    (hruns : (underscores false 0 id.chars).Pairwise fun a b => a.pairs b = false) :
    ∃ label, Markdown.parse {} (form.address id) =
      .ok ⟨.root, [form.paragraph id label], some (form.whole id)⟩ := by
  obtain ⟨rest, hsource, hplain, hunderscores⟩ := form.plain_address id
  rw [← hunderscores] at hruns
  have hread := @parseEvents_of_unpaired {} _ rest hsource hplain (by decide) hruns
  refine ⟨[⟨.text (form.address id), [], some (form.whole id)⟩], ?_⟩
  rw [Markdown.parse, hread]
  show Except.ok (Links.autolink _) = _
  simp [Links.autolink_mk, Links.autolinkAll_cons, Links.labels, Links.splitText?_address form id,
    VideoForm.paragraph, VideoForm.whole]
  rfl

/-- The address is known as that of the video. -/
theorem frame?_address (form : VideoForm) (id : VideoId) :
    Embeds.standard.frame? (form.address id) = some id.frame := by
  have haddress : EmbedProvider.youtube.frameAddress? (form.address id) =
      some ("https://www.youtube.com/embed/" ++ String.ofList id.chars) := by
    show (EmbedProvider.youtubePattern.capture? _).map _ = _
    rw [EmbedProvider.capture?_address form]
    rfl
  simp [Embeds.frame?, Embeds.standard, haddress, VideoId.frame]

/-- The paragraph is one that the video takes the place of. -/
theorem video?_paragraph {label : List Node} :
    Embeds.standard.video? (form.paragraph id label) = some (form.box id) :=
  Embeds.video?_eq_some_iff.2 ⟨rfl, _, _, _, _, _, rfl, frame?_address form id, rfl⟩

/-- **An address without runs that pair** is shown as its video. -/
theorem transform_of_unpaired
    (hruns : (underscores false 0 id.chars).Pairwise fun a b => a.pairs b = false) :
    Pipeline.transform {} (form.address id) = .ok ⟨form.document id, []⟩ := by
  obtain ⟨label, hparse⟩ := @parse_of_unpaired form id hruns
  have hbox : (Embeds.standard.video? (form.paragraph id label)).getD (form.paragraph id label) =
      form.box id := by
    rw [video?_paragraph]
    rfl
  have hsingle := @Pipeline.transform_single {} _ _ _ hparse (by
    show markerText? ((Embeds.standard.video? (form.paragraph id label)).getD _) = none
    rw [hbox]
    rfl)
  refine hsingle.trans ?_
  show Except.ok (TransformedPage.mk ⟨.root, [(Embeds.standard.video? _).getD _], _⟩ []) = _
  rw [hbox]
  rfl

/-- **An address with runs that pair** is shown as no video. -/
theorem videos_of_paired
    (hruns : ¬ (underscores false 0 id.chars).Pairwise fun a b => a.pairs b = false)
    {page : TransformedPage} (h : Pipeline.transform {} (form.address id) = .ok page) :
    page.tree.videos = [] := by
  obtain ⟨rest, hsource, hplain, hunderscores⟩ := form.plain_address id
  rw [← hunderscores] at hruns
  obtain ⟨parsed, hparse, -⟩ := Pipeline.parse_of_transform h
  obtain ⟨tree, htree, hlinked⟩ := ok_of_map hparse
  obtain ⟨children, span, hchildren, c, hc, hstressed⟩ :=
    parseEvents_of_paired hsource hplain hruns htree
  obtain ⟨kind, _, whole⟩ := tree
  obtain rfl : kind = .root := kind_treeOfEvents htree
  obtain rfl := hchildren
  -- the emphasis is still there when links have been made
  obtain ⟨c, hc, hstressed⟩ :=
    Links.stressed_autolink (n := ⟨.paragraph, children, span⟩) hc hstressed
  obtain rfl : ⟨.root, [Links.autolink ⟨.paragraph, children, span⟩], whole⟩ = parsed := hlinked
  have hvideo := Embeds.video?_of_stressed Embeds.standard hc hstressed
  have hsingle := @Pipeline.transform_single {} _ _ _ hparse (by
    show markerText? ((Embeds.standard.video? _).getD _) = none
    rw [hvideo]
    exact markerText?_of_stressed hc hstressed)
  obtain rfl := Except.ok.inj (h.symm.trans hsingle)
  show Node.videos ⟨.root, [(Embeds.standard.video? _).getD _], whole⟩ = []
  rw [hvideo, Node.videos_of_not_isVideo rfl, Node.videosAll_cons, Option.getD_none,
    videos_of_asRead ((asRead_parse hparse).2 _ (List.mem_cons_self ..))]
  rfl

end Address

/-- **A pasted address of a video** is shown as the video, exactly when no run of underscores in its
id may close an earlier one; and otherwise no video is shown. -/
theorem Pipeline.transform_address (form : VideoForm) (id : VideoId) :
    (Pipeline.transform {} (form.address id) = .ok ⟨form.document id, []⟩ ↔
      (underscores false 0 id.chars).Pairwise fun a b => a.pairs b = false) ∧
    ((∃ page, Pipeline.transform {} (form.address id) = .ok page ∧ page.tree.videos ≠ []) ↔
      (underscores false 0 id.chars).Pairwise fun a b => a.pairs b = false) := by
  have hvideos : (form.document id).videos ≠ [] := by
    rw [VideoForm.document, Node.videos_of_not_isVideo rfl, Node.videosAll_cons,
      Node.videos_of_isVideo (by simp [VideoForm.box, NodeKind.isVideo])]
    simp
  refine ⟨⟨fun h => ?_, transform_of_unpaired⟩, fun hshown => ?_, fun h => ?_⟩
  · exact Classical.byContradiction fun hruns => hvideos (videos_of_paired hruns h)
  · obtain ⟨page, h, hpage⟩ := hshown
    exact Classical.byContradiction fun hruns => hpage (videos_of_paired hruns h)
  · exact ⟨_, transform_of_unpaired h, hvideos⟩

/-- An id of a letter between two underscores. -/
def stressedId : VideoId := ⟨['_', 'a', '_'], by decide, List.all_eq_true.1 rfl⟩

/-- An id that goes on after the second underscore. -/
def stressedStartId : VideoId := ⟨['_', 'a', '_', '-', 'b'], by decide, List.all_eq_true.1 rfl⟩

/-- Their addresses are shown as a link to what stands before the underscores, and emphasis. -/
theorem stressedId_not_shown :
    VideoForm.short.address stressedId = "https://youtu.be/_a_" ∧
      (Pipeline.transform {} (VideoForm.short.address stressedId)).toOption = some
        ⟨⟨.root, [⟨.paragraph,
          [⟨.link "https://youtu.be/" "", [⟨.text "https://youtu.be/", [], some ⟨0, 17⟩⟩],
              some ⟨0, 17⟩⟩,
            ⟨.emphasis, [⟨.text "a", [], some ⟨18, 19⟩⟩], some ⟨17, 20⟩⟩], some ⟨0, 20⟩⟩],
          some ⟨0, 20⟩⟩, []⟩ ∧
      VideoForm.short.address stressedStartId = "https://youtu.be/_a_-b" ∧
      (Pipeline.transform {} (VideoForm.short.address stressedStartId)).toOption = some
        ⟨⟨.root, [⟨.paragraph,
          [⟨.link "https://youtu.be/" "", [⟨.text "https://youtu.be/", [], some ⟨0, 17⟩⟩],
              some ⟨0, 17⟩⟩,
            ⟨.emphasis, [⟨.text "a", [], some ⟨18, 19⟩⟩], some ⟨17, 20⟩⟩,
            ⟨.text "-b", [], some ⟨20, 22⟩⟩], some ⟨0, 22⟩⟩],
          some ⟨0, 22⟩⟩, []⟩ := by
  decide +kernel

end WikiPage
