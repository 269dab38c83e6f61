import WikiPage.Proofs.EventOrder
import WikiPage.Proofs.Videos
/-!
# Spans stay in order

When the bytes of a page's events are in order, so are the spans of the tree that is made of it,
whatever pass made them: spans that are merged when text is joined, those of the parts of a text, and
those that are passed on to a video or to what takes the place of markers.

* `Row` says of nodes in a row that their spans stand behind one another between two places, and
  those of their children between the ends of theirs.  Nodes without spans have none below them.
* `grew_step` is the step and `grew_feed` the run of reading: `row_treeOfEvents`.
* Then `row_autolinkAll` for links, `row_videos` for media, and for shortcodes `row_expandBefore`,
  one node more, and `row_expandFromRight`.
* `SpansIn` says of a tree what a row says, but for the two places: `Row.spansInAll`.
* `transform_spans` follows a page through the passes.
-/

namespace WikiPage

open Node

/-- The span of two that are in order goes from the one to the other. -/
theorem Span.merge_eq {a b : Span} (hstart : a.start ≤ b.start) (hstop : a.stop ≤ b.stop) :
    a.merge b = ⟨a.start, b.stop⟩ := by
  rw [merge, Nat.min_eq_left hstart, Nat.max_eq_right hstop]

/-! ## 1. Rows of nodes -/

namespace Node

/-- Whether there is no span in a tree, and no paragraph. -/
def Bare (n : Node) : Prop := n.Everywhere fun m => m.span = none ∧ m.isParagraph = false

theorem bare_iff {n : Node} :
    n.Bare ↔ (n.span = none ∧ n.isParagraph = false) ∧ ∀ c ∈ n.children, c.Bare :=
  everywhere_iff

/-- Nodes whose spans are in order from one place to another; paragraphs have spans. -/
inductive Row : (lo hi : Nat) → List Node → Prop where
  | nil {lo hi : Nat} (h : lo ≤ hi) : Row lo hi []
  | bare {lo hi : Nat} {n : Node} {rest : List Node} (hn : n.Bare) (hrest : Row lo hi rest) :
      Row lo hi (n :: rest)
  | spanned {lo hi : Nat} {n : Node} {rest : List Node} (s : Span) (hs : n.span = some s)
      (hlo : lo ≤ s.start) (hchildren : Row s.start s.stop n.children)
      (hrest : Row s.stop hi rest) : Row lo hi (n :: rest)

namespace Row

variable {lo hi : Nat} {ns : List Node}

theorem le (h : Row lo hi ns) : lo ≤ hi := by
  induction h with
  | nil h => exact h
  | bare _ _ ih => exact ih
  | spanned _ _ hlo _ _ ihchildren ih => omega

theorem mono (h : Row lo hi ns) {lo' hi' : Nat} (hlo' : lo' ≤ lo) (hhi' : hi ≤ hi') :
    Row lo' hi' ns := by
  induction h generalizing lo' with
  | nil h => exact .nil (by omega)
  | bare hn _ ih => exact .bare hn (ih hlo' hhi')
  | spanned s hs hlo hchildren _ _ ih =>
    exact .spanned s hs (by omega) hchildren (ih (Nat.le_refl _) hhi')

theorem append {mid : Nat} {a b : List Node} (ha : Row lo mid a) (hb : Row mid hi b) :
    Row lo hi (a ++ b) := by
  induction ha with
  | nil h => exact hb.mono h (Nat.le_refl _)
  | bare hn _ ih => exact .bare hn (ih hb)
  | spanned s hs hlo hchildren _ _ ih => exact .spanned s hs hlo hchildren (ih hb)

/-- A row may be parted anywhere. -/
theorem of_append {b : List Node} : ∀ {a : List Node} {lo : Nat}, Row lo hi (a ++ b) →
    ∃ mid, Row lo mid a ∧ Row mid hi b
  | [], lo, h => ⟨lo, .nil (Nat.le_refl _), h⟩
  | n :: a, lo, h => by
    cases h with
    | bare hn hrest =>
      obtain ⟨mid, ha, hb⟩ := of_append hrest
      exact ⟨mid, .bare hn ha, hb⟩
    | spanned s hs hlo hchildren hrest =>
      obtain ⟨mid, ha, hb⟩ := of_append hrest
      exact ⟨mid, .spanned s hs hlo hchildren ha, hb⟩

theorem of_bare (hle : lo ≤ hi) (h : ∀ n ∈ ns, n.Bare) : Row lo hi ns := by
  induction ns with
  | nil => exact .nil hle
  | cons n rest ih =>
    obtain ⟨hn, hrest⟩ := List.forall_mem_cons.1 h
    exact .bare hn (ih hrest)

theorem single {n : Node} {s : Span} (hs : n.span = some s) (hlo : lo ≤ s.start)
    (hchildren : Row s.start s.stop n.children) : Row lo s.stop [n] :=
  .spanned s hs hlo hchildren (.nil (Nat.le_refl _))

end Row

end Node

/-! ## 2. Reading -/

namespace Markdown

theorem OpenNode.span_joined? {a b both : Node} (h : OpenNode.joined? a b = some both) :
    both.children = a.children ∧ both.span = Span.merge? a.span b.span := by
  unfold OpenNode.joined? at h
  split at h
  · cases h
    exact ⟨rfl, rfl⟩
  · cases h
    exact ⟨rfl, rfl⟩
  · cases h

/-- The children of a node that is open, in order. -/
def OpenNode.children (o : OpenNode) : List Node := o.reversed.reverse

/-- Two neighbours as one node reach from where the first one starts to where the second one ends. -/
theorem OpenNode.row_joined {last child both : Node} (h : joined? last child = some both)
    {lo cursor : Nat} (hlast : Row lo cursor [last]) {s : Span} (hs : child.span = some s)
    (hlo : cursor ≤ s.start) (hle : s.start ≤ s.stop) : Row lo s.stop [both] := by
  obtain ⟨hheld, hspan⟩ := span_joined? h
  cases hlast with
  | bare hbare hend =>
    have hlo' := hend.le
    obtain ⟨⟨hnone, -⟩, hbelow⟩ := bare_iff.1 hbare
    rw [hnone, hs] at hspan
    rw [← hheld] at hbelow
    exact .single hspan (by omega) (.of_bare hle hbelow)
  | spanned t ht hlo' hbelow hend =>
    have hheld' := hbelow.le
    have hend' := hend.le
    have hstop : t.stop ≤ s.stop := by omega
    rw [ht, hs, Span.merge?, Span.merge_eq (by omega) hstop] at hspan
    rw [← hheld] at hbelow
    exact .single (s := ⟨t.start, s.stop⟩) hspan hlo' (hbelow.mono (Nat.le_refl _) hstop)

/-- **One child more**: it stands behind the others, or is joined to the last one. -/
theorem OpenNode.row_add {o : OpenNode} {lo cursor : Nat} (h : Row lo cursor o.children)
    {child : Node} {s : Span} (hs : child.span = some s) (hlo : cursor ≤ s.start)
    (hchildren : Row s.start s.stop child.children) : Row lo s.stop (o.add child).children := by
  have hchild : Row cursor s.stop [child] := .single hs hlo hchildren
  obtain ⟨kind, span, _ | ⟨last, earlier⟩⟩ := o
  · exact Row.append h hchild
  · unfold OpenNode.children at h ⊢
    simp only [OpenNode.add]
    split
    · rename_i both hboth
      rw [List.reverse_cons] at h ⊢
      obtain ⟨mid, hearlier, hlast⟩ := Row.of_append h
      exact hearlier.append (row_joined hboth hlast hs hlo hchildren.le)
    · rw [List.reverse_cons]
      exact h.append hchild

namespace Assembly

/-- The construct that is open innermost, or the document. -/
def innermost (a : Assembly) : OpenNode := a.opened.headD a.top

/-- The assembly with another construct in the place of the innermost one. -/
def withInnermost (a : Assembly) (o : OpenNode) : Assembly :=
  match a.opened with
  | [] => ⟨o, []⟩
  | _ :: outer => ⟨a.top, o :: outer⟩

theorem innermost_withInnermost (a : Assembly) (o : OpenNode) :
    (a.withInnermost o).innermost = o := by
  obtain ⟨top, _ | ⟨inner, outer⟩⟩ := a <;> rfl

theorem withInnermost_withInnermost (a : Assembly) (o o' : OpenNode) :
    (a.withInnermost o).withInnermost o' = a.withInnermost o' := by
  obtain ⟨top, _ | ⟨inner, outer⟩⟩ := a <;> rfl

theorem withInnermost_innermost (a : Assembly) : a.withInnermost a.innermost = a := by
  obtain ⟨top, _ | ⟨inner, outer⟩⟩ := a <;> rfl

theorem add_eq_withInnermost (a : Assembly) (child : Node) :
    a.add child = a.withInnermost (a.innermost.add child) := by
  obtain ⟨top, _ | ⟨inner, outer⟩⟩ := a <;> rfl

/-- Whether only the innermost construct has changed, its children being in order now. -/
def Grew (lo hi : Nat) (a b : Assembly) : Prop :=
  ∃ o, b = a.withInnermost o ∧ o.span = a.innermost.span ∧ Row lo hi o.children

/-- What grew may grow further. -/
theorem Grew.further {lo mid hi : Nat} {a b c : Assembly} (h : Grew lo mid a b)
    (hfurther : Row lo mid b.innermost.children → Grew lo hi b c) : Grew lo hi a c := by
  obtain ⟨o, rfl, hspan, hrow⟩ := h
  rw [innermost_withInnermost] at hfurther
  obtain ⟨o', rfl, hspan', hrow'⟩ := hfurther hrow
  refine ⟨o', a.withInnermost_withInnermost _ _, ?_, hrow'⟩
  rw [hspan', innermost_withInnermost, hspan]

theorem grew_add {lo cursor : Nat} {a : Assembly} (h : Row lo cursor a.innermost.children)
    {child : Node} {s : Span} (hs : child.span = some s) (hlo : cursor ≤ s.start)
    (hchildren : Row s.start s.stop child.children) : Grew lo s.stop a (a.add child) :=
  ⟨_, a.add_eq_withInnermost _, OpenNode.span_add _ _, OpenNode.row_add h hs hlo hchildren⟩

/-- A construct that starts and becomes a node is open innermost then. -/
theorem start_spec {limit : Nat} {a b : Assembly} {tag : Tag} {span : Span}
    (h : a.start limit tag span = .ok b) :
    (tag.kind? = none ∧ b = a) ∨
      ∃ kind, tag.kind? = some kind ∧ b = { a with opened := ⟨kind, some span, []⟩ :: a.opened } := by
  unfold Assembly.start at h
  split at h
  · rename_i hkind
    exact .inl ⟨hkind, (Except.ok.inj h).symm⟩
  · rename_i kind hkind
    split at h
    · exact .inr ⟨kind, hkind, (Except.ok.inj h).symm⟩
    · cases h

/-- **A leaf** is one child more of the innermost construct, or more of its code. -/
theorem grew_step {limit lo cursor : Nat} {a b : Assembly} {event : Event} {s : Span}
    (h : Row lo cursor a.innermost.children) (hevent : event.isLeaf = true) (hlo : cursor ≤ s.start)
    (hs : s.start ≤ s.stop) (hb : a.step limit (event, s) = .ok b) : Grew lo s.stop a b := by
  have hleaf (kind : NodeKind) : Grew lo s.stop a (a.leaf kind s) := grew_add h rfl hlo (.nil hs)
  cases event with
  | start tag => cases hevent
  | finish tag => cases hevent
  | text value =>
    cases hb
    unfold Assembly.text
    split
    · exact ⟨_, rfl, rfl, h.mono (Nat.le_refl _) (Nat.le_trans hlo hs)⟩
    · exact hleaf _
  | _ =>
    cases hb
    exact hleaf _

/-- A construct is read as its start, what it holds, and its end. -/
theorem feed_framed {limit : Nat} {a b : Assembly} {tag : Tag} {s : Span}
    {inner rest : List Located} (h : a.feed limit (framed tag s inner ++ rest) = .ok b) :
    ∃ started held, a.start limit tag s = .ok started ∧ started.feed limit inner = .ok held ∧
      (held.finish tag).feed limit rest = .ok b := by
  rw [framed, List.append_assoc, List.cons_append] at h
  obtain ⟨started, hstarted, h⟩ := ok_of_bind h
  rw [List.foldlM_append] at h
  obtain ⟨held, hheld, h⟩ := ok_of_bind h
  exact ⟨started, held, hstarted, hheld, h⟩

/-- **What nested events put into the innermost construct** are nodes in order, up to where the
bytes of the events end. -/
theorem grew_feed {limit lo hi : Nat} {events : List Located} (h : Ordered lo hi events) :
    ∀ {a b : Assembly} {first : Nat}, Row first lo a.innermost.children →
      a.feed limit events = .ok b → Grew first hi a b := by
  induction h with
  | nil hle =>
    intro a b first hrow hb
    cases hb
    exact ⟨_, a.withInnermost_innermost.symm, rfl, hrow.mono (Nat.le_refl _) hle⟩
  | leaf event s he hlo hs hrest ih =>
    intro a b first hrow hb
    obtain ⟨c, hc, hb⟩ := ok_of_bind hb
    exact (grew_step hrow he hlo hs hc).further fun hrow => ih hrow hb
  | framed tag s hlo hinner hrest ihinner ih =>
    intro a b first hrow hb
    obtain ⟨started, held, hstarted, hheld, hb⟩ := feed_framed hb
    refine Grew.further (b := held.finish tag) ?_ fun hrow => ih hrow hb
    obtain ⟨hkind, rfl⟩ | ⟨kind, hkind, rfl⟩ := start_spec hstarted
    · -- the construct becomes no node, and what it holds goes into the one around it
      rw [finish, hkind]
      exact ihinner (hrow.mono (Nat.le_refl _) hlo) hheld
    · -- the construct is innermost until it ends, and then a child of the one around it
      have hempty : Row s.start s.start (innermost { a with
          opened := ⟨kind, some s, []⟩ :: a.opened }).children := .nil (Nat.le_refl _)
      obtain ⟨o, rfl, hspan, hchildren⟩ := ihinner hempty hheld
      rw [finish, hkind]
      exact grew_add hrow hspan hlo hchildren

end Assembly

/-- **The spans of a tree that was read** are in order when the bytes of its events are. -/
theorem row_treeOfEvents {size limit : Nat} {events : List Located} (h : Ordered 0 size events)
    {tree : Node} (htree : treeOfEvents size limit events = .ok tree) :
    tree.span = some ⟨0, size⟩ ∧ Row 0 size tree.children := by
  obtain ⟨a, ha, rfl⟩ := ok_of_map htree
  have hempty : Row 0 0 (Assembly.empty size).innermost.children := .nil (Nat.le_refl _)
  obtain ⟨o, rfl, hspan, hrow⟩ := Assembly.grew_feed h hempty ha
  exact ⟨hspan, hrow⟩

end Markdown

/-! ## 3. Links, media and shortcodes -/

namespace Links

/-- Parts of a text without a place have no spans. -/
theorem bare_partNodes {m : Node} {parts : List LinkedPart} {offset : Nat}
    (h : m ∈ partNodes none offset parts) : m.Bare := by
  obtain ⟨part, -, span, hspan, hm⟩ := mem_partNodes_cases h
  obtain rfl : span = none := by simpa using hspan
  have hlabel : Node.Bare ⟨.text (String.ofList part.text), [], none⟩ :=
    bare_iff.2 ⟨⟨rfl, rfl⟩, fun _ hc => absurd hc List.not_mem_nil⟩
  rcases hm with rfl | ⟨url, rfl⟩
  · exact hlabel
  · exact bare_iff.2 ⟨⟨rfl, rfl⟩, List.forall_mem_singleton.2 hlabel⟩

/-- Parts of a text with a place have spans as long as they are, one behind the other. -/
theorem row_partNodes (base : Nat) : ∀ (parts : List LinkedPart) (offset : Nat),
    Row (base + offset) (base + offset + Text.byteLength (parts.flatMap LinkedPart.text))
      (partNodes (some base) offset parts)
  | [], offset => .nil (Nat.le_refl _)
  | ⟨target, text⟩ :: rest, offset => by
    have ih := row_partNodes base rest (offset + Text.byteLength text)
    have hle : base + offset ≤ base + (offset + Text.byteLength text) := by omega
    have hlabel : Row (base + offset) (base + (offset + Text.byteLength text))
        [(Node.text (String.ofList text)).withSpan
          (some ⟨base + offset, base + (offset + Text.byteLength text)⟩)] :=
      .spanned _ rfl (Nat.le_refl _) (.nil hle) (.nil (Nat.le_refl _))
    rw [List.flatMap_cons, Text.byteLength_append, ← Nat.add_assoc, Nat.add_assoc base]
    cases target with
    | none => exact .spanned _ rfl (Nat.le_refl _) (.nil hle) ih
    | some url => exact .spanned _ rfl (Nat.le_refl _) hlabel ih

/-- A text is as long as its bytes. -/
theorem byteLength_toList (s : String) : Text.byteLength s.toList = s.utf8ByteSize := by
  induction s using String.push_induction with
  | empty => rfl
  | push s c ih =>
    rw [String.toList_push, Text.byteLength_append, ih, String.utf8ByteSize_push]
    rfl

/-- What stands for a text with addresses stands where the text stood. -/
theorem row_splitText? {n : Node} {nodes : List Node} (h : splitText? n = some nodes) :
    (∃ s, n.span = some s ∧ (s.start ≤ s.stop → Row s.start s.stop nodes)) ∨
      ∀ m ∈ nodes, m.Bare := by
  unfold splitText? splitTextWith? at h
  split at h
  · rename_i value hkind
    simp only at h
    split at h
    · obtain rfl := Option.some.inj h
      split
      · rename_i s hs
        split
        · rename_i hlength
          refine .inl ⟨s, hs, fun hle => ?_⟩
          have hrow := row_partNodes s.start (linked (cuts value.toList)) 0
          rw [text_linked, text_cuts, byteLength_toList, ← hlength] at hrow
          refine hrow.mono (Nat.le_refl _) ?_
          rw [Span.length]
          omega
        · exact .inr fun m hm => bare_partNodes hm
      · exact .inr fun m hm => bare_partNodes hm
    · cases h
  · cases h

theorem bare_of_splitText? {n : Node} (hn : n.Bare) {nodes : List Node}
    (h : splitText? n = some nodes) : ∀ m ∈ nodes, m.Bare := by
  obtain ⟨s, hs, -⟩ | hbare := row_splitText? h
  · rw [(bare_iff.1 hn).1.1] at hs
    cases hs
  · exact hbare

mutual
theorem bare_autolink : ∀ n : Node, n.Bare → (autolink n).Bare
  | ⟨kind, children, span⟩, h => by
    obtain ⟨hself, hchildren⟩ := bare_iff.1 h
    exact bare_iff.2 ⟨hself, bare_autolinkAll (labels kind) children hchildren⟩
theorem bare_autolinkAll (label : Bool) : ∀ ns : List Node, (∀ n ∈ ns, n.Bare) →
    ∀ m ∈ autolinkAll label ns, m.Bare
  | [], _ => fun _ hm => absurd hm List.not_mem_nil
  | n :: rest, h => by
    obtain ⟨hn, hrest⟩ := List.forall_mem_cons.1 h
    have ih := bare_autolinkAll label rest hrest
    obtain hall | ⟨nodes, -, hsplit, hall⟩ := autolinkAll_cons_cases label n rest <;> rw [hall]
    · exact List.forall_mem_cons.2 ⟨bare_autolink n hn, ih⟩
    · exact List.forall_mem_append.2 ⟨bare_of_splitText? hn hsplit, ih⟩
end

/-- **Links keep spans in order**: the parts of a text stand where it stood. -/
theorem row_autolinkAll {lo hi : Nat} {ns : List Node} (h : Row lo hi ns) :
    ∀ label : Bool, Row lo hi (autolinkAll label ns) := by
  induction h with
  | nil hle => exact fun _ => .nil hle
  | @bare _ _ n rest hn hrest ih =>
    intro label
    obtain hall | ⟨nodes, -, hsplit, hall⟩ := autolinkAll_cons_cases label n rest <;> rw [hall]
    · exact .bare (bare_autolink n hn) (ih label)
    · exact (Row.of_bare (Nat.le_refl _) (bare_of_splitText? hn hsplit)).append (ih label)
  | @spanned lo hi n rest s hs hlo hchildren hrest ihchildren ih =>
    intro label
    obtain hall | ⟨nodes, -, hsplit, hall⟩ := autolinkAll_cons_cases label n rest <;> rw [hall]
    · obtain ⟨kind, children, span⟩ := n
      exact .spanned s hs hlo (ihchildren _) (ih label)
    · obtain ⟨t, ht, hrow⟩ | hbare := row_splitText? hsplit
      · obtain rfl := Option.some.inj (hs.symm.trans ht)
        exact ((hrow hchildren.le).mono hlo (Nat.le_refl _)).append (ih label)
      · have hle := hchildren.le
        exact (Row.of_bare (by omega) hbare).append (ih label)

end Links

namespace Embeds

theorem bare_frame (p : EmbedProvider) (address : String) : (p.frame address).Bare :=
  bare_iff.2 ⟨⟨rfl, rfl⟩, fun _ hc => absurd hc List.not_mem_nil⟩

/-- **Videos keep spans in order**: a video stands where its paragraph stood. -/
theorem row_videos (e : Embeds) {lo hi : Nat} {ns : List Node} (h : Row lo hi ns) :
    Row lo hi (ns.map fun n => (e.video? n).getD n) := by
  induction h with
  | nil hle => exact .nil hle
  | @bare _ _ n rest hn _ ih =>
    have hnone : e.video? n = none := by
      rw [video?, (bare_iff.1 hn).1.2]
      rfl
    rw [List.map_cons, hnone]
    exact .bare hn ih
  | @spanned _ _ n rest s hs hlo hchildren _ _ ih =>
    rw [List.map_cons]
    cases hvideo : e.video? n with
    | none => exact .spanned s hs hlo hchildren ih
    | some video =>
      obtain ⟨-, url, title, label, span, frame, -, hframe, rfl⟩ := video?_eq_some_iff.1 hvideo
      obtain ⟨provider, -, id, -, rfl⟩ := frame?_eq_some hframe
      refine .spanned s hs hlo (Row.of_bare hchildren.le ?_) ih
      exact List.forall_mem_singleton.2 (bare_frame _ _)

end Embeds

namespace Shortcode

theorem span_withFallbackSpan {n : Node} (h : n.span = none) (span : Option Span) :
    (n.withFallbackSpan span).span = span := by
  unfold withFallbackSpan
  rw [h]
  rfl

/-- Built-in shortcodes leave it to expansion where what they make stands. -/
theorem BuiltIn.makes_spanless {s : Shortcode} (hs : BuiltIn s) :
    s.handler.Makes (·.span = none) := by
  cases hs with
  | hint kind => exact fun _ _ _ => rfl
  | blueprint address =>
    intro params ctx
    show (blueprintNode (Address.withSlash address) params ctx).1.span = none
    unfold blueprintNode
    dsimp only
    split <;> rfl
  | versionGate => exact fun _ _ _ => rfl

variable {registry : Registry} {source : Option String} {inner : List Node → Expansion}

/-- What a node in front of expanded nodes becomes stands where the markers stood: an inline
shortcode in the place of its marker, and a block from marker to marker, around what it takes. -/
theorem expandBefore_places (hr : ∀ s ∈ registry.shortcodes, BuiltIn s) (n : Node)
    (after : Expansion) :
    (expandBefore registry source inner n after).nodes = n :: after.nodes ∨
      n.isParagraph = true ∧
        ((∃ made, (expandBefore registry source inner n after).nodes = made :: after.nodes ∧
            made.span = n.span ∧ made.children = []) ∨
          ∃ box closing rest, (expandBefore registry source inner n after).nodes = box :: rest ∧
            after.nodes = box.children ++ closing :: rest ∧ closing.isParagraph = true ∧
            box.span = Span.merge? n.span closing.span) := by
  cases hn : registry.recognize? n with
  | none => exact .inl (congrArg Expansion.nodes (expandBefore_none _ hn))
  | some d =>
    have hs := hr _ (Registry.mem_of_recognize? hn)
    have hparagraph : n.isParagraph = true :=
      Links.isParagraph_of_isMarker (.inl (by rw [hn]; rfl))
    have hspan := hs.makes_spanless
    cases hmake : d.shortcode.handler with
    | inline make =>
      rw [hmake] at hspan
      refine .inr ⟨hparagraph, .inl
        ⟨_, congrArg Expansion.nodes (expandBefore_inline _ hn hmake), ?_, ?_⟩⟩
      · exact span_withFallbackSpan (hspan _ _) _
      · rw [children_withFallbackSpan]
        exact (hs.inline_made hmake _ _).2
    | block make =>
      rw [hmake] at hspan
      cases hdrop : after.nodes.dropWhile (!closes d.shortcode.name ·) with
      | nil => exact .inl (congrArg Expansion.nodes (expandBefore_unterminated after hn hmake hdrop))
      | cons closing rest =>
        obtain ⟨hafter, hclosing, -⟩ := nearest_closing hdrop
        refine .inr ⟨hparagraph, .inr ⟨_, closing, rest,
          congrArg Expansion.nodes (expandBefore_block after hn hmake hdrop), ?_, ?_, ?_⟩⟩
        · rw [children_withFallbackSpan, (hs.block_made hmake _ _ _).2]
          exact hafter
        · refine Links.isParagraph_of_isMarker (r := registry) (.inr ?_)
          rw [closedTag?_of_closes hclosing]
          rfl
        · exact span_withFallbackSpan (hspan _ _ _) _

/-- **One node more**: what takes the place of markers stands where they stood. -/
theorem row_expandBefore (hr : ∀ s ∈ registry.shortcodes, BuiltIn s) {lo hi : Nat} {n : Node}
    {after : Expansion} (h : Row lo hi (n :: after.nodes)) :
    Row lo hi (expandBefore registry source inner n after).nodes := by
  obtain hsame | ⟨hparagraph, hplace⟩ := @expandBefore_places registry source inner hr n after
  · rwa [hsame]
  cases h with
  | bare hn _ =>
    rw [(bare_iff.1 hn).1.2] at hparagraph
    cases hparagraph
  | spanned s hs hlo hchildren hrest =>
    obtain ⟨made, hnodes, hspan, hempty⟩ | ⟨box, closing, rest, hnodes, hafter, hclosing, hspan⟩ :=
      hplace <;> rw [hnodes]
    · refine .spanned s (hspan.trans hs) hlo ?_ hrest
      rw [hempty]
      exact .nil hchildren.le
    · rw [hafter] at hrest
      obtain ⟨mid, hbody, hend⟩ := Row.of_append hrest
      cases hend with
      | bare hbare _ =>
        rw [(bare_iff.1 hbare).1.2] at hclosing
        cases hclosing
      | spanned t ht hmid hbelow hleft =>
        have hle := hchildren.le
        have hle' := hbody.le
        have hle'' := hbelow.le
        rw [hs, ht, Span.merge?, Span.merge_eq (by omega) (by omega)] at hspan
        refine .spanned ⟨s.start, t.stop⟩ hspan hlo (hbody.mono hle ?_) hleft
        exact Nat.le_trans hmid hle''

/-- **Expansion keeps spans in order**, whatever blocks take. -/
theorem row_expandFromRight (hr : ∀ s ∈ registry.shortcodes, BuiltIn s) :
    ∀ {nodes : List Node} {lo hi : Nat}, Row lo hi nodes →
      Row lo hi (expandFromRight registry source inner nodes).nodes
  | [], _, _, h => h
  | n :: rest, lo, hi, h => by
    refine row_expandBefore hr ?_
    cases h with
    | bare hn hrest => exact .bare hn (row_expandFromRight hr hrest)
    | spanned s hs hlo hchildren hrest =>
      exact .spanned s hs hlo hchildren (row_expandFromRight hr hrest)

end Shortcode

/-! ## 4. Trees -/

namespace Node

/-- Whether spans of neighbours stand behind one another. -/
def InRow (ns : List Node) : Prop :=
  (ns.filterMap Node.span).Pairwise fun a b => a.stop ≤ b.start

mutual
/-- Whether each span of a tree ends behind its start and lies in the nearest span above it, that
above the tree being `around`, and the spans of neighbours stand behind one another. -/
def SpansIn (around : Span) : Node → Prop
  | ⟨_, children, span⟩ =>
    (∀ s, span = some s → s.start ≤ s.stop ∧ s.Within around) ∧ InRow children ∧
      SpansInAll (span.getD around) children
/-- Whether this holds of nodes in a row. -/
def SpansInAll (around : Span) : List Node → Prop
  | [] => True
  | n :: rest => SpansIn around n ∧ SpansInAll around rest
end

mutual
theorem spansIn_of_bare (around : Span) : ∀ n : Node, n.Bare → n.SpansIn around
  | ⟨kind, children, span⟩, h => by
    obtain ⟨⟨hspan, -⟩, hchildren⟩ := bare_iff.1 h
    obtain rfl : span = none := hspan
    refine ⟨fun s hs => (by cases hs), ?_, spansInAll_of_bare around children hchildren⟩
    have hnone : children.filterMap Node.span = [] :=
      List.filterMap_eq_nil_iff.2 fun c hc => (bare_iff.1 (hchildren c hc)).1.1
    rw [InRow, hnone]
    exact .nil
theorem spansInAll_of_bare (around : Span) : ∀ ns : List Node, (∀ n ∈ ns, n.Bare) →
    SpansInAll around ns
  | [], _ => trivial
  | n :: rest, h => by
    obtain ⟨hn, hrest⟩ := List.forall_mem_cons.1 h
    exact ⟨spansIn_of_bare around n hn, spansInAll_of_bare around rest hrest⟩
end

namespace Row

variable {lo hi : Nat} {ns : List Node}

theorem bounds (h : Row lo hi ns) : ∀ s ∈ ns.filterMap Node.span, lo ≤ s.start := by
  induction h with
  | nil _ => exact fun _ hs => absurd hs List.not_mem_nil
  | bare hn _ ih =>
    rw [List.filterMap_cons, (bare_iff.1 hn).1.1]
    exact ih
  | spanned s hs hlo hchildren _ _ ih =>
    have hle := hchildren.le
    rw [List.filterMap_cons, hs]
    refine List.forall_mem_cons.2 ⟨hlo, fun t ht => ?_⟩
    have hbehind := ih t ht
    omega

theorem inRow (h : Row lo hi ns) : InRow ns := by
  induction h with
  | nil _ => exact .nil
  | bare hn _ ih =>
    rw [InRow, List.filterMap_cons, (bare_iff.1 hn).1.1]
    exact ih
  | spanned s hs _ _ hrest _ ih =>
    rw [InRow, List.filterMap_cons, hs]
    exact List.pairwise_cons.2 ⟨hrest.bounds, ih⟩

/-- **Nodes in a row** have spans within any that the row lies in. -/
theorem spansInAll (h : Row lo hi ns) :
    ∀ around : Span, around.start ≤ lo → hi ≤ around.stop → SpansInAll around ns := by
  induction h with
  | nil _ => exact fun _ _ _ => trivial
  | bare hn _ ih => exact fun around hlo hhi => ⟨spansIn_of_bare around _ hn, ih around hlo hhi⟩
  | @spanned _ _ n _ s hs hlo hchildren hrest ihchildren ih =>
    intro around haround hhi
    have hle := hchildren.le
    have hle' := hrest.le
    refine ⟨?_, ih around (by omega) hhi⟩
    obtain ⟨kind, children, span⟩ := n
    obtain rfl : span = some s := hs
    refine ⟨fun t ht => ?_, hchildren.inRow, ihchildren s (Nat.le_refl _) (Nat.le_refl _)⟩
    obtain rfl := Option.some.inj ht
    exact ⟨hle, by omega, by omega⟩

end Row

mutual
/-- What lies in the nearest span above it lies in all of them. -/
theorem within_of_spansIn : ∀ (n : Node) {around : Span}, n.SpansIn around →
    ∀ m ∈ n.preorder, ∀ s, m.span = some s → s.start ≤ s.stop ∧ s.Within around
  | ⟨kind, children, span⟩, around, h => by
    obtain ⟨hself, -, hchildren⟩ := h
    intro m hm s hs
    rcases List.mem_cons.1 hm with rfl | hm
    · exact hself s hs
    · obtain ⟨hle, hstart, hstop⟩ := within_of_spansInAll children hchildren m hm s hs
      refine ⟨hle, ?_⟩
      cases span with
      | none => exact ⟨hstart, hstop⟩
      | some t =>
        obtain ⟨-, hstart', hstop'⟩ := hself t rfl
        exact ⟨Nat.le_trans hstart' hstart, Nat.le_trans hstop hstop'⟩
theorem within_of_spansInAll : ∀ (ns : List Node) {around : Span}, SpansInAll around ns →
    ∀ m ∈ preorderAll ns, ∀ s, m.span = some s → s.start ≤ s.stop ∧ s.Within around
  | [], _, _ => fun _ hm => absurd hm List.not_mem_nil
  | n :: rest, _, h => by
    intro m hm
    rcases List.mem_append.1 hm with hm | hm
    · exact within_of_spansIn n h.1 m hm
    · exact within_of_spansInAll rest h.2 m hm
end

end Node

/-- The spans of a page that was read are in order when the bytes of its events are. -/
theorem Markdown.row_parse {options : ParseOptions} {source : String} {parsed : Node}
    (horder : inOrder 0 source.utf8ByteSize [] (eventsOf options.extensions source) = true)
    (h : parse options source = .ok parsed) :
    parsed.span = some ⟨0, source.utf8ByteSize⟩ ∧ Row 0 source.utf8ByteSize parsed.children := by
  obtain ⟨tree, htree, rfl⟩ := ok_of_map h
  have hordered := ordered_of_inOrder (nested_eventsOf _ _) horder
  obtain ⟨hspan, hrow⟩ := row_treeOfEvents hordered htree
  obtain ⟨kind, children, span⟩ := tree
  split
  · exact ⟨hspan, Links.row_autolinkAll hrow _⟩
  · exact ⟨hspan, hrow⟩

/-- **The spans of a transformed page are in order** when the bytes of its events are: none ends
before it starts or behind the source, each lies in the nearest span above it, and the spans of
neighbours stand behind one another. -/
theorem transform_spans (p : Pipeline) (hr : ∀ s ∈ p.registry.shortcodes, Shortcode.BuiltIn s)
    {source : String}
    (horder : Markdown.inOrder 0 source.utf8ByteSize []
      (Markdown.eventsOf p.options.parseOptions.extensions source) = true)
    {page : TransformedPage} (h : p.transform source = .ok page) :
    page.tree.span = some ⟨0, source.utf8ByteSize⟩ ∧
      page.tree.SpansIn ⟨0, source.utf8ByteSize⟩ ∧
      ∀ n ∈ page.tree.preorder, ∀ s, n.span = some s →
        s.start ≤ s.stop ∧ s.stop ≤ source.utf8ByteSize := by
  obtain ⟨parsed, hparse, htree, -⟩ := Pipeline.parse_of_transform h
  obtain ⟨hspan, hrow⟩ := Markdown.row_parse horder hparse
  obtain ⟨hkind, hread⟩ := Markdown.asRead_parse hparse
  obtain ⟨kind, children, span⟩ := parsed
  obtain rfl : kind = .root := hkind
  obtain rfl : span = some ⟨0, source.utf8ByteSize⟩ := hspan
  have hchildren : (p.embeds.rewrite ⟨.root, children, some ⟨0, source.utf8ByteSize⟩⟩).children =
      children.map fun n => (p.embeds.video? n).getD n :=
    p.embeds.children_rewrite hread
  rw [hchildren, Shortcode.Registry.expand_eq_expandFromRight] at htree
  generalize Shortcode.expandWithin p.registry (some source) _ = inner at htree
  have hexpanded := @Shortcode.row_expandFromRight p.registry (some source) inner hr _ _ _
    (p.embeds.row_videos hrow)
  have hspans : page.tree.SpansIn ⟨0, source.utf8ByteSize⟩ := by
    rw [htree]
    refine ⟨fun s hs => ?_, hexpanded.inRow,
      hexpanded.spansInAll _ (Nat.le_refl _) (Nat.le_refl _)⟩
    obtain rfl := Option.some.inj hs
    exact ⟨Nat.zero_le _, Nat.le_refl _, Nat.le_refl _⟩
  refine ⟨by rw [htree]; rfl, hspans, fun n hn s hs => ?_⟩
  obtain ⟨hle, -, hstop⟩ := within_of_spansIn _ hspans n hn s hs
  exact ⟨hle, hstop⟩

/-- A page with a text in three pieces, an address in a text, and a video in a hint. -/
def hintedVideoPage : String :=
  "a &amp; b\n\nsee www.a.org now\n\n\x7b\x7btip\x7d\x7d\n\nhttps://youtu.be/a1\n\n" ++
    "\x7b\x7b/tip\x7d\x7d\n"

theorem inOrder_hintedVideoPage :
    Markdown.inOrder 0 hintedVideoPage.utf8ByteSize []
      (Markdown.eventsOf (PipelineOptions.parseOptions {}).extensions hintedVideoPage) = true := by
  decide +kernel

theorem spans_hintedVideoPage :
    ((Pipeline.transform {} hintedVideoPage).toOption.map fun page =>
        page.tree.preorder.map Node.span) =
      some [some ⟨0, 69⟩, some ⟨0, 10⟩, some ⟨0, 9⟩, some ⟨11, 29⟩, some ⟨11, 15⟩, some ⟨15, 24⟩,
        some ⟨15, 24⟩, some ⟨24, 28⟩, some ⟨30, 69⟩, some ⟨39, 59⟩, none] := by
  decide +kernel

/-- The three pieces have one span, the text with the address has three spans, one of them also for
the text in the link, and the hint has a span from marker to marker around that of the video. -/
theorem transform_hintedVideoPage :
    ∃ page, Pipeline.transform {} hintedVideoPage = .ok page ∧
      page.tree.SpansIn ⟨0, hintedVideoPage.utf8ByteSize⟩ ∧
      page.tree.preorder.map Node.span =
        [some ⟨0, 69⟩, some ⟨0, 10⟩, some ⟨0, 9⟩, some ⟨11, 29⟩, some ⟨11, 15⟩, some ⟨15, 24⟩,
          some ⟨15, 24⟩, some ⟨24, 28⟩, some ⟨30, 69⟩, some ⟨39, 59⟩, none] := by
  obtain ⟨page, hpage, hspans⟩ := of_toOption_map spans_hintedVideoPage
  obtain ⟨-, hin, -⟩ := transform_spans {}
    (fun _ hs => Shortcode.builtIn_of_mem_standard hs) inOrder_hintedVideoPage hpage
  exact ⟨page, hpage, hin, hspans⟩

end WikiPage
