import WikiPage.Proofs.LinkLabels
import WikiPage.Proofs.Spans
/-!
# The bytes of links

A text passes its bytes on to the parts of it that become links when it is as long as its bytes are.
Whether the text is what stands at these bytes is not looked at.  It is, when what was written
otherwise than it reads was longer: then a text as long as its bytes holds nothing of that kind,
since nothing in it can make up for what is missing.

* `StandsAt` says of a text that it stands at certain bytes of a source.
* `Faithful` texts stand at their bytes or are shorter than these; `faithful_joined`, texts that are
  joined stay so, whatever lies between them.
* `reads_step` is the step and `reads_feed` the run of reading: `faithful_treeOfEvents`.
* `spans_of_splitText?`: links that are made in a faithful text have the bytes of their labels, and
  `mem_preorder_autolink` that no other links are made.
* `parse_link_spans` puts these together.
-/

namespace WikiPage

open Node Links

/-! ## 1. Texts at places of a source -/

/-- Whether a text stands in a source at certain bytes. -/
def StandsAt (source : List Char) (span : Span) (text : List Char) : Prop :=
  ∃ before after, source = before ++ (text ++ after) ∧ Text.byteLength before = span.start ∧
    span.start + Text.byteLength text = span.stop

namespace StandsAt

variable {source x y : List Char} {a b : Span}

/-- A text has no bytes only if it is empty. -/
theorem eq_nil_of_byteLength {text : List Char} (h : Text.byteLength text = 0) : text = [] := by
  cases text with
  | nil => rfl
  | cons c rest =>
    have hpos := c.utf8Size_pos
    rw [Text.byteLength] at h
    omega

/-- A source is parted at a byte in one way only. -/
theorem append_inj {before before' after after' : List Char}
    (h : before ++ after = before' ++ after')
    (hlength : Text.byteLength before = Text.byteLength before') :
    before = before' ∧ after = after' := by
  rcases List.append_eq_append_iff.1 h with ⟨more, rfl, rfl⟩ | ⟨more, rfl, rfl⟩
  · rw [Text.byteLength_append] at hlength
    have hnone : Text.byteLength more = 0 := by omega
    obtain rfl := eq_nil_of_byteLength hnone
    simp
  · rw [Text.byteLength_append] at hlength
    have hnone : Text.byteLength more = 0 := by omega
    obtain rfl := eq_nil_of_byteLength hnone
    simp

theorem length (h : StandsAt source a x) : Text.byteLength x = a.length := by
  obtain ⟨_, _, -, -, hstop⟩ := h
  rw [Span.length]
  omega

/-- One text stands at a place. -/
theorem unique (hx : StandsAt source a x) (hy : StandsAt source a y) : x = y := by
  obtain ⟨before, after, hsource, hbefore, hstop⟩ := hx
  obtain ⟨before', after', hsource', hbefore', hstop'⟩ := hy
  obtain ⟨-, hrest⟩ := append_inj (hsource.symm.trans hsource') (hbefore.trans hbefore'.symm)
  exact (append_inj hrest (by omega)).1

/-- Texts that stand behind one another stand as one text. -/
theorem append (hx : StandsAt source a x) (hy : StandsAt source b y) (h : a.stop = b.start) :
    StandsAt source ⟨a.start, b.stop⟩ (x ++ y) := by
  obtain ⟨before, after, hsource, hbefore, hstop⟩ := hx
  obtain ⟨before', after', hsource', hbefore', hstop'⟩ := hy
  rw [← List.append_assoc] at hsource
  obtain ⟨-, rfl⟩ := append_inj (hsource.symm.trans hsource')
    (by rw [Text.byteLength_append]; omega)
  refine ⟨before, after', by rw [hsource]; simp, hbefore, ?_⟩
  rw [Text.byteLength_append]
  show a.start + _ = b.stop
  omega

/-- The parts of a text stand where it stands. -/
theorem part {z : List Char} (h : StandsAt source a (x ++ (y ++ z))) :
    StandsAt source ⟨a.start + Text.byteLength x,
      a.start + (Text.byteLength x + Text.byteLength y)⟩ y := by
  obtain ⟨before, after, hsource, hbefore, -⟩ := h
  refine ⟨before ++ x, z ++ after, by rw [hsource]; simp, ?_, Nat.add_assoc ..⟩
  rw [Text.byteLength_append, hbefore]

end StandsAt

/-! ## 2. Reading -/

/-- Whether a text stands at some bytes of a source or is shorter than they are. -/
def FaithfulAt (source : List Char) (span : Span) (text : List Char) : Prop :=
  StandsAt source span text ∨ Text.byteLength text < span.length

/-- **Texts that are joined** stay so: a gap between them adds to the bytes only. -/
theorem FaithfulAt.append {source x y : List Char} {a b : Span} (hx : FaithfulAt source a x)
    (hy : FaithfulAt source b y) (ha : a.start ≤ a.stop) (hab : a.stop ≤ b.start)
    (hb : b.start ≤ b.stop) : FaithfulAt source ⟨a.start, b.stop⟩ (x ++ y) := by
  rw [FaithfulAt, Text.byteLength_append]
  unfold Span.length at *
  rcases hx with hx | hx
  · have hlength := hx.length
    rcases hy with hy | hy
    · by_cases hgap : a.stop = b.start
      · exact .inl (hx.append hy hgap)
      · have hlength' := hy.length
        unfold Span.length at hlength hlength'
        refine .inr ?_
        show _ < b.stop - a.start
        omega
    · unfold Span.length at hlength hy
      refine .inr ?_
      show _ < b.stop - a.start
      omega
  · have hle : Text.byteLength y ≤ b.length := by
      rcases hy with hy | hy
      · exact Nat.le_of_eq hy.length
      · exact Nat.le_of_lt hy
    unfold Span.length at hx hle
    refine .inr ?_
    show _ < b.stop - a.start
    omega

/-- Whether a node, if it is a text, stands at its bytes or is shorter than they are. -/
def Faithful (source : List Char) (n : Node) : Prop :=
  ∀ value, n.kind = .text value → ∃ span, n.span = some span ∧ FaithfulAt source span value.toList

namespace Markdown

/-- Whether an event, if it is a text, stands at its bytes or is shorter than they are. -/
def FaithfulEvent (source : List Char) (e : Located) : Prop :=
  ∀ value, e.1 = .text value → FaithfulAt source e.2 value.toList

/-- What a construct that is open holds of a source: faithful texts.  It is no text itself. -/
structure OpenNode.Reads (source : List Char) (o : OpenNode) : Prop where
  kind : ∀ value, o.kind ≠ .text value
  children : ∀ c ∈ o.children, c.Everywhere (Faithful source)

section Reads

variable {source : List Char}

/-- Two neighbours as one node. -/
theorem faithful_joined {last child both : Node} (h : OpenNode.joined? last child = some both)
    (hlast : last.Everywhere (Faithful source)) (hchild : child.Everywhere (Faithful source))
    {lo cursor : Nat} (hrow : Row lo cursor [last]) {s : Span} (hs : child.span = some s)
    (hlo : cursor ≤ s.start) (hle : s.start ≤ s.stop) : both.Everywhere (Faithful source) := by
  obtain ⟨hlastSelf, hlastChildren⟩ := everywhere_iff.1 hlast
  obtain ⟨hheld, hspan⟩ := OpenNode.span_joined? h
  refine everywhere_iff.2 ⟨?_, by rw [hheld]; exact hlastChildren⟩
  unfold OpenNode.joined? at h
  split at h
  · rename_i x y hx hy
    obtain ⟨a, ha, hxa⟩ := hlastSelf x hx
    obtain ⟨b, hb, hyb⟩ := (everywhere_iff.1 hchild).1 y hy
    obtain rfl := Option.some.inj (hs.symm.trans hb)
    -- the last node has a span, which ends before that of the next one begins
    obtain ⟨hale, hab⟩ : a.start ≤ a.stop ∧ a.stop ≤ s.start := by
      cases hrow with
      | bare hbare _ =>
        rw [(bare_iff.1 hbare).1.1] at ha
        cases ha
      | spanned t ht _ hbelow hend =>
        obtain rfl := Option.some.inj (ha.symm.trans ht)
        have hle := hbelow.le
        have hle' := hend.le
        exact ⟨hle, by omega⟩
    intro value hvalue
    rw [ha, hs, Span.merge?, Span.merge_eq (by omega) (by omega)] at hspan
    cases h
    obtain rfl : x ++ y = value := NodeKind.text.inj hvalue
    refine ⟨_, hspan, ?_⟩
    rw [String.toList_append]
    exact hxa.append hyb hale hab hle
  · cases h
    intro value hvalue
    cases hvalue
  · cases h

/-- **One child more.** -/
theorem OpenNode.Reads.add {o : OpenNode} (h : o.Reads source) {lo cursor : Nat}
    (hrow : Row lo cursor o.children) {child : Node} (hchild : child.Everywhere (Faithful source))
    {s : Span} (hs : child.span = some s) (hlo : cursor ≤ s.start) (hle : s.start ≤ s.stop) :
    (o.add child).Reads source := by
  refine ⟨fun value => by rw [OpenNode.kind_add]; exact h.kind value, ?_⟩
  have hchildren := h.children
  obtain ⟨kind, span, _ | ⟨last, earlier⟩⟩ := o
  · exact fun c hc => by rwa [List.mem_singleton.1 hc]
  · unfold OpenNode.children at hrow hchildren ⊢
    simp only [OpenNode.add]
    rw [List.reverse_cons] at hrow hchildren
    obtain ⟨mid, -, hlastRow⟩ := Row.of_append hrow
    obtain ⟨hearlier, hlast⟩ := List.forall_mem_append.1 hchildren
    split
    · rename_i both hboth
      rw [List.reverse_cons]
      refine List.forall_mem_append.2 ⟨hearlier, fun c hc => ?_⟩
      rw [List.mem_singleton.1 hc]
      exact faithful_joined hboth (hlast last (List.mem_singleton_self _)) hchild hlastRow hs hlo hle
    · rw [List.reverse_cons, List.reverse_cons]
      exact List.forall_mem_append.2 ⟨List.forall_mem_append.2 ⟨hearlier, hlast⟩,
        fun c hc => by rwa [List.mem_singleton.1 hc]⟩

/-- A leaf is faithful when its event is. -/
theorem faithful_leaf {kind : NodeKind} {s : Span}
    (h : ∀ value, kind = .text value → FaithfulAt source s value.toList) :
    Node.Everywhere (Faithful source) ⟨kind, [], some s⟩ :=
  everywhere_iff.2 ⟨fun value hvalue => ⟨s, rfl, h value hvalue⟩,
    fun _ hc => absurd hc List.not_mem_nil⟩

/-- A construct that has ended is faithful. -/
theorem OpenNode.Reads.close {o : OpenNode} (h : o.Reads source) :
    o.close.Everywhere (Faithful source) :=
  everywhere_iff.2 ⟨fun value hvalue => absurd hvalue (h.kind value), h.children⟩

/-- **A leaf more.** -/
theorem reads_step {limit lo cursor : Nat} {a b : Assembly} {event : Event} {s : Span}
    (hrow : Row lo cursor a.innermost.children) (h : a.innermost.Reads source)
    (hevent : event.isLeaf = true) (hfaithful : FaithfulEvent source (event, s))
    (hlo : cursor ≤ s.start) (hs : s.start ≤ s.stop) (hb : a.step limit (event, s) = .ok b) :
    b.innermost.Reads source := by
  have hleaf : ∀ kind : NodeKind, (∀ value, kind = .text value →
      FaithfulAt source s value.toList) → (a.leaf kind s).innermost.Reads source := by
    intro kind hkind
    rw [Assembly.leaf, Assembly.add_eq_withInnermost, Assembly.innermost_withInnermost]
    exact h.add hrow (faithful_leaf hkind) rfl hlo hs
  cases event with
  | start tag => cases hevent
  | finish tag => cases hevent
  | text value =>
    cases hb
    unfold Assembly.text
    split
    · exact ⟨fun _ => nofun, h.children⟩
    · refine hleaf _ fun value' hvalue => ?_
      obtain rfl := NodeKind.text.inj hvalue
      exact hfaithful _ rfl
  | _ =>
    cases hb
    exact hleaf _ fun _ => nofun

theorem kind?_ne_text {tag : Tag} {value : String} : tag.kind? ≠ some (.text value) := by
  cases tag <;> exact nofun

/-- A construct that ends becomes a child of what is around it. -/
theorem reads_finish {a : Assembly} {tag : Tag} {kind : NodeKind} {s : Span} {o : OpenNode}
    {first lo : Nat} (hkind : tag.kind? = some kind) (hrow : Row first lo a.innermost.children)
    (hreads : a.innermost.Reads source) (hlo : lo ≤ s.start) (ho : o.Reads source)
    (hspan : o.span = some s) (hchildren : Row s.start s.stop o.children) :
    let after := (Assembly.withInnermost { a with
      opened := ⟨kind, some s, []⟩ :: a.opened } o).finish tag
    Row first s.stop after.innermost.children ∧ after.innermost.Reads source := by
  intro after
  have hnode : o.close.Everywhere (Faithful source) := ho.close
  have hspanNode : o.close.span = some s := hspan
  have hafter : after = a.add o.close := by
    show Assembly.finish _ tag = _
    rw [Assembly.finish, hkind]
    rfl
  obtain ⟨o', hgrew, -, hrow'⟩ := Assembly.grew_add hrow hspanNode hlo hchildren
  rw [hafter]
  constructor
  · rw [hgrew, Assembly.innermost_withInnermost]
    exact hrow'
  · rw [Assembly.add_eq_withInnermost, Assembly.innermost_withInnermost]
    exact hreads.add hrow hnode hspanNode hlo hchildren.le

/-- **A run of events** keeps texts faithful. -/
theorem reads_feed {limit lo hi : Nat} {events : List Located} (h : Ordered lo hi events) :
    ∀ {a b : Assembly} {first : Nat}, (∀ e ∈ events, FaithfulEvent source e) →
      Row first lo a.innermost.children → a.innermost.Reads source →
      a.feed limit events = .ok b → b.innermost.Reads source := by
  induction h with
  | nil _ =>
    intro a b first _ _ hreads hb
    cases hb
    exact hreads
  | leaf event s he hlo hs hrest ih =>
    intro a b first hfaithful hrow hreads hb
    obtain ⟨hevent, hevents⟩ := List.forall_mem_cons.1 hfaithful
    obtain ⟨c, hc, hb⟩ := ok_of_bind hb
    obtain ⟨o, rfl, -, hrow'⟩ := Assembly.grew_step hrow he hlo hs hc
    have hbehind : Row first s.stop (a.withInnermost o).innermost.children := by
      rwa [Assembly.innermost_withInnermost]
    exact ih hevents hbehind (reads_step hrow hreads he hevent hlo hs hc) hb
  | framed tag s hlo hinner hrest ihinner ih =>
    intro a b first hfaithful hrow hreads hb
    obtain ⟨hframed, hevents⟩ := List.forall_mem_append.1 hfaithful
    have hheldEvents := fun e he => hframed e (List.mem_append_left _ (List.mem_cons_of_mem _ he))
    obtain ⟨started, held, hstarted, hheld, hbehind⟩ := Assembly.feed_framed hb
    obtain ⟨hkind, rfl⟩ | ⟨kind, hkind, rfl⟩ := Assembly.start_spec hstarted
    · have hrow' := hrow.mono (Nat.le_refl _) hlo
      obtain ⟨o, hgrew, -, hrow''⟩ := Assembly.grew_feed hinner hrow' hheld
      have hreads' := ihinner hheldEvents hrow' hreads hheld
      have hfinish : held.finish tag = held := by rw [Assembly.finish, hkind]
      rw [hfinish] at hbehind
      have hrowHeld : Row first s.stop held.innermost.children := by
        rw [hgrew, Assembly.innermost_withInnermost]
        exact hrow''
      exact ih hevents hrowHeld hreads' hbehind
    · -- the construct has an assembly of its own until it ends
      have hempty : Row s.start s.start (Assembly.innermost { a with
          opened := ⟨kind, some s, []⟩ :: a.opened }).children := .nil (Nat.le_refl _)
      have hopen : OpenNode.Reads source ⟨kind, some s, []⟩ :=
        ⟨fun value heq => kind?_ne_text (hkind.trans (congrArg some heq)),
          fun _ hc => absurd hc List.not_mem_nil⟩
      obtain ⟨o, rfl, hspan, hchildren⟩ := Assembly.grew_feed hinner hempty hheld
      have ho := ihinner hheldEvents hempty hopen hheld
      rw [Assembly.innermost_withInnermost] at ho
      obtain ⟨hrow', hreads'⟩ := reads_finish hkind hrow hreads hlo ho hspan hchildren
      exact ih hevents hrow' hreads' hbehind

/-- **The texts of a tree that was read** are faithful when those of its events are, and these are in
order. -/
theorem faithful_treeOfEvents {size limit : Nat} {events : List Located}
    (h : Ordered 0 size events) (hevents : ∀ e ∈ events, FaithfulEvent source e) {tree : Node}
    (htree : treeOfEvents size limit events = .ok tree) : tree.Everywhere (Faithful source) := by
  obtain ⟨a, ha, rfl⟩ := ok_of_map htree
  have hempty : Row 0 0 (Assembly.empty size).innermost.children := .nil (Nat.le_refl _)
  have hreads : (Assembly.empty size).innermost.Reads source :=
    ⟨fun _ => nofun, fun _ hc => absurd hc List.not_mem_nil⟩
  have hread := reads_feed h hevents hempty hreads ha
  obtain ⟨o, rfl, -, -⟩ := Assembly.grew_feed h hempty ha
  exact hread.close

end Reads

end Markdown

/-! ## 3. Links -/

namespace Links

/-- Whether a link holds one text, which has its span, and stands at these bytes if there are any. -/
def Exact (source : List Char) (l : Node) : Prop :=
  ∃ label : List Char, l.children = [⟨.text (String.ofList label), [], l.span⟩] ∧
    ∀ s, l.span = some s → StandsAt source s label

/-- Links among the parts of a text that stands at its bytes are exact. -/
theorem exact_of_mem_partNodes {source : List Char} {l : Node} (hl : isLink l.kind = true)
    {whole : Span} : ∀ {parts : List LinkedPart} {before : List Char},
      StandsAt source whole (before ++ parts.flatMap LinkedPart.text) →
      l ∈ partNodes (some whole.start) (Text.byteLength before) parts → Exact source l
  | ⟨target, text⟩ :: rest, before, hwhole, hmem => by
    rw [List.flatMap_cons] at hwhole
    rcases List.mem_cons.1 hmem with rfl | hmem
    · cases target with
      | none => cases hl
      | some url =>
        refine ⟨text, rfl, fun s hs => ?_⟩
        obtain rfl := Option.some.inj hs
        exact hwhole.part
    · rw [← List.append_assoc] at hwhole
      rw [← Text.byteLength_append] at hmem
      exact exact_of_mem_partNodes hl hwhole hmem

/-- Links among the parts of a text without bytes have none. -/
theorem exact_of_mem_bare (source : List Char) {l : Node} (hl : isLink l.kind = true)
    {parts : List LinkedPart} {offset : Nat} (hmem : l ∈ partNodes none offset parts) :
    Exact source l := by
  obtain ⟨part, -, span, hspan, rfl | ⟨url, rfl⟩⟩ := mem_partNodes_cases hmem
  · cases hl
  · obtain rfl : span = none := by simpa using hspan
    exact ⟨part.text, rfl, fun _ => nofun⟩

/-- Parts of a text with a place have spans. -/
theorem isSome_span_partNodes {base : Nat} {m : Node} {parts : List LinkedPart} {offset : Nat}
    (hmem : m ∈ partNodes (some base) offset parts) : m.span.isSome = true := by
  obtain ⟨part, -, span, hspan, rfl | ⟨url, rfl⟩⟩ := mem_partNodes_cases hmem <;> exact hspan

/-- **What a faithful text is taken apart into**: when it stands at its bytes, its parts have spans and
the links among them are exact; otherwise nothing has a span. -/
theorem spans_of_splitText? {source : List Char} {t : Node} {nodes : List Node}
    (ht : Faithful source t) (h : splitText? t = some nodes) :
    ∃ value s, t.kind = .text value ∧ t.span = some s ∧
      (∀ l ∈ nodes, isLink l.kind = true → Exact source l) ∧
      ((StandsAt source s value.toList ∧ ∀ m ∈ nodes, m.span.isSome = true) ∨
        (¬ StandsAt source s value.toList ∧ ∀ m ∈ nodes, m.Bare)) := by
  unfold splitText? splitTextWith? at h
  split at h
  · rename_i value hkind
    obtain ⟨s, hs, hfaithful⟩ := ht value hkind
    refine ⟨value, s, hkind, hs, ?_⟩
    simp only [hs] at h
    split at h
    · obtain rfl := Option.some.inj h
      have hparts : (linked (cuts value.toList)).flatMap LinkedPart.text = value.toList := by
        rw [text_linked, text_cuts]
      split
      · rename_i hlength
        have hstands : StandsAt source s value.toList := by
          refine hfaithful.resolve_right fun hshorter => ?_
          rw [byteLength_toList] at hshorter
          omega
        refine ⟨fun l hl hlink => ?_, .inl ⟨hstands, fun m hm => isSome_span_partNodes hm⟩⟩
        have hwhole : StandsAt source s
            ([] ++ (linked (cuts value.toList)).flatMap LinkedPart.text) := by
          rwa [List.nil_append, hparts]
        exact exact_of_mem_partNodes hlink hwhole hl
      · rename_i hlength
        refine ⟨fun l hl hlink => exact_of_mem_bare source hlink hl,
          .inr ⟨fun hstands => hlength ?_, fun m hm => bare_partNodes hm⟩⟩
        rw [← hstands.length, byteLength_toList]
    · cases h
  · cases h

mutual
/-- **No other links are made**: what is in a tree then was in it before, or stands for a text. -/
theorem mem_preorder_autolink {l : Node} : ∀ n : Node, l ∈ (autolink n).preorder →
    (∃ m ∈ n.preorder, l = autolink m) ∨
      ∃ t ∈ n.preorder, ∃ nodes, splitText? t = some nodes ∧ l ∈ preorderAll nodes
  | ⟨kind, children, span⟩, hl => by
    rw [autolink_mk, preorder] at hl
    rcases List.mem_cons.1 hl with rfl | hl
    · exact .inl ⟨_, List.mem_cons_self, rfl⟩
    · rcases mem_preorderAll_autolinkAll (labels kind) children hl with
        ⟨m, hm, heq⟩ | ⟨t, ht, hmade⟩
      · exact .inl ⟨m, List.mem_cons_of_mem _ hm, heq⟩
      · exact .inr ⟨t, List.mem_cons_of_mem _ ht, hmade⟩
theorem mem_preorderAll_autolinkAll {l : Node} (label : Bool) : ∀ ns : List Node,
    l ∈ preorderAll (autolinkAll label ns) →
    (∃ m ∈ preorderAll ns, l = autolink m) ∨
      ∃ t ∈ preorderAll ns, ∃ nodes, splitText? t = some nodes ∧ l ∈ preorderAll nodes
  | [], hl => absurd hl List.not_mem_nil
  | n :: rest, hl => by
    have hrest : l ∈ preorderAll (autolinkAll label rest) → _ :=
      mem_preorderAll_autolinkAll label rest
    have hlater : ∀ m ∈ preorderAll rest, m ∈ preorderAll (n :: rest) := fun m hm =>
      List.mem_append_right _ hm
    have hhere : ∀ m ∈ n.preorder, m ∈ preorderAll (n :: rest) := fun m hm =>
      List.mem_append_left _ hm
    obtain hall | ⟨nodes, -, hsplit, hall⟩ := autolinkAll_cons_cases label n rest <;>
      rw [hall] at hl
    · rcases List.mem_append.1 hl with hl | hl
      · rcases mem_preorder_autolink n hl with ⟨m, hm, heq⟩ | ⟨t, ht, hmade⟩
        · exact .inl ⟨m, hhere m hm, heq⟩
        · exact .inr ⟨t, hhere t ht, hmade⟩
      · rcases hrest hl with ⟨m, hm, heq⟩ | ⟨t, ht, hmade⟩
        · exact .inl ⟨m, hlater m hm, heq⟩
        · exact .inr ⟨t, hlater t ht, hmade⟩
    · obtain ⟨m, hm, hlm⟩ := mem_preorderAll_iff.1 hl
      rcases List.mem_append.1 hm with hm | hm
      · exact .inr ⟨n, hhere n (Embeds.mem_preorder_self n), nodes, hsplit,
          mem_preorderAll_iff.2 ⟨m, hm, hlm⟩⟩
      · rcases hrest (mem_preorderAll_iff.2 ⟨m, hm, hlm⟩) with ⟨m, hm, heq⟩ | ⟨t, ht, hmade⟩
        · exact .inl ⟨m, hlater m hm, heq⟩
        · exact .inr ⟨t, hlater t ht, hmade⟩
end

/-- A link among what stands for a text is one of its parts. -/
theorem mem_of_mem_preorderAll_partNodes {base : Option Nat} {l : Node}
    (hl : isLink l.kind = true) {parts : List LinkedPart} {offset : Nat}
    (hmem : l ∈ preorderAll (partNodes base offset parts)) : l ∈ partNodes base offset parts := by
  obtain ⟨m, hm, hmem⟩ := mem_preorderAll_iff.1 hmem
  obtain ⟨part, -, span, -, rfl | ⟨url, rfl⟩⟩ := mem_partNodes_cases hm
  · obtain rfl := List.mem_singleton.1 hmem
    cases hl
  · rcases List.mem_cons.1 hmem with rfl | hmem
    · exact hm
    · obtain rfl := List.mem_singleton.1 hmem
      cases hl

end Links

/-! ## 4. Pages -/

namespace Markdown

/-- **The bytes of links.**  When the events of a page are in order, and each text among them stands at
its bytes or is shorter than these, every link of the page that was none in the tree without links for
addresses has one text as its label, which stands at the bytes of the link if it has any.  Of the texts
in which links are made, one that stands at its bytes passes these on to all its parts; the parts of
one that does not, as it was written otherwise than it reads, have none. -/
theorem parse_link_spans {options : ParseOptions} {source : String} {tree : Node}
    (htree : parseEvents options source = .ok tree)
    (horder : inOrder 0 source.utf8ByteSize [] (eventsOf options.extensions source) = true)
    (hevents : ∀ e ∈ eventsOf options.extensions source, FaithfulEvent source.toList e) :
    (∀ l ∈ (autolink tree).preorder, isLink l.kind = true →
      (∃ m ∈ tree.preorder, isLink m.kind = true ∧ l = autolink m) ∨ Exact source.toList l) ∧
      ∀ t ∈ tree.preorder, ∀ nodes, splitText? t = some nodes →
        ∃ value s, t.kind = .text value ∧ t.span = some s ∧
          ((StandsAt source.toList s value.toList ∧ ∀ m ∈ nodes, m.span.isSome = true) ∨
            (¬ StandsAt source.toList s value.toList ∧ ∀ m ∈ nodes, m.Bare)) := by
  have hordered := ordered_of_inOrder (nested_eventsOf options.extensions source) horder
  have hfaithful : ∀ t ∈ tree.preorder, Faithful source.toList t :=
    faithful_treeOfEvents hordered hevents htree
  refine ⟨fun l hl hlink => ?_, fun t ht nodes hnodes => ?_⟩
  · rcases mem_preorder_autolink tree hl with ⟨m, hm, rfl⟩ | ⟨t, ht, nodes, hnodes, hmem⟩
    · rw [kind_autolink] at hlink
      exact .inl ⟨m, hm, hlink, rfl⟩
    · obtain ⟨_, _, -, -, hexact, -⟩ := spans_of_splitText? (hfaithful t ht) hnodes
      obtain ⟨value, base, -, -, rfl⟩ := splitTextWith?_eq_some hnodes
      exact .inr (hexact l (mem_of_mem_preorderAll_partNodes hlink hmem) hlink)
  · obtain ⟨value, s, hkind, hs, -, hspans⟩ := spans_of_splitText? (hfaithful t ht) hnodes
    exact ⟨value, s, hkind, hs, hspans⟩

/-- Two addresses, one of them in a text with a reference in it. -/
def twoAddresses : String := "https://a.example/\n\nhttps://b.example/ &amp;"

/-- The tree of this page before links are made. -/
def twoAddressesTree : Node :=
  ⟨.root, [
    ⟨.paragraph, [⟨.text "https://a.example/", [], some ⟨0, 18⟩⟩], some ⟨0, 19⟩⟩,
    ⟨.paragraph, [⟨.text "https://b.example/ &", [], some ⟨20, 44⟩⟩], some ⟨20, 44⟩⟩],
    some ⟨0, 44⟩⟩

/-- Both links are exact, the second one having no bytes. -/
theorem parse_link_spans_twoAddresses :
    parseEvents {} twoAddresses = .ok twoAddressesTree ∧
      inOrder 0 twoAddresses.utf8ByteSize [] (eventsOf ⟨true, true⟩ twoAddresses) = true ∧
      (∀ e ∈ eventsOf ⟨true, true⟩ twoAddresses, FaithfulEvent twoAddresses.toList e) ∧
      (∀ l ∈ (autolink twoAddressesTree).preorder, isLink l.kind = true →
        Exact twoAddresses.toList l) ∧
      ((autolink twoAddressesTree).preorder.filter (isLink ·.kind)).map Node.span =
        [some ⟨0, 18⟩, none] := by
  have htree : parseEvents {} twoAddresses = .ok twoAddressesTree := by decide +kernel
  have horder : inOrder 0 twoAddresses.utf8ByteSize [] (eventsOf ⟨true, true⟩ twoAddresses) = true := by
    decide +kernel
  have htexts : (eventsOf ⟨true, true⟩ twoAddresses).filter (fun e => e.1 matches .text _) =
      [(.text "https://a.example/", ⟨0, 18⟩), (.text "https://b.example/ ", ⟨20, 39⟩),
        (.text "&", ⟨39, 44⟩)] := by decide +kernel
  have hevents : ∀ e ∈ eventsOf ⟨true, true⟩ twoAddresses,
      FaithfulEvent twoAddresses.toList e := by
    rintro ⟨event, s⟩ he value rfl
    have hmem : (Event.text value, s) ∈ (eventsOf ⟨true, true⟩ twoAddresses).filter
        (fun e => e.1 matches .text _) := List.mem_filter.2 ⟨he, rfl⟩
    rw [htexts] at hmem
    simp only [List.mem_cons, Prod.mk.injEq, Event.text.injEq, List.not_mem_nil, or_false] at hmem
    obtain ⟨rfl, rfl⟩ | ⟨rfl, rfl⟩ | ⟨rfl, rfl⟩ := hmem
    · exact .inl ⟨[], "\n\nhttps://b.example/ &amp;".toList, by decide, by decide, by decide⟩
    · exact .inl ⟨"https://a.example/\n\n".toList, "&amp;".toList, by decide, by decide, by decide⟩
    · exact .inr (by decide)
  have hnone : ∀ m ∈ twoAddressesTree.preorder, isLink m.kind = false := by decide
  obtain ⟨hlinks, -⟩ := parse_link_spans htree horder hevents
  refine ⟨htree, horder, hevents, fun l hl hlink => ?_, by decide +kernel⟩
  refine (hlinks l hl hlink).resolve_left fun ⟨m, hm, hmlink, _⟩ => ?_
  rw [hnone m hm] at hmlink
  cases hmlink

/-- An address between a reference that reads longer than it was written, and a star that was written
longer than it reads. -/
def evenedOut : String := "&nGt; https://a.example/ \\*"

/-- The bytes of the link are not those of its label. -/
theorem evenedOut_link_span :
    ((parse {} evenedOut).toOption.map fun tree =>
      (tree.preorder.filter (isLink ·.kind)).map fun l => (l.span, l.children)) =
        some [(some ⟨7, 25⟩, [⟨.text "https://a.example/", [], some ⟨7, 25⟩⟩])] ∧
      StandsAt evenedOut.toList ⟨7, 25⟩ "ttps://a.example/ ".toList ∧
      ¬ StandsAt evenedOut.toList ⟨7, 25⟩ "https://a.example/".toList := by
  have hstands : StandsAt evenedOut.toList ⟨7, 25⟩ "ttps://a.example/ ".toList :=
    ⟨"&nGt; h".toList, "\\*".toList, by decide, by decide, by decide⟩
  refine ⟨by decide +kernel, hstands, fun h => ?_⟩
  exact absurd (h.unique hstands) (by decide)

end Markdown

end WikiPage
