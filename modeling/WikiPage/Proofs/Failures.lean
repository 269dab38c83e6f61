import WikiPage.Config.Settings
import WikiPage.Proofs.InvalidNames
import WikiPage.Proofs.NestingFaults
import WikiPage.Proofs.Videos
/-!
# How rendering fails

Reading a page fails on constructs that are nested too deeply, and writing markup on names that
are none.  What is read is a document, so expansion finds one; and no pass of a configured pipeline
makes an element whose names are none, so writing does not fail there.

* `error_parse`: what reading a page fails with.
* `Named` trees can be written: `exists_allParts`.
* Every pass keeps them: `named_rewrite` for frames, `named_expandFromRight` for shortcodes that
  come with the library, and `named_walk` for anchors.
* `render_of_config` follows a page through the stages.
-/

namespace WikiPage

/-! ## 1. Reading -/

namespace Markdown

/-- **What reading a page fails with.** -/
theorem error_parse {options : ParseOptions} {source : String} {fault : PassError}
    (h : parse options source = .error fault) :
    ∃ offset, fault = .tooDeep options.maxNesting offset := by
  have hempty : (Assembly.empty source.utf8ByteSize).opened.length ≤ options.maxNesting :=
    Nat.zero_le _
  unfold parse parseEvents treeOfEvents at h
  obtain ⟨i, -, hfeed⟩ | ⟨-, a, hfeed⟩ :=
    Assembly.feed_cases (eventsOf options.extensions source) hempty <;> rw [hfeed] at h
  · cases h
    exact ⟨_, rfl⟩
  · cases h

end Markdown

/-! ## 2. Names -/

/-- Whether the generated elements of a tree and their attributes have names that markup can have. -/
def Node.Named (n : Node) : Prop := n.Everywhere (·.kind.isNamed = true)

theorem NodeKind.isNamed_of_isElement {kind : NodeKind} (h : kind.isElement = false) :
    kind.isNamed = true := by
  cases kind <;> first | rfl | cases h

namespace Attributes

/-- Whether all attributes have names that markup can have. -/
def Named (a : Attributes) : Prop := ∀ entry ∈ a.entries, Markup.isName entry.1 = true

theorem named_empty : Attributes.empty.Named := fun _ h => absurd h List.not_mem_nil

theorem Named.insert {a : Attributes} (h : a.Named) {name : String}
    (hname : Markup.isName name = true) (value : AttrValue) : Named (NameMap.insert a name value) := by
  intro entry hentry
  rcases NameMap.mem_insertEntry hentry with rfl | hentry
  · exact hname
  · exact h entry hentry

theorem Named.withText {a : Attributes} (h : a.Named) {name : String}
    (hname : Markup.isName name = true) (value : String) : (a.withText name value).Named :=
  h.insert hname (.text value)

theorem Named.withFlag {a : Attributes} (h : a.Named) {name : String}
    (hname : Markup.isName name = true) (set : Bool) : (a.withFlag name set).Named :=
  h.insert hname (.flag set)

end Attributes

theorem NodeKind.isNamed_element {tag : String} {attributes : Attributes}
    (htag : Markup.isName tag = true) (h : attributes.Named) :
    (NodeKind.element tag attributes).isNamed = true := by
  rw [isNamed, htag, List.all_eq_true.2 h]
  rfl

namespace Node

/-- What is read has no elements. -/
theorem named_of_asRead {n : Node} (h : n.Everywhere Markdown.AsRead) : n.Named :=
  fun m hm => NodeKind.isNamed_of_isElement (h m hm).isElement

theorem named_iff {n : Node} :
    n.Named ↔ n.kind.isNamed = true ∧ ∀ c ∈ n.children, c.Named :=
  everywhere_iff

end Node

namespace Embeds

theorem named_frame (p : EmbedProvider) (address : String) : (p.frame address).Named := by
  let shown := (Attributes.empty.withText "src" address).withFlag "allowfullscreen" true
  let allowed := if p.allow.isEmpty then shown else shown.withText "allow" p.allow
  let titled := if p.title.isEmpty then allowed else allowed.withText "title" p.title
  have hshown : shown.Named := (Attributes.named_empty.withText (by decide) _).withFlag (by decide) _
  have hallowed : allowed.Named := by
    unfold allowed
    split
    · exact hshown
    · exact hshown.withText (by decide) _
  have htitled : titled.Named := by
    unfold titled
    split
    · exact hallowed
    · exact hallowed.withText (by decide) _
  exact Node.named_iff.2
    ⟨NodeKind.isNamed_element (by decide) htitled, fun _ h => absurd h List.not_mem_nil⟩

/-- Frames for media have names, whatever the providers. -/
theorem named_of_video? {e : Embeds} {n video : Node} (h : e.video? n = some video) :
    video.Named := by
  obtain ⟨-, url, title, label, span, frame, -, hframe, rfl⟩ := video?_eq_some_iff.1 h
  obtain ⟨provider, -, id, -, rfl⟩ := frame?_eq_some hframe
  refine Node.named_iff.2 ⟨?_, List.forall_mem_singleton.2 (named_frame _ _)⟩
  exact NodeKind.isNamed_element (by decide) (Attributes.named_empty.withText (by decide) _)

/-- **A document with media put in** has names. -/
theorem named_rewrite (e : Embeds) {n : Node} (hkind : n.kind = .root)
    (h : ∀ c ∈ n.children, c.Everywhere Markdown.AsRead) : (e.rewrite n).Named := by
  obtain ⟨kind, children, span⟩ := n
  obtain rfl : kind = .root := hkind
  refine Node.named_iff.2 ⟨rfl, fun c hc => ?_⟩
  rw [rewrite, NodeKind.isRoot, children_rewrite e h] at hc
  obtain ⟨m, hm, rfl⟩ := List.mem_map.1 hc
  cases hvideo : e.video? m with
  | none => exact Node.named_of_asRead (h m hm)
  | some video => exact named_of_video? hvideo

end Embeds

namespace Shortcode

/-- Built-in shortcodes make elements with names. -/
theorem BuiltIn.makes_isNamed {s : Shortcode} (hs : BuiltIn s) :
    s.handler.Makes (·.kind.isNamed = true) := by
  have hclass (c : String) : (Attributes.empty.withText "class" c).Named :=
    Attributes.named_empty.withText (by decide) c
  cases hs with
  | hint kind => exact fun _ _ _ => NodeKind.isNamed_element (by decide) (hclass _)
  | blueprint address =>
    intro params ctx
    show (blueprintNode (Address.withSlash address) params ctx).1.kind.isNamed = true
    unfold blueprintNode
    dsimp only
    split
    · have hsource : Attributes.Named
          ((Attributes.empty.withText "class" "blueprint").withText "src" _) :=
        (hclass _).withText (by decide)
          (Address.withSlash address ++ (params.getText? "id").getD "")
      exact NodeKind.isNamed_element (by decide) <| ((hsource.withText (by decide) _).withFlag
        (by decide) _).withText (by decide) _
    · exact NodeKind.isNamed_element (by decide) (hclass _)
  | versionGate =>
    exact fun _ _ _ => NodeKind.isNamed_element (by decide) ((hclass _).withText (by decide) _)

variable {registry : Registry} {source : Option String} {inner : List Node → Expansion}

/-- **One node more**: what a built-in shortcode makes has names, and holds what it took. -/
theorem named_expandBefore (hr : ∀ s ∈ registry.shortcodes, BuiltIn s) {n : Node}
    {after : Expansion} (hn : n.Named) (hafter : ∀ m ∈ after.nodes, m.Named) :
    ∀ m ∈ (expandBefore registry source inner n after).nodes, m.Named := by
  obtain ⟨f, -, hbecomes, hexpand⟩ := @exists_fate registry inner source n after
  rw [hexpand]
  have hnode {call : Call} (hd : registry.recognize? n = some call.directive)
      (hinline : call.directive.shortcode.handler.isBlock = false → call.body = [])
      (hbody : ∀ m ∈ call.body, m.Named) : call.node.Named := by
    have hmade := made_of_makes (fun s hs => (hr s hs).makes_isNamed) hd
    have hchildren := (hr _ (Registry.mem_of_recognize? hd)).children_node hinline
    refine Node.named_iff.2 ⟨?_, ?_⟩
    · rw [Call.node, Node.kind_withFallbackSpan]
      exact hmade
    · rw [hchildren]
      exact hbody
  cases hbecomes with
  | content _ => exact List.forall_mem_cons.2 ⟨hn, hafter⟩
  | unclosed _ _ _ _ => exact List.forall_mem_cons.2 ⟨hn, hafter⟩
  | inline call hd hinline hbody _ =>
    refine List.forall_mem_cons.2 ⟨hnode hd (fun _ => hbody) ?_, hafter⟩
    rw [hbody]
    exact fun _ h => absurd h List.not_mem_nil
  | block call closing rest hd hblock hsplit _ _ _ =>
    rw [hsplit] at hafter
    obtain ⟨hbody, hrest⟩ := List.forall_mem_append.1 hafter
    refine List.forall_mem_cons.2 ⟨hnode hd (fun h => ?_) hbody, (List.forall_mem_cons.1 hrest).2⟩
    rw [hblock] at h
    cases h

/-- **Expansion keeps names.** -/
theorem named_expandFromRight (hr : ∀ s ∈ registry.shortcodes, BuiltIn s) {nodes : List Node}
    (h : ∀ n ∈ nodes, n.Named) :
    ∀ m ∈ (expandFromRight registry source inner nodes).nodes, m.Named := by
  induction nodes with
  | nil => exact fun _ hm => absurd hm List.not_mem_nil
  | cons n rest ih =>
    obtain ⟨hn, hrest⟩ := List.forall_mem_cons.1 h
    exact named_expandBefore hr hn (ih hrest)

end Shortcode

namespace Outline

mutual
/-- Anchors leave elements as they are. -/
theorem named_walk (policy : HeadingPolicy) : ∀ (n : Node) (p : Progress), n.Named →
    (walk policy p n).1.Named
  | ⟨kind, children, span⟩, p, h => by
    obtain ⟨hself, hchildren⟩ := Node.named_iff.1 h
    have ih (p : Progress) := named_walkAll policy children p hchildren
    cases kind with
    | heading level id classes =>
      simp only [walk]
      exact Node.named_iff.2 ⟨rfl, ih _⟩
    | _ => exact Node.named_iff.2 ⟨hself, ih p⟩
theorem named_walkAll (policy : HeadingPolicy) : ∀ (ns : List Node) (p : Progress),
    (∀ n ∈ ns, n.Named) → ∀ m ∈ (walkAll policy p ns).1, m.Named
  | [], _, _ => fun _ hm => absurd hm List.not_mem_nil
  | n :: rest, p, h => by
    obtain ⟨hn, hrest⟩ := List.forall_mem_cons.1 h
    exact List.forall_mem_cons.2 ⟨named_walk policy n p hn, named_walkAll policy rest _ hrest⟩
end

end Outline

/-! ## 3. Writing -/

namespace Markup

/-- **Trees with names can be written.** -/
theorem exists_allParts (ns : List Node) (h : ∀ n ∈ ns, n.Named) (labels : List String) :
    ∃ written, allParts labels ns = .ok written := by
  refine exists_ok_allParts (fun n hn => ?_) labels
  obtain ⟨m, hm, hbelow⟩ := Node.mem_preorderAll_iff.1 ((Node.reachedAll_sublist ns).mem hn)
  exact h m hm n hbelow

end Markup

/-! ## 4. Pages -/

namespace Config

/-- The shortcodes of a site come with the library. -/
theorem builtIn_of_mem_shortcodeList {c : Config} {s : Shortcode}
    (h : s ∈ c.shortcodeList) : Shortcode.BuiltIn s := by
  rcases List.mem_append.1 h with h | h
  · rcases List.mem_append.1 h with h | h
    · obtain ⟨kind, -, rfl⟩ := List.mem_map.1 h
      exact .hint kind
    · rw [List.mem_singleton.1 h]
      exact .blueprint _
  · split at h
    · rw [List.mem_singleton.1 h]
      exact .versionGate
    · cases h

/-- What the pipeline of a configuration is made of. -/
theorem pipeline_spec {c : Config} {p : Pipeline} (h : c.pipeline = .ok p) :
    p.options = c.render ∧ ∀ s ∈ p.registry.shortcodes, Shortcode.BuiltIn s := by
  obtain ⟨registry, hregistry, rfl⟩ := ok_of_map h
  refine ⟨rfl, ?_⟩
  unfold Shortcode.Registry.ofList at hregistry
  split at hregistry
  · cases hregistry
  · cases hregistry
    exact fun s hs => builtIn_of_mem_shortcodeList hs

end Config

namespace Pipeline

variable {p : Pipeline} {source : String}

/-- What is expanded is a document. -/
theorem kind_rewritten {parsed : Node}
    (h : Markdown.parse p.options.parseOptions source = .ok parsed) :
    (p.embeds.rewrite parsed).kind = .root := by
  rw [Embeds.kind_rewrite]
  exact (Markdown.asRead_parse h).1

/-- A page is transformed unless it cannot be read. -/
theorem error_transform {e : RenderError} (h : p.transform source = .error e) :
    ∃ offset, e = ⟨.parse, .tooDeep p.options.maxNesting offset⟩ := by
  cases hparse : Markdown.parse p.options.parseOptions source with
  | error fault =>
    obtain ⟨offset, rfl⟩ := Markdown.error_parse hparse
    have hfault : p.transform source =
        .error ⟨.parse, .tooDeep p.options.parseOptions.maxNesting offset⟩ := by
      unfold transform
      rw [hparse]
      rfl
    exact ⟨offset, Except.error.inj (h.symm.trans hfault)⟩
  | ok parsed =>
    have hpage := transform_of_parse hparse (Markdown.asRead_parse hparse).1
    cases h.symm.trans hpage

/-- The tree that a pipeline with built-in shortcodes writes has names. -/
theorem named_outlined (hr : ∀ s ∈ p.registry.shortcodes, Shortcode.BuiltIn s)
    {page : TransformedPage} (h : p.transform source = .ok page) :
    (page.tree.outlined p.options.headingPolicy).1.Named := by
  obtain ⟨parsed, hparse, htree, -⟩ := parse_of_transform h
  obtain ⟨hkind, hread⟩ := Markdown.asRead_parse hparse
  have hrewritten := Node.named_iff.1 (p.embeds.named_rewrite hkind hread)
  refine Outline.named_walk _ _ _ ?_
  rw [htree, Shortcode.Registry.expand_eq_expandFromRight]
  exact Node.named_iff.2 ⟨hrewritten.1, Shortcode.named_expandFromRight hr hrewritten.2⟩

/-- A transformed page is rendered when its tree, with anchors, can be written. -/
theorem render_of_transform {page : TransformedPage} (h : p.transform source = .ok page) :
    let outlined := page.tree.outlined p.options.headingPolicy
    p.render source = (Stage.run .serialize outlined.1.toMarkup).map fun markup =>
      ⟨p.sanitizer.clean markup, outlined.2.title, outlined.2.toc, page.warnings⟩ := by
  unfold render
  rw [h]
  dsimp only [bind, Except.bind]
  cases Stage.run .serialize (page.tree.outlined p.options.headingPolicy).1.toMarkup <;> rfl

/-- After a page was transformed, only writing can fail. -/
theorem error_render {e : RenderError} (h : p.render source = .error e) :
    (∃ offset, e = ⟨.parse, .tooDeep p.options.maxNesting offset⟩) ∨
      ∃ page fault, p.transform source = .ok page ∧ e = ⟨.serialize, fault⟩ ∧
        (page.tree.outlined p.options.headingPolicy).1.toMarkup = .error fault := by
  cases htransform : p.transform source with
  | error e' =>
    have hfault : p.render source = .error e' := by
      unfold render
      rw [htransform]
      rfl
    obtain rfl := Except.error.inj (h.symm.trans hfault)
    exact .inl (error_transform htransform)
  | ok page =>
    cases hmarkup : (page.tree.outlined p.options.headingPolicy).1.toMarkup with
    | error fault =>
      have hfault : p.render source = .error ⟨.serialize, fault⟩ := by
        rw [render_of_transform htransform, hmarkup]
        rfl
      exact .inr ⟨page, fault, rfl, Except.error.inj (h.symm.trans hfault), hmarkup⟩
    | ok markup =>
      rw [render_of_transform htransform, hmarkup] at h
      cases h

end Pipeline

/-- **Only nesting fails a configured page**: it is rendered, or it holds a construct beyond the
limit.  Expansion always finds a document, and writing finds names only; whatever the shortcodes and
providers of a pipeline are, it is reading or writing that fails. -/
theorem render_of_config (c : Config) {p : Pipeline} (h : c.pipeline = .ok p) (source : String) :
    ((∃ page, p.render source = .ok page) ∨
        ∃ offset, p.render source = .error ⟨.parse, .tooDeep c.render.maxNesting offset⟩) ∧
      (∀ parsed, Markdown.parse p.options.parseOptions source = .ok parsed →
        (p.embeds.rewrite parsed).kind = .root) ∧
      (∀ page, p.transform source = .ok page →
        (page.tree.outlined p.options.headingPolicy).1.Everywhere (·.kind.isNamed = true)) ∧
      ∀ (q : Pipeline) (e : RenderError), q.render source = .error e →
        e.stage = .parse ∨ e.stage = .serialize := by
  obtain ⟨hoptions, hr⟩ := Config.pipeline_spec h
  refine ⟨?_, fun _ => Pipeline.kind_rewritten, fun _ => Pipeline.named_outlined hr, ?_⟩
  · cases hrender : p.render source with
    | ok page => exact .inl ⟨page, rfl⟩
    | error e =>
      rcases Pipeline.error_render hrender with
        ⟨offset, rfl⟩ | ⟨page, fault, htransform, -, hmarkup⟩
      · exact .inr ⟨offset, by rw [hoptions]⟩
      · have hnamed := Node.named_iff.1 (Pipeline.named_outlined hr htransform)
        obtain ⟨written, hwritten⟩ := Markup.exists_allParts _ hnamed.2 []
        rw [Node.toMarkup, Node.parts, hwritten] at hmarkup
        cases hmarkup
  · intro q e herror
    rcases Pipeline.error_render herror with ⟨offset, rfl⟩ | ⟨page, fault, -, rfl, -⟩
    · exact .inl rfl
    · exact .inr rfl

/-- A configuration with room for a paragraph, but not for one in a quotation. -/
def flatConfig : Config := { render := { maxNesting := 1 } }

/-- A paragraph in a hint. -/
def tipPage : String := "\x7b\x7btip\x7d\x7d\n\na\n\n\x7b\x7b/tip\x7d\x7d\n"

theorem isOk_render_flatConfig :
    (flatConfig.pipeline.toOption.map fun p =>
      ((p.render tipPage).isOk, (p.render "> a").isOk)) = some (true, false) := by
  decide +kernel

/-- A hint does not nest, and a quotation does. -/
theorem render_of_config_flat :
    ∃ p, flatConfig.pipeline = .ok p ∧ (∃ page, p.render tipPage = .ok page) ∧
      ∃ offset, p.render "> a" = .error ⟨.parse, .tooDeep 1 offset⟩ := by
  obtain ⟨p, hp, hrender⟩ := of_toOption_map isOk_render_flatConfig
  obtain ⟨htip, hquote⟩ := Prod.mk.inj hrender
  refine ⟨p, hp, ?_, ?_⟩
  · obtain ⟨hpage | ⟨offset, herror⟩, -⟩ := render_of_config flatConfig hp tipPage
    · exact hpage
    · rw [herror] at htip
      cases htip
  · obtain ⟨⟨page, hpage⟩ | hdeep, -⟩ := render_of_config flatConfig hp "> a"
    · rw [hpage] at hquote
      cases hquote
    · exact hdeep

end WikiPage
