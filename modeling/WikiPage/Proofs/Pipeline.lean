import WikiPage.Pipeline
/-!
# What a rendered page came from

A pass that fails ends rendering, so from a result one can read off what every pass before gave.

* `parse_of_transform`: the tree that was read, and its shortcodes expanded after its media were put
  in; `transform_of_parse`: every document that can be read gives such a page.
* `transform_of_render`: the transformed page, and the markup that was cleaned.
-/

namespace WikiPage

section Results

variable {ε α β : Type}

/-- Of two steps in a row that succeed, both do. -/
theorem ok_of_bind {x : Except ε α} {f : α → Except ε β} {b : β} (h : (x >>= f) = .ok b) :
    ∃ a, x = .ok a ∧ f a = .ok b := by
  cases x with
  | error e => cases h
  | ok a => exact ⟨a, rfl, h⟩

theorem ok_of_map {x : Except ε α} {f : α → β} {b : β} (h : x.map f = .ok b) :
    ∃ a, x = .ok a ∧ f a = b := by
  cases x with
  | error e => cases h
  | ok a =>
    cases h
    exact ⟨a, rfl, rfl⟩

theorem of_toOption_map {x : Except ε α} {f : α → β} {b : β} (h : x.toOption.map f = some b) :
    ∃ a, x = .ok a ∧ f a = b := by
  cases x with
  | error e => cases h
  | ok a =>
    cases h
    exact ⟨a, rfl, rfl⟩

theorem Stage.ok_of_run {stage : Stage} {result : Except PassError α} {a : α}
    (h : stage.run result = .ok a) : result = .ok a := by
  cases result with
  | error e => cases h
  | ok b =>
    cases h
    rfl

end Results

theorem Shortcode.Registry.ok_of_expandDocument {r : Shortcode.Registry} {source : Option String}
    {n tree : Node} {warnings : List String} (h : r.expandDocument source n = .ok (tree, warnings)) :
    n.kind.isRoot = true ∧ tree = n.withChildren (r.expand source n.children).nodes ∧
      warnings = (r.expand source n.children).warnings := by
  unfold Shortcode.Registry.expandDocument at h
  split at h
  · rename_i hroot
    cases h
    exact ⟨hroot, rfl, rfl⟩
  · cases h

namespace Pipeline

variable {p : Pipeline} {source : String}

/-- A transformed page was read as a document, and the nodes of the document were expanded. -/
theorem parse_of_transform {page : TransformedPage} (h : p.transform source = .ok page) :
    ∃ parsed, Markdown.parse p.options.parseOptions source = .ok parsed ∧
      page.tree = (p.embeds.rewrite parsed).withChildren
        (p.registry.expand (some source) (p.embeds.rewrite parsed).children).nodes ∧
      page.warnings =
        (p.registry.expand (some source) (p.embeds.rewrite parsed).children).warnings := by
  obtain ⟨parsed, hparse, h⟩ := ok_of_bind h
  obtain ⟨⟨tree, warnings⟩, hexpand, h⟩ := ok_of_bind h
  obtain ⟨_, htree, hwarnings⟩ :=
    Shortcode.Registry.ok_of_expandDocument (Stage.ok_of_run hexpand)
  obtain rfl := Except.ok.inj h
  exact ⟨parsed, Stage.ok_of_run hparse, htree, hwarnings⟩

/-- A document that was read is transformed, as no later pass fails for it. -/
theorem transform_of_parse {parsed : Node}
    (h : Markdown.parse p.options.parseOptions source = .ok parsed) (hroot : parsed.kind = .root) :
    let expansion := p.registry.expand (some source) (p.embeds.rewrite parsed).children
    p.transform source =
      .ok ⟨(p.embeds.rewrite parsed).withChildren expansion.nodes, expansion.warnings⟩ := by
  obtain ⟨kind, children, span⟩ := parsed
  obtain rfl : kind = .root := hroot
  unfold transform
  rw [h]
  rfl

/-- A rendered page is the cleaned markup of the transformed page with its anchors. -/
theorem transform_of_render {page : RenderedPage} (h : p.render source = .ok page) :
    ∃ transformed markup, p.transform source = .ok transformed ∧
      (transformed.tree.outlined p.options.headingPolicy).1.toMarkup = .ok markup ∧
      page.html = p.sanitizer.clean markup := by
  obtain ⟨transformed, htransform, h⟩ := ok_of_bind h
  obtain ⟨markup, hmarkup, h⟩ := ok_of_bind h
  obtain rfl := Except.ok.inj h
  exact ⟨transformed, markup, htransform, Stage.ok_of_run hmarkup, rfl⟩

end Pipeline

end WikiPage
