import WikiPage.Proofs.Pipeline
/-!
# Where frames of a page come from

Whatever hypertext an author writes, and whatever handlers and providers make, frames of a cleaned
page show what the sanitizer was given the addresses of.

* `elements_cleanTree`: an element that stays is an allowed one, and all of its attributes were
  cleaned.
* `mem_sources`: the addresses of a sanitizer are those that it was given, with a slash at their
  end.
* `frames_allowed`: the source of a frame begins with one of these addresses, in what is left of any
  hypertext and in every page that is rendered.
-/

namespace WikiPage

namespace Html

mutual
/-- The elements of a tree: their names and attributes, in document order. -/
def Tree.elements : Tree → List (String × List Attribute)
  | .text _ => []
  | .element _ name attributes children => (name, attributes) :: Tree.elementsAll children
/-- The elements of trees in a row. -/
def Tree.elementsAll : List Tree → List (String × List Attribute)
  | [] => []
  | t :: rest => t.elements ++ Tree.elementsAll rest
end

theorem Tree.elementsAll_append (a b : List Tree) :
    Tree.elementsAll (a ++ b) = Tree.elementsAll a ++ Tree.elementsAll b := by
  induction a with
  | nil => rfl
  | cons t a ih => simp only [List.cons_append, Tree.elementsAll, ih, List.append_assoc]

end Html

namespace Sanitizer

open Html

/-! ## 1. What stays -/

/-- What may stay of an element: its name is allowed, and its attributes are cleaned. -/
def Cleaned (s : Sanitizer) (e : String × List Attribute) : Prop :=
  e.1 ∈ allowedElements ∧ ∃ attributes, e.2 = s.cleanAttributes e.1 attributes

mutual
/-- **Every element that stays is a cleaned one**, however deep it is and whatever gave way around
it. -/
theorem elements_cleanTree (s : Sanitizer) : ∀ (t : Tree) (outer : Space × String),
    ∀ e ∈ Tree.elementsAll (s.cleanTree outer t), s.Cleaned e
  | .text value, outer, e, he => absurd he List.not_mem_nil
  | .element space name attributes children, outer, e, he => by
    simp only [cleanTree] at he
    split at he
    · exact absurd he List.not_mem_nil
    · split at he
      · rename_i hallowed
        simp only [Tree.elementsAll, Tree.elements, List.append_nil] at he
        rcases List.mem_cons.1 he with rfl | he
        · exact ⟨List.contains_iff_mem.1 hallowed, attributes, rfl⟩
        · exact elements_cleanTrees s children _ e he
      · exact elements_cleanTrees s children outer e he
theorem elements_cleanTrees (s : Sanitizer) : ∀ (ts : List Tree) (outer : Space × String),
    ∀ e ∈ Tree.elementsAll (s.cleanTrees outer ts), s.Cleaned e
  | [], _, e, he => absurd he List.not_mem_nil
  | t :: rest, outer, e, he => by
    rw [cleanTrees, Tree.elementsAll_append] at he
    rcases List.mem_append.1 he with he | he
    · exact elements_cleanTree s t outer e he
    · exact elements_cleanTrees s rest outer e he
end

/-- Whether the source of every frame begins with one of some addresses. -/
def FramesFrom (sources : List String) (trees : List Tree) : Prop :=
  ∀ e ∈ Tree.elementsAll trees, e.1 = "iframe" → ∀ a ∈ e.2, a.1 = "src" →
    ∃ source ∈ sources, source.toList <+: a.2.toList

/-- A cleaned element that is a frame has no source that is refused. -/
theorem framesFrom_cleanTrees (s : Sanitizer) (outer : Space × String) (ts : List Tree) :
    FramesFrom s.sources (s.cleanTrees outer ts) := by
  intro e he hframe a ha hsrc
  obtain ⟨-, attributes, hattributes⟩ := elements_cleanTrees s ts outer e he
  rw [hattributes] at ha
  have hrefused := mem_cleanAttributes ha
  simp only [refused, hframe, hsrc, beq_self_eq_true, Bool.true_and, Bool.not_eq_false'] at hrefused
  obtain ⟨source, hsource, hprefix⟩ := List.any_eq_true.1 hrefused
  exact ⟨source, hsource, List.isPrefixOf_iff_prefix.1 hprefix⟩

/-! ## 2. The addresses -/

theorem mem_addSource {sources : List String} {source x : String} (h : x ∈ addSource sources source) :
    x ∈ sources ∨ source ≠ "" ∧ x = Address.withSlash source := by
  unfold addSource at h
  split at h
  · exact .inl h
  · rename_i hempty
    dsimp only at h
    split at h
    · exact .inl h
    · rcases List.mem_append.1 h with h | h
      · exact .inl h
      · exact .inr ⟨by simpa using hempty, List.mem_singleton.1 h⟩

theorem mem_foldl_addSource {x : String} : ∀ {given sources : List String},
    x ∈ given.foldl addSource sources →
      x ∈ sources ∨ ∃ source ∈ given, source ≠ "" ∧ x = Address.withSlash source
  | [], _, h => .inl h
  | source :: given, sources, h => by
    rcases @mem_foldl_addSource x given _ h with h | ⟨other, hother, h⟩
    · rcases mem_addSource h with h | h
      · exact .inl h
      · exact .inr ⟨source, List.mem_cons_self, h⟩
    · exact .inr ⟨other, List.mem_cons_of_mem _ hother, h⟩

/-- **The addresses of a sanitizer** are those that it was given and that are not empty, with a
slash. -/
theorem mem_sources {given : List String} {x : String} (h : x ∈ (ofSources given).sources) :
    ∃ source ∈ given, source ≠ "" ∧ x = Address.withSlash source :=
  (mem_foldl_addSource h).resolve_left List.not_mem_nil

/-! ## 3. Frames -/

/-- **Frames are allowed ones**: in what is left of any hypertext the source of every frame begins
with an address of the sanitizer.  The markup of a rendered page is left of a hypertext like that,
and the addresses are those of the providers and handlers. -/
theorem frames_allowed :
    (∀ (given : List String) (text : String),
      (ofSources given).clean text = Tree.writeAll false ((ofSources given).cleanTreesOf text) ∧
      FramesFrom (ofSources given).sources ((ofSources given).cleanTreesOf text)) ∧
    ∀ (p : Pipeline) (source : String) (page : RenderedPage), p.render source = .ok page →
      ∃ markup, page.html = Tree.writeAll false (p.sanitizer.cleanTreesOf markup) ∧
        FramesFrom p.sanitizer.sources (p.sanitizer.cleanTreesOf markup) ∧
        ∀ x ∈ p.sanitizer.sources, ∃ given ∈ p.embeds.sources ++ p.registry.embedSources,
          given ≠ "" ∧ x = Address.withSlash given := by
  refine ⟨fun given text => ⟨rfl, framesFrom_cleanTrees _ _ _⟩, fun p source page h => ?_⟩
  obtain ⟨_, markup, _, _, hhtml⟩ := Pipeline.transform_of_render h
  exact ⟨markup, hhtml, framesFrom_cleanTrees _ _ _, fun x hx => mem_sources hx⟩

end Sanitizer

end WikiPage
