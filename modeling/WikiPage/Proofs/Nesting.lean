import WikiPage.Proofs.Reading
import WikiPage.Proofs.Standard
/-!
# How deep a transformed page is

The limit on nesting is a limit on the constructs that are open in one another while a page is read.
The passes after it may add levels, and this file says how many.

* `kept_depth` is what reading keeps, and `depth_treeOfEvents`: a tree that was read has at most
  `limit + 2` levels, the document and a leaf among them.
* Links for addresses add one level at most (`depth_autolink`), frames for media none
  (`depth_rewrite`).
* Each box of a built-in block adds a level to what it holds, and boxes may stand in boxes
  (`depth_of_mem_expandFromRight`); two markers of the page go with each
  (`siblingsAll_expandFromRight`).
* `depth_transform_le` puts these together, and `three_boxes_exceed_limit` is a page with three
  markers inside one another that is deeper than the limit and four levels.
-/

namespace WikiPage

namespace Node

theorem depth_eq (n : Node) : n.depth = 1 + depthAll n.children := by
  cases n
  rfl

theorem depthAll_le_iff {d : Nat} {ns : List Node} : depthAll ns ≤ d ↔ ∀ n ∈ ns, n.depth ≤ d := by
  induction ns with
  | nil => simp [depthAll]
  | cons n rest ih =>
    simp only [depthAll, List.mem_cons, forall_eq_or_imp, ← ih]
    omega

theorem depthAll_append (a b : List Node) : depthAll (a ++ b) = max (depthAll a) (depthAll b) := by
  induction a with
  | nil => simp [depthAll]
  | cons n a ih => simp only [List.cons_append, depthAll, ih, Nat.max_assoc]

end Node

/-! ## 1. Reading -/

namespace Markdown

open Node

/-- Neighbours that are joined are as deep as the first of them, and no generated element. -/
theorem OpenNode.joined?_spec {a b both : Node} (h : joined? a b = some both) :
    both.depth = a.depth ∧ both.kind.isElement = false := by
  unfold joined? at h
  split at h
  · cases h
    exact ⟨by rw [depth_eq, depth_eq], rfl⟩
  · cases h
    exact ⟨by rw [depth_eq, depth_eq], rfl⟩
  · cases h

/-- What is read in a construct leaves room for what is around it. -/
theorem kept_depth (limit : Nat) :
    Kept limit fun level n => n.kind.isElement = false ∧ n.depth + level ≤ limit + 2 where
  leaf level kind span hlevel hkind := by
    refine ⟨NodeKind.isElement_of_isLeaf hkind, ?_⟩
    simp only [depth, depthAll]
    omega
  container level kind children span hlevel hkind hchildren := by
    have hdepth : depthAll children ≤ limit + 1 - level := depthAll_le_iff.2 fun c hc => by
      have := (hchildren c hc).2
      omega
    refine ⟨NodeKind.isElement_of_isContainer hkind, ?_⟩
    simp only [depth]
    omega
  joined level a b both ha _ h := by
    obtain ⟨hdepth, hkind⟩ := OpenNode.joined?_spec h
    exact ⟨hkind, hdepth ▸ ha.2⟩

/-- **A tree that was read** is two levels deeper than the limit at most, and none of the nodes of
the document is a generated element. -/
theorem depth_treeOfEvents {size limit : Nat} {events : List Located} {tree : Node}
    (h : treeOfEvents size limit events = .ok tree) :
    tree.depth ≤ limit + 2 ∧ ∀ m ∈ tree.children, m.kind.isElement = false := by
  have hread := all_treeOfEvents (kept_depth limit) h
  have hchildren : depthAll tree.children ≤ limit + 1 := depthAll_le_iff.2 fun m hm => by
    have := (hread m hm).2
    omega
  refine ⟨?_, fun m hm => (hread m hm).1⟩
  rw [depth_eq]
  omega

end Markdown

/-! ## 2. Links for addresses -/

namespace Links

open Node

/-- Nodes stand for a text only if an address in it is linked; they are those of its parts. -/
theorem splitTextWith?_eq_some {find : List Char → List Cut} {n : Node} {nodes : List Node}
    (h : splitTextWith? find n = some nodes) : ∃ value base, n.kind = .text value ∧
      (linked (find value.toList)).any (·.target.isSome) = true ∧
      partNodes base 0 (linked (find value.toList)) = nodes := by
  unfold splitTextWith? at h
  split at h
  · rename_i value hkind
    dsimp only at h
    split at h
    · rename_i hany
      exact ⟨value, _, hkind, hany, Option.some.inj h⟩
    · cases h
  · cases h

/-- Nothing stands for what is not a text. -/
theorem splitTextWith?_eq_none {find : List Char → List Cut} {n : Node}
    (h : ∀ value, n.kind ≠ .text value) : splitTextWith? find n = none := by
  cases hsplit : splitTextWith? find n with
  | none => rfl
  | some nodes =>
    obtain ⟨value, -, hkind, -⟩ := splitTextWith?_eq_some hsplit
    exact absurd hkind (h value)

/-- What stands for a text with addresses is text and links with a text. -/
theorem mem_splitText? {n m : Node} {nodes : List Node} (h : splitText? n = some nodes)
    (hm : m ∈ nodes) : m.kind.isElement = false ∧ m.depth ≤ 2 := by
  obtain ⟨value, base, -, -, rfl⟩ := splitTextWith?_eq_some h
  obtain ⟨part, -, span, -, rfl | ⟨url, rfl⟩⟩ := mem_partNodes_cases hm <;>
    exact ⟨rfl, by simp [depth, depthAll]⟩

@[simp] theorem kind_autolink (n : Node) : (autolink n).kind = n.kind := by
  cases n
  rfl

mutual
/-- Links for addresses add one level at most. -/
theorem depth_autolink : ∀ n : Node, (autolink n).depth ≤ n.depth + 1
  | ⟨kind, children, span⟩ => by
    have h := depthAll_autolinkAll (labels kind) children
    simp only [autolink_mk, depth]
    omega
theorem depthAll_autolinkAll (label : Bool) : ∀ ns : List Node,
    depthAll (autolinkAll label ns) ≤ depthAll ns + 1
  | [] => Nat.zero_le _
  | n :: rest => by
    have hn := depth_autolink n
    have hrest := depthAll_autolinkAll label rest
    obtain h | ⟨nodes, -, hsplit, h⟩ := autolinkAll_cons_cases label n rest
    · rw [h]
      simp only [depthAll]
      omega
    · have hnodes : depthAll nodes ≤ 2 := depthAll_le_iff.2 fun m hm => (mem_splitText? hsplit hm).2
      have hpos := depth_pos n
      rw [h, depthAll_append]
      simp only [depthAll]
      omega
end

theorem isElement_of_mem_autolinkAll {label : Bool} {m : Node} : ∀ {ns : List Node},
    (∀ n ∈ ns, n.kind.isElement = false) → m ∈ autolinkAll label ns → m.kind.isElement = false
  | n :: rest, hns, hm => by
    have ih := @isElement_of_mem_autolinkAll label m rest fun n hn =>
      hns n (List.mem_cons_of_mem _ hn)
    obtain h | ⟨nodes, -, hsplit, h⟩ := autolinkAll_cons_cases label n rest
    · rw [h] at hm
      rcases List.mem_cons.1 hm with rfl | hm
      · rw [kind_autolink]
        exact hns n List.mem_cons_self
      · exact ih hm
    · rw [h] at hm
      rcases List.mem_append.1 hm with hm | hm
      · exact (mem_splitText? hsplit hm).1
      · exact ih hm

end Links

/-- **A page as it is read** is three levels deeper than the limit at most. -/
theorem Markdown.depth_parse {options : ParseOptions} {source : String} {tree : Node}
    (h : parse options source = .ok tree) :
    tree.depth ≤ options.maxNesting + 3 ∧ ∀ m ∈ tree.children, m.kind.isElement = false := by
  obtain ⟨read, hread, rfl⟩ := ok_of_map h
  obtain ⟨hdepth, hchildren⟩ := depth_treeOfEvents hread
  split
  · refine ⟨Nat.le_trans (Links.depth_autolink read) (by omega), ?_⟩
    obtain ⟨kind, children, span⟩ := read
    exact fun m hm => Links.isElement_of_mem_autolinkAll hchildren hm
  · exact ⟨by omega, hchildren⟩

/-! ## 3. Frames for media -/

namespace Embeds

open Node Shortcode

theorem two_le_depth {n child : Node} (h : n.onlyChild = some child) : 2 ≤ n.depth := by
  unfold onlyChild at h
  split at h
  · rename_i only hchildren
    have := depth_pos only
    rw [depth_eq, hchildren]
    simp only [depthAll]
    omega
  · cases h

/-- What a paragraph with a link gives way to is not deeper than it was, and no box. -/
theorem video?_spec {e : Embeds} {n video : Node} (h : e.video? n = some video) :
    video.depth ≤ n.depth ∧ isBox video.kind = false := by
  unfold video? at h
  split at h
  · split at h
    · rename_i honly
      obtain ⟨frame, hframe, rfl⟩ := Option.map_eq_some_iff.1 h
      obtain ⟨provider, _, hframe⟩ := List.exists_of_findSome?_eq_some hframe
      obtain ⟨address, _, rfl⟩ := Option.map_eq_some_iff.1 hframe
      refine ⟨Nat.le_trans ?_ (two_le_depth honly), ?_⟩
      · exact Nat.le_of_eq rfl
      · exact (isBox_element (c := "video") (by simp)).trans (by decide)
    · cases h
  · cases h

/-- A node among others is taken as it is, or a frame takes its place. -/
theorem rewriteAll_cons (e : Embeds) (inDocument : Bool) (n : Node) (rest : List Node) :
    e.rewriteAll inDocument (n :: rest) = e.rewrite n :: e.rewriteAll inDocument rest ∨
      ∃ video, e.video? n = some video ∧
        e.rewriteAll inDocument (n :: rest) = video :: e.rewriteAll inDocument rest := by
  cases inDocument with
  | false => exact .inl rfl
  | true =>
    cases h : e.video? n with
    | none => exact .inl (by simp [rewriteAll, h])
    | some video => exact .inr ⟨video, rfl, by simp [rewriteAll, h]⟩

@[simp] theorem kind_rewrite (e : Embeds) (n : Node) : (e.rewrite n).kind = n.kind := by
  cases n
  rfl

mutual
/-- Frames for media add no level. -/
theorem depth_rewrite (e : Embeds) : ∀ n : Node, (e.rewrite n).depth ≤ n.depth
  | ⟨kind, children, span⟩ => by
    have h := depthAll_rewriteAll e kind.isRoot children
    simp only [rewrite, depth]
    omega
theorem depthAll_rewriteAll (e : Embeds) (inDocument : Bool) : ∀ ns : List Node,
    depthAll (e.rewriteAll inDocument ns) ≤ depthAll ns
  | [] => Nat.le_refl _
  | n :: rest => by
    have hn := depth_rewrite e n
    have hrest := depthAll_rewriteAll e inDocument rest
    obtain h | ⟨video, hvideo, h⟩ := rewriteAll_cons e inDocument n rest
    · rw [h]
      simp only [depthAll]
      omega
    · have := (video?_spec hvideo).1
      rw [h]
      simp only [depthAll]
      omega
end

theorem isBox_of_isElement {kind : NodeKind} (h : kind.isElement = false) : isBox kind = false := by
  cases kind <;> first | rfl | cases h

theorem isBox_of_mem_rewriteAll {e : Embeds} {inDocument : Bool} {m : Node} : ∀ {ns : List Node},
    (∀ n ∈ ns, n.kind.isElement = false) → m ∈ e.rewriteAll inDocument ns → isBox m.kind = false
  | n :: rest, hns, hm => by
    have ih := @isBox_of_mem_rewriteAll e inDocument m rest fun n hn =>
      hns n (List.mem_cons_of_mem _ hn)
    obtain h | ⟨video, hvideo, h⟩ := rewriteAll_cons e inDocument n rest
    · rw [h] at hm
      rcases List.mem_cons.1 hm with rfl | hm
      · rw [kind_rewrite]
        exact isBox_of_isElement (hns n List.mem_cons_self)
      · exact ih hm
    · rw [h] at hm
      rcases List.mem_cons.1 hm with rfl | hm
      · exact (video?_spec hvideo).2
      · exact ih hm

theorem length_rewriteAll (e : Embeds) (inDocument : Bool) : ∀ ns : List Node,
    (e.rewriteAll inDocument ns).length = ns.length
  | [] => rfl
  | n :: rest => by
    have ih := length_rewriteAll e inDocument rest
    obtain h | ⟨video, _, h⟩ := rewriteAll_cons e inDocument n rest <;> rw [h] <;> simp [ih]

end Embeds

/-! ## 4. Boxes around blocks -/

namespace Shortcode

open Node

variable {registry : Registry} {source : Option String} {inner : List Node → Expansion} {d : Nat}

theorem depth_le_boxLevelsAll {d : Nat} : ∀ {ns : List Node}, (∀ n ∈ ns, n.depth ≤ d + boxLevels n) →
    depthAll ns ≤ d + boxLevelsAll ns
  | [], _ => Nat.zero_le _
  | n :: rest, h => by
    have hn := h n List.mem_cons_self
    have hrest := depth_le_boxLevelsAll fun m hm => h m (List.mem_cons_of_mem _ hm)
    simp only [depthAll, boxLevelsAll]
    omega

theorem siblingsAll_append (a b : List Node) :
    siblingsAll (a ++ b) = siblingsAll a + siblingsAll b := by
  induction a with
  | nil => simp [siblingsAll]
  | cons n a ih => simp only [List.cons_append, siblingsAll, ih, Nat.add_assoc]

theorem siblings_of_not_isBox {n : Node} (h : isBox n.kind = false) : siblings n = 1 := by
  cases n
  simp_all [siblings]

theorem siblings_of_isBox {n : Node} (h : isBox n.kind = true) :
    siblings n = 2 + siblingsAll n.children := by
  cases n
  simp_all [siblings]

theorem boxLevels_of_isBox {n : Node} (h : isBox n.kind = true) :
    boxLevels n = 1 + boxLevelsAll n.children := by
  cases n
  simp_all [boxLevels]

/-- **One node more**: it is deep by itself, or by the boxes around it. -/
theorem depth_of_mem_expandBefore (hr : ∀ s ∈ registry.shortcodes, BuiltIn s) {n : Node}
    {after : Expansion} (hn : n.depth ≤ d) (hafter : ∀ m ∈ after.nodes, m.depth ≤ d + boxLevels m) :
    ∀ m ∈ (expandBefore registry source inner n after).nodes, m.depth ≤ d + boxLevels m := by
  intro m hm
  have hpos := depth_pos n
  obtain h | ⟨made, h, _, hchildren⟩ | ⟨box, closing, rest, tag, h, hbox, hsplit, _⟩ :=
    expandBefore_cases hr source inner n after
  · rw [h] at hm
    rcases List.mem_cons.1 hm with rfl | hm
    · omega
    · exact hafter m hm
  · rw [h] at hm
    rcases List.mem_cons.1 hm with rfl | hm
    · rw [depth_eq, hchildren, depthAll]
      omega
    · exact hafter m hm
  · rw [h] at hm
    rw [hsplit] at hafter
    rcases List.mem_cons.1 hm with rfl | hm
    · have hbody := depth_le_boxLevelsAll fun b hb => hafter b (List.mem_append_left _ hb)
      rw [depth_eq, boxLevels_of_isBox hbox]
      omega
    · exact hafter m (List.mem_append_right _ (List.mem_cons_of_mem _ hm))

theorem depth_of_mem_expandFromRight (hr : ∀ s ∈ registry.shortcodes, BuiltIn s) :
    ∀ {nodes : List Node}, (∀ n ∈ nodes, n.depth ≤ d) →
      ∀ m ∈ (expandFromRight registry source inner nodes).nodes, m.depth ≤ d + boxLevels m
  | [], _ => fun _ hm => absurd hm List.not_mem_nil
  | _ :: _, h => depth_of_mem_expandBefore hr (h _ List.mem_cons_self)
      (depth_of_mem_expandFromRight hr fun m hm => h m (List.mem_cons_of_mem _ hm))

/-- Expanded nodes are as deep as the nodes were, and as the boxes among them are high. -/
theorem depthAll_expandFromRight (hr : ∀ s ∈ registry.shortcodes, BuiltIn s) {nodes : List Node}
    (h : depthAll nodes ≤ d) :
    depthAll (expandFromRight registry source inner nodes).nodes ≤
      d + boxLevelsAll (expandFromRight registry source inner nodes).nodes :=
  depth_le_boxLevelsAll (depth_of_mem_expandFromRight hr (depthAll_le_iff.1 h))

/-- **One node more** among what the nodes became: it stands for itself, or is an opening marker. -/
theorem siblingsAll_expandBefore (hr : ∀ s ∈ registry.shortcodes, BuiltIn s) {n : Node}
    (hn : isBox n.kind = false) (after : Expansion) :
    siblingsAll (expandBefore registry source inner n after).nodes = siblingsAll after.nodes + 1 := by
  obtain h | ⟨made, h, hmade, _⟩ | ⟨box, closing, rest, tag, h, hbox, hsplit, hclosing⟩ :=
    expandBefore_cases hr source inner n after
  · rw [h, siblingsAll, siblings_of_not_isBox hn, Nat.add_comm]
  · rw [h, siblingsAll, siblings_of_not_isBox hmade, Nat.add_comm]
  · rw [h, hsplit, siblingsAll_append, siblingsAll, siblingsAll, siblings_of_isBox hbox,
      siblings_of_not_isBox (isBox_of_closes hclosing)]
    omega

theorem siblingsAll_expandFromRight (hr : ∀ s ∈ registry.shortcodes, BuiltIn s) :
    ∀ {nodes : List Node}, (∀ n ∈ nodes, isBox n.kind = false) →
      siblingsAll (expandFromRight registry source inner nodes).nodes = nodes.length
  | [], _ => rfl
  | n :: rest, h => by
    have ih : siblingsAll (expandFromRight registry source inner rest).nodes = rest.length :=
      siblingsAll_expandFromRight hr fun m hm => h m (List.mem_cons_of_mem _ hm)
    rw [expandFromRight, siblingsAll_expandBefore hr (h n List.mem_cons_self), ih, List.length_cons]

end Shortcode

/-! ## 5. Transformed pages -/

section Pages

open Node Shortcode

/-- **The depth of a transformed page**, by built-in shortcodes: the limit on nesting, the document,
a leaf and a link around it, and the boxes of blocks that stand in one another.  Each of these boxes
has taken two nodes of the document that was read, its markers. -/
theorem depth_transform_le {p : Pipeline} {source : String} {page : TransformedPage}
    (hr : ∀ s ∈ p.registry.shortcodes, BuiltIn s) (h : p.transform source = .ok page) :
    page.tree.depth ≤ p.options.maxNesting + 3 + boxLevelsAll page.tree.children ∧
      ∃ parsed, Markdown.parse p.options.parseOptions source = .ok parsed ∧
        2 * boxLevelsAll page.tree.children ≤ parsed.children.length := by
  obtain ⟨parsed, hparsed, htree, -⟩ := Pipeline.parse_of_transform h
  obtain ⟨hdepth, hgenerated⟩ := Markdown.depth_parse hparsed
  have hrewrite := p.embeds.depth_rewrite parsed
  obtain ⟨kind, children, span⟩ := parsed
  rw [Registry.expand_eq_expandFromRight] at htree
  simp only [Embeds.rewrite, withChildren] at htree
  rw [htree]
  constructor
  · -- the nodes of the document leave out one level, that of the document
    have hchildren :
        depthAll (p.embeds.rewriteAll kind.isRoot children) ≤ p.options.maxNesting + 2 := by
      have hlimit : p.options.parseOptions.maxNesting = p.options.maxNesting := rfl
      simp only [Embeds.rewrite, depth] at hrewrite hdepth
      omega
    refine Nat.le_trans (Nat.add_le_add_left (depthAll_expandFromRight hr hchildren) 1) ?_
    dsimp only
    omega
  · -- none of the nodes was a box before, so each of them is one sibling
    refine ⟨_, hparsed, Nat.le_trans (boxLevelsAll_le_siblingsAll _) (Nat.le_of_eq ?_)⟩
    rw [siblingsAll_expandFromRight hr fun n hn => Embeds.isBox_of_mem_rewriteAll hgenerated hn]
    exact Embeds.length_rewriteAll _ _ _

/-- A page of three blocks in one another. -/
def threeBlocks : String :=
  "\x7b\x7btip\x7d\x7d\n\n\x7b\x7bnote\x7d\x7d\n\n\x7b\x7btodo\x7d\x7d\n\nx\n\n" ++
    "\x7b\x7b/todo\x7d\x7d\n\n\x7b\x7b/note\x7d\x7d\n\n\x7b\x7b/tip\x7d\x7d\n"

theorem transform_threeBlocks :
    ((Pipeline.transform { options := { maxNesting := 1 } } threeBlocks).toOption.map fun page =>
      (page.tree.depth, boxLevelsAll page.tree.children)) = some (6, 3) := by
  decide +kernel

/-- The three boxes of this page stand in one another, where one construct may be open. -/
theorem depth_three_boxes : ∃ page : TransformedPage,
    Pipeline.transform { options := { maxNesting := 1 } } threeBlocks = .ok page ∧
      page.tree.depth ≤ 1 + 3 + boxLevelsAll page.tree.children ∧
      ∃ parsed, Markdown.parse ⟨true, true, 1⟩ threeBlocks = .ok parsed ∧
        2 * boxLevelsAll page.tree.children ≤ parsed.children.length := by
  obtain ⟨page, hpage, -⟩ := of_toOption_map transform_threeBlocks
  exact ⟨page, hpage, depth_transform_le (fun _ hs => builtIn_of_mem_standard hs) hpage⟩

/-- So four levels are not enough for what the limit does not count. -/
theorem three_boxes_exceed_limit : ∃ page : TransformedPage,
    Pipeline.transform { options := { maxNesting := 1 } } threeBlocks = .ok page ∧
      1 + 4 < page.tree.depth := by
  obtain ⟨page, hpage, hdepth⟩ := of_toOption_map transform_threeBlocks
  exact ⟨page, hpage, by rw [show page.tree.depth = 6 from congrArg Prod.fst hdepth]; decide⟩

end Pages

end WikiPage
