import WikiPage.Proofs.ReadTrees
/-!
# Links in labels

What a link or an image holds is its label, and no link belongs into it.  Making links looks only at
the node that holds a text: a text directly in a link or an image stays, and a text that
stands deeper in a label, in emphasis for instance, is treated as any other.

* `autolinkOutside` is the rule that keeps out of labels at every depth.
* `exposed` are the nodes of a tree that do not stand directly in a link or an image, and
  `Quiet` says that there is no address in their texts: `autolink_eq_self_iff`, these are the trees
  that stay as they are.
* `nestedLinks` are the links that stand in a link or an image; the rule makes none of these
  (`nestedLinks_autolinkOutside`), and a label that is not quiet gets one (`made_of_not_quiet`).
* `outermost` are the links and images that stand in no other: `autolink_labels`, the rule is kept on
  just the pages whose outermost ones are quiet, and any other page has new links in a label.
-/

namespace WikiPage.Links

open Node

/-! ## 1. Out of labels at every depth -/

mutual
/-- Links the addresses in the text of a tree, but not in links and images. -/
def autolinkOutside : Node → Node
  | ⟨kind, children, span⟩ =>
    if labels kind then ⟨kind, children, span⟩ else ⟨kind, autolinkOutsideAll children, span⟩
/-- Links the addresses in the text of a list of trees, but not in links and images. -/
def autolinkOutsideAll : List Node → List Node
  | [] => []
  | n :: rest =>
    match splitText? n with
    | some nodes => nodes ++ autolinkOutsideAll rest
    | none => autolinkOutside n :: autolinkOutsideAll rest
end

mutual
/-- The links and images of a tree that stand in no other one, in document order.  What stands in a
text that is taken apart is left out. -/
def outermost : Node → List Node
  | ⟨kind, children, span⟩ =>
    if labels kind then [⟨kind, children, span⟩] else outermostAll children
/-- The links and images among trees that stand in no other one. -/
def outermostAll : List Node → List Node
  | [] => []
  | n :: rest =>
    match splitText? n with
    | some _ => outermostAll rest
    | none => outermost n ++ outermostAll rest
end

/-- The nodes below a node that do not stand directly in a link or an image. -/
def exposed (n : Node) : List Node := (n.preorder.filter (!labels ·.kind)).flatMap Node.children

/-- Whether no link is made below a node. -/
def Quiet (n : Node) : Prop := ∀ t ∈ exposed n, splitText? t = none

/-- Whether nodes of this kind are links. -/
def isLink : NodeKind → Bool
  | .link .. => true
  | _ => false

mutual
/-- The links of a tree that stand in a link or an image, at any distance; `inside` says whether the
tree itself does. -/
def nestedLinks (inside : Bool) : Node → List Node
  | ⟨kind, children, span⟩ =>
    (if inside && isLink kind then [⟨kind, children, span⟩] else []) ++
      nestedLinksAll (inside || labels kind) children
/-- The links among trees that stand in a link or an image. -/
def nestedLinksAll (inside : Bool) : List Node → List Node
  | [] => []
  | n :: rest => nestedLinks inside n ++ nestedLinksAll inside rest
end

/-! ## 2. Trees that stay as they are -/

/-- What stands for a text is never that text itself with what follows it. -/
theorem splitText?_ne {n : Node} {nodes rest rest' : List Node} (h : splitText? n = some nodes)
    (hlength : rest'.length ≤ rest.length) : nodes ++ rest ≠ n :: rest' := by
  intro heq
  obtain ⟨hne, honly⟩ := splitText?_spec h
  have htext : n.isText = true := by
    obtain ⟨value, -, hkind, -⟩ := splitTextWith?_eq_some h
    simp [isText, hkind]
  cases nodes with
  | nil => exact hne rfl
  | cons only more =>
    cases more with
    | nil =>
      obtain rfl : only = n := (List.cons.inj heq).1
      have hnot : only.isText = false := honly only rfl
      rw [htext] at hnot
      cases hnot
    | cons _ _ =>
      have := congrArg List.length heq
      simp only [List.length_append, List.length_cons] at this
      omega

theorem autolinkAll_cons_eq_iff (label : Bool) (n : Node) (rest : List Node) :
    autolinkAll label (n :: rest) = n :: rest ↔
      (label = false → splitText? n = none) ∧ autolink n = n ∧ autolinkAll label rest = rest := by
  by_cases hmade : label = false ∧ (splitText? n).isSome = true
  · obtain ⟨rfl, hsome⟩ := hmade
    obtain ⟨nodes, hsplit⟩ := Option.isSome_iff_exists.1 hsome
    have hall : autolinkAll false (n :: rest) = nodes ++ autolinkAll false rest := by
      simp [autolinkAll_cons, hsplit]
    rw [hall, hsplit]
    refine iff_of_false (splitText?_ne hsplit (length_le_autolinkAll false rest)) ?_
    rintro ⟨hnone, -⟩
    cases hnone rfl
  · have hnone : label = false → splitText? n = none := fun hlabel =>
      Option.not_isSome_iff_eq_none.1 fun hsome => hmade ⟨hlabel, hsome⟩
    have hall : autolinkAll label (n :: rest) = autolink n :: autolinkAll label rest := by
      cases label with
      | true => simp [autolinkAll_cons]
      | false => simp [autolinkAll_cons, hnone rfl]
    rw [hall, List.cons_eq_cons]
    exact ⟨fun h => ⟨hnone, h⟩, And.right⟩

theorem autolinkAll_eq_self_iff (label : Bool) (ns : List Node) :
    autolinkAll label ns = ns ↔
      (label = false → ∀ n ∈ ns, splitText? n = none) ∧ ∀ n ∈ ns, autolink n = n := by
  induction ns with
  | nil => simp
  | cons n rest ih =>
    rw [autolinkAll_cons_eq_iff, ih, List.forall_mem_cons, List.forall_mem_cons]
    constructor
    · rintro ⟨hn, hself, hrest, hselves⟩
      exact ⟨fun hlabel => ⟨hn hlabel, hrest hlabel⟩, hself, hselves⟩
    · rintro ⟨hall, hself, hselves⟩
      exact ⟨fun hlabel => (hall hlabel).1, hself, fun hlabel => (hall hlabel).2, hselves⟩

theorem mem_exposed_iff {t n : Node} :
    t ∈ exposed n ↔ (labels n.kind = false ∧ t ∈ n.children) ∨ ∃ c ∈ n.children, t ∈ exposed c := by
  have hmem : ∀ m : Node, t ∈ exposed m ↔
      ∃ p ∈ m.preorder, labels p.kind = false ∧ t ∈ p.children := by
    intro m
    simp [exposed, List.mem_flatMap, List.mem_filter, and_assoc]
  obtain ⟨kind, children, span⟩ := n
  rw [hmem, preorder]
  constructor
  · rintro ⟨p, hp, hlabel, hpt⟩
    rcases List.mem_cons.1 hp with rfl | hp
    · exact .inl ⟨hlabel, hpt⟩
    · obtain ⟨c, hc, hpc⟩ := mem_preorderAll_iff.1 hp
      exact .inr ⟨c, hc, (hmem c).2 ⟨p, hpc, hlabel, hpt⟩⟩
  · rintro (⟨hlabel, ht⟩ | ⟨c, hc, ht⟩)
    · exact ⟨_, List.mem_cons_self, hlabel, ht⟩
    · obtain ⟨p, hpc, hp⟩ := (hmem c).1 ht
      exact ⟨p, List.mem_cons_of_mem _ (mem_preorderAll_iff.2 ⟨c, hc, hpc⟩), hp⟩

/-- A node is quiet when its children are, and when no text is to be linked among them. -/
theorem quiet_iff {n : Node} :
    Quiet n ↔ (labels n.kind = false → ∀ c ∈ n.children, splitText? c = none) ∧
      ∀ c ∈ n.children, Quiet c := by
  constructor
  · intro h
    refine ⟨fun hlabel c hc => h c (mem_exposed_iff.2 (.inl ⟨hlabel, hc⟩)), fun c hc t ht => ?_⟩
    exact h t (mem_exposed_iff.2 (.inr ⟨c, hc, ht⟩))
  · rintro ⟨hself, hchildren⟩ t ht
    rcases mem_exposed_iff.1 ht with ⟨hlabel, ht⟩ | ⟨c, hc, ht⟩
    · exact hself hlabel t ht
    · exact hchildren c hc t ht

mutual
/-- **A tree stays as it is** just when it is quiet. -/
theorem autolink_eq_self_iff : ∀ n : Node, autolink n = n ↔ Quiet n
  | ⟨kind, children, span⟩ => by
    have hchildren := autolink_eq_self_iff_of_mem children
    have hnode : autolink ⟨kind, children, span⟩ = ⟨kind, children, span⟩ ↔
        autolinkAll (labels kind) children = children := by
      rw [autolink_mk, Node.mk.injEq]
      exact ⟨fun h => h.2.1, fun h => ⟨rfl, h, rfl⟩⟩
    rw [hnode, autolinkAll_eq_self_iff, quiet_iff]
    exact and_congr_right fun _ => forall₂_congr hchildren
theorem autolink_eq_self_iff_of_mem : ∀ ns : List Node, ∀ n ∈ ns, (autolink n = n ↔ Quiet n)
  | [] => List.forall_mem_nil _
  | m :: rest =>
    List.forall_mem_cons.2 ⟨autolink_eq_self_iff m, autolink_eq_self_iff_of_mem rest⟩
end

/-! ## 3. The rule kept -/

mutual
/-- The rule is kept where the outermost links and images stay as they are. -/
theorem autolink_eq_outside_iff : ∀ n : Node,
    autolink n = autolinkOutside n ↔ ∀ m ∈ outermost n, autolink m = m
  | ⟨kind, children, span⟩ => by
    cases hlabel : labels kind with
    | true => simp [autolinkOutside, outermost, hlabel]
    | false =>
      have hnode : autolink ⟨kind, children, span⟩ = autolinkOutside ⟨kind, children, span⟩ ↔
          autolinkAll false children = autolinkOutsideAll children := by
        simp [autolink_mk, autolinkOutside, hlabel]
      have houtermost : outermost ⟨kind, children, span⟩ = outermostAll children := by
        simp [outermost, hlabel]
      rw [hnode, houtermost]
      exact autolinkAll_eq_outsideAll_iff children
theorem autolinkAll_eq_outsideAll_iff : ∀ ns : List Node,
    autolinkAll false ns = autolinkOutsideAll ns ↔ ∀ m ∈ outermostAll ns, autolink m = m
  | [] => by simp [autolinkOutsideAll, outermostAll]
  | n :: rest => by
    have ih := autolinkAll_eq_outsideAll_iff rest
    cases hsplit : splitText? n with
    | some nodes => simp [autolinkAll_cons, autolinkOutsideAll, outermostAll, hsplit, ih]
    | none =>
      have hn := autolink_eq_outside_iff n
      simp [autolinkAll_cons, autolinkOutsideAll, outermostAll, hsplit, ih, hn, or_imp, forall_and]
end

/-- The links that are made hold a text only, and stand in no link where the text does not. -/
theorem nestedLinks_partNodes {base : Option Nat} : ∀ {parts : List LinkedPart} {offset : Nat},
    nestedLinksAll false (partNodes base offset parts) = []
  | [], _ => rfl
  | ⟨target, text⟩ :: rest, offset => by
    have ih := @nestedLinks_partNodes base rest (offset + Text.byteLength text)
    cases target <;>
      simp [partNodes, nestedLinksAll, nestedLinks, Node.link, Node.text, ofKind, withSpan, isLink, ih]

theorem nestedLinksAll_append (inside : Bool) (a b : List Node) :
    nestedLinksAll inside (a ++ b) = nestedLinksAll inside a ++ nestedLinksAll inside b := by
  induction a with
  | nil => rfl
  | cons n a ih => rw [List.cons_append, nestedLinksAll, nestedLinksAll, ih, List.append_assoc]

mutual
/-- **Out of labels no link is put into a link or an image.** -/
theorem nestedLinks_autolinkOutside : ∀ n : Node,
    (nestedLinks false (autolinkOutside n)).Sublist (nestedLinks false n)
  | ⟨kind, children, span⟩ => by
    cases hlabel : labels kind with
    | true => simp [autolinkOutside, hlabel]
    | false =>
      simpa [autolinkOutside, nestedLinks, hlabel] using nestedLinksAll_autolinkOutsideAll children
theorem nestedLinksAll_autolinkOutsideAll : ∀ ns : List Node,
    (nestedLinksAll false (autolinkOutsideAll ns)).Sublist (nestedLinksAll false ns)
  | [] => List.Sublist.refl _
  | n :: rest => by
    have ih := nestedLinksAll_autolinkOutsideAll rest
    cases hsplit : splitText? n with
    | some nodes =>
      obtain ⟨value, base, -, -, rfl⟩ := splitTextWith?_eq_some hsplit
      simp only [autolinkOutsideAll, hsplit, nestedLinksAll_append, nestedLinks_partNodes,
        List.nil_append, nestedLinksAll]
      exact ih.trans (List.sublist_append_right _ _)
    | none =>
      simp only [autolinkOutsideAll, hsplit, nestedLinksAll]
      exact (nestedLinks_autolinkOutside n).append ih
end

/-! ## 4. Links that are made in labels -/

/-- A text that is taken apart has a link among what stands for it. -/
theorem exists_link_of_splitText? {n : Node} {nodes : List Node} (h : splitText? n = some nodes) :
    ∃ l ∈ nodes, isLink l.kind = true := by
  have hparts : ∀ {base : Option Nat} {parts : List LinkedPart} {offset : Nat},
      parts.any (·.target.isSome) = true →
        ∃ l ∈ partNodes base offset parts, isLink l.kind = true := by
    intro base parts
    induction parts with
    | nil => intro offset hany; cases hany
    | cons part rest ih =>
      intro offset hany
      obtain ⟨target, text⟩ := part
      cases target with
      | some url => exact ⟨_, List.mem_cons_self, rfl⟩
      | none =>
        obtain ⟨l, hl, hlink⟩ := ih (by simpa using hany)
        exact ⟨l, List.mem_cons_of_mem _ hl, hlink⟩
  obtain ⟨value, base, -, hany, rfl⟩ := splitTextWith?_eq_some h
  exact hparts hany

/-- A link in a label is nested, and so are the links below it. -/
theorem mem_nestedLinks_self {n : Node} (h : isLink n.kind = true) : n ∈ nestedLinks true n := by
  obtain ⟨kind, children, span⟩ := n
  have hlink : isLink kind = true := h
  simp [nestedLinks, hlink]

theorem mem_nestedLinksAll_iff {inside : Bool} {l : Node} {ns : List Node} :
    l ∈ nestedLinksAll inside ns ↔ ∃ n ∈ ns, l ∈ nestedLinks inside n := by
  induction ns with
  | nil => simp [nestedLinksAll]
  | cons n rest ih => simp [nestedLinksAll, ih]

theorem mem_nestedLinks_of_children {inside : Bool} {l n : Node}
    (h : l ∈ nestedLinksAll (inside || labels n.kind) n.children) : l ∈ nestedLinks inside n := by
  obtain ⟨kind, children, span⟩ := n
  exact List.mem_append_right _ h

/-- What an address among trees that are no label becomes. -/
theorem mem_autolinkAll_of_splitText? {l t : Node} {ns nodes : List Node} (ht : t ∈ ns)
    (h : splitText? t = some nodes) (hl : l ∈ nodes) : l ∈ autolinkAll false ns := by
  induction ns with
  | nil => cases ht
  | cons n rest ih =>
    rcases List.mem_cons.1 ht with rfl | ht
    · simp [autolinkAll_cons, h, hl]
    · have hrest := ih ht
      cases hn : splitText? n <;> simp [autolinkAll_cons, hn, hrest]

/-- What a tree among others becomes, unless it is a text that is taken apart. -/
theorem mem_autolinkAll_of_mem {label : Bool} {c : Node} {ns : List Node} (hc : c ∈ ns)
    (h : label = false → splitText? c = none) : autolink c ∈ autolinkAll label ns := by
  induction ns with
  | nil => cases hc
  | cons n rest ih =>
    rcases List.mem_cons.1 hc with rfl | hc
    · cases label with
      | true => simp [autolinkAll_cons]
      | false => simp [autolinkAll_cons, h rfl]
    · have hrest := ih hc
      cases label with
      | true => simp [autolinkAll_cons, hrest]
      | false => cases hn : splitText? n <;> simp [autolinkAll_cons, hn, hrest]

mutual
/-- **In a label that is not quiet a link is made**: one of the texts in it becomes nodes with a link
among them. -/
theorem made_of_not_quiet : ∀ n : Node, ¬ Quiet n → ∃ t ∈ exposed n, ∃ nodes,
    splitText? t = some nodes ∧
      ∀ l ∈ nodes, isLink l.kind = true → l ∈ nestedLinksAll true (autolink n).children
  | ⟨kind, children, span⟩, hnot => by
    by_cases hhere : labels kind = false ∧ ∃ t ∈ children, splitText? t ≠ none
    · obtain ⟨hlabel, t, ht, hsome⟩ := hhere
      obtain ⟨nodes, hnodes⟩ := Option.ne_none_iff_exists'.1 hsome
      refine ⟨t, mem_exposed_iff.2 (.inl ⟨hlabel, ht⟩), nodes, hnodes, fun l hl hlink => ?_⟩
      refine mem_nestedLinksAll_iff.2 ⟨l, ?_, mem_nestedLinks_self hlink⟩
      rw [autolink_mk, hlabel]
      exact mem_autolinkAll_of_splitText? ht hnodes hl
    · have hnone : labels kind = false → ∀ c ∈ children, splitText? c = none := fun hlabel c hc =>
        not_not.1 fun hsome => hhere ⟨hlabel, c, hc, hsome⟩
      obtain ⟨c, hc, hloud⟩ : ∃ c ∈ children, ¬ Quiet c := by
        by_contra hall
        exact hnot (quiet_iff.2 ⟨hnone, fun c hc => not_not.1 fun hloud => hall ⟨c, hc, hloud⟩⟩)
      obtain ⟨t, ht, nodes, hnodes, hmade⟩ := made_of_not_quiet_of_mem children c hc hloud
      refine ⟨t, mem_exposed_iff.2 (.inr ⟨c, hc, ht⟩), nodes, hnodes, fun l hl hlink => ?_⟩
      refine mem_nestedLinksAll_iff.2 ⟨autolink c, ?_, ?_⟩
      · exact mem_autolinkAll_of_mem hc fun hlabel => hnone hlabel c hc
      · exact mem_nestedLinks_of_children (hmade l hl hlink)
theorem made_of_not_quiet_of_mem : ∀ ns : List Node, ∀ n ∈ ns, ¬ Quiet n → ∃ t ∈ exposed n,
    ∃ nodes, splitText? t = some nodes ∧
      ∀ l ∈ nodes, isLink l.kind = true → l ∈ nestedLinksAll true (autolink n).children
  | [] => List.forall_mem_nil _
  | n :: rest => List.forall_mem_cons.2 ⟨made_of_not_quiet n, made_of_not_quiet_of_mem rest⟩
end

mutual
/-- What stands in an outermost link or image stands there in the page. -/
theorem mem_nestedLinks_of_outermost {l m : Node} (hl : l ∈ nestedLinks false (autolink m)) :
    ∀ n : Node, m ∈ outermost n → l ∈ nestedLinks false (autolink n)
  | ⟨kind, children, span⟩, hm => by
    cases hlabel : labels kind with
    | true =>
      obtain rfl : m = ⟨kind, children, span⟩ := by simpa [outermost, hlabel] using hm
      exact hl
    | false =>
      have hchildren := mem_nestedLinksAll_of_outermost hl children
        (by simpa [outermost, hlabel] using hm)
      refine mem_nestedLinks_of_children ?_
      simpa [autolink_mk, hlabel] using hchildren
theorem mem_nestedLinksAll_of_outermost {l m : Node} (hl : l ∈ nestedLinks false (autolink m)) :
    ∀ ns : List Node, m ∈ outermostAll ns → l ∈ nestedLinksAll false (autolinkAll false ns)
  | [], hm => nomatch hm
  | n :: rest, hm => by
    cases hsplit : splitText? n with
    | some nodes =>
      have hrest := mem_nestedLinksAll_of_outermost hl rest
        (by simpa [outermostAll, hsplit] using hm)
      simpa [autolinkAll_cons, hsplit, nestedLinksAll_append] using Or.inr hrest
    | none =>
      have hcases : m ∈ outermost n ∨ m ∈ outermostAll rest := by
        simpa [outermostAll, hsplit] using hm
      have hmem : l ∈ nestedLinks false (autolink n) ∨
          l ∈ nestedLinksAll false (autolinkAll false rest) :=
        hcases.imp (mem_nestedLinks_of_outermost hl n) (mem_nestedLinksAll_of_outermost hl rest)
      simpa [autolinkAll_cons, hsplit, nestedLinksAll] using hmem
end

/-! ## 5. Labels -/

mutual
/-- The outermost ones are links and images. -/
theorem labels_of_mem_outermost {m : Node} : ∀ n : Node, m ∈ outermost n → labels m.kind = true
  | ⟨kind, children, span⟩, h => by
    cases hlabel : labels kind with
    | true =>
      obtain rfl : m = ⟨kind, children, span⟩ := by simpa [outermost, hlabel] using h
      exact hlabel
    | false => exact labels_of_mem_outermostAll children (by simpa [outermost, hlabel] using h)
theorem labels_of_mem_outermostAll {m : Node} :
    ∀ ns : List Node, m ∈ outermostAll ns → labels m.kind = true
  | [], h => nomatch h
  | n :: rest, h => by
    cases hsplit : splitText? n with
    | some nodes => exact labels_of_mem_outermostAll rest (by simpa [outermostAll, hsplit] using h)
    | none =>
      have hcases : m ∈ outermost n ∨ m ∈ outermostAll rest := by
        simpa [outermostAll, hsplit] using h
      exact hcases.elim (labels_of_mem_outermost n) (labels_of_mem_outermostAll rest)
end

/-- **Links in labels.**  Links and images keep what they hold, at every depth, just when the texts
in the outermost ones hold no address but directly in a link or an image; then no link is put into
a label.  An outermost one in which another text holds an address gets a link in its label, one of
those that stand for such a text. -/
theorem autolink_labels (n : Node) :
    (autolink n = autolinkOutside n ↔ ∀ m ∈ outermost n, Quiet m) ∧
      ((∀ m ∈ outermost n, Quiet m) →
        (nestedLinks false (autolink n)).Sublist (nestedLinks false n)) ∧
      ∀ m ∈ outermost n, ¬ Quiet m → ∃ t ∈ exposed m, ∃ nodes, splitText? t = some nodes ∧
        (∃ l ∈ nodes, isLink l.kind = true) ∧
        ∀ l ∈ nodes, isLink l.kind = true → l ∈ nestedLinks false (autolink n) := by
  have hrule : autolink n = autolinkOutside n ↔ ∀ m ∈ outermost n, Quiet m := by
    rw [autolink_eq_outside_iff]
    exact forall₂_congr fun m _ => autolink_eq_self_iff m
  refine ⟨hrule, fun hquiet => ?_, fun m hm hnot => ?_⟩
  · rw [hrule.2 hquiet]
    exact nestedLinks_autolinkOutside n
  · obtain ⟨t, ht, nodes, hnodes, hmade⟩ := made_of_not_quiet m hnot
    refine ⟨t, ht, nodes, hnodes, exists_link_of_splitText? hnodes, fun l hl hlink => ?_⟩
    refine mem_nestedLinks_of_outermost ?_ n hm
    refine mem_nestedLinks_of_children ?_
    rw [kind_autolink, labels_of_mem_outermost n hm]
    exact hmade l hl hlink

/-- A link to one address with another one in its label, in emphasis. -/
def stressedAddress : String := "[*https://a.example/*](https://b.example/)"

/-- The tree of this page before links are made. -/
def stressedAddressTree : Node :=
  let label : Node := ⟨.text "https://a.example/", [], some ⟨2, 20⟩⟩
  ⟨.root, [⟨.paragraph, [⟨.link "https://b.example/" "", [⟨.emphasis, [label], some ⟨1, 21⟩⟩],
    some ⟨0, 42⟩⟩], some ⟨0, 42⟩⟩], some ⟨0, 42⟩⟩

/-- There is a link in its label once links are made, and there is none before. -/
theorem stressedAddress_linked_twice :
    Markdown.parse { gfm := false } stressedAddress = .ok stressedAddressTree ∧
      Markdown.parse {} stressedAddress = .ok (autolink stressedAddressTree) ∧
      (nestedLinks false stressedAddressTree).length = 0 ∧
      (nestedLinks false (autolink stressedAddressTree)).length = 1 ∧
      autolink stressedAddressTree ≠ autolinkOutside stressedAddressTree := by
  decide +kernel

end WikiPage.Links
