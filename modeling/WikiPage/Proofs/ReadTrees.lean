import WikiPage.Proofs.LinkedMarkers
/-!
# What trees that were read are made of

Below the document there are leaves and containers, whatever the events were: nothing generated, and
no other document.  Leaves have nothing below them.

`AsRead` is what holds of every node below the document: `asRead_treeOfEvents`, and `asRead_parse`
with links for addresses.
-/

namespace WikiPage

namespace Node

/-- Whether all nodes of a tree have a property. -/
def Everywhere (P : Node → Prop) (n : Node) : Prop := ∀ m ∈ n.preorder, P m

theorem mem_preorderAll_iff {m : Node} {ns : List Node} :
    m ∈ preorderAll ns ↔ ∃ n ∈ ns, m ∈ n.preorder := by
  induction ns with
  | nil => simp [preorderAll]
  | cons n rest ih =>
    rw [preorderAll, List.mem_append, ih]
    simp

theorem everywhere_iff {P : Node → Prop} {n : Node} :
    n.Everywhere P ↔ P n ∧ ∀ c ∈ n.children, c.Everywhere P := by
  obtain ⟨kind, children, span⟩ := n
  constructor
  · intro h
    refine ⟨h _ List.mem_cons_self, fun c hc m hm => h m (List.mem_cons_of_mem _ ?_)⟩
    exact mem_preorderAll_iff.2 ⟨c, hc, hm⟩
  · rintro ⟨hself, hchildren⟩ m hm
    rcases List.mem_cons.1 hm with rfl | hm
    · exact hself
    · obtain ⟨c, hc, hm⟩ := mem_preorderAll_iff.1 hm
      exact hchildren c hc m hm

end Node

namespace Markdown

open Node

/-! ## 1. Leaves and containers -/

/-- What a node of a tree that was read may be, below the document. -/
structure AsRead (n : Node) : Prop where
  kind : n.kind.isLeaf = true ∨ n.kind.isContainer = true
  leaf : n.kind.isLeaf = true → n.children = []

theorem AsRead.isElement {n : Node} (h : AsRead n) : n.kind.isElement = false :=
  h.kind.elim NodeKind.isElement_of_isLeaf NodeKind.isElement_of_isContainer

theorem AsRead.isRoot {n : Node} (h : AsRead n) : n.kind.isRoot = false := by
  have hkind := h.kind
  obtain ⟨kind, children, span⟩ := n
  cases kind <;>
    first | rfl | simp [NodeKind.isContainer, NodeKind.isLeaf, NodeKind.isRoot] at hkind

theorem asRead_leaf {kind : NodeKind} (hkind : kind.isLeaf = true) (span : Option Span) :
    Everywhere AsRead ⟨kind, [], span⟩ :=
  everywhere_iff.2 ⟨⟨.inl hkind, fun _ => rfl⟩, fun _ hc => absurd hc List.not_mem_nil⟩

theorem asRead_container {kind : NodeKind} (hkind : kind.isContainer = true) {children : List Node}
    (hchildren : ∀ c ∈ children, c.Everywhere AsRead) (span : Option Span) :
    Everywhere AsRead ⟨kind, children, span⟩ := by
  refine everywhere_iff.2 ⟨⟨.inr hkind, fun hleaf => ?_⟩, hchildren⟩
  rw [NodeKind.isLeaf_of_isContainer hkind] at hleaf
  cases hleaf

/-- Runs that are joined are one leaf. -/
theorem leaf_of_joined? {a b both : Node} (h : OpenNode.joined? a b = some both) :
    a.kind.isLeaf = true ∧ both.kind.isLeaf = true ∧ both.children = a.children := by
  unfold OpenNode.joined? at h
  split at h
  · rename_i x y hx hy
    cases h
    exact ⟨by rw [hx]; rfl, rfl, rfl⟩
  · rename_i x y hx hy
    cases h
    exact ⟨by rw [hx]; rfl, rfl, rfl⟩
  · cases h

theorem kept_asRead (limit : Nat) : Kept limit fun _ => Everywhere AsRead where
  leaf _ _ span _ hkind := asRead_leaf hkind span
  container _ _ _ span _ hkind hchildren := asRead_container hkind hchildren span
  joined _ a b both ha _ h := by
    obtain ⟨hleaf, hboth, hchildren⟩ := leaf_of_joined? h
    obtain ⟨kind, children, span⟩ := both
    rw [(everywhere_iff.1 ha).1.leaf hleaf] at hchildren
    obtain rfl : children = [] := hchildren
    exact asRead_leaf hboth span

/-- What was read so far are leaves and containers. -/
abbrev Assembly.AllRead (limit : Nat) (a : Assembly) : Prop :=
  a.All limit fun _ => Everywhere AsRead

/-- **A tree that was read** holds leaves and containers. -/
theorem asRead_treeOfEvents {size limit : Nat} {events : List Located} {tree : Node}
    (h : treeOfEvents size limit events = .ok tree) :
    ∀ c ∈ tree.children, c.Everywhere AsRead :=
  all_treeOfEvents (kept_asRead limit) h

/-! ## 2. Links for addresses -/

theorem asRead_of_mem_partNodes {base : Option Nat} {parts : List Links.LinkedPart} {offset : Nat}
    {m : Node} (h : m ∈ Links.partNodes base offset parts) : m.Everywhere AsRead := by
  obtain ⟨part, -, span, -, rfl | ⟨url, rfl⟩⟩ := Links.mem_partNodes_cases h
  · exact asRead_leaf rfl _
  · refine asRead_container rfl (fun c hc => ?_) _
    rw [List.mem_singleton.1 hc]
    exact asRead_leaf rfl _

mutual
/-- Links for addresses are containers, and their texts leaves. -/
theorem asRead_autolink : ∀ n : Node, n.Everywhere AsRead → (Links.autolink n).Everywhere AsRead
  | ⟨kind, children, span⟩, h => by
    obtain ⟨hself, hchildren⟩ := everywhere_iff.1 h
    refine everywhere_iff.2 ⟨⟨hself.kind, fun hleaf => ?_⟩,
      asRead_autolinkAll (Links.labels kind) children hchildren⟩
    obtain rfl : children = [] := hself.leaf hleaf
    rfl
theorem asRead_autolinkAll (label : Bool) : ∀ ns : List Node, (∀ n ∈ ns, n.Everywhere AsRead) →
    ∀ n ∈ Links.autolinkAll label ns, n.Everywhere AsRead
  | [], _ => fun _ hm => absurd hm List.not_mem_nil
  | n :: rest, h => by
    obtain ⟨hn, hrest⟩ := List.forall_mem_cons.1 h
    have ih := asRead_autolinkAll label rest hrest
    obtain hall | ⟨nodes, -, hsplit, hall⟩ := Links.autolinkAll_cons_cases label n rest <;>
      rw [hall]
    · exact List.forall_mem_cons.2 ⟨asRead_autolink n hn, ih⟩
    · obtain ⟨value, base, -, -, rfl⟩ := Links.splitTextWith?_eq_some hsplit
      exact List.forall_mem_append.2 ⟨fun m hm => asRead_of_mem_partNodes hm, ih⟩
end

/-- **A page as it is read** is a document of leaves and containers. -/
theorem asRead_parse {options : ParseOptions} {source : String} {tree : Node}
    (h : parse options source = .ok tree) :
    tree.kind = .root ∧ ∀ c ∈ tree.children, c.Everywhere AsRead := by
  obtain ⟨read, hread, rfl⟩ := ok_of_map h
  have hkind := kind_treeOfEvents hread
  have hchildren := asRead_treeOfEvents hread
  obtain ⟨kind, children, span⟩ := read
  split
  · exact ⟨hkind, asRead_autolinkAll (Links.labels kind) children hchildren⟩
  · exact ⟨hkind, hchildren⟩

end Markdown

end WikiPage
