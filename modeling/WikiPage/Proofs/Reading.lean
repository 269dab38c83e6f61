import WikiPage.Proofs.Pipeline
/-!
# What reading keeps

A tree is built from events, one after the other, and what is still open at the end is closed there.
Any property of nodes that leaves have, that constructs have when their children have it, and that
neighbours keep when they are joined, holds of all that is built in this way.  It may depend on the
level of a node: the document has level zero, and no more constructs are open in one another than the
limit allows.

* `shell_treeOfEvents`: what the top of a tree is.
* `Kept` is a property that reading keeps, and `Assembly.All` says it of all that was read so far:
  `all_step` for one event, `all_feed` for a run, `all_treeOfEvents` for a tree.
-/

namespace WikiPage

namespace NodeKind

/-- Whether nodes of this kind are generated: no source is read as one. -/
def isElement : NodeKind → Bool
  | element .. => true
  | _ => false

/-- Whether nodes of this kind hold nothing. -/
def isLeaf : NodeKind → Bool
  | text _ | inlineCode _ | html _ | inlineMath _ | displayMath _ | footnoteReference _
  | taskMarker _ | softBreak | hardBreak | rule => true
  | _ => false

/-- Whether a construct of a page becomes a node of this kind, which may hold others. -/
def isContainer (kind : NodeKind) : Bool := !kind.isLeaf && !kind.isRoot && !kind.isElement

theorem isLeaf_of_isContainer {kind : NodeKind} (h : kind.isContainer = true) :
    kind.isLeaf = false := by
  cases hleaf : kind.isLeaf with
  | false => rfl
  | true => simp [isContainer, hleaf] at h

theorem isElement_of_isContainer {kind : NodeKind} (h : kind.isContainer = true) :
    kind.isElement = false := by
  cases helement : kind.isElement with
  | false => rfl
  | true => simp [isContainer, helement] at h

theorem isElement_of_isLeaf {kind : NodeKind} (h : kind.isLeaf = true) :
    kind.isElement = false := by
  cases kind <;> first | rfl | cases h

end NodeKind

namespace Markdown

/-! ## 1. The top of a tree that was read -/

/-- What an open node is, whatever it holds. -/
def OpenNode.shell (o : OpenNode) : NodeKind × Option Span := (o.kind, o.span)

theorem OpenNode.shell_add (o : OpenNode) (child : Node) : (o.add child).shell = o.shell := by
  obtain ⟨kind, span, _ | ⟨last, earlier⟩⟩ := o
  · rfl
  · simp only [OpenNode.add]
    split <;> rfl

theorem OpenNode.kind_add (o : OpenNode) (child : Node) : (o.add child).kind = o.kind :=
  congrArg Prod.fst (o.shell_add child)

theorem OpenNode.span_add (o : OpenNode) (child : Node) : (o.add child).span = o.span :=
  congrArg Prod.snd (o.shell_add child)

namespace Assembly

variable {limit : Nat} {a b : Assembly}

theorem shell_top_add (a : Assembly) (child : Node) : (a.add child).top.shell = a.top.shell := by
  obtain ⟨top, _ | ⟨inner, outer⟩⟩ := a
  · exact OpenNode.shell_add top child
  · rfl

theorem shell_top_closeInner (a : Assembly) : a.closeInner.top.shell = a.top.shell := by
  obtain ⟨top, _ | ⟨inner, outer⟩⟩ := a
  · rfl
  · exact shell_top_add ⟨top, outer⟩ inner.close

theorem shell_top_closeMany : ∀ (n : Nat) (a : Assembly),
    (closeMany n a).top.shell = a.top.shell
  | 0, _ => rfl
  | n + 1, a => (shell_top_closeMany n a.closeInner).trans (shell_top_closeInner a)

/-- No event changes what the top of a tree is. -/
theorem shell_top_step {e : Located} (hb : a.step limit e = .ok b) :
    b.top.shell = a.top.shell := by
  obtain ⟨event, span⟩ := e
  cases event with
  | start tag =>
    have hb : a.start limit tag span = .ok b := hb
    unfold Assembly.start at hb
    split at hb
    · cases hb
      rfl
    · split at hb <;> cases hb
      rfl
  | finish tag =>
    cases hb
    unfold Assembly.finish
    split
    · rfl
    · exact shell_top_closeInner a
  | text value =>
    cases hb
    unfold Assembly.text
    split
    · rfl
    · exact shell_top_add a _
  | _ =>
    cases hb
    exact shell_top_add a _

theorem shell_top_feed : ∀ {events : List Located} {a : Assembly}, a.feed limit events = .ok b →
    b.top.shell = a.top.shell
  | [], a, hb => by
    cases hb
    rfl
  | e :: events, a, hb => by
    obtain ⟨c, hc, hb⟩ := ok_of_bind hb
    exact (shell_top_feed hb).trans (shell_top_step hc)

end Assembly

/-- The top of a tree that was read is a document, with all bytes of the source. -/
theorem shell_treeOfEvents {size limit : Nat} {events : List Located} {tree : Node}
    (h : treeOfEvents size limit events = .ok tree) :
    tree.kind = .root ∧ tree.span = some ⟨0, size⟩ := by
  obtain ⟨a, ha, rfl⟩ := ok_of_map h
  have hshell : (Assembly.closeMany a.opened.length a).top.shell = (.root, some ⟨0, size⟩) :=
    (Assembly.shell_top_closeMany a.opened.length a).trans (Assembly.shell_top_feed ha)
  exact Prod.mk.inj hshell

theorem kind_treeOfEvents {size limit : Nat} {events : List Located} {tree : Node}
    (h : treeOfEvents size limit events = .ok tree) : tree.kind = .root :=
  (shell_treeOfEvents h).1

/-! ## 2. Properties that reading keeps -/

/-- A property of nodes at their levels that leaves have, that containers have with their children,
and that neighbours keep when they are joined. -/
structure Kept (limit : Nat) (P : Nat → Node → Prop) : Prop where
  leaf : ∀ level kind span, level ≤ limit + 1 → kind.isLeaf = true → P level ⟨kind, [], some span⟩
  container : ∀ level kind children span, level ≤ limit → kind.isContainer = true →
    (∀ c ∈ children, P (level + 1) c) → P level ⟨kind, children, span⟩
  joined : ∀ level a b both, P level a → P level b → OpenNode.joined? a b = some both →
    P level both

/-- Open constructs, the innermost first, that will be containers, with what was read in them so
far. -/
def OpenAll (P : Nat → Node → Prop) : List OpenNode → Prop
  | [] => True
  | o :: outer =>
    (o.kind.isContainer = true ∧ ∀ c ∈ o.reversed, P (outer.length + 2) c) ∧ OpenAll P outer

/-- **The invariant of reading**: what was read so far has a property, what is open will be
containers, and there are no more of these than the limit allows. -/
structure Assembly.All (limit : Nat) (P : Nat → Node → Prop) (a : Assembly) : Prop where
  top : ∀ c ∈ a.top.reversed, P 1 c
  opened : OpenAll P a.opened
  count : a.opened.length ≤ limit

theorem isContainer_of_kind? {tag : Tag} {kind : NodeKind} (h : tag.kind? = some kind) :
    kind.isContainer = true := by
  cases tag <;> cases h <;> rfl

section Kept

variable {P : Nat → Node → Prop} {limit : Nat} {a b : Assembly}

theorem OpenNode.forall_add (hP : Kept limit P) {level : Nat} {o : OpenNode}
    (ho : ∀ c ∈ o.reversed, P level c) {child : Node} (hchild : P level child) :
    ∀ c ∈ (o.add child).reversed, P level c := by
  obtain ⟨kind, span, _ | ⟨last, earlier⟩⟩ := o
  · intro c hc
    rw [List.mem_singleton.1 hc]
    exact hchild
  · have hlast : P level last := ho last List.mem_cons_self
    have hearlier : ∀ c ∈ earlier, P level c := fun c hc => ho c (List.mem_cons_of_mem _ hc)
    simp only [OpenNode.add]
    split
    · rename_i both hboth
      exact List.forall_mem_cons.2 ⟨hP.joined level last child both hlast hchild hboth, hearlier⟩
    · exact List.forall_mem_cons.2 ⟨hchild, ho⟩

namespace Assembly

theorem all_empty (limit : Nat) (P : Nat → Node → Prop) (size : Nat) : (empty size).All limit P :=
  ⟨fun _ hc => absurd hc List.not_mem_nil, trivial, Nat.zero_le _⟩

theorem All.add (hP : Kept limit P) (h : a.All limit P) {child : Node}
    (hchild : P (a.opened.length + 1) child) : (a.add child).All limit P := by
  obtain ⟨top, _ | ⟨inner, outer⟩⟩ := a
  · exact ⟨OpenNode.forall_add hP h.top hchild, trivial, h.count⟩
  · obtain ⟨⟨hkind, hchildren⟩, houter⟩ := h.opened
    refine ⟨h.top, ⟨⟨?_, OpenNode.forall_add hP hchildren hchild⟩, houter⟩, h.count⟩
    rw [OpenNode.kind_add]
    exact hkind

theorem All.leaf (hP : Kept limit P) (h : a.All limit P) {kind : NodeKind}
    (hkind : kind.isLeaf = true) (span : Span) : (a.leaf kind span).All limit P :=
  h.add hP (hP.leaf _ kind span (Nat.succ_le_succ h.count) hkind)

theorem All.text (hP : Kept limit P) (h : a.All limit P) (value : String) (span : Span) :
    (a.text value span).All limit P := by
  unfold Assembly.text
  split
  · exact ⟨h.top, ⟨⟨rfl, h.opened.1.2⟩, h.opened.2⟩, h.count⟩
  · exact h.leaf hP rfl span

theorem All.start (h : a.All limit P) {tag : Tag} {span : Span}
    (hb : a.start limit tag span = .ok b) : b.All limit P := by
  unfold Assembly.start at hb
  split at hb
  · cases hb
    exact h
  · rename_i kind hkind
    split at hb
    · rename_i hroom
      cases hb
      exact ⟨h.top, ⟨⟨isContainer_of_kind? hkind, fun _ hc => absurd hc List.not_mem_nil⟩,
        h.opened⟩, hroom⟩
    · cases hb

theorem All.closeInner (hP : Kept limit P) (h : a.All limit P) : a.closeInner.All limit P := by
  obtain ⟨top, _ | ⟨inner, outer⟩⟩ := a
  · exact h
  · obtain ⟨⟨hkind, hchildren⟩, houter⟩ := h.opened
    have hcount : outer.length + 1 ≤ limit := h.count
    -- the construct is closed before it is added to the one around it, which is a level further out
    have hinner : P (outer.length + 1) inner.close :=
      hP.container _ _ _ _ hcount hkind fun c hc => hchildren c (List.mem_reverse.1 hc)
    have hrest : All limit P ⟨top, outer⟩ := ⟨h.top, houter, Nat.le_of_succ_le hcount⟩
    exact hrest.add hP hinner

theorem All.finish (hP : Kept limit P) (h : a.All limit P) (tag : Tag) :
    (a.finish tag).All limit P := by
  unfold Assembly.finish
  split
  · exact h
  · exact h.closeInner hP

/-- **One event keeps the property.** -/
theorem all_step (hP : Kept limit P) (h : a.All limit P) {e : Located}
    (hb : a.step limit e = .ok b) : b.All limit P := by
  obtain ⟨event, span⟩ := e
  cases event with
  | start tag => exact h.start hb
  | finish tag =>
    cases hb
    exact h.finish hP tag
  | text value =>
    cases hb
    exact h.text hP value span
  | _ =>
    cases hb
    exact h.leaf hP rfl span

/-- **A run of events keeps the property.** -/
theorem all_feed (hP : Kept limit P) : ∀ {events : List Located} {a : Assembly}, a.All limit P →
    a.feed limit events = .ok b → b.All limit P
  | [], a, h, hb => by
    cases hb
    exact h
  | e :: events, a, h, hb => by
    obtain ⟨c, hc, hb⟩ := ok_of_bind hb
    exact all_feed hP (all_step hP h hc) hb

theorem all_closeMany (hP : Kept limit P) : ∀ (n : Nat) {a : Assembly}, a.All limit P →
    (closeMany n a).All limit P
  | 0, _, h => h
  | n + 1, _, h => all_closeMany hP n (h.closeInner hP)

end Assembly

/-- **The nodes of a document that was read** have every property that reading keeps. -/
theorem all_treeOfEvents (hP : Kept limit P) {size : Nat} {events : List Located} {tree : Node}
    (h : treeOfEvents size limit events = .ok tree) : ∀ c ∈ tree.children, P 1 c := by
  obtain ⟨a, ha, rfl⟩ := ok_of_map h
  have hfed := Assembly.all_feed hP (Assembly.all_empty limit P size) ha
  have hclosed := Assembly.all_closeMany hP a.opened.length hfed
  exact fun c hc => hclosed.top c (List.mem_reverse.1 hc)

end Kept

end Markdown

end WikiPage
